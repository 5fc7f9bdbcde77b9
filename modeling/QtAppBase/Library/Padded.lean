import Mathlib.Data.List.DropRight
import Mathlib.Data.List.GetD
import Mathlib.Order.PiLex

/-!
# Lists compared with zeros behind their ends

Lists of different lengths are compared position by position, and a list that has
ended counts as zero. This is the lexicographic order of sequences; as lists, two
of them are the same to it exactly when they agree without their trailing zeros.
-/

namespace QtAppBase.Library

variable {α : Type*} [Zero α]

/-- The sequence of a list, with zeros behind its end. -/
def padded (xs : List α) : Lex (ℕ → α) := toLex fun i => xs.getD i 0

theorem padded_eq {xs ys : List α} : padded xs = padded ys ↔ ∀ i, xs.getD i 0 = ys.getD i 0 := by
  rw [padded, padded, toLex_inj]
  exact funext_iff

/-- A trailing zero does not show. -/
theorem padded_concat_zero (xs : List α) : padded (xs ++ [0]) = padded xs := by
  rw [padded_eq]
  intro i
  rcases lt_trichotomy i xs.length with hlt | rfl | hgt
  · rw [List.getD_append _ _ _ _ hlt]
  · rw [List.getD_append_right _ _ _ _ (Nat.le_refl _), Nat.sub_self,
      List.getD_eq_default xs _ (Nat.le_refl _)]
    rfl
  · rw [List.getD_eq_default _ _ (by simp; omega), List.getD_eq_default _ _ (by omega)]

/-- A list that ends with no zero is as long as its sequence shows. -/
theorem length_le_of_padded_eq {xs ys : List α} (h : padded xs = padded ys)
    (hlast : ∀ hne : xs ≠ [], xs.getLast hne ≠ 0) : xs.length ≤ ys.length := by
  by_contra hlong
  have hne : xs ≠ [] := List.ne_nil_of_length_pos (by omega)
  have hposition : xs.length - 1 < xs.length := by omega
  have hsame := padded_eq.mp h (xs.length - 1)
  rw [List.getD_eq_getElem xs 0 hposition, List.getD_eq_default ys _ (by omega)] at hsame
  apply hlast hne
  rw [List.getLast_eq_getElem, hsame]

section Eq

variable [DecidableEq α]

/-- So they can all be removed. -/
theorem padded_rdropWhile (xs : List α) : padded (xs.rdropWhile (· = 0)) = padded xs := by
  induction xs using List.reverseRecOn with
  | nil => rw [List.rdropWhile_nil]
  | append_singleton xs x ih =>
    by_cases hx : x = 0
    · rw [List.rdropWhile_concat_pos _ _ _ (by simpa using hx), ih, hx, padded_concat_zero]
    · rw [List.rdropWhile_concat_neg _ _ _ (by simpa using hx)]

/-- **Equal sequences.** Two lists have the same sequence if and only if they are the
same without their trailing zeros. -/
theorem padded_eq_iff {xs ys : List α} :
    padded xs = padded ys ↔ xs.rdropWhile (· = 0) = ys.rdropWhile (· = 0) := by
  constructor
  · intro h
    rw [← padded_rdropWhile xs, ← padded_rdropWhile ys] at h
    have hlast : ∀ (zs : List α) (hne : zs.rdropWhile (· = 0) ≠ []),
        (zs.rdropWhile (· = 0)).getLast hne ≠ 0 := by
      intro zs hne
      simpa using List.rdropWhile_last_not (· = 0) zs hne
    have hlength := Nat.le_antisymm (length_le_of_padded_eq h (hlast xs))
      (length_le_of_padded_eq h.symm (hlast ys))
    apply List.ext_getElem hlength
    intro i hi hi'
    have hsame := padded_eq.mp h i
    rwa [List.getD_eq_getElem _ 0 hi, List.getD_eq_getElem _ 0 hi'] at hsame
  · intro h
    rw [← padded_rdropWhile xs, ← padded_rdropWhile ys, h]

end Eq

section Order

variable [LinearOrder α]

/-- The first difference decides. -/
theorem padded_lt_iff {xs ys : List α} :
    padded xs < padded ys ↔
      ∃ i, (∀ j < i, xs.getD j 0 = ys.getD j 0) ∧ xs.getD i 0 < ys.getD i 0 := Iff.rfl

/-- **A longer list.** Appending what is not negative makes a list larger exactly when
it is not all zero. -/
theorem padded_lt_append_iff {xs more : List α} (hmore : ∀ x ∈ more, 0 ≤ x) :
    padded xs < padded (xs ++ more) ↔ ∃ x ∈ more, x ≠ 0 := by
  constructor
  · intro h
    by_contra hzero
    push Not at hzero
    have hsame : padded (xs ++ more) = padded xs := by
      rw [padded_eq]
      intro i
      by_cases hi : i < xs.length
      · exact List.getD_append _ _ _ _ hi
      · rw [List.getD_append_right _ _ _ _ (by omega), List.getD_eq_default xs _ (by omega)]
        by_cases hj : i - xs.length < more.length
        · rw [List.getD_eq_getElem _ _ hj]
          exact hzero _ (List.getElem_mem hj)
        · exact List.getD_eq_default _ _ (by omega)
    rw [hsame] at h
    exact lt_irrefl _ h
  · rintro ⟨x, hx, hne⟩
    induction more generalizing xs with
    | nil => cases hx
    | cons first more ih =>
      by_cases hfirst : first = 0
      · -- a zero in front of the others can be counted to the list before it
        have hrest : x ∈ more := by
          rcases List.mem_cons.mp hx with rfl | hrest
          · exact absurd hfirst hne
          · exact hrest
        have hlt : padded (xs ++ [0]) < padded (xs ++ [0] ++ more) :=
          ih (fun y hy => hmore y (List.mem_cons_of_mem _ hy)) hrest
        rw [padded_concat_zero, List.append_assoc] at hlt
        rwa [hfirst]
      · refine padded_lt_iff.mpr ⟨xs.length, fun j hj => ?_, ?_⟩
        · exact (List.getD_append _ _ _ _ hj).symm
        · rw [List.getD_append_right _ _ _ _ (Nat.le_refl _),
            List.getD_eq_default xs _ (Nat.le_refl _), Nat.sub_self]
          exact lt_of_le_of_ne (hmore first List.mem_cons_self) (Ne.symm hfirst)

end Order

end QtAppBase.Library
