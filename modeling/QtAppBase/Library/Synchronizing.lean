import Mathlib.Data.List.Infix
import Mathlib.Tactic.Common

/-!
# Self-synchronizing codes

A code writes each symbol as a block of units. If units that start a block never stand
inside one, and the first block of a sequence can be told, then a sequence of symbols
occurs in another one exactly where its code does: no occurrence starts inside a block.
-/

namespace QtAppBase.Library

variable {α β : Type*}

/-- A code whose blocks start with a leading unit and have no other one, and whose
first block can be told from what follows. -/
structure SelfSynchronizing (code : α → List β) (Lead : β → Prop) : Prop where
  lead : ∀ a, ∃ unit units, code a = unit :: units ∧ Lead unit ∧ ∀ other ∈ units, ¬ Lead other
  first : ∀ {a b : α} {s t : List β}, code a ++ s = code b ++ t → a = b ∧ s = t

namespace SelfSynchronizing

variable {code : α → List β} {Lead : β → Prop}

/-- Starting at a block, the code of a sequence tells it. -/
theorem prefix_iff (h : SelfSynchronizing code Lead) {xs ys : List α} :
    xs.flatMap code <+: ys.flatMap code ↔ xs <+: ys := by
  induction xs generalizing ys with
  | nil => simp
  | cons x xs ih =>
    cases ys with
    | nil =>
      obtain ⟨unit, units, hcode, -, -⟩ := h.lead x
      simp [hcode]
    | cons y ys =>
      rw [List.flatMap_cons, List.flatMap_cons, List.cons_prefix_cons, ← ih]
      constructor
      · rintro ⟨rest, hrest⟩
        rw [List.append_assoc] at hrest
        obtain ⟨rfl, hcodes⟩ := h.first hrest
        exact ⟨rfl, rest, hcodes⟩
      · rintro ⟨rfl, hcodes⟩
        exact (List.prefix_append_right_inj _).mpr hcodes

/-- What starts with a leading unit does not start among units that are none. -/
theorem infix_append_iff {unit : β} {units front rest : List β} (hlead : Lead unit)
    (hfront : ∀ other ∈ front, ¬ Lead other) :
    unit :: units <:+: front ++ rest ↔ unit :: units <:+: rest := by
  induction front with
  | nil => rw [List.nil_append]
  | cons other front ih =>
    obtain ⟨hother, hfront⟩ := List.forall_mem_cons.mp hfront
    rw [List.cons_append, List.infix_cons_iff, ih hfront, or_iff_right]
    intro hstarts
    rw [List.cons_prefix_cons] at hstarts
    exact hother (hstarts.1 ▸ hlead)

/-- **Codes occur where their sequences do.** -/
theorem infix_iff (h : SelfSynchronizing code Lead) {xs ys : List α} :
    xs.flatMap code <:+: ys.flatMap code ↔ xs <:+: ys := by
  cases xs with
  | nil => simp
  | cons x xs =>
    obtain ⟨unit, units, hcode, hlead, -⟩ := h.lead x
    induction ys with
    | nil => simp [hcode]
    | cons y ys ih =>
      obtain ⟨unit', units', hcode', -, hunits'⟩ := h.lead y
      have hprefix : (x :: xs).flatMap code <+: (y :: ys).flatMap code ↔ x :: xs <+: y :: ys :=
        h.prefix_iff
      have hblock : (y :: ys).flatMap code = unit' :: (units' ++ ys.flatMap code) := by
        rw [List.flatMap_cons, hcode', List.cons_append]
      have hoccurs : (x :: xs).flatMap code = unit :: (units ++ xs.flatMap code) := by
        rw [List.flatMap_cons, hcode, List.cons_append]
      rw [List.infix_cons_iff, ← ih, ← hprefix, hblock, List.infix_cons_iff, hoccurs,
        infix_append_iff hlead hunits']

end SelfSynchronizing

end QtAppBase.Library
