import QtAppBase.Library.Mealy
import Mathlib.Data.List.Basic

/-!
# Machines that pass things on

Some outputs of a machine say that it has taken something in, others that it has
passed something on. In between the things are on a lane, which is read off the
state, the ones to be passed on next in front. If no step changes the order on the
lane, then a run passes on what it takes in, in this order; whether it may lose
something on the way, or change the order after all, is a matter of the relation
between the lists.
-/

namespace QtAppBase.Library

variable {α σ ι ω : Type*}

/-- A relation between what comes out and what went in, list by list. -/
structure Conveying (r : List α → List α → Prop) : Prop where
  refl : ∀ l, r l l
  trans : ∀ {k l m}, r k l → r l m → r k m
  append : ∀ {k l m n}, r k l → r m n → r (k ++ m) (l ++ n)

/-- In order, but something may be lost. -/
theorem conveying_sublist : Conveying (List.Sublist : List α → List α → Prop) :=
  ⟨List.Sublist.refl, List.Sublist.trans, List.Sublist.append⟩

/-- In order, and nothing is lost. -/
theorem conveying_eq : Conveying (Eq : List α → List α → Prop) := by
  refine ⟨fun _ => rfl, Eq.trans, ?_⟩
  rintro k l m n rfl rfl
  rfl

/-- In any order, and nothing is lost. -/
theorem conveying_perm : Conveying (List.Perm : List α → List α → Prop) :=
  ⟨List.Perm.refl, List.Perm.trans, List.Perm.append⟩

/-- What is taken in, what is passed on, and what is in between. -/
structure Lane (σ ω α : Type*) where
  taken : ω → Option α
  passed : ω → Option α
  lane : σ → List α

/-- A reaction from a state passes on what was on the lane, and what it takes in comes last. -/
def Lane.Conveys (L : Lane σ ω α) (r : List α → List α → Prop) (s : σ) (x : Reaction σ ω) : Prop :=
  r (x.2.filterMap L.passed ++ L.lane x.1) (L.lane s ++ x.2.filterMap L.taken)

variable {L : Lane σ ω α} {r : List α → List α → Prop}

/-- What says nothing about the lane and leaves it alone conveys. -/
theorem Lane.conveys_aside (hr : Conveying r) {s : σ} {x : Reaction σ ω}
    (htaken : x.2.filterMap L.taken = []) (hpassed : x.2.filterMap L.passed = [])
    (hlane : L.lane x.1 = L.lane s) : L.Conveys r s x := by
  rw [Lane.Conveys, htaken, hpassed, hlane, List.append_nil]
  exact hr.refl _

/-- **Conveying rule.** If the steps that meet `P` convey, then so does every run of them. -/
theorem Lane.conveys_run (hr : Conveying r) {M : Mealy σ ι ω} {I : σ → Prop} {P : σ → ι → Prop}
    (hkept : ∀ s i, I s → P s i → I (M.next s i))
    (hstep : ∀ s i, I s → P s i → L.Conveys r s (M.step s i))
    {s : σ} {is : List ι} (hs : I s) (hrun : M.EachStep P s is) :
    L.Conveys r s (M.after s is, M.emitted s is) := by
  induction is generalizing s with
  | nil => exact L.conveys_aside hr rfl rfl rfl
  | cons i is ih =>
    have hfirst := hstep s i hs hrun.1
    have hrest := ih (hkept s i hs hrun.1) hrun.2
    unfold Lane.Conveys at *
    rw [Mealy.emitted_cons, List.filterMap_append, List.filterMap_append, List.append_assoc]
    have hlater := hr.append (hr.refl ((M.step s i).2.filterMap L.passed)) hrest
    refine hr.trans hlater ?_
    rw [← List.append_assoc, ← List.append_assoc]
    exact hr.append hfirst (hr.refl _)

/-! ### Taking the first -/

/-- The first item with a property, and the list without it. -/
theorem exists_first [DecidableEq α] {p : α → Bool} {l : List α} {a : α} (h : l.find? p = some a) :
    ∃ front back, l = front ++ a :: back ∧ l.erase a = front ++ back ∧ p a = true ∧
      ∀ b ∈ front, p b = false := by
  obtain ⟨ha, front, back, rfl, hfront⟩ := List.find?_eq_some_iff_append.mp h
  refine ⟨front, back, rfl, ?_, ha, fun b hb => by simpa using hfront b hb⟩
  rw [List.erase_append_right _ fun hmem => by simpa [ha] using hfront a hmem,
    List.erase_cons_head]

/-- To move an item to the front does not change the order of those that are selected, if it
is the first of them or is not selected at all. -/
theorem filter_moved {q : α → Bool} {front back : List α} {a : α}
    (h : q a = true → ∀ b ∈ front, q b = false) :
    (front ++ a :: back).filter q = [a].filter q ++ (front ++ back).filter q := by
  cases ha : q a with
  | false => simp [ha]
  | true =>
    have hfront : front.filter q = [] := by
      rw [List.filter_eq_nil_iff]
      intro b hb
      rw [h ha b hb]
      exact Bool.false_ne_true
    simp [ha, hfront]

end QtAppBase.Library
