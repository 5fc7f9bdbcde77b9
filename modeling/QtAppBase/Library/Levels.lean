import QtAppBase.Library.Mealy
import Mathlib.Order.Basic

/-!
# Levels that only rise

A machine has a level that no step lowers, and some outputs carry a level of
their own, between those of the states before and after. Then the levels of the
outputs of a run rise from the first to the last: what was given up once never
shows again.
-/

namespace QtAppBase.Library

variable {α σ ι ω : Type*} [Preorder α] {a b c : α} {vs ws : List α}

/-- The values on the way from `a` up to `b`. -/
def Rises : α → List α → α → Prop
  | a, [], b => a ≤ b
  | a, v :: vs, b => a ≤ v ∧ Rises v vs b

theorem Rises.le (h : Rises a vs b) : a ≤ b := by
  induction vs generalizing a with
  | nil => exact h
  | cons v vs ih => exact h.1.trans (ih h.2)

/-- The way may begin lower. -/
theorem Rises.of_le (hle : c ≤ a) (h : Rises a vs b) : Rises c vs b := by
  cases vs with
  | nil => exact hle.trans h
  | cons v vs => exact ⟨hle.trans h.1, h.2⟩

/-- One way after the other. -/
theorem Rises.append (h : Rises a vs b) (hnext : Rises b ws c) : Rises a (vs ++ ws) c := by
  induction vs generalizing a with
  | nil => exact hnext.of_le h
  | cons v vs ih => exact ⟨h.1, ih h.2⟩

/-- No value is above the end. -/
theorem Rises.le_end (h : Rises a vs b) : ∀ v ∈ vs, v ≤ b := by
  induction vs generalizing a with
  | nil => exact nofun
  | cons v vs ih => exact List.forall_mem_cons.mpr ⟨h.2.le, ih h.2⟩

/-- No value is below the start. -/
theorem Rises.start_le (h : Rises a vs b) : ∀ v ∈ vs, a ≤ v := by
  induction vs generalizing a with
  | nil => exact nofun
  | cons v vs ih => exact List.forall_mem_cons.mpr ⟨h.1, fun w hw => h.1.trans (ih h.2 w hw)⟩

/-- The values are in order. -/
theorem Rises.pairwise (h : Rises a vs b) : vs.Pairwise (· ≤ ·) := by
  induction vs generalizing a with
  | nil => exact .nil
  | cons v vs ih => exact List.pairwise_cons.mpr ⟨h.2.start_le, ih h.2⟩

/-- **Level rule.** If every step of a machine rises from the level before it to the
level after it, so does every run. -/
theorem rises_run {M : Mealy σ ι ω} {I : σ → Prop} {level : σ → α} {tag : ω → Option α}
    (hkept : ∀ s i, I s → I (M.next s i))
    (hstep : ∀ s i, I s → Rises (level s) ((M.step s i).2.filterMap tag) (level (M.next s i)))
    {s : σ} (hs : I s) (is : List ι) :
    Rises (level s) ((M.emitted s is).filterMap tag) (level (M.after s is)) := by
  induction is generalizing s with
  | nil => exact le_refl (level s)
  | cons i is ih =>
    rw [Mealy.emitted_cons, List.filterMap_append, Mealy.after_cons]
    exact (hstep s i hs).append (ih (hkept s i hs))

end QtAppBase.Library
