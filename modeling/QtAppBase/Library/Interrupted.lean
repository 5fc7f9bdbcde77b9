import Mathlib.Data.List.Basic
import Mathlib.Tactic.Common

/-!
# Programs that can be cut short

A program changes a state step by step, and it can end after any of the steps:
the process is killed, and what the state is then is what others find. A claim
about such a program says what holds on the way, and what holds at the end of a
program that was not cut short. Claims are composed like the programs.
-/

namespace QtAppBase.Library

variable {σ α β : Type*}

/-- The states a program passes through, one for each step, with its result and the
state at the end. -/
structure Course (σ α : Type*) where
  passed : List σ := []
  result : α
  final : σ

/-- A program, given what its environment answers. -/
def Program (σ α : Type*) := σ → Course σ α

namespace Program

/-- A program without a step. -/
def ret (a : α) : Program σ α := fun s => { result := a, final := s }

/-- One program after the other. -/
def andThen (p : Program σ α) (f : α → Program σ β) : Program σ β := fun s =>
  let first := p s
  let rest := f first.result first.final
  { passed := first.passed ++ rest.passed, result := rest.result, final := rest.final }

/-- A single step. -/
def atomic (f : σ → α × σ) : Program σ α := fun s =>
  { passed := [(f s).2], result := (f s).1, final := (f s).2 }

/-- A single step that takes a while, with the states seen in the meantime. -/
def slowly (meantime : σ → List σ) (f : σ → α × σ) : Program σ α := fun s =>
  { passed := meantime s ++ [(f s).2], result := (f s).1, final := (f s).2 }

/-- From a state that meets `P`, every state on the way meets `C`, and the result and the
last state meet `Q`. -/
def Safe (C P : σ → Prop) (p : Program σ α) (Q : α → σ → Prop) : Prop :=
  ∀ s, P s → (∀ t ∈ (p s).passed, C t) ∧ Q (p s).result (p s).final

variable {C C' P P' : σ → Prop} {p : Program σ α} {f : α → Program σ β} {Q Q' : α → σ → Prop}
  {R : β → σ → Prop}

theorem safe_ret {a : α} (h : ∀ s, P s → Q a s) : Safe C P (ret a) Q :=
  fun s hs => ⟨nofun, h s hs⟩

/-- **Sequence rule.** -/
theorem Safe.andThen (hp : Safe C P p Q) (hf : ∀ a, Safe C (Q a) (f a) R) :
    Safe C P (p.andThen f) R := by
  intro s hs
  obtain ⟨hpassed, hend⟩ := hp s hs
  obtain ⟨hpassed', hend'⟩ := hf _ _ hend
  refine ⟨fun t ht => ?_, hend'⟩
  rcases List.mem_append.mp ht with hfirst | hrest
  · exact hpassed t hfirst
  · exact hpassed' t hrest

/-- A single step is only seen when it is done. -/
theorem safe_atomic {f : σ → α × σ} (hC : ∀ s, P s → C (f s).2)
    (hQ : ∀ s, P s → Q (f s).1 (f s).2) : Safe C P (atomic f) Q := by
  intro s hs
  refine ⟨fun t ht => ?_, hQ s hs⟩
  obtain rfl := List.mem_singleton.mp ht
  exact hC s hs

/-- A slow step is seen on the way too. -/
theorem safe_slowly {meantime : σ → List σ} {f : σ → α × σ}
    (hmeantime : ∀ s, P s → ∀ t ∈ meantime s, C t) (hC : ∀ s, P s → C (f s).2)
    (hQ : ∀ s, P s → Q (f s).1 (f s).2) : Safe C P (slowly meantime f) Q := by
  intro s hs
  refine ⟨fun t ht => ?_, hQ s hs⟩
  rcases List.mem_append.mp ht with hearly | hdone
  · exact hmeantime s hs t hearly
  · obtain rfl := List.mem_singleton.mp hdone
    exact hC s hs

/-- **Consequence rule.** -/
theorem Safe.imp (h : Safe C P p Q) (hC : ∀ s, C s → C' s) (hP : ∀ s, P' s → P s)
    (hQ : ∀ a s, Q a s → Q' a s) : Safe C' P' p Q' := by
  intro s hs
  obtain ⟨hpassed, hend⟩ := h s (hP s hs)
  exact ⟨fun t ht => hC t (hpassed t ht), hQ _ _ hend⟩

/-- A program that goes one of two ways. -/
theorem safe_ite {c : Prop} [Decidable c] {q : Program σ α} (hp : c → Safe C P p Q)
    (hq : ¬c → Safe C P q Q) : Safe C P (if c then p else q) Q := by
  split_ifs with hc
  · exact hp hc
  · exact hq hc

end Program

end QtAppBase.Library
