import QtAppBase.Library.Mealy
import Mathlib.Data.List.Chain

/-!
# Announced changes

An object that emits a signal exactly when a value it shows changes keeps every
listener up to date: the announced values differ from one to the next, and the
last one is the value shown. The property is closed under doing one thing after
another, so it passes from single setters to handlers and from handlers to runs.
-/

namespace QtAppBase.Library

variable {α σ τ ι ω ψ : Type*} {a b c : α} {vs ws : List α}

/-- The values announced on the way from `a` to `b`: each differs from the one in
force before it, and the last one is in force at the end. -/
def Announces : α → List α → α → Prop
  | a, [], b => a = b
  | a, v :: vs, b => a ≠ v ∧ Announces v vs b

theorem Announces.refl (a : α) : Announces a [] a := rfl

/-- What is announced first ends where the rest begins. -/
theorem Announces.append (h : Announces a vs b) (hnext : Announces b ws c) :
    Announces a (vs ++ ws) c := by
  induction vs generalizing a with
  | nil => exact (show a = b from h) ▸ hnext
  | cons v vs ih => exact ⟨h.1, ih h.2⟩

/-- Announcements form a chain of changes that ends in the value in force. -/
theorem announces_iff :
    Announces a vs b ↔ (a :: vs).IsChain (· ≠ ·) ∧ (a :: vs).getLast? = some b := by
  induction vs generalizing a with
  | nil => simp [Announces]
  | cons v vs ih => rw [Announces, ih, List.isChain_cons_cons, List.getLast?_cons_cons, and_assoc]

/-- A value that is new in the end has been announced. -/
theorem Announces.mem (h : Announces a vs b) (hne : a ≠ b) : b ∈ vs := by
  have hlast := List.mem_of_getLast? (announces_iff.mp h).2
  exact (List.mem_cons.mp hlast).resolve_left fun hsame => hne hsame.symm

/-- What an object shows, and which outputs announce it. -/
structure Announcer (σ ω α : Type*) where
  shown : σ → α
  announced : ω → Option α

namespace Announcer

variable (A : Announcer σ ω α) {s t : σ} {r : Reaction σ ω} {outputs : List ω}

/-- A reaction announces what it changes. -/
def Tells (s : σ) (r : Reaction σ ω) : Prop :=
  Announces (A.shown s) (r.2.filterMap A.announced) (A.shown r.1)

variable {A}

/-- A reaction that shows the same and announces nothing. -/
theorem tells_quiet (hshown : A.shown t = A.shown s)
    (hquiet : ∀ output ∈ outputs, A.announced output = none) : A.Tells s (t, outputs) := by
  rw [Tells, List.filterMap_eq_nil_iff.mpr hquiet]
  exact hshown.symm

/-- A silent change that shows the same. -/
theorem tells_silently (hshown : A.shown t = A.shown s) : A.Tells s (.silently t) :=
  tells_quiet hshown nofun

/-- A setter that announces a change, and only a change. -/
theorem tells_set [DecidableEq α] {value : α} {output : ω} (hshown : A.shown t = value)
    (hannounced : A.announced output = some value) :
    A.Tells s (if value = A.shown s then (s, []) else (t, [output])) := by
  split
  · exact tells_silently rfl
  · next hne =>
    simp only [Tells, List.filterMap_cons, hannounced, List.filterMap_nil, hshown]
    exact ⟨fun h => hne h.symm, rfl⟩

/-- The state a reaction starts from matters only for what it shows. -/
theorem Tells.of_shown (h : A.Tells t r) (hshown : A.shown t = A.shown s) : A.Tells s r := by
  rw [Tells, ← hshown]
  exact h

/-- One reaction after another. -/
theorem Tells.andThen {f : σ → Reaction σ ω} (h : A.Tells s r) (hf : A.Tells r.1 (f r.1)) :
    A.Tells s (r.andThen f) := by
  rw [Tells, Reaction.andThen_snd, List.filterMap_append]
  exact Announces.append h hf

/-- An owner that passes the announcements on announces what it shows of its member. -/
theorem Tells.forwarded {B : Announcer τ ψ α} {forward : ω → Option ψ} {owner : τ}
    {q : Reaction τ ψ} (h : A.Tells s r)
    (hforward : ∀ output, (forward output).bind B.announced = A.announced output)
    (hbefore : B.shown owner = A.shown s) (hafter : B.shown q.1 = A.shown r.1)
    (houtputs : q.2 = r.2.filterMap forward) : B.Tells owner q := by
  rw [Tells, hbefore, hafter, houtputs, List.filterMap_filterMap]
  simp only [hforward]
  exact h

/-- **Announcement rule.** If every step of a machine announces what it changes, so
does every run. -/
theorem tells_run {M : Mealy σ ι ω} (hstep : ∀ s i, A.Tells s (M.step s i)) (s : σ)
    (is : List ι) :
    (A.shown s :: (M.emitted s is).filterMap A.announced).IsChain (· ≠ ·) ∧
      (A.shown s :: (M.emitted s is).filterMap A.announced).getLast? =
        some (A.shown (M.after s is)) := by
  rw [← announces_iff]
  induction is generalizing s with
  | nil => rfl
  | cons i is ih =>
    rw [Mealy.emitted_cons, List.filterMap_append, Mealy.after_cons]
    exact Announces.append (hstep s i) (ih _)

/-! ### Listeners

A listener that takes every announcement as it comes shows the last one, also where
announcements repeat themselves. -/

variable (A) in
/-- A reaction after which the object shows what was announced last. -/
def Echoes (s : σ) (r : Reaction σ ω) : Prop :=
  A.shown r.1 = (r.2.filterMap A.announced).getLastD (A.shown s)

/-- One reaction after another. -/
theorem Echoes.andThen {f : σ → Reaction σ ω} (h : A.Echoes s r) (hf : A.Echoes r.1 (f r.1)) :
    A.Echoes s (r.andThen f) := by
  rw [Echoes, Reaction.andThen_fst, hf, h, Reaction.andThen_snd, List.filterMap_append]
  simp only [List.getLastD_eq_getLast?, List.getLast?_append, Option.getD_or]

/-- **Listening rule.** If every step of a run echoes what is announced, so does the run. -/
theorem echoes_run {M : Mealy σ ι ω} {P : σ → ι → Prop}
    (hstep : ∀ s i, P s i → A.Echoes s (M.step s i)) {is : List ι} (hrun : M.EachStep P s is) :
    A.Echoes s (M.after s is, M.emitted s is) := by
  induction is generalizing s with
  | nil => rfl
  | cons i is ih =>
    exact (hstep s i hrun.1).andThen (f := fun t => (M.after t is, M.emitted t is)) (ih hrun.2)

end Announcer

end QtAppBase.Library
