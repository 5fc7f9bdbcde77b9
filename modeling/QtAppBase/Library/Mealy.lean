import Mathlib.Tactic.Common
import Mathlib.Logic.Basic

/-!
# Machines that answer inputs with outputs

An event-driven object takes one input at a time, moves to a new state, and
emits a list of outputs. This file fixes runs of such machines, predicates that
hold at every step of a run, and the two induction rules used everywhere else:
invariants carried along the steps that meet a condition, and simulation
between two machines driven by the same inputs.
-/

namespace QtAppBase.Library

/-- A new state together with the outputs emitted on the way to it, oldest first. -/
abbrev Reaction (σ ω : Type*) := σ × List ω

namespace Reaction

variable {σ ω : Type*}

/-- Continue from the state reached, keeping the outputs emitted so far. -/
def andThen (r : Reaction σ ω) (f : σ → Reaction σ ω) : Reaction σ ω :=
  ((f r.1).1, r.2 ++ (f r.1).2)

@[simp] theorem andThen_fst (r : Reaction σ ω) (f : σ → Reaction σ ω) :
    (r.andThen f).1 = (f r.1).1 := rfl

@[simp] theorem andThen_snd (r : Reaction σ ω) (f : σ → Reaction σ ω) :
    (r.andThen f).2 = r.2 ++ (f r.1).2 := rfl

/-- A silent change of state. -/
def silently (s : σ) : Reaction σ ω := (s, [])

@[simp] theorem silently_fst (s : σ) : (silently s : Reaction σ ω).1 = s := rfl

@[simp] theorem silently_snd (s : σ) : (silently s : Reaction σ ω).2 = [] := rfl

end Reaction

/-- A deterministic machine with outputs. Every choice of the environment is
part of the input. -/
structure Mealy (σ ι ω : Type*) where
  /-- What one input does. -/
  step : σ → ι → Reaction σ ω

namespace Mealy

variable {σ τ ι ω α : Type*} (M : Mealy σ ι ω)

/-- The state after one input. -/
def next (s : σ) (i : ι) : σ := (M.step s i).1

/-- The state after a sequence of inputs. -/
def after : σ → List ι → σ
  | s, [] => s
  | s, i :: is => after (M.next s i) is

/-- Everything emitted during a sequence of inputs. -/
def emitted : σ → List ι → List ω
  | _, [] => []
  | s, i :: is => (M.step s i).2 ++ emitted (M.next s i) is

/-- Every step of a run meets `P`, which sees the state before the step and the input. -/
def EachStep (P : σ → ι → Prop) : σ → List ι → Prop
  | _, [] => True
  | s, i :: is => P s i ∧ EachStep P (M.next s i) is

/-- Every state of a run, the first and the last included, meets `P`. -/
def EachState (P : σ → Prop) : σ → List ι → Prop
  | s, [] => P s
  | s, i :: is => P s ∧ EachState P (M.next s i) is

/-- What an observer sees of every state of a run, the first and the last included. -/
def trajectory (f : σ → α) : σ → List ι → List α
  | s, [] => [f s]
  | s, i :: is => f s :: trajectory f (M.next s i) is

/-- Conditions on the steps of a run can be evaluated. -/
instance decidableEachStep (P : σ → ι → Prop) [∀ s i, Decidable (P s i)] :
    ∀ s is, Decidable (M.EachStep P s is)
  | _, [] => isTrue trivial
  | s, i :: is =>
    have := decidableEachStep P (M.next s i) is
    inferInstanceAs (Decidable (P s i ∧ M.EachStep P (M.next s i) is))

/-- So can conditions on its states. -/
instance decidableEachState (P : σ → Prop) [∀ s, Decidable (P s)] :
    ∀ s is, Decidable (M.EachState P s is)
  | s, [] => inferInstanceAs (Decidable (P s))
  | s, i :: is =>
    have := decidableEachState P (M.next s i) is
    inferInstanceAs (Decidable (P s ∧ M.EachState P (M.next s i) is))

@[simp] theorem after_nil (s : σ) : M.after s [] = s := rfl

@[simp] theorem after_cons (s : σ) (i : ι) (is : List ι) :
    M.after s (i :: is) = M.after (M.next s i) is := rfl

@[simp] theorem emitted_nil (s : σ) : M.emitted s [] = [] := rfl

@[simp] theorem emitted_cons (s : σ) (i : ι) (is : List ι) :
    M.emitted s (i :: is) = (M.step s i).2 ++ M.emitted (M.next s i) is := rfl

theorem after_append (s : σ) (is js : List ι) :
    M.after s (is ++ js) = M.after (M.after s is) js := by
  induction is generalizing s with
  | nil => rfl
  | cons i is ih => exact ih _

theorem emitted_append (s : σ) (is js : List ι) :
    M.emitted s (is ++ js) = M.emitted s is ++ M.emitted (M.after s is) js := by
  induction is generalizing s with
  | nil => rfl
  | cons i is ih => simp only [List.cons_append, emitted_cons, after_cons, ih, List.append_assoc]

variable {M} {P Q : σ → ι → Prop} {I : σ → Prop}

/-- The first state of a run meets what every state of it meets. -/
theorem EachState.head {R : σ → Prop} {s : σ} {is : List ι} (h : M.EachState R s is) : R s := by
  cases is with
  | nil => exact h
  | cons i is => exact h.1

/-- The last state of a run meets it too. -/
theorem EachState.last {R : σ → Prop} {s : σ} {is : List ι} (h : M.EachState R s is) :
    R (M.after s is) := by
  induction is generalizing s with
  | nil => exact h
  | cons i is ih => exact ih h.2

/-- **Invariant rule.** What an invariant kept by the steps that meet `P` implies of states
holds in every state of a run whose steps all meet `P`. -/
theorem eachState_of_invariant {R : σ → Prop}
    (hstep : ∀ s i, I s → P s i → I (M.next s i)) (himp : ∀ s, I s → R s)
    {s : σ} {is : List ι} (hs : I s) (hrun : M.EachStep P s is) : M.EachState R s is := by
  induction is generalizing s with
  | nil => exact himp s hs
  | cons i is ih => exact ⟨himp s hs, ih (hstep s i hs hrun.1) hrun.2⟩

/-- What an invariant kept by every step implies holds in every state of every run. -/
theorem eachState_of_kept {R : σ → Prop} (hstep : ∀ s i, I s → I (M.next s i))
    (himp : ∀ s, I s → R s) {s : σ} {is : List ι} (hs : I s) : M.EachState R s is := by
  induction is generalizing s with
  | nil => exact himp s hs
  | cons i is ih => exact ⟨himp s hs, ih (hstep s i hs)⟩

/-- What an invariant implies of single steps holds at every step of the run. -/
theorem eachStep_of_invariant (hstep : ∀ s i, I s → P s i → I (M.next s i))
    (himp : ∀ s i, I s → P s i → Q s i) {s : σ} {is : List ι} (hs : I s)
    (hrun : M.EachStep P s is) : M.EachStep Q s is := by
  induction is generalizing s with
  | nil => trivial
  | cons i is ih => exact ⟨himp s i hs hrun.1, ih (hstep s i hs hrun.1) hrun.2⟩

/-- **History rule.** An invariant between the inputs so far and the state, kept by the steps
that meet `P`, holds after every run whose steps all meet `P`. -/
theorem after_of_recorded {H : List ι → σ → Prop}
    (hstep : ∀ past s i, H past s → P s i → H (past ++ [i]) (M.next s i))
    {past : List ι} {s : σ} {is : List ι} (hs : H past s) (hrun : M.EachStep P s is) :
    H (past ++ is) (M.after s is) := by
  induction is generalizing past s with
  | nil =>
    rw [List.append_nil]
    exact hs
  | cons i is ih =>
    rw [List.append_cons]
    exact ih (hstep past s i hs hrun.1) hrun.2

/-- What every input of a run keeps holds after the run if it held before. -/
theorem after_of_kept {s : σ} {is : List ι} (hstep : ∀ s, ∀ i ∈ is, I s → I (M.next s i))
    (hs : I s) : I (M.after s is) := by
  induction is generalizing s with
  | nil => exact hs
  | cons i is ih =>
    exact ih (fun s j hj => hstep s j (List.mem_cons_of_mem _ hj))
      (hstep s i List.mem_cons_self hs)

/-- Under an invariant, two conditions on the steps that agree there hold in the same runs. -/
theorem eachStep_congr_of_invariant (hstep : ∀ s i, I s → I (M.next s i))
    (hiff : ∀ s i, I s → (P s i ↔ Q s i)) {s : σ} {is : List ι} (hs : I s) :
    M.EachStep P s is ↔ M.EachStep Q s is := by
  constructor
  · exact eachStep_of_invariant (fun s i h _ => hstep s i h) (fun s i h => (hiff s i h).mp) hs
  · exact eachStep_of_invariant (fun s i h _ => hstep s i h) (fun s i h => (hiff s i h).mpr) hs

/-- **Exact condition rule.** Suppose an invariant implies `R`, a step that meets
`P` keeps the invariant, and a step that does not meet `P` leads out of `R`.
Then `R` holds in every state of a run exactly when every step meets `P`. The
steps are taken from those admitted by `A`. -/
theorem eachState_iff_eachStep {A : σ → ι → Prop} {R : σ → Prop} (himp : ∀ s, I s → R s)
    (hkeep : ∀ s i, I s → A s i → P s i → I (M.next s i))
    (hleave : ∀ s i, I s → A s i → ¬ P s i → ¬ R (M.next s i))
    {s : σ} {is : List ι} (hs : I s) (hadmitted : M.EachStep A s is) :
    M.EachState R s is ↔ M.EachStep P s is := by
  induction is generalizing s with
  | nil => exact ⟨fun _ => trivial, fun _ => himp s hs⟩
  | cons i is ih =>
    constructor
    · rintro ⟨_, hrest⟩
      have hP : P s i := by
        by_contra hnot
        exact hleave s i hs hadmitted.1 hnot hrest.head
      exact ⟨hP, (ih (hkeep s i hs hadmitted.1 hP) hadmitted.2).mp hrest⟩
    · rintro ⟨hP, hrest⟩
      exact ⟨himp s hs, (ih (hkeep s i hs hadmitted.1 hP) hadmitted.2).mpr hrest⟩

/-- No condition is met by every run. -/
theorem eachStep_trivial (s : σ) (is : List ι) : M.EachStep (fun _ _ => True) s is := by
  induction is generalizing s with
  | nil => trivial
  | cons i is ih => exact ⟨trivial, ih _⟩

/-- **Exact condition rule for steps.** Suppose an invariant is kept by the admitted
steps that meet `P`, and under it `P` and `Q` agree on admitted steps. Then the steps
of a run all meet `Q` exactly when they all meet `P`. -/
theorem eachStep_iff_eachStep {A : σ → ι → Prop}
    (hkeep : ∀ s i, I s → A s i → P s i → I (M.next s i))
    (hiff : ∀ s i, I s → A s i → (Q s i ↔ P s i))
    {s : σ} {is : List ι} (hs : I s) (hadmitted : M.EachStep A s is) :
    M.EachStep Q s is ↔ M.EachStep P s is := by
  induction is generalizing s with
  | nil => exact Iff.rfl
  | cons i is ih =>
    constructor
    · rintro ⟨hQ, hrest⟩
      have hP := (hiff s i hs hadmitted.1).mp hQ
      exact ⟨hP, (ih (hkeep s i hs hadmitted.1 hP) hadmitted.2).mp hrest⟩
    · rintro ⟨hP, hrest⟩
      exact ⟨(hiff s i hs hadmitted.1).mpr hP,
        (ih (hkeep s i hs hadmitted.1 hP) hadmitted.2).mpr hrest⟩

/-- **Simulation rule.** Suppose related states look the same, answer every
admitted input with the same outputs, and stay related. Then two runs on the
same inputs look the same in every state and emit the same outputs. -/
theorem simulation {N : Mealy τ ι ω} {R : σ → τ → Prop} {f : σ → α} {g : τ → α}
    (hview : ∀ s t, R s t → f s = g t)
    (hstep : ∀ s t i, R s t → P s i → R (M.next s i) (N.next t i) ∧ (M.step s i).2 = (N.step t i).2)
    {s : σ} {t : τ} {is : List ι} (hst : R s t) (hrun : M.EachStep P s is) :
    M.trajectory f s is = N.trajectory g t is ∧ M.emitted s is = N.emitted t is := by
  induction is generalizing s t with
  | nil => exact ⟨congrArg (fun a => [a]) (hview s t hst), rfl⟩
  | cons i is ih =>
    obtain ⟨hnext, hout⟩ := hstep s t i hst hrun.1
    obtain ⟨htrajectory, hemitted⟩ := ih hnext hrun.2
    constructor
    · rw [trajectory, trajectory, hview s t hst, htrajectory]
    · rw [emitted_cons, emitted_cons, hout, hemitted]

/-- Two conditions on the steps hold together. -/
theorem EachStep.and {s : σ} {is : List ι} (hP : M.EachStep P s is) (hQ : M.EachStep Q s is) :
    M.EachStep (fun s i => P s i ∧ Q s i) s is := by
  induction is generalizing s with
  | nil => trivial
  | cons i is ih => exact ⟨⟨hP.1, hQ.1⟩, ih hP.2 hQ.2⟩

/-- **Measure rule.** If no step emits more outputs of a sort than the measure
of the state drops by, a run emits at most as many as the measure it starts with. -/
theorem countP_emitted_le {p : ω → Bool} {measure : σ → ℕ}
    (hstep : ∀ s i, I s → P s i → I (M.next s i))
    (hmeasure : ∀ s i, I s → P s i →
      (M.step s i).2.countP p + measure (M.next s i) ≤ measure s)
    {s : σ} {is : List ι} (hs : I s) (hrun : M.EachStep P s is) :
    (M.emitted s is).countP p ≤ measure s := by
  induction is generalizing s with
  | nil => exact Nat.zero_le _
  | cons i is ih =>
    have hrest := ih (hstep s i hs hrun.1) hrun.2
    have hfirst := hmeasure s i hs hrun.1
    rw [emitted_cons, List.countP_append]
    omega

/-- **Fusion rule.** Suppose an input made of two parts has the effect of the parts
one after the other. Then a message has the same effect in one piece as in
several. -/
theorem emitted_pieces (input : List α → ι)
    (hfuse : ∀ s a b, M.step s (input (a ++ b)) =
      (M.step s (input a)).andThen fun t => M.step t (input b))
    (s : σ) (first : List α) (rest : List (List α)) :
    (M.after s ((first :: rest).map input), M.emitted s ((first :: rest).map input)) =
      M.step s (input (first :: rest).flatten) := by
  induction rest generalizing s first with
  | nil => simp [next]
  | cons second rest ih =>
    have hrest := ih (M.next s (input first)) second
    rw [List.flatten_cons, hfuse, Reaction.andThen]
    change _ = ((M.step (M.next s (input first)) _).1, _ ++ (M.step (M.next s (input first)) _).2)
    rw [← hrest]
    rfl

variable (M) in
/-- The machine whose inputs are groups of inputs of `M`. -/
def grouped {κ : Type*} (inputs : κ → List ι) : Mealy σ κ ω :=
  ⟨fun s k => (M.after s (inputs k), M.emitted s (inputs k))⟩

/-- A run on groups is the run on all their inputs. -/
theorem grouped_emitted {κ : Type*} (inputs : κ → List ι) (s : σ) (ks : List κ) :
    (M.grouped inputs).emitted s ks = M.emitted s (ks.flatMap inputs) := by
  induction ks generalizing s with
  | nil => rfl
  | cons k ks ih =>
    rw [emitted_cons, List.flatMap_cons, emitted_append]
    exact congrArg (M.emitted s (inputs k) ++ ·) (ih _)

end Mealy

end QtAppBase.Library
