import QtAppBase.Library.Mealy

/-!
# Simulation along labels

A machine may do what another one does with steps of a different grain. Every step is
labelled with the inputs that the other machine takes meanwhile, possibly none. If each
step changes what is seen of the state, and emits what is seen of the outputs, as its
label says, then so does a whole run.
-/

namespace QtAppBase.Library

namespace Mealy

variable {σ τ ι κ ω ψ α : Type*}

/-- The labels of a run, in order. -/
def labels (M : Mealy σ ι ω) (label : σ → ι → List κ) : σ → List ι → List κ
  | _, [] => []
  | s, i :: is => label s i ++ labels M label (M.next s i) is

/-- A step looks like the steps that its label names. -/
def Follows (M : Mealy σ ι ω) (N : Mealy τ κ ψ) (label : σ → ι → List κ) (view : σ → τ)
    (see : ω → Option ψ) (s : σ) (i : ι) : Prop :=
  view (M.next s i) = N.after (view s) (label s i) ∧
    (M.step s i).2.filterMap see = N.emitted (view s) (label s i)

variable {M : Mealy σ ι ω} {N : Mealy τ κ ψ} {label : σ → ι → List κ} {view : σ → τ}
  {see : ω → Option ψ} {s : σ} {i : ι} {is : List ι}

/-- A step without a label does not show. -/
theorem follows_silently (hlabel : label s i = []) (hview : view (M.next s i) = view s)
    (hsee : (M.step s i).2.filterMap see = []) : M.Follows N label view see s i := by
  rw [Follows, hlabel, hview, hsee]
  exact ⟨rfl, rfl⟩

/-- **Labelled simulation rule.** If the steps that meet `P` look like those of their labels,
then a run of them looks like the run on all labels. -/
theorem labelled_simulation {I : σ → Prop} {P : σ → ι → Prop}
    (hkept : ∀ d j, I d → P d j → I (M.next d j))
    (hstep : ∀ d j, I d → P d j → M.Follows N label view see d j) (hs : I s)
    (hrun : M.EachStep P s is) :
    view (M.after s is) = N.after (view s) (M.labels label s is) ∧
      (M.emitted s is).filterMap see = N.emitted (view s) (M.labels label s is) := by
  induction is generalizing s with
  | nil => exact ⟨rfl, rfl⟩
  | cons i is ih =>
    obtain ⟨hview, hsee⟩ := hstep s i hs hrun.1
    obtain ⟨hlater, hseen⟩ := ih (hkept s i hs hrun.1) hrun.2
    rw [labels, after_cons, after_append, emitted_cons, List.filterMap_append, emitted_append,
      ← hview, hlater, hsee, hseen]
    exact ⟨rfl, rfl⟩

/-- What the outputs of each step say about its label, those of the run say about all labels. -/
theorem labels_filterMap {pick : κ → Option α} {say : ω → Option α}
    (hstep : ∀ d j, (label d j).filterMap pick = (M.step d j).2.filterMap say) :
    (M.labels label s is).filterMap pick = (M.emitted s is).filterMap say := by
  induction is generalizing s with
  | nil => rfl
  | cons i is ih =>
    rw [labels, emitted_cons, List.filterMap_append, List.filterMap_append, hstep, ih]

end Mealy

end QtAppBase.Library
