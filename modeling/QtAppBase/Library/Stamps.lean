import QtAppBase.Library.Mealy

/-!
# Consecutive stamps

A machine that numbers some of its outputs keeps a counter. If every step stamps
its outputs with the numbers that follow, and leaves the counter behind the last
one, then so does a whole run. What an output says apart from its number may
depend on the step.
-/

namespace QtAppBase.Library

variable {σ ι ω β : Type*} {Carries : ℕ → β → Prop} {n : ℕ} {item : β} {items : List β}

/-- The items carry consecutive numbers, the first of which is given. -/
def Consecutive (Carries : ℕ → β → Prop) : ℕ → List β → Prop
  | _, [] => True
  | n, item :: items => Carries n item ∧ Consecutive Carries (n + 1) items

theorem consecutive_singleton : Consecutive Carries n [item] ↔ Carries n item :=
  and_iff_left trivial

/-- Later items carry on where the earlier ones end. -/
theorem consecutive_append {others : List β} :
    Consecutive Carries n (items ++ others) ↔
      Consecutive Carries n items ∧ Consecutive Carries (n + items.length) others := by
  induction items generalizing n with
  | nil => exact (and_iff_right trivial).symm
  | cons item items ih =>
    have hlater : n + 1 + items.length = n + (items.length + 1) := by omega
    rw [List.cons_append, Consecutive, ih, Consecutive, List.length_cons, hlater, and_assoc]

/-- The item at a position carries the number that far behind the first. -/
theorem Consecutive.get (h : Consecutive Carries n items) (k : ℕ) (hk : k < items.length) :
    Carries (n + k) items[k] := by
  induction items generalizing n k with
  | nil => exact absurd hk (Nat.not_lt_zero k)
  | cons item items ih =>
    cases k with
    | zero => exact h.1
    | succ k =>
      have hlater := ih h.2 k (Nat.lt_of_succ_lt_succ hk)
      rwa [Nat.add_right_comm] at hlater

/-- A reaction stamps consecutively what it picks of its outputs, and ends in a
state that has counted them. -/
def Stamps (Carries : ℕ → β → Prop) (Counted : ℕ → σ → Prop) (pick : ω → Option β) (n : ℕ)
    (r : Reaction σ ω) : Prop :=
  Consecutive Carries n (r.2.filterMap pick) ∧ Counted (n + (r.2.filterMap pick).length) r.1

variable {Counted : ℕ → σ → Prop} {pick : ω → Option β}

/-- A reaction that picks nothing. -/
theorem stamps_nothing {r : Reaction σ ω} (hnone : r.2.filterMap pick = [])
    (hcounted : Counted n r.1) : Stamps Carries Counted pick n r := by
  rw [Stamps, hnone]
  exact ⟨trivial, hcounted⟩

/-- A reaction that picks one item. -/
theorem stamps_one {r : Reaction σ ω} (hone : r.2.filterMap pick = [item])
    (hcarries : Carries n item) (hcounted : Counted (n + 1) r.1) :
    Stamps Carries Counted pick n r := by
  rw [Stamps, hone]
  exact ⟨consecutive_singleton.mpr hcarries, hcounted⟩

/-- One reaction after another. -/
theorem Stamps.andThen {r : Reaction σ ω} {f : σ → Reaction σ ω}
    (h : Stamps Carries Counted pick n r)
    (hf : ∀ m, Counted m r.1 → Stamps Carries Counted pick m (f r.1)) :
    Stamps Carries Counted pick n (r.andThen f) := by
  obtain ⟨hitems, hcounted⟩ := h
  obtain ⟨hlater, hlast⟩ := hf _ hcounted
  rw [Stamps, Reaction.andThen_snd, List.filterMap_append, List.length_append, ← Nat.add_assoc]
  exact ⟨consecutive_append.mpr ⟨hitems, hlater⟩, hlast⟩

/-- Every item carries its number, whatever that says. -/
theorem Consecutive.mono {Others : ℕ → β → Prop} (h : Consecutive Carries n items)
    (hcarries : ∀ m item, Carries m item → Others m item) : Consecutive Others n items := by
  induction items generalizing n with
  | nil => trivial
  | cons item items ih => exact ⟨hcarries n item h.1, ih h.2⟩

/-- The items picked along a run carry consecutive numbers. What an item carries besides
may depend on the step it belongs to. -/
def Stamped (M : Mealy σ ι ω) (Carries : σ → ι → ℕ → β → Prop) (pick : ω → Option β) :
    ℕ → σ → List ι → Prop
  | _, _, [] => True
  | n, s, i :: is =>
    Consecutive (Carries s i) n ((M.step s i).2.filterMap pick) ∧
      Stamped M Carries pick (n + ((M.step s i).2.filterMap pick).length) (M.next s i) is

variable {M : Mealy σ ι ω} {CarriesAt : σ → ι → ℕ → β → Prop} {s : σ} {is : List ι}

/-- A later run is stamped where the earlier one ends. -/
theorem stamped_append {js : List ι} :
    Stamped M CarriesAt pick n s (is ++ js) ↔ Stamped M CarriesAt pick n s is ∧
      Stamped M CarriesAt pick (n + ((M.emitted s is).filterMap pick).length)
        (M.after s is) js := by
  induction is generalizing n s with
  | nil => exact (and_iff_right trivial).symm
  | cons i is ih =>
    rw [List.cons_append, Stamped, ih, Stamped, Mealy.emitted_cons, List.filterMap_append,
      List.length_append, ← Nat.add_assoc, Mealy.after_cons, and_assoc]

/-- What each step says of its items is said of all items of the run. -/
theorem Stamped.consecutive (h : Stamped M CarriesAt pick n s is)
    (hcarries : ∀ d i m item, CarriesAt d i m item → Carries m item) :
    Consecutive Carries n ((M.emitted s is).filterMap pick) := by
  induction is generalizing n s with
  | nil => trivial
  | cons i is ih =>
    rw [Mealy.emitted_cons, List.filterMap_append]
    exact consecutive_append.mpr ⟨h.1.mono (hcarries s i), ih h.2⟩

/-- **Stamping rule.** If every admitted step stamps what it picks, so does a run. -/
theorem stamped_run {P : σ → ι → Prop}
    (hstep : ∀ m d i, Counted m d → P d i → Stamps (CarriesAt d i) Counted pick m (M.step d i))
    (hs : Counted n s) (hrun : M.EachStep P s is) :
    Stamped M CarriesAt pick n s is ∧
      Counted (n + ((M.emitted s is).filterMap pick).length) (M.after s is) := by
  induction is generalizing n s with
  | nil => exact ⟨trivial, hs⟩
  | cons i is ih =>
    obtain ⟨hitems, hcounted⟩ := hstep n s i hs hrun.1
    obtain ⟨hlater, hlast⟩ := ih hcounted hrun.2
    rw [Mealy.emitted_cons, List.filterMap_append, List.length_append, ← Nat.add_assoc]
    exact ⟨⟨hitems, hlater⟩, hlast⟩

end QtAppBase.Library
