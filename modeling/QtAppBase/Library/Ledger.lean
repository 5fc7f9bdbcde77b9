import Mathlib.Data.List.Count
import Mathlib.Tactic.SplitIfs

/-!
# Requests and their outcomes

A component accepts requests of one kind, at most one at a time, and ends each
with an outcome. The ledger numbers the requests as they are accepted. It is
balanced when every request has exactly one outcome, except one that is still
open and those that were withdrawn; these have none.
-/

namespace QtAppBase.Library

/-- The requests accepted so far are those below `accepted`. An outcome, or a
withdrawal, is listed with the number of its request. -/
structure Ledger where
  accepted : ℕ := 0
  outcomes : List ℕ := []
  withdrawn : List ℕ := []
  deriving DecidableEq, Repr

namespace Ledger

variable {l : Ledger}

/-- Another request is accepted. -/
def accept (l : Ledger) : Ledger := { l with accepted := l.accepted + 1 }

/-- An outcome for the request accepted last. -/
def settle (l : Ledger) : Ledger := { l with outcomes := l.outcomes ++ [l.accepted - 1] }

/-- The request accepted last is withdrawn. -/
def withdraw (l : Ledger) : Ledger := { l with withdrawn := l.withdrawn ++ [l.accepted - 1] }

/-- A request that is still open is the one accepted last. -/
def IsOpen (l : Ledger) (pending : Bool) (n : ℕ) : Prop := pending = true ∧ n + 1 = l.accepted

instance (pending : Bool) (n : ℕ) : Decidable (l.IsOpen pending n) :=
  inferInstanceAs (Decidable (_ ∧ _))

/-- Every request has exactly one outcome, except the open one and those withdrawn. -/
structure Balanced (l : Ledger) (pending : Bool) : Prop where
  /-- What is pending was accepted. -/
  accepted_pos : pending = true → 0 < l.accepted
  /-- Outcomes belong to accepted requests. -/
  outcomes_lt : ∀ n ∈ l.outcomes, n < l.accepted
  /-- Only accepted requests are withdrawn, and then they are not open. -/
  withdrawn_lt : ∀ n ∈ l.withdrawn, n < l.accepted ∧ ¬ l.IsOpen pending n
  /-- The number of outcomes of a request. -/
  count_eq : ∀ n < l.accepted,
    l.outcomes.count n = if l.IsOpen pending n ∨ n ∈ l.withdrawn then 0 else 1

theorem balanced_init : Balanced {} false := by
  refine ⟨fun h => absurd h Bool.false_ne_true, by simp, by simp, ?_⟩
  intro n hn
  exact absurd hn (Nat.not_lt_zero n)

/-- A request accepted while none is open becomes the open one. -/
theorem Balanced.accept (h : l.Balanced false) : l.accept.Balanced true := by
  refine ⟨fun _ => Nat.succ_pos _, ?_, ?_, ?_⟩
  · intro n hn
    exact Nat.lt_succ_of_lt (h.outcomes_lt n hn)
  · intro n hn
    have hlt := (h.withdrawn_lt n hn).1
    refine ⟨Nat.lt_succ_of_lt hlt, fun hopen => ?_⟩
    have heq : n + 1 = l.accepted + 1 := hopen.2
    omega
  · intro n hn
    by_cases hlast : n = l.accepted
    · subst hlast
      have hnone : l.accepted ∉ l.outcomes := fun hmem => Nat.lt_irrefl _ (h.outcomes_lt _ hmem)
      rw [if_pos (Or.inl ⟨rfl, rfl⟩)]
      exact List.count_eq_zero.mpr hnone
    · have hlt : n < l.accepted := Nat.lt_of_le_of_ne (Nat.lt_succ_iff.mp hn) hlast
      have hopen : ¬ l.accept.IsOpen true n := by
        rintro ⟨_, heq⟩
        have heq : n + 1 = l.accepted + 1 := heq
        omega
      have hclosed : ¬ l.IsOpen false n := fun hopen => Bool.false_ne_true hopen.1
      have hcount := h.count_eq n hlt
      simp only [hclosed, false_or] at hcount
      simp only [hopen, false_or]
      exact hcount

/-- An outcome ends the open request. -/
theorem Balanced.settle (h : l.Balanced true) : l.settle.Balanced false := by
  have hpos := h.accepted_pos rfl
  refine ⟨fun hpending => absurd hpending Bool.false_ne_true, ?_, ?_, ?_⟩
  · intro n hn
    rcases List.mem_append.mp hn with hold | hnew
    · exact h.outcomes_lt n hold
    · rw [List.mem_singleton.mp hnew]
      exact Nat.sub_one_lt_of_lt hpos
  · intro n hn
    exact ⟨(h.withdrawn_lt n hn).1, fun hopen => Bool.false_ne_true hopen.1⟩
  · intro n hn
    have hcount := h.count_eq n hn
    have hclosed : ¬ l.settle.IsOpen false n := fun hopen => Bool.false_ne_true hopen.1
    simp only [hclosed, false_or]
    change (l.outcomes ++ [l.accepted - 1]).count n = if n ∈ l.withdrawn then 0 else 1
    rw [List.count_append, List.count_singleton]
    by_cases hlast : n + 1 = l.accepted
    · have hopen : l.IsOpen true n := ⟨rfl, hlast⟩
      have hheld : n ∉ l.withdrawn := fun hmem => (h.withdrawn_lt n hmem).2 hopen
      rw [hcount, if_pos (Or.inl hopen), if_neg hheld]
      have hnew : l.accepted - 1 = n := by omega
      simp [hnew]
    · have hopen : ¬ l.IsOpen true n := fun hopen => hlast hopen.2
      simp only [hopen, false_or] at hcount
      rw [hcount]
      have hnew : l.accepted - 1 ≠ n := by omega
      simp [hnew]

/-- The open request may be withdrawn. -/
theorem Balanced.withdraw (h : l.Balanced true) : l.withdraw.Balanced false := by
  have hpos := h.accepted_pos rfl
  refine ⟨fun hpending => absurd hpending Bool.false_ne_true, h.outcomes_lt, ?_, ?_⟩
  · intro n hn
    refine ⟨?_, fun hopen => Bool.false_ne_true hopen.1⟩
    rcases List.mem_append.mp hn with hold | hnew
    · exact (h.withdrawn_lt n hold).1
    · rw [List.mem_singleton.mp hnew]
      exact Nat.sub_one_lt_of_lt hpos
  · intro n hn
    have hcount := h.count_eq n hn
    have hclosed : ¬ l.withdraw.IsOpen false n := fun hopen => Bool.false_ne_true hopen.1
    have hmem : n ∈ l.withdraw.withdrawn ↔ l.IsOpen true n ∨ n ∈ l.withdrawn := by
      change n ∈ l.withdrawn ++ [l.accepted - 1] ↔ _
      rw [List.mem_append, List.mem_singleton, or_comm]
      refine or_congr_left ⟨fun heq => ⟨rfl, by omega⟩, fun hopen => ?_⟩
      have heq := hopen.2
      omega
    simp only [hclosed, false_or, hmem]
    exact hcount

/-- An open request that ends without a trace is missing an outcome. -/
theorem Balanced.not_lost (h : l.Balanced true) : ¬ l.Balanced false := by
  intro hlost
  have hpos := h.accepted_pos rfl
  have hlast : l.accepted - 1 < l.accepted := Nat.sub_one_lt_of_lt hpos
  have hopen : l.IsOpen true (l.accepted - 1) := ⟨rfl, by omega⟩
  have hheld : l.accepted - 1 ∉ l.withdrawn := fun hmem => (h.withdrawn_lt _ hmem).2 hopen
  have hnone := h.count_eq _ hlast
  have hone := hlost.count_eq _ hlast
  have hclosed : ¬ l.IsOpen false (l.accepted - 1) := fun hopen => Bool.false_ne_true hopen.1
  rw [if_pos (Or.inl hopen)] at hnone
  rw [if_neg (by simp [hclosed, hheld])] at hone
  omega

end Ledger

end QtAppBase.Library
