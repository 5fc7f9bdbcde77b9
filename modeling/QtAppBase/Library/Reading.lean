import Mathlib.Data.List.Basic
import Mathlib.Tactic.Common

/-!
# Reading a message piece by piece

A reader takes a value off the front of a message. It is exact for a relation
between stretches of a message and values if it takes off precisely what the
relation allows. Reading to the end with an exact reader accepts precisely the
concatenations of such stretches.
-/

namespace QtAppBase.Library

variable {α β : Type*}

/-- The reader takes a value off the front if and only if a stretch there stands
for it. -/
def Exact (read : List α → Option (β × List α)) (Stands : List α → β → Prop) : Prop :=
  ∀ message value rest,
    read message = some (value, rest) ↔ ∃ front, Stands front value ∧ message = front ++ rest

/-- Read to the end of the message, for a number of rounds. -/
def readAll (read : List α → Option (β × List α)) : ℕ → List α → Option (List β)
  | _, [] => some []
  | 0, _ :: _ => none
  | rounds + 1, first :: rest =>
    match read (first :: rest) with
    | none => none
    | some (value, rest) => (readAll read rounds rest).map (value :: ·)

/-- Only no stretches at all make up the empty message. -/
theorem values_of_flatten_nil {Stands : List α → β → Prop} {fronts : List (List α)}
    {values : List β}
    (hnonempty : ∀ front value, Stands front value → front ≠ [])
    (hstands : List.Forall₂ Stands fronts values) (hempty : [] = fronts.flatten) : values = [] := by
  cases hstands with
  | nil => rfl
  | cons hfront _ => exact absurd (List.append_eq_nil_iff.mp hempty.symm).1 (hnonempty _ _ hfront)

/-- **Reading to the end is exact**, if no stretch is empty and there are as many
rounds as the message is long. -/
theorem readAll_eq_some_iff {read : List α → Option (β × List α)} {Stands : List α → β → Prop}
    (hread : Exact read Stands) (hnonempty : ∀ front value, Stands front value → front ≠ [])
    {rounds : ℕ} {message : List α} (hrounds : message.length ≤ rounds) (values : List β) :
    readAll read rounds message = some values ↔
      ∃ fronts, List.Forall₂ Stands fronts values ∧ message = fronts.flatten := by
  induction rounds generalizing message values with
  | zero =>
    obtain rfl : message = [] := List.length_eq_zero_iff.mp (by omega)
    constructor
    · intro h
      obtain rfl : [] = values := Option.some.inj h
      exact ⟨[], .nil, rfl⟩
    · rintro ⟨fronts, hstands, hempty⟩
      rw [values_of_flatten_nil hnonempty hstands hempty]
      rfl
  | succ rounds ih =>
    cases message with
    | nil =>
      constructor
      · intro h
        obtain rfl : [] = values := Option.some.inj h
        exact ⟨[], .nil, rfl⟩
      · rintro ⟨fronts, hstands, hempty⟩
        rw [values_of_flatten_nil hnonempty hstands hempty]
        rfl
    | cons first message =>
      constructor
      · intro h
        unfold readAll at h
        split at h
        · cases h
        · rename_i value rest hvalue
          obtain ⟨others, hothers, rfl⟩ := Option.map_eq_some_iff.mp h
          obtain ⟨front, hfront, hmessage⟩ := (hread _ _ _).mp hvalue
          have hshorter : rest.length ≤ rounds := by
            have hfront := List.length_pos_iff.mpr (hnonempty _ _ hfront)
            have hlength := congrArg List.length hmessage
            simp only [List.length_cons, List.length_append] at hlength hrounds
            omega
          obtain ⟨fronts, hstands, rfl⟩ := (ih hshorter _).mp hothers
          exact ⟨front :: fronts, .cons hfront hstands, hmessage⟩
      · rintro ⟨fronts, hstands, hmessage⟩
        cases hstands with
        | nil => simp at hmessage
        | @cons front value fronts others hfront hstands =>
          have hvalue := (hread _ _ _).mpr ⟨front, hfront, hmessage⟩
          have hshorter : fronts.flatten.length ≤ rounds := by
            have hfront := List.length_pos_iff.mpr (hnonempty _ _ hfront)
            have hlength := congrArg List.length hmessage
            simp only [List.length_cons, List.flatten_cons, List.length_append] at hlength hrounds
            omega
          unfold readAll
          rw [hvalue]
          dsimp only
          rw [(ih hshorter others).mpr ⟨fronts, hstands, rfl⟩]
          rfl

end QtAppBase.Library
