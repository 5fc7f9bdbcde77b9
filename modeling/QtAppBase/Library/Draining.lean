import Mathlib.Data.List.Basic

/-!
# Records taken from the front

A consumer looks at a buffer and says how much of its front is a complete
record. Taking records until none is complete drains the buffer. If what follows
a complete record does not matter to the consumer, a message may be added to the
buffer in pieces, with the buffer drained in between.
-/

namespace QtAppBase.Library

variable {α : Type*}

/-- The length of the record at the front of a buffer, after the records taken
before; zero if no complete record is there. -/
abbrev Consumer (α : Type*) := List (List α) → List α → ℕ

/-- The consumer takes records from the front. -/
structure TakesRecords (consume : Consumer α) : Prop where
  /-- It takes no more than there is. -/
  bounded : ∀ taken buffer, consume taken buffer ≤ buffer.length
  /-- What follows a complete record does not change it. -/
  stable : ∀ taken buffer more, consume taken buffer ≠ 0 →
    consume taken (buffer ++ more) = consume taken buffer

/-- Only a buffer that is not empty has a record at its front. -/
theorem TakesRecords.ne_nil {consume : Consumer α} (h : TakesRecords consume)
    {taken : List (List α)} {buffer : List α} (htakes : consume taken buffer ≠ 0) :
    buffer ≠ [] := by
  rintro rfl
  exact htakes (Nat.le_zero.mp (h.bounded taken []))

/-- Records are taken until none is complete: the records taken and the buffer
before, and the records taken and the buffer after. -/
inductive Drains (consume : Consumer α) :
    List (List α) → List α → List (List α) → List α → Prop where
  | waits {taken : List (List α)} {buffer : List α} (hwaits : consume taken buffer = 0) :
    Drains consume taken buffer taken buffer
  | takes {taken taken' : List (List α)} {buffer rest : List α}
    (htakes : consume taken buffer ≠ 0)
    (hrest : Drains consume (taken ++ [buffer.take (consume taken buffer)])
      (buffer.drop (consume taken buffer)) taken' rest) :
    Drains consume taken buffer taken' rest

namespace Drains

variable {consume : Consumer α} {taken taken' : List (List α)} {buffer rest : List α}

/-- Every buffer can be drained, since every record shortens it. -/
theorem total (h : TakesRecords consume) (taken : List (List α)) (buffer : List α) :
    ∃ taken' rest, Drains consume taken buffer taken' rest := by
  induction hlength : buffer.length using Nat.strongRecOn generalizing taken buffer with
  | ind length ih =>
    by_cases hwaits : consume taken buffer = 0
    · exact ⟨taken, buffer, waits hwaits⟩
    · have hbounded := h.bounded taken buffer
      have hshorter : (buffer.drop (consume taken buffer)).length < length := by
        rw [List.length_drop]
        omega
      obtain ⟨taken', rest, hrest⟩ := ih _ hshorter (taken ++ [buffer.take _]) _ rfl
      exact ⟨taken', rest, takes hwaits hrest⟩

/-- Draining has one outcome. -/
theorem unique {taken'' : List (List α)} {rest' : List α}
    (h : Drains consume taken buffer taken' rest)
    (h' : Drains consume taken buffer taken'' rest') : taken' = taken'' ∧ rest = rest' := by
  induction h with
  | waits hwaits =>
    cases h' with
    | waits _ => exact ⟨rfl, rfl⟩
    | takes htakes _ => exact absurd hwaits htakes
  | takes htakes _ ih =>
    cases h' with
    | waits hwaits => exact absurd hwaits htakes
    | takes _ hrest' => exact ih hrest'

/-- The records taken and the rest of the buffer are what was there. -/
theorem flatten_append (h : Drains consume taken buffer taken' rest) :
    taken'.flatten ++ rest = taken.flatten ++ buffer := by
  induction h with
  | waits _ => rfl
  | takes _ _ ih =>
    rw [ih, List.flatten_append, List.flatten_singleton, List.append_assoc, List.take_append_drop]

/-- The rest is no longer than the buffer. -/
theorem length_le (h : Drains consume taken buffer taken' rest) : rest.length ≤ buffer.length := by
  induction h with
  | waits _ => exact Nat.le_refl _
  | takes _ _ ih =>
    rw [List.length_drop] at ih
    omega

/-- In the end the consumer waits. -/
theorem waits_after (h : Drains consume taken buffer taken' rest) : consume taken' rest = 0 := by
  induction h with
  | waits hwaits => exact hwaits
  | takes _ _ ih => exact ih

/-- **Draining in pieces.** A buffer drained, added to and drained again has given
the records of the whole, and the same rest. -/
theorem append (hrecords : TakesRecords consume) {taken'' : List (List α)} {more rest' : List α}
    (hfirst : Drains consume taken buffer taken' rest)
    (hsecond : Drains consume taken' (rest ++ more) taken'' rest') :
    Drains consume taken (buffer ++ more) taken'' rest' := by
  induction hfirst with
  | waits _ => exact hsecond
  | @takes taken taken' buffer rest htakes _ ih =>
    have hbounded := hrecords.bounded taken buffer
    have hsame := hrecords.stable taken buffer more htakes
    apply takes
    · rwa [hsame]
    · rw [hsame, List.take_append_of_le_length hbounded, List.drop_append_of_le_length hbounded]
      exact ih hsecond

end Drains

end QtAppBase.Library
