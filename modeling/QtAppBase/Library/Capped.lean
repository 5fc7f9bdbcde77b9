import Mathlib.Data.List.DropRight
import Mathlib.Tactic.Common

/-!
# Capped logs

A log that keeps its last `cap` entries, in either of the two ways such logs are
programmed: drop one entry before appending to a full log, or append and then
remove from the front while there are too many. Both show the last `cap` of the
entries that were ever appended, in their order and without gaps.
-/

namespace QtAppBase.Library

variable {α : Type*} {cap : ℕ} {rows more : List α}

/-- Remove from the front while there are too many. -/
def trimFront (cap : ℕ) : List α → List α
  | [] => []
  | row :: rest => if cap < (row :: rest).length then trimFront cap rest else row :: rest

/-- Append, then trim. -/
def appendTrimmed (cap : ℕ) (rows : List α) (row : α) : List α := trimFront cap (rows ++ [row])

/-- Make room, then append. -/
def appendMakingRoom (cap : ℕ) (rows : List α) (row : α) : List α :=
  (if cap ≤ rows.length then rows.drop 1 else rows) ++ [row]

/-- The last of the last are the last. -/
theorem rtake_append_rtake (cap : ℕ) (rows more : List α) :
    (rows.rtake cap ++ more).rtake cap = (rows ++ more).rtake cap := by
  simp only [List.rtake_eq_reverse_take_reverse, List.reverse_append, List.reverse_reverse,
    List.take_append, List.take_take]
  congr 3
  omega

/-- A log that is not longer than the cap is kept whole. -/
theorem rtake_of_length_le (h : rows.length ≤ cap) : rows.rtake cap = rows := by
  rw [List.rtake, Nat.sub_eq_zero_of_le h, List.drop_zero]

theorem length_rtake_le (cap : ℕ) (rows : List α) : (rows.rtake cap).length ≤ cap := by
  rw [List.rtake, List.length_drop]
  omega

/-- One row too many at the front is not among the last. -/
theorem rtake_cons_of_le {row : α} (h : cap ≤ rows.length) :
    (row :: rows).rtake cap = rows.rtake cap := by
  rw [List.rtake, List.rtake, List.length_cons, Nat.succ_sub h, List.drop_succ_cons]

/-- Trimming keeps the last rows. -/
theorem trimFront_eq_rtake (cap : ℕ) (rows : List α) : trimFront cap rows = rows.rtake cap := by
  induction rows with
  | nil => simp [trimFront]
  | cons row rest ih =>
    unfold trimFront
    split_ifs with hlong
    · rw [ih, rtake_cons_of_le (Nat.le_of_lt_succ hlong)]
    · rw [rtake_of_length_le (Nat.le_of_not_lt hlong)]

theorem appendTrimmed_rtake (cap : ℕ) (rows : List α) (row : α) :
    appendTrimmed cap (rows.rtake cap) row = (rows ++ [row]).rtake cap := by
  rw [appendTrimmed, trimFront_eq_rtake, rtake_append_rtake]

/-- Making room for a row drops the first of a full log. -/
theorem appendMakingRoom_eq (hcap : 0 < cap) (hrows : rows.length ≤ cap) (row : α) :
    appendMakingRoom cap rows row = (rows ++ [row]).rtake cap := by
  unfold appendMakingRoom
  split_ifs with hfull
  · have hone : (rows ++ [row]).length - cap = 1 := by simp; omega
    rw [List.rtake, hone, List.drop_append_of_le_length (by omega)]
  · rw [rtake_of_length_le (by simp; omega)]

theorem appendMakingRoom_rtake (hcap : 0 < cap) (rows : List α) (row : α) :
    appendMakingRoom cap (rows.rtake cap) row = (rows ++ [row]).rtake cap := by
  rw [appendMakingRoom_eq hcap (length_rtake_le cap rows), rtake_append_rtake]

/-- **Log rule.** A log that was appended to row by row shows the last of all rows. -/
theorem foldl_rtake {push : List α → α → List α}
    (hpush : ∀ rows row, push (rows.rtake cap) row = (rows ++ [row]).rtake cap)
    (rows more : List α) : more.foldl push (rows.rtake cap) = (rows ++ more).rtake cap := by
  induction more generalizing rows with
  | nil => simp
  | cons row rest ih => rw [List.foldl_cons, hpush, ih, List.append_assoc, List.singleton_append]

/-- **Reset rule.** What is accumulated from inputs of which some start it anew comes from the
inputs after the last of these. -/
theorem foldl_rtakeWhile {σ : Type*} {f : σ → α → σ} {start : σ} {keeps : α → Bool}
    (hreset : ∀ s a, keeps a = false → f s a = start) (inputs : List α) :
    inputs.foldl f start = (inputs.rtakeWhile keeps).foldl f start := by
  induction inputs using List.reverseRecOn with
  | nil => rfl
  | append_singleton front a ih =>
    rw [List.foldl_append, List.rtakeWhile_concat]
    split_ifs with hkeeps
    · rw [List.foldl_append, ih]
    · exact hreset _ a (by simpa using hkeeps)

end QtAppBase.Library
