import QtAppBase.Library.Separated

/-!
# Lists of typed entries

A user types some values with a separator between them. Empty entries do not
count, and one bad entry spoils the list. What is written for some values is
read back as these values.
-/

namespace QtAppBase.Library

variable {α β : Type*}

/-- The entries of a text that are not empty. -/
def entries [DecidableEq α] (separator : α) (text : List α) : List (List α) :=
  (text.splitOn separator).filter (· ≠ [])

/-- Entries are recovered from the text that joins them. -/
theorem entries_intercalate [DecidableEq α] {separator : α} {pieces : List (List α)}
    (hpieces : ∀ piece ∈ pieces, piece ≠ [] ∧ separator ∉ piece) :
    entries separator ([separator].intercalate pieces) = pieces := by
  unfold entries
  cases pieces with
  | nil => rfl
  | cons piece pieces =>
    rw [List.splitOn_intercalate separator (fun piece hpiece => (hpieces piece hpiece).2)
      (List.cons_ne_nil _ _)]
    exact List.filter_eq_self.mpr fun piece hpiece => decide_eq_true (hpieces piece hpiece).1

/-- All values can be read exactly when each of them can. -/
theorem mapM_eq_some_iff {f : α → Option β} {as : List α} {bs : List β} :
    as.mapM f = some bs ↔ as.map f = bs.map some := by
  induction as generalizing bs with
  | nil =>
    cases bs with
    | nil => exact iff_of_true rfl rfl
    | cons b bs => exact iff_of_false nofun nofun
  | cons a as ih =>
    rw [List.mapM_cons]
    cases hfirst : f a with
    | none =>
      refine iff_of_false nofun fun h => ?_
      rw [List.map_cons, hfirst] at h
      cases bs <;> cases h
    | some b =>
      cases bs with
      | nil =>
        refine iff_of_false (fun h => ?_) nofun
        cases hrest : as.mapM f <;> simp [hrest] at h
      | cons b' bs =>
        rw [List.map_cons, List.map_cons, List.cons.injEq, hfirst, ← ih, Option.some.injEq]
        cases as.mapM f with
        | none => exact iff_of_false nofun fun h => nomatch h.2
        | some read => simp

/-- Values are read back from their texts. -/
theorem mapM_map_eq_some {write : β → α} {read? : α → Option β}
    (hread : ∀ b, read? (write b) = some b) (bs : List β) :
    (bs.map write).mapM read? = some bs := by
  rw [mapM_eq_some_iff, List.map_map]
  exact List.map_congr_left fun b _ => hread b

end QtAppBase.Library
