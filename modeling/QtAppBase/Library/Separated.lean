import Mathlib.Data.List.Basic
import Mathlib.Tactic.Common

/-!
# Texts joined by a separator

A joined text is its first piece and then every other piece behind a separator.
A scanner that runs over characters of one class stops exactly where a piece of
that class ends.
-/

namespace QtAppBase.Library

variable {α : Type*}

/-- The pieces behind the first one, each with its separator. -/
theorem intercalate_cons (separator : α) (piece : List α) (pieces : List (List α)) :
    [separator].intercalate (piece :: pieces) = piece ++ pieces.flatMap (separator :: ·) := by
  induction pieces generalizing piece with
  | nil => simp
  | cons next pieces ih =>
    rw [List.intercalate_cons_cons, ih, List.flatMap_cons, List.append_assoc]
    rfl

/-- What is in a joined text is the separator or in a piece. -/
theorem mem_intercalate {separator a : α} {pieces : List (List α)}
    (h : a ∈ [separator].intercalate pieces) : a = separator ∨ ∃ piece ∈ pieces, a ∈ piece := by
  cases pieces with
  | nil => cases h
  | cons piece pieces =>
    rw [intercalate_cons] at h
    rcases List.mem_append.mp h with h | h
    · exact Or.inr ⟨piece, List.mem_cons_self, h⟩
    · obtain ⟨next, hnext, ha⟩ := List.mem_flatMap.mp h
      rcases List.mem_cons.mp ha with rfl | ha
      · exact Or.inl rfl
      · exact Or.inr ⟨next, List.mem_cons_of_mem _ hnext, ha⟩

/-- As many pieces without separators are determined by the joined text. -/
theorem intercalate_inj [DecidableEq α] {separator : α} {pieces pieces' : List (List α)}
    (hlength : pieces.length = pieces'.length) (hpieces : ∀ piece ∈ pieces, separator ∉ piece)
    (hpieces' : ∀ piece ∈ pieces', separator ∉ piece) :
    [separator].intercalate pieces = [separator].intercalate pieces' ↔ pieces = pieces' := by
  refine ⟨fun h => ?_, fun h => congrArg _ h⟩
  cases pieces with
  | nil => exact (List.length_eq_zero_iff.mp hlength.symm).symm
  | cons piece pieces =>
    have hnonempty' : pieces' ≠ [] := by
      rintro rfl
      cases hlength
    rw [← List.splitOn_intercalate separator hpieces (List.cons_ne_nil _ _), h,
      List.splitOn_intercalate separator hpieces' hnonempty']

/-- Pieces that each end with the separator are joined with nothing behind the last one. -/
theorem flatMap_terminated (separator : α) (pieces : List (List α)) :
    pieces.flatMap (· ++ [separator]) = [separator].intercalate (pieces ++ [[]]) := by
  induction pieces with
  | nil => rfl
  | cons piece pieces ih =>
    rw [List.flatMap_cons, ih]
    cases pieces with
    | nil => simp
    | cons next pieces =>
      rw [List.cons_append, List.cons_append, List.cons_append, List.intercalate_cons_cons,
        List.append_assoc]

/-- Such a text is split into its pieces. -/
theorem splitOn_terminated [DecidableEq α] {separator : α} {pieces : List (List α)}
    (hpieces : ∀ piece ∈ pieces, separator ∉ piece) :
    (pieces.flatMap (· ++ [separator])).splitOn separator = pieces ++ [[]] := by
  rw [flatMap_terminated]
  refine List.splitOn_intercalate separator (fun piece hpiece => ?_) (by simp)
  rcases List.mem_append.mp hpiece with h | h
  · exact hpieces piece h
  · rw [List.mem_singleton.mp h]
    exact List.not_mem_nil

/-- A piece, with the separator behind it if it is finished. -/
def ended (separator : α) (piece : List α × Bool) : List α :=
  piece.1 ++ if piece.2 then [separator] else []

/-- Pieces that are not all finished: a line ends with each that is, and before it has
only what was left unfinished. -/
theorem splitOn_ended [DecidableEq α] {separator : α} {pieces : List (List α × Bool)}
    {pending : List α} (hpending : separator ∉ pending)
    (hpieces : ∀ piece ∈ pieces, separator ∉ piece.1) :
    ∃ lines rest,
      (pending ++ pieces.flatMap (ended separator)).splitOn separator = lines ++ [rest] ∧
      List.Forall₂ (fun line piece => piece <:+ line) lines
        ((pieces.filter Prod.snd).map Prod.fst) := by
  induction pieces generalizing pending with
  | nil =>
    refine ⟨[], pending, ?_, List.Forall₂.nil⟩
    rw [List.flatMap_nil, List.append_nil, List.nil_append]
    exact List.splitOn_eq_singleton hpending
  | cons first pieces ih =>
    obtain ⟨piece, finished⟩ := first
    obtain ⟨hpiece, hrest⟩ := List.forall_mem_cons.mp hpieces
    have hline : separator ∉ pending ++ piece := by
      rw [List.mem_append]
      exact not_or.mpr ⟨hpending, hpiece⟩
    cases finished with
    | false =>
      obtain ⟨lines, rest, hsplit, hlines⟩ := ih hline hrest
      refine ⟨lines, rest, ?_, hlines⟩
      rw [← hsplit, List.flatMap_cons]
      simp [ended]
    | true =>
      obtain ⟨lines, rest, hsplit, hlines⟩ := ih (List.not_mem_nil (a := separator)) hrest
      refine ⟨(pending ++ piece) :: lines, rest, ?_,
        List.Forall₂.cons (List.suffix_append _ _) hlines⟩
      rw [List.nil_append] at hsplit
      rw [List.cons_append, ← hsplit, ← List.splitOn_append_cons_self_of_not_mem hline]
      simp [ended]

/-- The text goes on with something outside the class, if it goes on. -/
def StopsAt (p : α → Bool) (rest : List α) : Prop := ∀ a ∈ rest.head?, p a = false

theorem stopsAt_nil (p : α → Bool) : StopsAt p [] := by
  intro a ha
  cases ha

theorem stopsAt_cons {p : α → Bool} {a : α} (h : p a = false) (rest : List α) :
    StopsAt p (a :: rest) := by
  intro b hb
  obtain rfl : a = b := Option.some.inj hb
  exact h

/-- A piece of the class is taken whole, and nothing behind it. -/
theorem takeWhile_piece {p : α → Bool} {piece rest : List α} (hpiece : ∀ a ∈ piece, p a = true)
    (hrest : StopsAt p rest) : (piece ++ rest).takeWhile p = piece := by
  rw [List.takeWhile_append_of_pos hpiece]
  cases rest with
  | nil => exact List.append_nil piece
  | cons a rest =>
    rw [List.takeWhile_cons_of_neg (by rw [hrest a rfl]; decide), List.append_nil]

/-- Dropping the class leaves what is behind the piece. -/
theorem dropWhile_piece {p : α → Bool} {piece rest : List α} (hpiece : ∀ a ∈ piece, p a = true)
    (hrest : StopsAt p rest) : (piece ++ rest).dropWhile p = rest := by
  rw [List.dropWhile_append_of_pos hpiece]
  cases rest with
  | nil => rfl
  | cons a rest => exact List.dropWhile_cons_of_neg (by rw [hrest a rfl]; decide)

end QtAppBase.Library
