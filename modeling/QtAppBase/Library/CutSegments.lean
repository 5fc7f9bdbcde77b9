import QtAppBase.Library.Redaction
import QtAppBase.Library.Separated

/-!
# Cutting joined texts

A key without the separator occurs in a joined text only inside a piece. Cutting
behind its first occurrence therefore cuts the first piece that holds it, up to
the end of that piece, and leaves every other piece alone.
-/

namespace QtAppBase.Library

variable {α : Type*} [DecidableEq α] {key : List α} {separator : α}

/-- A text without the key is not cut. -/
theorem cut_of_not_infix {text : List α} (h : ¬ key <:+: text) : cut key separator text = text := by
  induction text with
  | nil => rfl
  | cons a text ih =>
    rw [List.infix_cons_iff, not_or] at h
    rw [cut_cons h.1, ih h.2]

/-- Cutting skips all of a text without the separator. -/
theorem skips_of_notMem {text : List α} (h : separator ∉ text) :
    ∀ a ∈ text, decide (a ≠ separator) = true := by
  intro a ha
  exact decide_eq_true fun heq => h (heq ▸ ha)

/-- In a piece everything behind the first occurrence is cut. -/
theorem cut_piece_at_key (hkey : key ≠ []) {rest : List α} (hrest : separator ∉ rest) :
    cut key separator (key ++ rest) = key := by
  rw [cut_at_key hkey (List.prefix_append _ _), List.drop_left,
    List.dropWhile_eq_nil_iff.mpr (skips_of_notMem hrest), List.append_nil]

/-- The first piece is cut if it holds the key, and else what is behind it. -/
theorem cut_append_separator (hkey : key ≠ []) (hseparator : separator ∉ key) {piece : List α}
    (hpiece : separator ∉ piece) (rest : List α) :
    cut key separator (piece ++ separator :: rest) =
      if key <:+: piece then cut key separator piece ++ separator :: rest
      else piece ++ separator :: cut key separator rest := by
  induction piece with
  | nil =>
    have hfront : key <+: [] ++ separator :: rest ↔ key <+: [] := prefix_append_separator hseparator
    have hstart : ¬ key <+: separator :: rest := fun h => hkey (List.prefix_nil.mp (hfront.mp h))
    rw [if_neg fun h => hkey (List.infix_nil.mp h), List.nil_append, cut_cons hstart]
    rfl
  | cons a piece ih =>
    by_cases hprefix : key <+: a :: piece
    · obtain ⟨behind, hbehind⟩ := hprefix
      have hclean : separator ∉ behind := fun h =>
        hpiece (hbehind ▸ List.mem_append_right key h)
      have hstop : StopsAt (fun b => decide (b ≠ separator)) (separator :: rest) :=
        stopsAt_cons (by simp) rest
      rw [← hbehind, if_pos (List.prefix_append key behind).isInfix, cut_piece_at_key hkey hclean,
        List.append_assoc, cut_at_key hkey (List.prefix_append _ _), List.drop_left,
        dropWhile_piece (skips_of_notMem hclean) hstop]
    · have hfront : key <+: (a :: piece) ++ separator :: rest ↔ key <+: a :: piece :=
        prefix_append_separator hseparator
      have hwhole : ¬ key <+: a :: (piece ++ separator :: rest) := fun h => hprefix (hfront.mp h)
      have hsame : key <:+: a :: piece ↔ key <:+: piece := by
        rw [List.infix_cons_iff, or_iff_right hprefix]
      rw [List.cons_append, cut_cons hwhole, ih fun h => hpiece (List.mem_cons_of_mem _ h),
        cut_cons hprefix]
      by_cases hholds : key <:+: piece
      · rw [if_pos hholds, if_pos (hsame.mpr hholds)]
        rfl
      · rw [if_neg hholds, if_neg fun h => hholds (hsame.mp h)]
        rfl

/-- Cut the first piece that holds the key. -/
def cutFirst (key : List α) (separator : α) : List (List α) → List (List α)
  | [] => []
  | piece :: pieces =>
    if key <:+: piece then cut key separator piece :: pieces
    else piece :: cutFirst key separator pieces

theorem length_cutFirst (pieces : List (List α)) :
    (cutFirst key separator pieces).length = pieces.length := by
  induction pieces with
  | nil => rfl
  | cons piece pieces ih =>
    unfold cutFirst
    split_ifs
    · rfl
    · rw [List.length_cons, List.length_cons, ih]

/-- Cutting adds nothing to a text but the key. -/
theorem mem_cut {a : α} {text : List α} (h : a ∈ cut key separator text) : a ∈ key ∨ a ∈ text := by
  induction text with
  | nil => cases h
  | cons b text ih =>
    unfold cut at h
    split_ifs at h
    · rcases List.mem_append.mp h with h | h
      · exact Or.inl h
      · exact Or.inr (List.mem_of_mem_drop ((List.dropWhile_suffix _).subset h))
    · rcases List.mem_cons.mp h with rfl | h
      · exact Or.inr List.mem_cons_self
      · exact (ih h).imp_right (List.mem_cons_of_mem _)

/-- The pieces have no separator afterwards either. -/
theorem separator_notMem_cutFirst (hseparator : separator ∉ key) {pieces : List (List α)}
    (hpieces : ∀ piece ∈ pieces, separator ∉ piece) :
    ∀ piece ∈ cutFirst key separator pieces, separator ∉ piece := by
  induction pieces with
  | nil => simp [cutFirst]
  | cons piece pieces ih =>
    obtain ⟨hpiece, hpieces⟩ := List.forall_mem_cons.mp hpieces
    unfold cutFirst
    split_ifs
    · refine List.forall_mem_cons.mpr ⟨fun hmem => ?_, hpieces⟩
      exact (mem_cut hmem).elim hseparator hpiece
    · exact List.forall_mem_cons.mpr ⟨hpiece, ih hpieces⟩

/-- **A joined text is cut in the first piece that holds the key.** -/
theorem cut_intercalate (hkey : key ≠ []) (hseparator : separator ∉ key)
    {pieces : List (List α)} (hpieces : ∀ piece ∈ pieces, separator ∉ piece) :
    cut key separator ([separator].intercalate pieces) =
      [separator].intercalate (cutFirst key separator pieces) := by
  induction pieces with
  | nil => rfl
  | cons piece pieces ih =>
    obtain ⟨hpiece, hpieces⟩ := List.forall_mem_cons.mp hpieces
    cases pieces with
    | nil =>
      unfold cutFirst
      split_ifs with hholds
      · rw [List.intercalate_singleton, List.intercalate_singleton]
      · rw [List.intercalate_singleton, cut_of_not_infix hholds]
        exact (List.intercalate_singleton).symm
    | cons next pieces =>
      have hrest : cutFirst key separator (next :: pieces) ≠ [] := by
        unfold cutFirst
        split_ifs <;> exact List.cons_ne_nil _ _
      rw [List.intercalate_cons_cons, List.append_assoc, List.singleton_append,
        cut_append_separator hkey hseparator hpiece, cutFirst]
      split_ifs with hholds
      · rw [List.intercalate_cons_cons, List.append_assoc, List.singleton_append]
      · rw [List.intercalate_cons_of_ne_nil hrest, List.append_assoc, List.singleton_append,
          ih hpieces]

/-- Every occurrence of the key ends the text. -/
def OnlyAtEnd (key text : List α) : Prop :=
  ∀ front back, text = front ++ (key ++ back) → back = []

/-- A piece is left alone if and only if the key occurs in it at most at its end. -/
theorem cut_eq_self_iff (hkey : key ≠ []) {piece : List α} (hpiece : separator ∉ piece) :
    cut key separator piece = piece ↔ OnlyAtEnd key piece := by
  induction piece with
  | nil =>
    refine ⟨fun _ front back hsplit => ?_, fun _ => rfl⟩
    have hback := (List.append_eq_nil_iff.mp hsplit.symm).2
    exact (List.append_eq_nil_iff.mp hback).2
  | cons a piece ih =>
    by_cases hprefix : key <+: a :: piece
    · obtain ⟨behind, hbehind⟩ := hprefix
      have hclean : separator ∉ behind := fun h => hpiece (hbehind ▸ List.mem_append_right key h)
      rw [← hbehind, cut_piece_at_key hkey hclean]
      constructor
      · intro hsame front back hsplit
        have hlength := congrArg List.length hsplit
        have hself := congrArg List.length hsame
        simp only [List.length_append] at hlength hself
        exact List.length_eq_zero_iff.mp (by omega)
      · intro honly
        rw [honly [] behind rfl, List.append_nil]
    · rw [cut_cons hprefix, List.cons.injEq, ih fun h => hpiece (List.mem_cons_of_mem _ h)]
      refine ⟨fun h front back hsplit => ?_, fun h => ⟨rfl, fun front back hsplit => ?_⟩⟩
      · cases front with
        | nil => exact absurd ⟨back, hsplit.symm⟩ hprefix
        | cons b front => exact h.2 front back (List.cons.inj hsplit).2
      · exact h (a :: front) back (by rw [hsplit, List.cons_append])

end QtAppBase.Library
