import QtAppBase.Mq.Store
import Mathlib.Data.List.Infix
import Mathlib.Data.List.TakeWhile

/-!
# Patterns of LIKE

A pattern with a percent sign at both ends and no other wildcard says that a text
contains what stands between, up to the case of ASCII letters. A wildcard in between
also matches where something else stands in its place.
-/

namespace QtAppBase.Mq.MqStore

open Qt

/-- A character that LIKE takes as it is. -/
def Literal (c : Char) : Prop := c ≠ '%' ∧ c ≠ '_'

instance (c : Char) : Decidable (Literal c) := inferInstanceAs (Decidable (_ ∧ _))

variable {pattern text s : List Char}

/-- A percent sign skips to any place. -/
theorem likeMatch_percent :
    likeMatch ('%' :: pattern) text = true ↔ ∃ back, back <:+ text ∧ likeMatch pattern back := by
  conv_lhs => unfold likeMatch
  rw [if_pos rfl, List.any_eq_true]
  simp only [List.mem_tails]

/-- At the end of a pattern it skips the rest. -/
theorem likeMatch_percent_end : likeMatch ['%'] text = true :=
  likeMatch_percent.mpr ⟨[], List.nil_suffix, rfl⟩

/-- Any other character stands for one. -/
theorem likeMatch_cons {p c : Char} (hp : p ≠ '%') :
    likeMatch (p :: pattern) (c :: text) = true ↔
      (p = '_' ∨ p.toLower = c.toLower) ∧ likeMatch pattern text = true := by
  rw [likeMatch, if_neg hp]
  simp

theorem likeMatch_cons_nil {p : Char} (hp : p ≠ '%') : likeMatch (p :: pattern) [] = false := by
  rw [likeMatch, if_neg hp]

/-- Literal characters match a text that begins with them, up to the case. -/
theorem likeMatch_literal (h : ∀ c ∈ s, Literal c) :
    likeMatch (s ++ pattern) text = true ↔
      ∃ front back, text = front ++ back ∧ front.map Char.toLower = s.map Char.toLower ∧
        likeMatch pattern back := by
  induction s generalizing text with
  | nil =>
    constructor
    · intro hmatch
      exact ⟨[], text, rfl, rfl, hmatch⟩
    · rintro ⟨front, back, rfl, hfront, hmatch⟩
      rwa [List.map_eq_nil_iff.mp hfront]
  | cons p s ih =>
    obtain ⟨⟨hpercent, hunderscore⟩, hs⟩ := List.forall_mem_cons.mp h
    cases text with
    | nil =>
      rw [List.cons_append, likeMatch_cons_nil hpercent]
      constructor
      · intro hmatch
        cases hmatch
      · rintro ⟨front, back, hsplit, hfront, -⟩
        obtain ⟨rfl, -⟩ := List.append_eq_nil_iff.mp hsplit.symm
        cases hfront
    | cons c text =>
      rw [List.cons_append, likeMatch_cons hpercent, or_iff_right hunderscore, ih hs]
      constructor
      · rintro ⟨hlower, front, back, rfl, hfront, hmatch⟩
        refine ⟨c :: front, back, rfl, ?_, hmatch⟩
        rw [List.map_cons, List.map_cons, hlower, hfront]
      · rintro ⟨front, back, hsplit, hfront, hmatch⟩
        cases front with
        | nil => cases hfront
        | cons d front =>
          obtain ⟨rfl, rfl⟩ := List.cons.inj hsplit
          obtain ⟨hlower, hfront⟩ := List.cons.inj hfront
          exact ⟨hlower.symm, front, back, rfl, hfront, hmatch⟩

/-- **Between percent signs, literal characters are contained.** -/
theorem likeMatch_contains (h : ∀ c ∈ s, Literal c) :
    likeMatch ('%' :: (s ++ ['%'])) text = true ↔
      s.map Char.toLower <:+: text.map Char.toLower := by
  rw [likeMatch_percent]
  constructor
  · rintro ⟨back, ⟨before, rfl⟩, hmatch⟩
    obtain ⟨front, behind, rfl, hfront, -⟩ := (likeMatch_literal h).mp hmatch
    refine ⟨before.map Char.toLower, behind.map Char.toLower, ?_⟩
    rw [List.map_append, List.map_append, hfront, List.append_assoc]
  · rintro ⟨before, behind, hsplit⟩
    rw [List.append_assoc] at hsplit
    obtain ⟨before', rest, rfl, -, hrest⟩ := List.map_eq_append_iff.mp hsplit.symm
    obtain ⟨front, behind', rfl, hfront, -⟩ := List.map_eq_append_iff.mp hrest
    refine ⟨front ++ behind', ⟨before', rfl⟩, ?_⟩
    exact (likeMatch_literal h).mpr ⟨front, behind', rfl, hfront, likeMatch_percent_end⟩

/-- A pattern matches what arises from it when other characters are put in the place
of its wildcards. -/
theorem likeMatch_filled (fill : Char → Char) (h : ∀ c ∈ s, Literal c → fill c = c)
    (hrest : likeMatch pattern text = true) :
    likeMatch (s ++ pattern) (s.map fill ++ text) = true := by
  induction s with
  | nil => exact hrest
  | cons c s ih =>
    obtain ⟨hc, hs⟩ := List.forall_mem_cons.mp h
    by_cases hpercent : c = '%'
    · subst hpercent
      exact likeMatch_percent.mpr ⟨_, List.suffix_cons _ _, ih hs⟩
    · rw [List.cons_append, List.map_cons, List.cons_append, likeMatch_cons hpercent]
      refine ⟨?_, ih hs⟩
      by_cases hunderscore : c = '_'
      · exact Or.inl hunderscore
      · rw [hc ⟨hpercent, hunderscore⟩]
        exact Or.inr rfl

/-- The pattern of a search, as it is bound: what is searched for, cut at its first NUL,
and then without the percent sign behind it. -/
theorem bindText_pattern (searchText : QString) :
    (bindText ("%" ++ searchText ++ "%")).toList =
      '%' :: ((bindText searchText).toList ++
        if Char.ofNat 0 ∈ searchText.toList then [] else ['%']) := by
  have hpattern : ("%" ++ searchText ++ "%").toList = '%' :: (searchText.toList ++ ['%']) := by
    simp
  unfold bindText
  rw [String.toList_ofList, String.toList_ofList, hpattern,
    List.takeWhile_cons_of_pos (by simp)]
  split_ifs with hnul
  · have hcut : (searchText.toList.takeWhile fun c => c ≠ Char.ofNat 0).length ≠
        searchText.toList.length := by
      intro hlength
      have hall := List.takeWhile_eq_self_iff.mp
        ((List.takeWhile_prefix _).eq_of_length hlength) (Char.ofNat 0) hnul
      simp at hall
    rw [List.takeWhile_append, if_neg hcut, List.append_nil]
  · have hwhole : ∀ c ∈ searchText.toList, decide (c ≠ Char.ofNat 0) = true := by
      intro c hc
      have hne : c ≠ Char.ofNat 0 := fun h => hnul (h ▸ hc)
      simpa using hne
    rw [List.takeWhile_append_of_pos hwhole, List.takeWhile_cons_of_pos (by simp),
      List.takeWhile_nil, List.takeWhile_eq_self_iff.mpr hwhole]

/-- A text that is searched for is found by its own pattern, also with something else in
the place of wildcards. -/
theorem likeMatch_pattern_filled (searchText : QString) {fill : Char → Char}
    (h : ∀ c ∈ (bindText searchText).toList, Literal c → fill c = c) :
    likeMatch (bindText ("%" ++ searchText ++ "%")).toList
      ((bindText searchText).toList.map fill) = true := by
  rw [bindText_pattern, likeMatch_percent]
  refine ⟨_, List.suffix_refl _, ?_⟩
  have hend : likeMatch (if Char.ofNat 0 ∈ searchText.toList then [] else ['%']) [] = true := by
    split_ifs
    · rfl
    · exact likeMatch_percent_end
  have hfilled := likeMatch_filled fill h hend
  rwa [List.append_nil] at hfilled

end QtAppBase.Mq.MqStore
