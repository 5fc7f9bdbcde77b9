import QtAppBase.Library.CutSegments
import QtAppBase.Qt.Pairs
import QtAppBase.Infra.Settings

/-!
# Secrets in lists of pairs

`stripSecret` is meant for lists of pairs, where it should blank the value of
every pair with the secret key. It looks for the key in the text instead, and
blanks what follows its first occurrence: inside another key, inside a value, or
in the first of several pairs with that key.
-/

namespace QtAppBase.Infra

open Library Qt

/-- The pair without its value, if it has the secret key. -/
def blank (secretKey : QString) (pair : QString × QString) : QString × QString :=
  if pair.1 = secretKey then (pair.1, "") else pair

/-- What `stripSecret` looks for. -/
def needle (secretKey : QString) : List Char := secretKey.toList ++ ['=']

/-- The first pair whose text holds the needle has the secret key, or the needle
at its end only; and behind it, pairs with the secret key have no value. -/
def BlanksAll (secretKey : QString) : List (QString × QString) → Prop
  | [] => True
  | pair :: pairs =>
    if needle secretKey <:+: pairText pair then
      (pair.1 = secretKey ∨ OnlyAtEnd (needle secretKey) (pairText pair)) ∧
        ∀ other ∈ pairs, other.1 = secretKey → other.2 = ""
    else BlanksAll secretKey pairs

/-- No key and no value has a comma. -/
def Commaless (pairs : List (QString × QString)) : Prop :=
  ∀ pair ∈ pairs, ',' ∉ pair.1.toList ∧ ',' ∉ pair.2.toList

instance (pairs : List (QString × QString)) : Decidable (Commaless pairs) :=
  inferInstanceAs (Decidable (∀ _ ∈ _, _))

variable {secretKey : QString} {pairs : List (QString × QString)}

theorem needle_ne_nil (secretKey : QString) : needle secretKey ≠ [] :=
  List.append_ne_nil_of_right_ne_nil _ (List.cons_ne_nil _ _)

/-- The needle has no comma, if the key has none. -/
theorem comma_notMem_needle (h : ',' ∉ secretKey.toList) : ',' ∉ needle secretKey := by
  intro hmem
  rcases List.mem_append.mp hmem with hmem | hmem
  · exact h hmem
  · exact absurd (List.mem_singleton.mp hmem) (by decide)

/-- The text of a pair without commas has no comma. -/
theorem comma_notMem_pairText {pair : QString × QString}
    (h : ',' ∉ pair.1.toList ∧ ',' ∉ pair.2.toList) : ',' ∉ pairText pair := by
  intro hmem
  rcases List.mem_append.mp hmem with hmem | hmem
  · exact h.1 hmem
  · rcases List.mem_cons.mp hmem with hmem | hmem
    · exact absurd hmem (by decide)
    · exact h.2 hmem

/-- A pair with the secret key starts with the needle. -/
theorem pairText_secret {pair : QString × QString} (h : pair.1 = secretKey) :
    pairText pair = needle secretKey ++ pair.2.toList := by
  rw [pairText, needle, h, List.append_assoc]
  rfl

/-- The blanked pair with the secret key is the needle. -/
theorem pairText_blank_secret {pair : QString × QString} (h : pair.1 = secretKey) :
    pairText (blank secretKey pair) = needle secretKey := by
  rw [blank, if_pos h, pairText, needle, h, String.toList_empty]

/-- A pair has no commas after it was blanked either. -/
theorem commaless_blank (h : Commaless pairs) : Commaless (pairs.map (blank secretKey)) := by
  intro pair hpair
  obtain ⟨old, hold, rfl⟩ := List.mem_map.mp hpair
  unfold blank
  split_ifs
  · exact ⟨(h old hold).1, by simp⟩
  · exact h old hold

/-- A pair is blanked to itself if it has another key, or no value. -/
theorem pairText_blank_eq_iff (secretKey : QString) (pair : QString × QString) :
    pairText pair = pairText (blank secretKey pair) ↔ (pair.1 = secretKey → pair.2 = "") := by
  by_cases h : pair.1 = secretKey
  · rw [pairText_blank_secret h, pairText_secret h, List.append_right_eq_self,
      String.toList_eq_nil_iff]
    exact ⟨fun hempty _ => hempty, fun hempty => hempty h⟩
  · rw [blank, if_neg h]
    exact ⟨fun _ hsecret => absurd hsecret h, fun _ => rfl⟩

/-- The pair that is cut is blanked if it has the secret key, or the needle at its end only. -/
theorem cut_pairText_iff {pair : QString × QString} (hcomma : ',' ∉ pairText pair) :
    cut (needle secretKey) ',' (pairText pair) = pairText (blank secretKey pair) ↔
      pair.1 = secretKey ∨ OnlyAtEnd (needle secretKey) (pairText pair) := by
  by_cases h : pair.1 = secretKey
  · rw [pairText_blank_secret h]
    refine iff_of_true ?_ (Or.inl h)
    rw [pairText_secret h] at hcomma ⊢
    exact cut_piece_at_key (needle_ne_nil secretKey) fun hmem =>
      hcomma (List.mem_append_right _ hmem)
  · rw [blank, if_neg h, or_iff_right h]
    exact cut_eq_self_iff (needle_ne_nil secretKey) hcomma

/-- The first pair that holds the needle is cut, and that is all that has to be
blanked, if and only if the condition holds. -/
theorem cutFirst_pairs_iff (hpairs : Commaless pairs) :
    cutFirst (needle secretKey) ',' (pairs.map pairText) =
        (pairs.map (blank secretKey)).map pairText ↔ BlanksAll secretKey pairs := by
  induction pairs with
  | nil => exact iff_of_true rfl trivial
  | cons pair pairs ih =>
    obtain ⟨hpair, hpairs⟩ := List.forall_mem_cons.mp hpairs
    rw [List.map_cons, List.map_cons, List.map_cons, cutFirst, BlanksAll]
    by_cases hholds : needle secretKey <:+: pairText pair
    · rw [if_pos hholds, if_pos hholds, List.cons.injEq,
        cut_pairText_iff (comma_notMem_pairText hpair), List.map_map, List.map_inj_left]
      exact and_congr_right fun _ => forall₂_congr fun other _ =>
        pairText_blank_eq_iff secretKey other
    · -- without the needle the pair has another key
      have hother : pair.1 ≠ secretKey := fun h =>
        hholds (pairText_secret h ▸ (List.prefix_append _ _).isInfix)
      have hsame : pairText pair = pairText (blank secretKey pair) := by rw [blank, if_neg hother]
      rw [if_neg hholds, if_neg hholds, List.cons.injEq, ih hpairs]
      exact and_iff_right hsame

/-- **Secrets are blanked** in all pairs, and nothing else changes, if and only if
the first pair that holds the needle is one to blank or has nothing behind it,
and no later pair with the secret key has a value. -/
theorem stripSecret_joinPairs_iff (hpairs : Commaless pairs) (hkey : ',' ∉ secretKey.toList) :
    stripSecret (joinPairs pairs) secretKey = joinPairs (pairs.map (blank secretKey)) ↔
      BlanksAll secretKey pairs := by
  have hpieces : ∀ piece ∈ pairs.map pairText, ',' ∉ piece := by
    intro piece hpiece
    obtain ⟨pair, hpair, rfl⟩ := List.mem_map.mp hpiece
    exact comma_notMem_pairText (hpairs pair hpair)
  have hblanked : ∀ piece ∈ (pairs.map (blank secretKey)).map pairText, ',' ∉ piece := by
    intro piece hpiece
    obtain ⟨pair, hpair, rfl⟩ := List.mem_map.mp hpiece
    exact comma_notMem_pairText (commaless_blank hpairs pair hpair)
  have hneedle : (secretKey ++ "=").toList = needle secretKey := by
    rw [String.toList_append, needle]
    rfl
  have hcut := separator_notMem_cutFirst (comma_notMem_needle hkey) hpieces
  have hlength : (cutFirst (needle secretKey) ',' (pairs.map pairText)).length =
      ((pairs.map (blank secretKey)).map pairText).length := by
    simp [length_cutFirst]
  rw [← String.toList_inj, stripSecret_toList, joinPairs_toList, joinPairs_toList, hneedle,
    cut_intercalate (needle_ne_nil secretKey) (comma_notMem_needle hkey) hpieces,
    intercalate_inj hlength hcut hblanked, cutFirst_pairs_iff hpairs]

/-- A key that ends in the secret key hides the secret behind it. -/
theorem stripSecret_leaks :
    ¬ ∀ (pairs : List (QString × QString)) (secretKey : QString),
      (∀ pair ∈ pairs, '=' ∉ pair.1.toList ∧ ',' ∉ pair.1.toList ∧ ',' ∉ pair.2.toList) →
      secretKey ≠ "" → '=' ∉ secretKey.toList → ',' ∉ secretKey.toList →
      stripSecret (joinPairs pairs) secretKey = joinPairs (pairs.map (blank secretKey)) := by
  intro h
  have hstripped := h [("oldpasswd", "a"), ("passwd", "hunter2")] "passwd" (by decide +kernel)
    (by decide +kernel) (by decide +kernel) (by decide +kernel)
  revert hstripped
  decide +kernel

/-- A secret between other pairs, and a key that ends in the secret key, without a value. -/
def somePairs : List (QString × QString) :=
  [("protocol", "TCP"), ("passwd", "a=b"), ("oldpasswd", "c"), ("passwd", "")]

theorem somePairs_blanked_iff :
    stripSecret (joinPairs somePairs) "passwd" = joinPairs (somePairs.map (blank "passwd")) ↔
      BlanksAll "passwd" somePairs :=
  stripSecret_joinPairs_iff (by decide +kernel) (by decide +kernel)

end QtAppBase.Infra
