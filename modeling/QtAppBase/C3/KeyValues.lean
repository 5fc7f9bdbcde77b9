import QtAppBase.Library.Separated
import QtAppBase.Qt.Latin1
import QtAppBase.Qt.Pairs
import QtAppBase.C3.FrameDecoding
import Mathlib.Data.List.TakeWhile

/-!
# Pairs in text

Pairs are joined with commas and found again by a pattern. What the pattern
finds are keys and values of its two classes of characters; and where the joined
keys and values are of these classes it finds exactly them.
-/

namespace QtAppBase.C3

open Library Qt

/-- A key of the pattern: `[\w~]+`. -/
def IsKey (key : QString) : Prop := key ≠ "" ∧ ∀ c ∈ key.toList, isKeyChar c = true

/-- A value of the pattern: `[^,\t]+`. -/
def IsValue (value : QString) : Prop := value ≠ "" ∧ ∀ c ∈ value.toList, isValueChar c = true

instance (key : QString) : Decidable (IsKey key) :=
  decidable_of_iff (key ≠ "" ∧ key.toList.all isKeyChar = true) (by simp [IsKey])

/-- A value is not empty, and has no comma and no tab. -/
theorem isValue_iff (value : QString) :
    IsValue value ↔ value ≠ "" ∧ ',' ∉ value.toList ∧ '\t' ∉ value.toList := by
  have hchar : ∀ c, isValueChar c = true ↔ c ≠ ',' ∧ c ≠ '\t' := by simp [isValueChar]
  refine and_congr_right fun _ => ⟨fun h => ⟨fun hcomma => ?_, fun htab => ?_⟩, fun h c hc => ?_⟩
  · exact ((hchar _).mp (h _ hcomma)).1 rfl
  · exact ((hchar _).mp (h _ htab)).2 rfl
  · refine (hchar c).mpr ⟨?_, ?_⟩
    · rintro rfl
      exact h.1 hc
    · rintro rfl
      exact h.2 hc

/-- The characters of a key are Latin-1. -/
theorem isKeyChar_latin1 {c : Char} (h : isKeyChar c = true) : c.toNat < 0x100 := by
  have hunderscore : '_'.toNat = 95 := rfl
  have htilde : '~'.toNat = 126 := rfl
  delta isKeyChar Char.isAlphanum Char.isAlpha Char.isUpper Char.isLower Char.isDigit at h
  simp only [Bool.or_eq_true, Bool.and_eq_true, decide_eq_true_eq, UInt32.le_iff_toNat_le] at h
  rcases h with (((⟨-, h⟩ | ⟨-, h⟩) | ⟨-, h⟩) | rfl) | rfl
  · exact lt_of_le_of_lt h (by decide)
  · exact lt_of_le_of_lt h (by decide)
  · exact lt_of_le_of_lt h (by decide)
  · decide
  · decide

/-! ### What the pattern finds -/

/-- What the pattern matches is a key and a value. -/
theorem matchPair_sound {text rest : List Char} {pair : QString × QString}
    (h : matchPair text = some (pair, rest)) : IsKey pair.1 ∧ IsValue pair.2 := by
  unfold matchPair at h
  split at h
  · rename_i c key after hkey hequals
    split at h
    · cases h
    · rename_i value hnonempty
      obtain ⟨rfl, rfl⟩ := Prod.mk.inj (Option.some.inj h)
      refine ⟨⟨by simp, fun a ha => ?_⟩, ⟨fun hempty => hnonempty (by simpa using hempty),
        fun a ha => ?_⟩⟩
      · rw [String.toList_ofList, ← hkey] at ha
        exact List.mem_takeWhile_imp ha
      · rw [String.toList_ofList] at ha
        exact List.mem_takeWhile_imp ha
  · cases h

/-- So is all that it finds. -/
theorem globalMatch_sound {fuel : ℕ} {text : List Char} {pair : QString × QString}
    (h : pair ∈ globalMatch fuel text) : IsKey pair.1 ∧ IsValue pair.2 := by
  induction fuel generalizing text with
  | zero => cases h
  | succ fuel ih =>
    cases text with
    | nil => cases h
    | cons c text =>
      unfold globalMatch at h
      split at h
      · rename_i found rest hmatch
        rcases List.mem_cons.mp h with rfl | h
        · exact matchPair_sound hmatch
        · exact ih h
      · exact ih h

/-! ### Finding what was joined -/

/-- A pair is matched where it stands, up to the end of its value. -/
theorem matchPair_pairText {pair : QString × QString} (hkey : IsKey pair.1)
    (hvalue : IsValue pair.2) {rest : List Char} (hrest : StopsAt isValueChar rest) :
    matchPair (pairText pair ++ rest) = some (pair, rest) := by
  obtain ⟨key, value⟩ := pair
  obtain ⟨hkeyNonempty, hkeyChars⟩ := hkey
  obtain ⟨hvalueNonempty, hvalueChars⟩ := hvalue
  have hequals : StopsAt isKeyChar ('=' :: (value.toList ++ rest)) := stopsAt_cons (by decide) _
  have htext : pairText (key, value) ++ rest = key.toList ++ ('=' :: (value.toList ++ rest)) := by
    rw [pairText, List.append_assoc]
    rfl
  have htakeKey : (key.toList ++ '=' :: (value.toList ++ rest)).takeWhile isKeyChar =
      key.toList := takeWhile_piece hkeyChars hequals
  have hdropKey : (key.toList ++ '=' :: (value.toList ++ rest)).dropWhile isKeyChar =
      '=' :: (value.toList ++ rest) := dropWhile_piece hkeyChars hequals
  have htakeValue : (value.toList ++ rest).takeWhile isValueChar = value.toList :=
    takeWhile_piece hvalueChars hrest
  have hdropValue : (value.toList ++ rest).dropWhile isValueChar = rest :=
    dropWhile_piece hvalueChars hrest
  obtain ⟨c, keyRest, hkeyList⟩ : ∃ c keyRest, key.toList = c :: keyRest :=
    List.exists_cons_of_ne_nil fun hnil => hkeyNonempty (String.toList_inj.mp hnil)
  obtain ⟨d, valueRest, hvalueList⟩ : ∃ d valueRest, value.toList = d :: valueRest :=
    List.exists_cons_of_ne_nil fun hnil => hvalueNonempty (String.toList_inj.mp hnil)
  unfold matchPair
  rw [htext, htakeKey, hdropKey, hkeyList]
  simp only
  rw [htakeValue, hdropValue, hvalueList, ← hkeyList, String.ofList_toList]
  simp only
  rw [← hvalueList, String.ofList_toList]

/-- No match starts at a comma. -/
theorem matchPair_comma (text : List Char) : matchPair (',' :: text) = none := by
  unfold matchPair
  rw [List.takeWhile_cons_of_neg (by decide)]

/-- The search finds a pair where it stands, and goes on behind it. -/
theorem globalMatch_pairText {pair : QString × QString} (hkey : IsKey pair.1)
    (hvalue : IsValue pair.2) {rest : List Char} (hrest : StopsAt isValueChar rest) (fuel : ℕ) :
    globalMatch (fuel + 1) (pairText pair ++ rest) = pair :: globalMatch fuel rest := by
  have hmatch := matchPair_pairText hkey hvalue hrest
  cases htext : pairText pair ++ rest with
  | nil =>
    have hlength := length_pairText pair
    rw [(List.append_eq_nil_iff.mp htext).1] at hlength
    cases hlength
  | cons c text =>
    rw [htext] at hmatch
    rw [globalMatch, hmatch]

/-- The search finds all pairs that each stand behind a comma. -/
theorem globalMatch_flatMap (pairs : List (QString × QString))
    (hpairs : ∀ pair ∈ pairs, IsKey pair.1 ∧ IsValue pair.2) {fuel : ℕ}
    (hfuel : (pairs.flatMap fun pair => ',' :: pairText pair).length ≤ fuel) :
    globalMatch fuel (pairs.flatMap fun pair => ',' :: pairText pair) = pairs := by
  induction pairs generalizing fuel with
  | nil => cases fuel <;> rfl
  | cons pair pairs ih =>
    obtain ⟨⟨hkey, hvalue⟩, hpairs⟩ := List.forall_mem_cons.mp hpairs
    have hlength := length_pairText pair
    rw [List.flatMap_cons, List.cons_append] at hfuel ⊢
    rw [List.length_cons, List.length_append] at hfuel
    -- one round for the comma, one for the pair
    obtain ⟨fuel, rfl⟩ : ∃ n, fuel = n + 1 + 1 := ⟨fuel - 2, by omega⟩
    have hrest : StopsAt isValueChar (pairs.flatMap fun pair => ',' :: pairText pair) := by
      cases pairs with
      | nil => exact stopsAt_nil _
      | cons next pairs => exact stopsAt_cons (by decide) _
    rw [globalMatch, matchPair_comma]
    dsimp only
    rw [globalMatch_pairText hkey hvalue hrest, ih hpairs (by omega)]

/-- **Joined pairs are found again**, all of them and nothing else. -/
theorem globalMatch_intercalate (pairs : List (QString × QString))
    (hpairs : ∀ pair ∈ pairs, IsKey pair.1 ∧ IsValue pair.2) {fuel : ℕ}
    (hfuel : ([','].intercalate (pairs.map pairText)).length ≤ fuel) :
    globalMatch fuel ([','].intercalate (pairs.map pairText)) = pairs := by
  cases pairs with
  | nil => cases fuel <;> rfl
  | cons pair pairs =>
    obtain ⟨⟨hkey, hvalue⟩, hpairs⟩ := List.forall_mem_cons.mp hpairs
    have hlength := length_pairText pair
    rw [List.map_cons, intercalate_cons, List.flatMap_map] at hfuel ⊢
    rw [List.length_append] at hfuel
    obtain ⟨fuel, rfl⟩ : ∃ n, fuel = n + 1 := ⟨fuel - 1, by omega⟩
    have hrest : StopsAt isValueChar (pairs.flatMap fun pair => ',' :: pairText pair) := by
      cases pairs with
      | nil => exact stopsAt_nil _
      | cons next pairs => exact stopsAt_cons (by decide) _
    rw [globalMatch_pairText hkey hvalue hrest, globalMatch_flatMap pairs hpairs (by omega)]

/-- The characters of joined pairs are those of the pairs, and what joins them. -/
theorem forall_mem_joinPairs {P : Char → Prop} {pairs : List (QString × QString)}
    (hcomma : P ',') (hequals : P '=')
    (hpairs : ∀ pair ∈ pairs, (∀ c ∈ pair.1.toList, P c) ∧ ∀ c ∈ pair.2.toList, P c) :
    ∀ c ∈ (joinPairs pairs).toList, P c := by
  intro c hc
  rw [joinPairs_toList] at hc
  rcases mem_intercalate hc with rfl | ⟨piece, hpiece, hc⟩
  · exact hcomma
  · obtain ⟨pair, hpair, rfl⟩ := List.mem_map.mp hpiece
    rcases List.mem_append.mp hc with hc | hc
    · exact (hpairs pair hpair).1 c hc
    · rcases List.mem_cons.mp hc with rfl | hc
      · exact hequals
      · exact (hpairs pair hpair).2 c hc

/-- A character that survives in a line: it has a byte, and that is not zero. -/
def IsLineChar (c : Char) : Prop := c.toNat < 0x100 ∧ c ≠ Char.ofNat 0

/-- The characters of a key survive. -/
theorem isKeyChar_lineChar {c : Char} (h : isKeyChar c = true) : IsLineChar c := by
  refine ⟨isKeyChar_latin1 h, ?_⟩
  rintro rfl
  exact absurd h (by decide)

/-- The pairs of a line are those joined in its text, if their characters survive. -/
theorem parseKeyValuePairs_joinPairs {pairs : List (QString × QString)}
    (hpairs : ∀ pair ∈ pairs, IsKey pair.1 ∧ IsValue pair.2)
    (hchars : ∀ c ∈ (joinPairs pairs).toList, IsLineChar c) :
    parseKeyValuePairs (toLatin1 (joinPairs pairs)) = pairs := by
  have hlatin1 : IsLatin1 (joinPairs pairs).toList := fun c hc => (hchars c hc).1
  rw [parseKeyValuePairs, latin1Text_toLatin1 hlatin1 fun hnul => (hchars _ hnul).2 rfl,
    length_toLatin1 hlatin1, joinPairs_toList]
  exact globalMatch_intercalate pairs hpairs (le_refl _)

end QtAppBase.C3
