import QtAppBase.Library.Synchronizing
import QtAppBase.Qt.CodeUnits

/-!
# Texts inside texts

Whether a string contains another one, code unit by code unit and with ASCII letters
compared without their case. On strings that are texts this is the same as comparing
characters: UTF-16 is self-synchronizing, and folding ASCII letters touches no
surrogate.
-/

namespace QtAppBase.Qt

open Library

/-- An ASCII letter in lower case, and any other code unit as it is. -/
def unitLower (u : UInt16) : UInt16 := if 65 ≤ u ∧ u ≤ 90 then u + 32 else u

/-- The text contains the other one, up to the case of ASCII letters. -/
def Contains (text part : Units) : Prop := part.map unitLower <:+: text.map unitLower

instance (text part : Units) : Decidable (Contains text part) :=
  inferInstanceAs (Decidable (_ <:+: _))

/-! ### Folding the case -/

theorem unitLower_toNat (u : UInt16) :
    (unitLower u).toNat = if 65 ≤ u.toNat ∧ u.toNat ≤ 90 then u.toNat + 32 else u.toNat := by
  have hcase : 65 ≤ u ∧ u ≤ 90 ↔ 65 ≤ u.toNat ∧ u.toNat ≤ 90 := by
    rw [UInt16.le_iff_toNat_le, UInt16.le_iff_toNat_le]
    rfl
  unfold unitLower
  split_ifs with hupper hnat hnat
  · have hadd : (u + 32).toNat = (u.toNat + 32) % 2 ^ 16 := UInt16.toNat_add u 32
    omega
  · exact absurd (hcase.mp hupper) hnat
  · exact absurd (hcase.mpr hnat) hupper
  · rfl

theorem toLower_toNat (c : Char) :
    c.toLower.toNat = if 65 ≤ c.toNat ∧ c.toNat ≤ 90 then c.toNat + 32 else c.toNat := by
  have hcase : c.val ≥ 'A'.val ∧ c.val ≤ 'Z'.val ↔ 65 ≤ c.toNat ∧ c.toNat ≤ 90 := by
    rw [ge_iff_le, UInt32.le_iff_toNat_le, UInt32.le_iff_toNat_le]
    rfl
  unfold Char.toLower
  split_ifs with hupper hnat hnat
  · have hadd : (c.val + ('a'.val - 'A'.val)).toNat = (c.val.toNat + 32) % 2 ^ 32 :=
      UInt32.toNat_add _ _
    change (c.val + ('a'.val - 'A'.val)).toNat = c.val.toNat + 32
    change 65 ≤ c.val.toNat ∧ c.val.toNat ≤ 90 at hnat
    omega
  · exact absurd (hcase.mp hupper) hnat
  · exact absurd (hcase.mpr hnat) hupper
  · rfl

/-- Folding a character folds its code units. -/
theorem utf16Units_toLower (c : Char) : utf16Units c.toLower = (utf16Units c).map unitLower := by
  have hlower := toLower_toNat c
  have hvalid : c.toNat < 0xD800 ∨ 0xDFFF < c.toNat ∧ c.toNat < 0x110000 := c.valid
  by_cases hsmall : c.toNat < 0x10000
  · have hsmall' : c.toLower.toNat < 0x10000 := by
      rw [hlower]
      split_ifs <;> omega
    rw [utf16Units, utf16Units, if_pos hsmall, if_pos hsmall', List.map_singleton,
      List.cons.injEq]
    refine ⟨UInt16.toNat_inj.mp ?_, rfl⟩
    rw [unitLower_toNat, UInt16.toNat_ofNat_of_lt' hsmall', UInt16.toNat_ofNat_of_lt' hsmall,
      hlower]
  · have hsame : c.toLower = c := by
      apply Char.toNat_inj.mp
      rw [hlower, if_neg (by omega)]
    have hhigh : ∀ n : ℕ, 0xD800 ≤ n → n < 0x10000 →
        unitLower (UInt16.ofNat n) = UInt16.ofNat n := by
      intro n hn hn'
      apply UInt16.toNat_inj.mp
      rw [unitLower_toNat, UInt16.toNat_ofNat_of_lt' hn', if_neg (by omega)]
    rw [hsame, utf16Units, if_neg hsmall]
    dsimp only
    rw [List.map_cons, List.map_singleton, hhigh _ (by omega) (by omega),
      hhigh _ (by omega) (by omega)]

/-- Folding a text folds its code units. -/
theorem flatMap_utf16Units_toLower (chars : List Char) :
    (chars.map Char.toLower).flatMap utf16Units = (chars.flatMap utf16Units).map unitLower := by
  rw [List.flatMap_map, List.map_flatMap]
  apply List.flatMap_congr
  intro c _
  exact utf16Units_toLower c

/-- Folding the case keeps surrogates, and makes none. -/
theorem isSurrogate_unitLower (u : UInt16) :
    isHighSurrogate (unitLower u) = isHighSurrogate u ∧
      isLowSurrogate (unitLower u) = isLowSurrogate u := by
  have hlower := unitLower_toNat u
  constructor
  · rw [Bool.eq_iff_iff, isHighSurrogate_iff, isHighSurrogate_iff, hlower]
    split_ifs <;> omega
  · rw [Bool.eq_iff_iff, isLowSurrogate_iff, isLowSurrogate_iff, hlower]
    split_ifs <;> omega

/-- So it keeps pairs. -/
theorem paired_map_unitLower (text : Units) : Paired (text.map unitLower) ↔ Paired text := by
  fun_induction Paired text with
  | case1 => rfl
  | case2 u =>
    rw [List.map_singleton, Paired, (isSurrogate_unitLower u).1, (isSurrogate_unitLower u).2]
  | case3 u v rest hpair ih =>
    rw [List.map_cons, List.map_cons, Paired, (isSurrogate_unitLower u).1,
      (isSurrogate_unitLower v).2, if_pos hpair, ih]
  | case4 u v rest hpair ih =>
    rw [List.map_cons, List.map_cons, Paired, (isSurrogate_unitLower u).1,
      (isSurrogate_unitLower v).2, if_neg hpair, (isSurrogate_unitLower u).2, ← List.map_cons, ih]

/-! ### Characters and code units -/

/-- **UTF-16 is self-synchronizing.** A block starts with a unit that is no low surrogate. -/
theorem utf16_selfSynchronizing :
    SelfSynchronizing utf16Units fun u => isLowSurrogate u = false := by
  constructor
  · intro c
    have hvalid : c.toNat < 0xD800 ∨ 0xDFFF < c.toNat ∧ c.toNat < 0x110000 := c.valid
    by_cases hsmall : c.toNat < 0x10000
    · refine ⟨UInt16.ofNat c.toNat, [], if_pos hsmall, ?_, nofun⟩
      rw [← Bool.not_eq_true, isLowSurrogate_iff, UInt16.toNat_ofNat_of_lt' hsmall]
      omega
    · have hhigh : 0xD800 + (c.toNat - 0x10000) / 0x400 < 0x10000 := by omega
      have hlow : 0xDC00 + (c.toNat - 0x10000) % 0x400 < 0x10000 := by omega
      refine ⟨_, _, if_neg hsmall, ?_, ?_⟩
      · rw [← Bool.not_eq_true, isLowSurrogate_iff, UInt16.toNat_ofNat_of_lt' hhigh]
        omega
      · intro other hother
        rw [List.mem_singleton.mp hother, Bool.not_eq_false, isLowSurrogate_iff,
          UInt16.toNat_ofNat_of_lt' hlow]
        omega
  · exact utf16Units_append_inj

/-- **Texts contain each other character by character.** -/
theorem contains_utf16_iff {text part : QString} :
    Contains (utf16 text) (utf16 part) ↔
      part.toList.map Char.toLower <:+: text.toList.map Char.toLower := by
  unfold Contains utf16
  rw [← flatMap_utf16Units_toLower, ← flatMap_utf16Units_toLower,
    utf16_selfSynchronizing.infix_iff]

end QtAppBase.Qt
