import QtAppBase.Qt.Values
import Mathlib.Data.List.TakeWhile

/-!
# Latin-1 text and decimal numbers

Text of Latin-1 characters survives the way to bytes and back, and a decimal
number that fits an integer is read as that integer.
-/

namespace QtAppBase.Qt

/-- All characters are Latin-1. -/
def IsLatin1 (text : List Char) : Prop := ∀ c ∈ text, c.toNat < 0x100

instance (text : List Char) : Decidable (IsLatin1 text) :=
  decidable_of_iff (text.all (decide <| ·.toNat < 0x100) = true) (by simp [IsLatin1])

/-- A Latin-1 character has one code unit, its number. -/
theorem utf16Units_latin1 {c : Char} (h : c.toNat < 0x100) :
    utf16Units c = [UInt16.ofNat c.toNat] := by
  rw [utf16Units, if_pos (by omega)]

/-- A Latin-1 character is one byte, its number. -/
theorem latin1_byte {c : Char} (h : c.toNat < 0x100) :
    (if UInt16.ofNat c.toNat < 256 then (UInt16.ofNat c.toNat).toUInt8 else 63) =
      UInt8.ofNat c.toNat := by
  have hunit : (UInt16.ofNat c.toNat).toNat = c.toNat :=
    UInt16.toNat_ofNat_of_lt' (by change c.toNat < 2 ^ 16; omega)
  have hlow : UInt16.ofNat c.toNat < 256 := by
    rw [UInt16.lt_iff_toNat_lt, hunit]
    exact h
  rw [if_pos hlow]
  apply UInt8.toNat_inj.mp
  rw [UInt16.toNat_toUInt8, hunit, UInt8.toNat_ofNat']

/-- The bytes of Latin-1 text. -/
theorem toLatin1_eq {text : QString} (h : IsLatin1 text.toList) :
    toLatin1 text = text.toList.map fun c => UInt8.ofNat c.toNat := by
  have hchars : ∀ chars : List Char, IsLatin1 chars →
      ((chars.flatMap utf16Units).map fun unit => if unit < 256 then unit.toUInt8 else 63) =
        chars.map fun c => UInt8.ofNat c.toNat := by
    intro chars hchars
    induction chars with
    | nil => rfl
    | cons c chars ih =>
      obtain ⟨hc, hchars⟩ := List.forall_mem_cons.mp hchars
      rw [List.flatMap_cons, utf16Units_latin1 hc, List.map_append, ih hchars, List.map_cons,
        List.map_cons, latin1_byte hc]
      rfl
  exact hchars _ h

/-- Latin-1 text is read back from its bytes. -/
theorem latin1Chars_toLatin1 {text : QString} (h : IsLatin1 text.toList) :
    latin1Chars (toLatin1 text) = text.toList := by
  rw [toLatin1_eq h, latin1Chars, List.map_map]
  refine (List.map_congr_left fun c hc => ?_).trans (List.map_id _)
  have hbyte : (UInt8.ofNat c.toNat).toNat = c.toNat := UInt8.toNat_ofNat_of_lt' (h c hc)
  rw [Function.comp_apply, hbyte, Char.ofNat_toNat]
  rfl

/-- So is such a text without a zero that is read up to its first zero byte. -/
theorem latin1Text_toLatin1 {text : QString} (h : IsLatin1 text.toList)
    (hnul : Char.ofNat 0 ∉ text.toList) : latin1Text (toLatin1 text) = text.toList := by
  have hall : ∀ byte ∈ toLatin1 text, decide (byte ≠ 0) = true := by
    intro byte hbyte
    rw [toLatin1_eq h] at hbyte
    obtain ⟨c, hc, rfl⟩ := List.mem_map.mp hbyte
    refine decide_eq_true fun hzero => hnul ?_
    have hvalue := congrArg UInt8.toNat hzero
    rw [UInt8.toNat_ofNat_of_lt' (h c hc)] at hvalue
    rwa [show Char.ofNat 0 = c from Char.toNat_inj.mp hvalue.symm]
  rw [latin1Text, List.takeWhile_eq_self_iff.mpr hall, latin1Chars_toLatin1 h]

/-- Latin-1 text has a byte for each character. -/
theorem length_toLatin1 {text : QString} (h : IsLatin1 text.toList) :
    (toLatin1 text).length = text.toList.length := by
  rw [toLatin1_eq h, List.length_map]

/-! ### Decimal numbers -/

/-- Text without white space is trimmed to itself. -/
theorem trimmed_eq {text : List Char} (h : ∀ c ∈ text, isSpace c = false) :
    trimmed text = text := by
  have hdrop : ∀ chars : List Char, (∀ c ∈ chars, isSpace c = false) →
      chars.dropWhile isSpace = chars := by
    intro chars hchars
    cases chars with
    | nil => rfl
    | cons c chars =>
      exact List.dropWhile_cons_of_neg (by rw [hchars c List.mem_cons_self]; decide)
  have hreverse : ∀ c ∈ text.reverse, isSpace c = false := fun c hc => h c (List.mem_reverse.mp hc)
  rw [trimmed, hdrop text h, hdrop _ hreverse, List.reverse_reverse]

/-- The number of a digit. -/
theorem isDigit_toNat {c : Char} (h : c.isDigit = true) : 48 ≤ c.toNat ∧ c.toNat ≤ 57 := by
  simpa [Char.isDigit, UInt32.le_iff_toNat_le] using h

/-- A digit is no white space. -/
theorem isSpace_of_isDigit {c : Char} (h : c.isDigit = true) : isSpace c = false := by
  have hrange := isDigit_toNat h
  simp [isSpace]
  omega

/-- A digit is no sign. -/
theorem ne_sign_of_isDigit {c : Char} (h : c.isDigit = true) : c ≠ '-' ∧ c ≠ '+' := by
  constructor
  · rintro rfl
    exact absurd h (by decide)
  · rintro rfl
    exact absurd h (by decide)

/-- A number that is not negative is written with digits. -/
theorem toString_toList {value : ℤ} (hnonneg : 0 ≤ value) :
    (toString value).toList = Nat.toDigits 10 value.toNat := by
  obtain ⟨n, rfl⟩ := Int.eq_ofNat_of_zero_le hnonneg
  exact String.toList_ofList

theorem isDigit_of_mem_toString {value : ℤ} (hnonneg : 0 ≤ value) {c : Char}
    (h : c ∈ (toString value).toList) : c.isDigit = true := by
  rw [toString_toList hnonneg] at h
  exact Nat.isDigit_of_mem_toDigits (by decide) (by decide) h

/-- The value of digits, as a natural number. -/
theorem digitsValue_eq {digits : List Char} (h : ∀ c ∈ digits, c.isDigit = true) :
    digitsValue digits = (Nat.ofDigitChars 10 digits 0 : ℤ) := by
  have hfold : ∀ (digits : List Char) (value : ℕ), (∀ c ∈ digits, c.isDigit = true) →
      digits.foldl (fun (value : ℤ) c => 10 * value + (c.toNat - '0'.toNat)) (value : ℤ) =
        (Nat.ofDigitChars 10 digits value : ℤ) := by
    intro digits
    induction digits with
    | nil =>
      intro value _
      rw [Nat.ofDigitChars_nil]
      rfl
    | cons c digits ih =>
      intro value hdigits
      obtain ⟨hc, hdigits⟩ := List.forall_mem_cons.mp hdigits
      have hrange := isDigit_toNat hc
      have hzero : '0'.toNat = 48 := rfl
      have hstep : (10 * (value : ℤ) + ((c.toNat : ℤ) - ('0'.toNat : ℤ))) =
          ((10 * value + (c.toNat - '0'.toNat) : ℕ) : ℤ) := by
        rw [hzero]
        omega
      rw [List.foldl_cons, Nat.ofDigitChars_cons, hstep, ih _ hdigits]
  exact hfold digits 0 h

end QtAppBase.Qt
