import QtAppBase.Qt.Latin1

/-!
# Reading decimal numbers

On a text of digits the readers of numbers give the value of the digits, if that
fits, so a number is read back from its text.
-/

namespace QtAppBase.Qt

/-- The value of a text of digits. -/
def digitsNat (digits : List Char) : ℕ := Nat.ofDigitChars 10 digits 0

/-- **Digits are read as their value**, if it fits an integer. -/
theorem toInt?_digits {digits : List Char} (hne : digits ≠ [])
    (hdigits : ∀ c ∈ digits, c.isDigit = true) :
    toInt? (String.ofList digits) =
      if digitsNat digits < 2 ^ 31 then some (digitsNat digits : ℤ) else none := by
  have hspace : ∀ c ∈ digits, isSpace c = false := fun c hc => isSpace_of_isDigit (hdigits c hc)
  have hvalue : digitsValue digits = (digitsNat digits : ℤ) := digitsValue_eq hdigits
  have hall : digits.all Char.isDigit = true := List.all_eq_true.mpr hdigits
  unfold toInt?
  rw [String.toList_ofList, trimmed_eq hspace]
  cases digits with
  | nil => exact absurd rfl hne
  | cons c rest =>
    obtain ⟨hminus, hplus⟩ := ne_sign_of_isDigit (hdigits c List.mem_cons_self)
    split
    rename_i sign digits heq
    split at heq
    · rename_i hfirst
      exact absurd (List.cons.inj hfirst).1 hminus
    · rename_i hfirst
      exact absurd (List.cons.inj hfirst).1 hplus
    · obtain ⟨rfl, rfl⟩ := Prod.mk.inj heq
      rw [hvalue]
      apply if_congr _ (congrArg some (Int.one_mul _)) rfl
      constructor
      · rintro ⟨-, -, -, hfits⟩
        omega
      · intro hfits
        exact ⟨List.cons_ne_nil _ _, hall, by omega, by omega⟩

/-- **A decimal number is read as the number**, if it fits an integer. -/
theorem toInt_toString {value : ℤ} (hnonneg : 0 ≤ value) (hfits : value < 2 ^ 31) :
    toInt (toString value) = value := by
  obtain ⟨n, rfl⟩ := Int.eq_ofNat_of_zero_le hnonneg
  have hdigits : ∀ c ∈ Nat.toDigits 10 n, c.isDigit = true := fun c hc =>
    Nat.isDigit_of_mem_toDigits (by decide) (by decide) hc
  have hvalue : digitsNat (Nat.toDigits 10 n) = n := Nat.ofDigitChars_ten_toDigits
  change (toInt? (String.ofList (Nat.toDigits 10 n))).getD 0 = n
  rw [toInt?_digits Nat.toDigits_ne_nil hdigits, hvalue, if_pos (by omega), Option.getD_some]

/-- So are those of an unsigned number. -/
theorem unsignedNumber?_digits {bound : ℕ} {digits : List Char} (hne : digits ≠ [])
    (hdigits : ∀ c ∈ digits, c.isDigit = true) :
    unsignedNumber? bound (String.ofList digits) =
      if digitsNat digits < bound then some (digitsNat digits) else none := by
  have hspace : ∀ c ∈ digits, isSpace c = false := fun c hc => isSpace_of_isDigit (hdigits c hc)
  have hvalue : (digitsValue digits).toNat = digitsNat digits := by
    rw [digitsValue_eq hdigits]
    exact Int.toNat_natCast _
  have hall : digits.all Char.isDigit = true := List.all_eq_true.mpr hdigits
  unfold unsignedNumber?
  rw [String.toList_ofList, trimmed_eq hspace]
  cases digits with
  | nil => exact absurd rfl hne
  | cons c rest =>
    obtain ⟨-, hplus⟩ := ne_sign_of_isDigit (hdigits c List.mem_cons_self)
    dsimp only
    split
    · rename_i hfirst
      exact absurd (List.cons.inj hfirst).1 hplus
    · rw [hvalue]
      apply if_congr _ rfl rfl
      exact ⟨fun h => h.2.2, fun h => ⟨List.cons_ne_nil _ _, hall, h⟩⟩

/-- A number is read back from its text. -/
theorem toUInt_toString {n : ℕ} (h : n < 2 ^ 32) : toUInt (toString n) = some n := by
  have htext : (toString n : QString) = String.ofList (Nat.toDigits 10 n) := rfl
  have hdigits : ∀ c ∈ Nat.toDigits 10 n, c.isDigit = true := fun c hc =>
    Nat.isDigit_of_mem_toDigits (by decide) (by decide) hc
  have hvalue : digitsNat (Nat.toDigits 10 n) = n := Nat.ofDigitChars_ten_toDigits
  rw [htext, toUInt, unsignedNumber?_digits Nat.toDigits_ne_nil hdigits, hvalue, if_pos h]

/-- Digits have the value zero exactly when they are all zero. -/
theorem digitsNat_eq_zero_iff {digits : List Char} (hdigits : ∀ c ∈ digits, c.isDigit = true) :
    digitsNat digits = 0 ↔ ∀ c ∈ digits, c = '0' := by
  have hfold : ∀ (digits : List Char) (value : ℕ), (∀ c ∈ digits, c.isDigit = true) →
      (Nat.ofDigitChars 10 digits value = 0 ↔ value = 0 ∧ ∀ c ∈ digits, c = '0') := by
    intro digits
    induction digits with
    | nil => simp
    | cons c digits ih =>
      intro value hdigits
      obtain ⟨hc, hdigits⟩ := List.forall_mem_cons.mp hdigits
      have hrange := isDigit_toNat hc
      have hzero : '0'.toNat = 48 := rfl
      have hfirst : c = '0' ↔ c.toNat = 48 := by rw [← Char.toNat_inj, hzero]
      rw [Nat.ofDigitChars_cons, ih _ hdigits, List.forall_mem_cons, hfirst, hzero, ← and_assoc]
      apply and_congr_left'
      omega
  exact (hfold digits 0 hdigits).trans (and_iff_right rfl)

end QtAppBase.Qt
