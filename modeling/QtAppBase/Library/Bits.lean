import Mathlib.Data.Nat.Bitwise
import Mathlib.Tactic.Common

/-!
# Bits of bytes

A byte array is read as a string of bits, the lowest bit of a byte first. Masks
single out one bit of a byte, and the bits of an array determine it.
-/

namespace QtAppBase.Library

/-- A bit of a byte, the lowest first. -/
def bit (byte : UInt8) (i : ℕ) : Bool := byte.toNat.testBit i

/-- A bit of a byte array, the lowest bit of a byte first. -/
def bitAt (bytes : List UInt8) (position : ℕ) : Bool :=
  bit (bytes.getD (position / 8) 0) (position % 8)

/-- The value of a mask. -/
theorem mask_toNat {i : ℕ} (hi : i < 8) : ((1 : UInt8) <<< UInt8.ofNat i).toNat = 2 ^ i := by
  have hpow : 2 ^ i < 2 ^ 8 := Nat.pow_lt_pow_right (by decide) hi
  have hshift : (UInt8.ofNat i).toNat = i :=
    UInt8.toNat_ofNat_of_lt' (by change i < 256; omega)
  rw [UInt8.toNat_shiftLeft, hshift, Nat.mod_eq_of_lt hi, UInt8.toNat_one, Nat.one_shiftLeft,
    Nat.mod_eq_of_lt hpow]

/-- A mask tests its bit. -/
theorem and_mask_ne_zero (byte : UInt8) {i : ℕ} (hi : i < 8) :
    decide (byte &&& (1 <<< UInt8.ofNat i) ≠ 0) = bit byte i := by
  have hvalue : (byte &&& (1 <<< UInt8.ofNat i)).toNat = byte.toNat &&& 2 ^ i := by
    rw [UInt8.toNat_and, mask_toNat hi]
  rw [bit, Bool.eq_iff_iff, decide_eq_true_iff, ne_eq, ← UInt8.toNat_inj, hvalue, UInt8.toNat_zero,
    Nat.and_two_pow]
  cases byte.toNat.testBit i <;> simp

/-- A mask sets its bit and no other. -/
theorem bit_or_mask (byte : UInt8) {i : ℕ} (hi : i < 8) (j : ℕ) :
    bit (byte ||| (1 <<< UInt8.ofNat i)) j = (bit byte j || decide (i = j)) := by
  rw [bit, bit, UInt8.toNat_or, mask_toNat hi, Nat.testBit_or, Nat.testBit_two_pow]

/-- A byte is determined by its eight bits. -/
theorem eq_of_bits {a b : UInt8} (h : ∀ i < 8, bit a i = bit b i) : a = b := by
  have ha : a.toNat < 2 ^ 8 := a.toNat_lt
  have hb : b.toNat < 2 ^ 8 := b.toNat_lt
  apply UInt8.toNat_inj.mp
  apply Nat.eq_of_testBit_eq
  intro i
  by_cases hi : i < 8
  · exact h i hi
  · have hpow : 2 ^ 8 ≤ 2 ^ i := Nat.pow_le_pow_right (by decide) (by omega)
    rw [Nat.testBit_lt_two_pow (by omega), Nat.testBit_lt_two_pow (by omega)]

/-- An array is determined by its length and its bits. -/
theorem eq_of_bitAt {s t : List UInt8} (hlength : s.length = t.length)
    (h : ∀ position < 8 * s.length, bitAt s position = bitAt t position) : s = t := by
  apply List.ext_getElem hlength
  intro i hs ht
  apply eq_of_bits
  intro j hj
  have hbit := h (8 * i + j) (by omega)
  have hdiv : (8 * i + j) / 8 = i := by omega
  have hmod : (8 * i + j) % 8 = j := by omega
  unfold bitAt at hbit
  rw [hdiv, hmod] at hbit
  simpa [hs, ht] using hbit

/-- Setting a bit of an array sets it and no other. -/
theorem bitAt_set {bytes : List UInt8} {position : ℕ} (hposition : position < 8 * bytes.length)
    (other : ℕ) :
    bitAt (bytes.set (position / 8)
      (bytes.getD (position / 8) 0 ||| (1 <<< UInt8.ofNat (position % 8)))) other =
      (bitAt bytes other || decide (position = other)) := by
  have hindex : position / 8 < bytes.length := by omega
  unfold bitAt
  by_cases hbyte : position / 8 = other / 8
  · have hset : (bytes.set (position / 8)
        (bytes.getD (position / 8) 0 ||| (1 <<< UInt8.ofNat (position % 8)))).getD (other / 8) 0 =
        bytes.getD (other / 8) 0 ||| (1 <<< UInt8.ofNat (position % 8)) := by
      rw [← hbyte]
      simp [List.getD_eq_getElem?_getD, hindex]
    have hsame : position % 8 = other % 8 ↔ position = other := by omega
    rw [hset, bit_or_mask _ (Nat.mod_lt _ (by decide)), decide_eq_decide.mpr hsame]
  · have hne : position ≠ other := by
      rintro rfl
      exact hbyte rfl
    rw [List.getD_eq_getElem?_getD, List.getElem?_set_ne hbyte, ← List.getD_eq_getElem?_getD]
    simp [hne]

/-- Zeroed bytes have no bit set. -/
theorem bitAt_replicate (n position : ℕ) : bitAt (List.replicate n 0) position = false := by
  have hbyte : (List.replicate n (0 : UInt8)).getD (position / 8) 0 = 0 := by
    rw [List.getD_eq_getElem?_getD, List.getElem?_replicate]
    split_ifs <;> rfl
  rw [bitAt, hbyte, bit, UInt8.toNat_zero, Nat.zero_testBit]

end QtAppBase.Library
