import Mathlib.Algebra.BigOperators.Group.List.Defs
import Mathlib.Algebra.GroupWithZero.Nat
import Mathlib.Algebra.Order.Group.Nat
import Mathlib.Data.List.Basic
import Mathlib.Tactic.Common

/-!
# Numbers in fields of fixed width

A number is written with zeros in front up to a width, and a record of numbers as
one such field behind the other, with the same text between them. Such texts are
ordered as the records are, and are read back by position. A record whose numbers
have radixes also stands for one number, in the same order.
-/

namespace QtAppBase.Library

/-! ### Lists of one length -/

section Lists

variable {α : Type*} [LT α]

/-- The fronts decide, and behind equal fronts the rest. -/
theorem append_lt_append_iff {xs ys : List α} (h : xs.length = ys.length) (xs' ys' : List α) :
    xs ++ xs' < ys ++ ys' ↔ xs < ys ∨ xs = ys ∧ xs' < ys' := by
  induction xs generalizing ys with
  | nil =>
    cases ys with
    | nil => simp
    | cons y ys => simp at h
  | cons x xs ih =>
    cases ys with
    | nil => simp at h
    | cons y ys =>
      rw [List.cons_append, List.cons_append, List.cons_lt_cons_iff, List.cons_lt_cons_iff,
        ih (Nat.succ.inj h), List.cons.injEq]
      tauto

theorem append_left_lt_iff [Std.Irrefl (· < · : α → α → Prop)] (zs xs ys : List α) :
    zs ++ xs < zs ++ ys ↔ xs < ys := by
  rw [append_lt_append_iff rfl]
  simp

end Lists

/-! ### One number -/

/-- Decimal digits, with zeros in front up to a width. -/
def zeroPadded (width n : ℕ) : List Char :=
  List.replicate (width - (Nat.toDigits 10 n).length) '0' ++ Nat.toDigits 10 n

/-- The last digit stands at the end. -/
theorem zeroPadded_succ {width n : ℕ} (hwidth : 0 < width) :
    zeroPadded (width + 1) n = zeroPadded width (n / 10) ++ [Nat.digitChar (n % 10)] := by
  unfold zeroPadded
  rcases Nat.lt_or_ge n 10 with hsmall | hlarge
  · have hzero : Nat.toDigits 10 (n / 10) = ['0'] := by
      rw [Nat.div_eq_of_lt hsmall, Nat.toDigits_zero]
    have hreplicate : List.replicate width '0' = List.replicate (width - 1) '0' ++ ['0'] := by
      rw [← List.replicate_succ', Nat.sub_add_cancel hwidth]
    rw [hzero, Nat.toDigits_of_lt_base hsmall, Nat.mod_eq_of_lt hsmall]
    simp [hreplicate]
  · rw [Nat.toDigits_of_base_le (by decide) hlarge, List.length_append, List.length_singleton,
      Nat.add_sub_add_right, List.append_assoc]

/-- A number that fits takes the width. -/
theorem length_zeroPadded {width n : ℕ} (hwidth : 0 < width) (hn : n < 10 ^ width) :
    (zeroPadded width n).length = width := by
  have hdigits : (Nat.toDigits 10 n).length ≤ width :=
    (Nat.length_toDigits_le_iff (by decide) hwidth).mpr hn
  rw [zeroPadded, List.length_append, List.length_replicate]
  omega

/-- Its digits are read as the number. -/
theorem ofDigitChars_zeroPadded (width n : ℕ) : Nat.ofDigitChars 10 (zeroPadded width n) 0 = n := by
  rw [zeroPadded, Nat.ofDigitChars_append, Nat.ofDigitChars_replicate_zero, Nat.mul_zero,
    Nat.ofDigitChars_ten_toDigits]

theorem zeroPadded_inj {width m n : ℕ} : zeroPadded width m = zeroPadded width n ↔ m = n := by
  constructor
  · intro h
    rw [← ofDigitChars_zeroPadded width m, h, ofDigitChars_zeroPadded]
  · rintro rfl
    rfl

/-- Digits are ordered as their values. -/
theorem digitChar_lt_iff {m n : ℕ} (hm : m < 10) (hn : n < 10) :
    Nat.digitChar m < Nat.digitChar n ↔ m < n := by
  rw [Char.lt_def, UInt32.lt_iff_toNat_lt]
  change (Nat.digitChar m).toNat < (Nat.digitChar n).toNat ↔ m < n
  rw [Nat.toNat_digitChar_of_lt_ten hm, Nat.toNat_digitChar_of_lt_ten hn]
  omega

/-- **Texts of one width are ordered as their numbers.** -/
theorem zeroPadded_lt_iff {width m n : ℕ} (hwidth : 0 < width) (hm : m < 10 ^ width)
    (hn : n < 10 ^ width) : zeroPadded width m < zeroPadded width n ↔ m < n := by
  induction width, hwidth using Nat.le_induction generalizing m n with
  | base =>
    have hm' : m < 10 := by omega
    have hn' : n < 10 := by omega
    have hdigit : ∀ k < 10, zeroPadded 1 k = [Nat.digitChar k] := by
      intro k hk
      simp [zeroPadded, Nat.toDigits_of_lt_base hk]
    rw [hdigit m hm', hdigit n hn', List.cons_lt_cons_iff, digitChar_lt_iff hm' hn']
    simp
  | succ width hwidth ih =>
    have hm' : m / 10 < 10 ^ width := by
      rw [Nat.pow_succ] at hm
      omega
    have hn' : n / 10 < 10 ^ width := by
      rw [Nat.pow_succ] at hn
      omega
    have hlength : (zeroPadded width (m / 10)).length = (zeroPadded width (n / 10)).length := by
      rw [length_zeroPadded hwidth hm', length_zeroPadded hwidth hn']
    rw [zeroPadded_succ hwidth, zeroPadded_succ hwidth, append_lt_append_iff hlength, ih hm' hn',
      zeroPadded_inj, List.cons_lt_cons_iff,
      digitChar_lt_iff (Nat.mod_lt m (by decide)) (Nat.mod_lt n (by decide))]
    simp only [List.not_lt_nil, and_false, or_false]
    omega

/-! ### A record -/

/-- A field: its width, and the text behind it. -/
structure Field where
  width : ℕ
  behind : List Char
  width_pos : 0 < width := by decide

/-- Two digits, as in most dates and times. -/
def Field.two (behind : List Char) : Field := ⟨2, behind, by decide⟩

/-- Four digits, as in years. -/
def Field.four (behind : List Char) : Field := ⟨4, behind, by decide⟩

/-- The numbers of a record, each in its field. -/
def writeFields : List Field → List ℕ → List Char
  | field :: fields, n :: ns => zeroPadded field.width n ++ field.behind ++ writeFields fields ns
  | _, _ => []

/-- The numbers that stand at the places of the fields. -/
def readFields : List Field → List Char → List ℕ
  | [], _ => []
  | field :: fields, text =>
    Nat.ofDigitChars 10 (text.take field.width) 0 ::
      readFields fields (text.drop (field.width + field.behind.length))

/-- Every number fits its field. -/
def FitsFields : List Field → List ℕ → Prop := List.Forall₂ fun field n => n < 10 ^ field.width

/-- Fields have a fixed length. -/
theorem length_writeFields {fields : List Field} {ns : List ℕ} (h : FitsFields fields ns) :
    (writeFields fields ns).length =
      (fields.map fun field => field.width + field.behind.length).sum := by
  induction h with
  | nil => rfl
  | cons hn _ ih =>
    rw [writeFields, List.length_append, List.length_append,
      length_zeroPadded (Field.width_pos _) hn, ih, List.map_cons, List.sum_cons]

/-- **What was written is read back.** -/
theorem readFields_writeFields {fields : List Field} {ns : List ℕ} (h : FitsFields fields ns) :
    readFields fields (writeFields fields ns) = ns := by
  induction h with
  | nil => rfl
  | @cons field n fields ns hn _ ih =>
    have hlength := length_zeroPadded field.width_pos hn
    have htake : (writeFields (field :: fields) (n :: ns)).take field.width =
        zeroPadded field.width n := by
      rw [writeFields, List.append_assoc, List.take_left' hlength]
    have hdrop : (writeFields (field :: fields) (n :: ns)).drop
        (field.width + field.behind.length) = writeFields fields ns := by
      rw [writeFields, List.drop_left']
      rw [List.length_append, hlength]
    rw [readFields, htake, hdrop, ofDigitChars_zeroPadded, ih]

/-- Also with more text behind it. -/
theorem readFields_append {fields : List Field} {ns : List ℕ} (h : FitsFields fields ns)
    (rest : List Char) : readFields fields (writeFields fields ns ++ rest) = ns := by
  induction h with
  | nil => rfl
  | @cons field n fields ns hn _ ih =>
    have hlength := length_zeroPadded field.width_pos hn
    have htake : (writeFields (field :: fields) (n :: ns) ++ rest).take field.width =
        zeroPadded field.width n := by
      rw [writeFields, List.append_assoc, List.append_assoc, List.take_left' hlength]
    have hdrop : (writeFields (field :: fields) (n :: ns) ++ rest).drop
        (field.width + field.behind.length) = writeFields fields ns ++ rest := by
      rw [writeFields, List.append_assoc, List.drop_left']
      rw [List.length_append, hlength]
    rw [readFields, htake, hdrop, ofDigitChars_zeroPadded, ih]

/-- **Texts of the same fields are ordered as their records.** -/
theorem writeFields_lt_iff {fields : List Field} {ms ns : List ℕ} (hms : FitsFields fields ms)
    (hns : FitsFields fields ns) : writeFields fields ms < writeFields fields ns ↔ ms < ns := by
  induction hms generalizing ns with
  | nil =>
    cases hns
    simp
  | @cons field m fields ms hm _ ih =>
    cases hns with
    | @cons _ n _ ns hn hns =>
      have hlength : (zeroPadded field.width m).length = (zeroPadded field.width n).length := by
        rw [length_zeroPadded field.width_pos hm, length_zeroPadded field.width_pos hn]
      rw [writeFields, writeFields, List.append_assoc, List.append_assoc,
        append_lt_append_iff hlength, append_left_lt_iff,
        zeroPadded_lt_iff field.width_pos hm hn, zeroPadded_inj, ih hns, List.cons_lt_cons_iff]

/-- Nothing is written but digits and what stands behind the fields. -/
theorem mem_writeFields {fields : List Field} {ns : List ℕ} {c : Char}
    (h : c ∈ writeFields fields ns) : c.isDigit = true ∨ ∃ field ∈ fields, c ∈ field.behind := by
  fun_induction writeFields fields ns with
  | case1 field fields n ns ih =>
    rcases List.mem_append.mp h with hfront | hrest
    · rcases List.mem_append.mp hfront with hnumber | hbehind
      · rcases List.mem_append.mp hnumber with hzero | hdigit
        · rw [List.eq_of_mem_replicate hzero]
          exact Or.inl (by decide)
        · exact Or.inl (Nat.isDigit_of_mem_toDigits (by decide) (by decide) hdigit)
      · exact Or.inr ⟨field, List.mem_cons_self, hbehind⟩
    · rcases ih hrest with hdigit | ⟨other, hother, hbehind⟩
      · exact Or.inl hdigit
      · exact Or.inr ⟨other, List.mem_cons_of_mem _ hother, hbehind⟩
  | case2 => cases h

/-! ### Radixes -/

/-- The number of a record, from the value of what stands in front of it. -/
def recombine : ℕ → List ℕ → List ℕ → ℕ
  | value, radix :: radixes, n :: ns => recombine (value * radix + n) radixes ns
  | value, _, _ => value

/-- Every number is smaller than its radix. -/
def Below : List ℕ → List ℕ → Prop := List.Forall₂ fun radix n => n < radix

/-- One digit more. -/
theorem mul_add_lt_iff {radix d e : ℕ} (hd : d < radix) (he : e < radix) (v w : ℕ) :
    v * radix + d < w * radix + e ↔ v < w ∨ v = w ∧ d < e := by
  rcases lt_trichotomy v w with hlt | rfl | hgt
  · have hmul : (v + 1) * radix ≤ w * radix := Nat.mul_le_mul_right radix hlt
    rw [Nat.add_one_mul] at hmul
    omega
  · omega
  · have hmul : (w + 1) * radix ≤ v * radix := Nat.mul_le_mul_right radix hgt
    rw [Nat.add_one_mul] at hmul
    omega

theorem mul_add_inj {radix d e : ℕ} (hd : d < radix) (he : e < radix) {v w : ℕ} :
    v * radix + d = w * radix + e ↔ v = w ∧ d = e := by
  have hlt := mul_add_lt_iff hd he v w
  have hgt := mul_add_lt_iff he hd w v
  omega

/-- **Numbers are ordered as their records.** -/
theorem recombine_lt_iff {radixes ds es : List ℕ} (hds : Below radixes ds)
    (hes : Below radixes es) (v w : ℕ) :
    recombine v radixes ds < recombine w radixes es ↔ v < w ∨ v = w ∧ ds < es := by
  induction hds generalizing es v w with
  | nil =>
    cases hes
    simp [recombine]
  | @cons radix d radixes ds hd _ ih =>
    cases hes with
    | @cons _ e _ es he hes =>
      rw [recombine, recombine, ih hes, mul_add_lt_iff hd he, mul_add_inj hd he,
        List.cons_lt_cons_iff]
      tauto

/-! ### Blocks -/

/-- Where a block starts, if blocks of these sizes lie one behind the other. -/
def blockStart (size : ℕ → ℕ) : ℕ → ℕ
  | 0 => 0
  | n + 1 => blockStart size n + size n

theorem blockStart_mono (size : ℕ → ℕ) {m n : ℕ} (h : m ≤ n) :
    blockStart size m ≤ blockStart size n := by
  induction n, h using Nat.le_induction with
  | base => exact Nat.le_refl _
  | succ n _ ih => exact ih.trans (Nat.le_add_right _ _)

/-- What lies in a block lies before the next one. -/
theorem blockStart_add_lt {size : ℕ → ℕ} {m n a : ℕ} (ha : a < size m) (h : m < n) :
    blockStart size m + a < blockStart size n := by
  have hnext : blockStart size (m + 1) ≤ blockStart size n := blockStart_mono size h
  rw [blockStart] at hnext
  omega

/-- **Places are ordered by their blocks**, and within one by their distance from its start. -/
theorem blockStart_add_lt_iff {size : ℕ → ℕ} {m n a b : ℕ} (ha : a < size m) (hb : b < size n) :
    blockStart size m + a < blockStart size n + b ↔ m < n ∨ m = n ∧ a < b := by
  rcases lt_trichotomy m n with hlt | rfl | hgt
  · have hbefore := blockStart_add_lt ha hlt
    omega
  · omega
  · have hbehind := blockStart_add_lt hb hgt
    omega

end QtAppBase.Library
