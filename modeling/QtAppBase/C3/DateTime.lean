import QtAppBase.Qt.Text

/-!
# Event times

A panel sends the time of an event as one number, in which months have 31 days. The
codec splits it up and prints the parts into fields of fixed width. So the texts are
ordered as the numbers, and the number can be computed from the text.
-/

namespace QtAppBase.C3

open Qt Library

/-- `decodeC3DateTime`. -/
def decodeC3DateTime (raw : UInt32) : QString :=
  let v := raw
  let second := (v % 60).toNat
  let v := v / 60
  let minute := (v % 60).toNat
  let v := v / 60
  let hour := (v % 24).toNat
  let v := v / 24
  let day := (v % 31).toNat + 1
  let v := v / 31
  let month := (v % 12).toNat + 1
  let v := v / 12
  let year := v.toNat + 2000
  (((((QString.argZeroPadded "%1-%2-%3 %4:%5:%6" year 4).argZeroPadded
    month 2).argZeroPadded day 2).argZeroPadded hour 2).argZeroPadded minute 2).argZeroPadded
    second 2

/-- Year, month, day, hour, minute and second, as they are printed. -/
def dateTimeFields : List Field :=
  [.four ['-'], .two ['-'], .two [' '], .two [':'], .two [':'], .two []]

/-- The numbers in the fields of a text. -/
def printedFields (text : QString) : List ℕ := readFields dateTimeFields text.toList

/-- The number that a panel sends for such fields. -/
def recombined : List ℕ → ℤ
  | [year, month, day, hour, minute, second] =>
    (((((year : ℤ) - 2000) * 12 + month - 1) * 31 + day - 1) * 24 + hour) * 3600 + minute * 60 +
      second
  | _ => 0

/-! ### The parts of the number -/

/-- The year since 2000, the month and the day from zero on, and the time of the day. -/
def rawParts (raw : ℕ) : List ℕ :=
  [raw / 60 / 60 / 24 / 31 / 12, raw / 60 / 60 / 24 / 31 % 12, raw / 60 / 60 / 24 % 31,
    raw / 60 / 60 % 24, raw / 60 % 60, raw % 60]

/-- As they are printed. -/
def printedParts (raw : ℕ) : List ℕ := List.zipWith (· + ·) (rawParts raw) [2000, 1, 1, 0, 0, 0]

/-- They fit their fields. -/
theorem fits_printedParts {raw : ℕ} (h : raw < 2 ^ 32) :
    FitsFields dateTimeFields (printedParts raw) := by
  have hyear : raw / 60 / 60 / 24 / 31 / 12 + 2000 < 10 ^ 4 := by omega
  have hmonth : raw / 60 / 60 / 24 / 31 % 12 + 1 < 10 ^ 2 := by omega
  have hday : raw / 60 / 60 / 24 % 31 + 1 < 10 ^ 2 := by omega
  have hhour : raw / 60 / 60 % 24 + 0 < 10 ^ 2 := by omega
  have hminute : raw / 60 % 60 + 0 < 10 ^ 2 := by omega
  have hsecond : raw % 60 + 0 < 10 ^ 2 := by omega
  exact .cons hyear (.cons hmonth (.cons hday (.cons hhour (.cons hminute (.cons hsecond .nil)))))

/-- The number is made of its parts. -/
theorem recombine_rawParts (raw : ℕ) :
    recombine (raw / 60 / 60 / 24 / 31 / 12) [12, 31, 24, 60, 60] (rawParts raw).tail = raw := by
  change ((((raw / 60 / 60 / 24 / 31 / 12 * 12 + raw / 60 / 60 / 24 / 31 % 12) * 31 +
    raw / 60 / 60 / 24 % 31) * 24 + raw / 60 / 60 % 24) * 60 + raw / 60 % 60) * 60 + raw % 60 = raw
  omega

theorem below_rawParts (raw : ℕ) : Below [12, 31, 24, 60, 60] (rawParts raw).tail := by
  have hmod : ∀ n radix : ℕ, 0 < radix → n % radix < radix := fun n radix => Nat.mod_lt n
  exact .cons (hmod _ 12 (by decide)) (.cons (hmod _ 31 (by decide)) (.cons (hmod _ 24 (by decide))
    (.cons (hmod _ 60 (by decide)) (.cons (hmod _ 60 (by decide)) .nil))))

/-- Numbers are ordered as their parts. -/
theorem rawParts_lt_iff (a b : ℕ) : rawParts a < rawParts b ↔ a < b := by
  have horder := recombine_lt_iff (below_rawParts a) (below_rawParts b)
    (a / 60 / 60 / 24 / 31 / 12) (b / 60 / 60 / 24 / 31 / 12)
  rw [recombine_rawParts, recombine_rawParts] at horder
  rw [horder]
  exact List.cons_lt_cons_iff

/-- The offsets keep the order. -/
theorem zipWith_add_lt_iff {xs ys offsets : List ℕ} (hxs : xs.length = offsets.length)
    (hys : ys.length = offsets.length) :
    List.zipWith (· + ·) xs offsets < List.zipWith (· + ·) ys offsets ↔ xs < ys := by
  induction offsets generalizing xs ys with
  | nil =>
    rw [List.length_nil, List.length_eq_zero_iff] at hxs hys
    rw [hxs, hys]
    rfl
  | cons offset offsets ih =>
    cases xs with
    | nil => simp at hxs
    | cons x xs =>
      cases ys with
      | nil => simp at hys
      | cons y ys =>
        rw [List.zipWith_cons_cons, List.zipWith_cons_cons, List.cons_lt_cons_iff,
          List.cons_lt_cons_iff, ih (Nat.succ.inj hxs) (Nat.succ.inj hys), Nat.add_lt_add_iff_right,
          Nat.add_right_cancel_iff]

theorem printedParts_lt_iff (a b : ℕ) : printedParts a < printedParts b ↔ a < b := by
  have hlength : ∀ raw, (rawParts raw).length = [2000, 1, 1, 0, 0, 0].length := fun _ => rfl
  unfold printedParts
  rw [zipWith_add_lt_iff (hlength a) (hlength b), rawParts_lt_iff]

theorem recombined_printedParts (raw : ℕ) : recombined (printedParts raw) = raw := by
  change ((((((raw / 60 / 60 / 24 / 31 / 12 + 2000 : ℕ) : ℤ) - 2000) * 12 +
    (raw / 60 / 60 / 24 / 31 % 12 + 1 : ℕ) - 1) * 31 + (raw / 60 / 60 / 24 % 31 + 1 : ℕ) - 1) * 24 +
    (raw / 60 / 60 % 24 + 0 : ℕ)) * 3600 + (raw / 60 % 60 + 0 : ℕ) * 60 + (raw % 60 + 0 : ℕ) = raw
  omega

/-! ### The text -/

theorem percent_notMem_zeroPadded (width n : ℕ) : '%' ∉ zeroPadded width n := by
  intro h
  rcases List.mem_append.mp h with hzero | hdigit
  · exact absurd (List.eq_of_mem_replicate hzero) (by decide)
  · exact absurd (Nat.isDigit_of_mem_toDigits (by decide) (by decide) hdigit) (by decide)

/-- The marker with the lowest number is filled, behind what has been filled before. -/
theorem argZeroPadded_first {text : List Char} (h : '%' ∉ text) {digit c : Char} {number : ℕ}
    (hdigit : digitValue digit = some number) (hc : Plain c) {rest : List Char}
    (hlater : ∀ other ∈ markers (c :: rest), number < other) (a width : ℕ) :
    QString.argZeroPadded (String.ofList (text ++ '%' :: digit :: c :: rest)) a width =
      String.ofList ((text ++ zeroPadded width a ++ [c]) ++ rest) := by
  unfold QString.argZeroPadded QString.arg
  rw [String.toList_ofList, String.toList_ofList, replaceLowest_first h hdigit hc hlater]
  simp

/-- The last marker. -/
theorem argZeroPadded_last {text : List Char} (h : '%' ∉ text) {digit : Char} {number : ℕ}
    (hdigit : digitValue digit = some number) (a width : ℕ) :
    QString.argZeroPadded (String.ofList (text ++ ['%', digit])) a width =
      String.ofList (text ++ zeroPadded width a) := by
  unfold QString.argZeroPadded QString.arg
  rw [String.toList_ofList, String.toList_ofList, replaceLowest_eq_fill, template_marker h hdigit,
    fill_append, fill_map_some]
  simp [fill]

/-- A printed field has no marker. -/
theorem percent_notMem_field {text : List Char} (h : '%' ∉ text) (width n : ℕ) {c : Char}
    (hc : Plain c) : '%' ∉ text ++ zeroPadded width n ++ [c] := by
  intro hmem
  rcases List.mem_append.mp hmem with hmem | hmem
  · rcases List.mem_append.mp hmem with hmem | hmem
    · exact h hmem
    · exact percent_notMem_zeroPadded width n hmem
  · exact hc.1 (List.mem_singleton.mp hmem).symm

/-- The six markers are filled one after the other. -/
theorem format_filled (year month day hour minute second : ℕ) :
    (((((QString.argZeroPadded "%1-%2-%3 %4:%5:%6" year 4).argZeroPadded
      month 2).argZeroPadded day 2).argZeroPadded hour 2).argZeroPadded minute 2).argZeroPadded
      second 2 =
      String.ofList (writeFields dateTimeFields [year, month, day, hour, minute, second]) := by
  have hdash : Plain '-' := by decide
  have hblank : Plain ' ' := by decide
  have hcolon : Plain ':' := by decide
  have hyear := percent_notMem_field List.not_mem_nil 4 year hdash
  have hmonth := percent_notMem_field hyear 2 month hdash
  have hday := percent_notMem_field hmonth 2 day hblank
  have hhour := percent_notMem_field hday 2 hour hcolon
  have hminute := percent_notMem_field hhour 2 minute hcolon
  have hformat : "%1-%2-%3 %4:%5:%6" =
      String.ofList ([] ++ '%' :: '1' :: '-' :: "%2-%3 %4:%5:%6".toList) := by decide
  rw [hformat, argZeroPadded_first List.not_mem_nil (by decide : digitValue '1' = some 1) hdash
    (by decide)]
  change QString.argZeroPadded (QString.argZeroPadded (QString.argZeroPadded (QString.argZeroPadded
    (QString.argZeroPadded (String.ofList (_ ++ '%' :: '2' :: '-' :: "%3 %4:%5:%6".toList))
    _ _) _ _) _ _) _ _) _ _ = _
  rw [argZeroPadded_first hyear (by decide : digitValue '2' = some 2) hdash (by decide)]
  change QString.argZeroPadded (QString.argZeroPadded (QString.argZeroPadded (QString.argZeroPadded
    (String.ofList (_ ++ '%' :: '3' :: ' ' :: "%4:%5:%6".toList)) _ _) _ _) _ _) _ _ = _
  rw [argZeroPadded_first hmonth (by decide : digitValue '3' = some 3) hblank (by decide)]
  change QString.argZeroPadded (QString.argZeroPadded (QString.argZeroPadded
    (String.ofList (_ ++ '%' :: '4' :: ':' :: "%5:%6".toList)) _ _) _ _) _ _ = _
  rw [argZeroPadded_first hday (by decide : digitValue '4' = some 4) hcolon (by decide)]
  change QString.argZeroPadded (QString.argZeroPadded
    (String.ofList (_ ++ '%' :: '5' :: ':' :: "%6".toList)) _ _) _ _ = _
  rw [argZeroPadded_first hhour (by decide : digitValue '5' = some 5) hcolon (by decide)]
  change QString.argZeroPadded (String.ofList (_ ++ ['%', '6'])) _ _ = _
  rw [argZeroPadded_last hminute (by decide : digitValue '6' = some 6)]
  simp [writeFields, dateTimeFields, Field.two, Field.four]

/-- **The printed parts, each in its field.** -/
theorem decodeC3DateTime_eq (raw : UInt32) :
    decodeC3DateTime raw =
      String.ofList (writeFields dateTimeFields (printedParts raw.toNat)) := by
  unfold decodeC3DateTime
  rw [format_filled]
  simp [printedParts, rawParts]

/-- **The text of a time is faithful.** It has 19 characters, the number can be computed
from its fields, and texts are ordered as the numbers. -/
theorem decodeC3DateTime_faithful (raw : UInt32) :
    (decodeC3DateTime raw).length = 19 ∧
      recombined (printedFields (decodeC3DateTime raw)) = raw.toNat ∧
      ∀ later : UInt32, decodeC3DateTime raw < decodeC3DateTime later ↔ raw < later := by
  have hfits : ∀ raw : UInt32, FitsFields dateTimeFields (printedParts raw.toNat) := fun raw =>
    fits_printedParts raw.toNat_lt
  refine ⟨?_, ?_, fun later => ?_⟩
  · rw [decodeC3DateTime_eq, String.length_ofList, length_writeFields (hfits raw)]
    rfl
  · rw [decodeC3DateTime_eq, printedFields, String.toList_ofList,
      readFields_writeFields (hfits raw), recombined_printedParts]
  · rw [decodeC3DateTime_eq, decodeC3DateTime_eq, String.lt_iff, String.toList_ofList,
      String.toList_ofList, writeFields_lt_iff (hfits raw) (hfits later), printedParts_lt_iff,
      UInt32.lt_iff_toNat_lt]

example : decodeC3DateTime 347748895 = "2010-10-26 20:54:55" := by decide

end QtAppBase.C3
