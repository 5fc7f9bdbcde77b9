import QtAppBase.Library.FixedWidth
import QtAppBase.Qt.Values
import Mathlib.Data.String.Basic

/-!
# Times and their ISO texts

A valid `QDateTime`, by its date and its time of day in UTC, in the years that ISO 8601
writes with four digits. The instant it stands for is counted in milliseconds, in the
Gregorian calendar and without leap seconds; its ISO text is ordered as the instant.
-/

namespace QtAppBase.Qt

open Library

/-- `QDate::isLeapYear`. -/
def isLeapYear (year : ℕ) : Bool := year % 4 = 0 ∧ (year % 100 ≠ 0 ∨ year % 400 = 0)

/-- `QDate::daysInMonth`. -/
def daysInMonth (year : ℕ) : ℕ → ℕ
  | 2 => if isLeapYear year then 29 else 28
  | 4 | 6 | 9 | 11 => 30
  | _ => 31

/-- The days of the months of a year, from January on. -/
def monthDays (year index : ℕ) : ℕ := daysInMonth year (index + 1)

/-- `QDate::daysInYear`. -/
def daysInYear (year : ℕ) : ℕ := blockStart (monthDays year) 12

/-- A valid `QDateTime` of the years 0000 to 9999, after `toUTC`. -/
structure QDateTime where
  year : ℕ
  month : ℕ
  day : ℕ
  hour : ℕ
  minute : ℕ
  second : ℕ
  msec : ℕ
  year_lt : year < 10000
  month_pos : 0 < month
  month_le : month ≤ 12
  day_pos : 0 < day
  day_le : day ≤ daysInMonth year month
  hour_lt : hour < 24
  minute_lt : minute < 60
  second_lt : second < 60
  msec_lt : msec < 1000
  deriving DecidableEq, Repr

namespace QDateTime

/-- The days since the first one of the year 0. -/
def dayNumber (t : QDateTime) : ℕ :=
  blockStart daysInYear t.year + (blockStart (monthDays t.year) (t.month - 1) + (t.day - 1))

/-- The milliseconds since then. -/
def instant (t : QDateTime) : ℕ :=
  recombine t.dayNumber [24, 60, 60, 1000] [t.hour, t.minute, t.second, t.msec]

/-- The parts as they are printed. -/
def parts (t : QDateTime) : List ℕ :=
  [t.year, t.month, t.day, t.hour, t.minute, t.second, t.msec]

/-- `yyyy-MM-ddTHH:mm:ss.zzzZ`. -/
def isoFields : List Field :=
  [.four ['-'], .two ['-'], .two ['T'], .two [':'], .two [':'], .two ['.'],
    ⟨3, ['Z'], by decide⟩]

/-- `toString(Qt::ISODateWithMs)`. -/
def isoText (t : QDateTime) : QString := String.ofList (writeFields isoFields t.parts)

/-- `fromMSecsSinceEpoch(0)`. -/
def epoch : QDateTime :=
  ⟨1970, 1, 1, 0, 0, 0, 0, by decide, by decide, by decide, by decide, by decide, by decide,
    by decide, by decide, by decide⟩

/-! ### The calendar -/

theorem daysInMonth_le (year month : ℕ) : daysInMonth year month ≤ 31 := by
  unfold daysInMonth
  split
  · split_ifs <;> omega
  · omega
  · omega
  · omega
  · omega
  · omega

variable (s t : QDateTime)

/-- The month is one of its year. -/
theorem day_in_month : t.day - 1 < monthDays t.year (t.month - 1) := by
  have hmonth : t.month - 1 + 1 = t.month := Nat.sub_add_cancel t.month_pos
  have hday := t.day_le
  have hpos := t.day_pos
  rw [monthDays, hmonth]
  omega

/-- The day is one of its year. -/
theorem day_in_year :
    blockStart (monthDays t.year) (t.month - 1) + (t.day - 1) < daysInYear t.year := by
  apply blockStart_add_lt t.day_in_month
  have hmonth := t.month_le
  omega

/-- Days are ordered by year, month and day. -/
theorem dayNumber_lt_iff :
    s.dayNumber < t.dayNumber ↔ [s.year, s.month, s.day] < [t.year, t.month, t.day] := by
  have hmonths : s.year = t.year →
      (blockStart (monthDays s.year) (s.month - 1) + (s.day - 1) <
        blockStart (monthDays t.year) (t.month - 1) + (t.day - 1) ↔
      s.month < t.month ∨ s.month = t.month ∧ s.day < t.day) := by
    intro hyear
    have hs := s.day_in_month
    rw [hyear] at hs ⊢
    rw [blockStart_add_lt_iff hs t.day_in_month]
    have := s.month_pos
    have := t.month_pos
    have := s.day_pos
    have := t.day_pos
    omega
  unfold dayNumber
  rw [blockStart_add_lt_iff s.day_in_year t.day_in_year, List.cons_lt_cons_iff]
  apply or_congr_right
  apply and_congr_right
  intro hyear
  rw [hmonths hyear]
  simp [List.cons_lt_cons_iff]

theorem dayNumber_eq_iff :
    s.dayNumber = t.dayNumber ↔ [s.year, s.month, s.day] = [t.year, t.month, t.day] := by
  have hlt := dayNumber_lt_iff s t
  have hgt := dayNumber_lt_iff t s
  constructor
  · intro hsame
    have hbefore := mt hlt.mpr (Nat.not_lt.mpr (Nat.le_of_eq hsame.symm))
    have hbehind := mt hgt.mpr (Nat.not_lt.mpr (Nat.le_of_eq hsame))
    exact List.le_antisymm (List.not_lt.mp hbehind) (List.not_lt.mp hbefore)
  · intro hsame
    rw [hsame] at hlt hgt
    have hbefore := mt hlt.mp (List.lt_irrefl _)
    have hbehind := mt hgt.mp (List.lt_irrefl _)
    omega

/-- **Instants are ordered as their parts.** -/
theorem instant_lt_iff : s.instant < t.instant ↔ s.parts < t.parts := by
  have hbelow : ∀ t : QDateTime,
      Below [24, 60, 60, 1000] [t.hour, t.minute, t.second, t.msec] := fun t =>
    .cons t.hour_lt (.cons t.minute_lt (.cons t.second_lt (.cons t.msec_lt .nil)))
  have hlength : [s.year, s.month, s.day].length = [t.year, t.month, t.day].length := rfl
  unfold instant
  rw [recombine_lt_iff (hbelow s) (hbelow t), dayNumber_lt_iff, dayNumber_eq_iff]
  exact (append_lt_append_iff hlength _ _).symm

/-! ### The text -/

/-- The parts fit their fields. -/
theorem fits_parts : FitsFields isoFields t.parts := by
  have hyear : t.year < 10 ^ 4 := t.year_lt
  have hmonth : t.month < 10 ^ 2 := by
    have := t.month_le
    omega
  have hday : t.day < 10 ^ 2 := by
    have := t.day_le
    have := daysInMonth_le t.year t.month
    omega
  have hhour : t.hour < 10 ^ 2 := by
    have := t.hour_lt
    omega
  have hminute : t.minute < 10 ^ 2 := by
    have := t.minute_lt
    omega
  have hsecond : t.second < 10 ^ 2 := by
    have := t.second_lt
    omega
  exact .cons hyear (.cons hmonth (.cons hday (.cons hhour (.cons hminute (.cons hsecond
    (.cons t.msec_lt .nil))))))

/-- **ISO texts are ordered as the instants.** -/
theorem isoText_lt_iff : s.isoText < t.isoText ↔ s.instant < t.instant := by
  rw [isoText, isoText, String.lt_iff, String.toList_ofList, String.toList_ofList,
    writeFields_lt_iff s.fits_parts t.fits_parts, instant_lt_iff]

theorem isoText_le_iff : s.isoText ≤ t.isoText ↔ s.instant ≤ t.instant := by
  rw [← not_lt, isoText_lt_iff, not_lt]

theorem isoText_inj : s.isoText = t.isoText ↔ s.instant = t.instant := by
  rw [le_antisymm_iff, le_antisymm_iff, isoText_le_iff, isoText_le_iff]

/-- The text has no NUL. -/
theorem nul_notMem_isoText : Char.ofNat 0 ∉ t.isoText.toList := by
  rw [isoText, String.toList_ofList]
  intro hmem
  rcases mem_writeFields hmem with hdigit | ⟨field, hfield, hbehind⟩
  · exact absurd hdigit (by decide)
  · have hnone : ∀ field ∈ isoFields, Char.ofNat 0 ∉ field.behind := by decide
    exact hnone field hfield hbehind

end QDateTime

end QtAppBase.Qt
