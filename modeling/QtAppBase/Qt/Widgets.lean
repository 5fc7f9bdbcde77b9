import QtAppBase.Qt.Values

/-!
# Widgets that hold values

What the windows keep in their widgets, as far as the code reads it back: a spin
box never leaves its range, whatever is typed into it, and a line edit holds no more
than its length.
-/

namespace QtAppBase.Qt

variable {minimum maximum : ℤ}

/-- A `QSpinBox` with its range. -/
structure SpinBox (minimum maximum : ℤ) where
  value : ℤ
  inRange : minimum ≤ value ∧ value ≤ maximum

/-- `setValue`, by the code or the user: the value is brought into the range. -/
def SpinBox.setValue (value : ℤ) (box : SpinBox minimum maximum) : SpinBox minimum maximum where
  value := if value < minimum then minimum else if maximum < value then maximum else value
  inRange := by
    have hrange := box.inRange
    split_ifs <;> omega

/-- A value in the range of a byte is that of the byte it is cast to. -/
theorem toNat_ofInt {value : ℤ} (hlow : 0 ≤ value) (hhigh : value < 256) :
    ((UInt8.ofInt value).toNat : ℤ) = value := by
  have hnat : (UInt8.ofInt value).toNat = (value % 2 ^ 8).toNat % 2 ^ 8 := rfl
  omega

/-- The characters at the front that fit into so many UTF-16 code units. -/
def fitting : ℕ → List Char → List Char
  | _, [] => []
  | room, c :: cs =>
    if (utf16Units c).length ≤ room then c :: fitting (room - (utf16Units c).length) cs else []

theorem length_fitting_le (room : ℕ) (cs : List Char) :
    ((fitting room cs).flatMap utf16Units).length ≤ room := by
  induction cs generalizing room with
  | nil => exact Nat.zero_le _
  | cons c cs ih =>
    unfold fitting
    split_ifs with hfits
    · have hrest := ih (room - (utf16Units c).length)
      rw [List.flatMap_cons, List.length_append]
      omega
    · exact Nat.zero_le _

/-- Characters that all fit are all kept. -/
theorem fitting_eq_self {room : ℕ} {cs : List Char}
    (h : (cs.flatMap utf16Units).length ≤ room) : fitting room cs = cs := by
  induction cs generalizing room with
  | nil => rfl
  | cons c cs ih =>
    rw [List.flatMap_cons, List.length_append] at h
    unfold fitting
    rw [if_pos (by omega), ih (by omega)]

/-- A `QLineEdit` with its default `maxLength`. -/
structure LineEdit where
  text : QString
  fits : (utf16 text).length ≤ 32767
  deriving DecidableEq, Repr

/-- `setText`: a longer text is cut. -/
def LineEdit.setText (text : QString) : LineEdit where
  text := String.ofList (fitting 32767 text.toList)
  fits := by
    rw [utf16, String.toList_ofList]
    exact length_fitting_le _ _

/-- A text that fits is shown whole. -/
theorem LineEdit.text_setText {text : QString} (h : (utf16 text).length ≤ 32767) :
    (LineEdit.setText text).text = text := by
  change String.ofList (fitting 32767 text.toList) = text
  rw [fitting_eq_self h, String.ofList_toList]

/-- A `QTableWidget`: its header labels and the texts of its cells. -/
structure TableWidget where
  headers : List QString := []
  rows : List (List QString) := []
  deriving DecidableEq, Repr

end QtAppBase.Qt
