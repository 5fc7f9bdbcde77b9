import QtAppBase.C3.TableRecords

/-!
# Integers in table records

A column of an integer type holds an unsigned number, the lowest byte first, and the
parser shifts its bytes into a signed one. The number it returns is the one that was
sent, unless the highest of eight bytes has its top bit set.
-/

namespace QtAppBase.C3

open Qt

/-- The column holds an integer. -/
def IsInteger (field : DataTableField) : Prop := field.type = 'i' ∨ field.type = 'L'

/-- The unsigned number of the bytes, the lowest first. -/
def unsignedValue (bytes : QByteArray) : ℕ := Nat.ofDigits 256 (bytes.map UInt8.toNat)

/-- A record has one value for a name, that of the last column with this name. -/
def Shown (columns : List DataTableField) (values : List QByteArray) (field : DataTableField)
    (value : QByteArray) : Prop :=
  (columns.zip values).reverse.find? (fun entry => entry.1.name = field.name) = some (field, value)

/-- A record gives every integer as the unsigned number of its bytes. -/
def UnsignedIntegers (columns : List DataTableField) (values : List QByteArray)
    (record : QVariantMap) : Prop :=
  ∀ field value, Shown columns values field value → IsInteger field →
    ∃ number : Int64, record.find? field.name = some (.longlong number) ∧
      number.toInt = unsignedValue value

/-- The top bit of the highest of eight bytes. -/
def TopBit (value : QByteArray) : Prop := value.length = 8 ∧ ∃ top ∈ value.getLast?, 128 ≤ top

/-! ### One value -/

/-- A signed number of 64 bits gives back what has 63. -/
theorem toInt_ofNat_eq_iff {n : ℕ} (h : n < 2 ^ 64) : (Int64.ofNat n).toInt = n ↔ n < 2 ^ 63 := by
  constructor
  · intro hsame
    have hbound := Int64.toInt_lt (Int64.ofNat n)
    omega
  · exact Int64.toInt_ofNat_of_lt

/-- The bytes of a number bound it. -/
theorem unsignedValue_lt (bytes : QByteArray) : unsignedValue bytes < 256 ^ bytes.length := by
  have hbound := Nat.ofDigits_lt_base_pow_length (b := 256) (l := bytes.map UInt8.toNat) (by decide)
    (by
      intro digit hdigit
      obtain ⟨byte, -, rfl⟩ := List.mem_map.mp hdigit
      exact byte.toNat_lt)
  rwa [List.length_map] at hbound

/-- A number of at most eight bytes has 63 bits, unless the top bit is set. -/
theorem unsignedValue_lt_iff {bytes : QByteArray} (hlength : bytes.length ≤ 8) :
    unsignedValue bytes < 2 ^ 63 ↔ ¬ TopBit bytes := by
  rcases Nat.lt_or_ge bytes.length 8 with hshort | height
  · have hvalue : unsignedValue bytes < 2 ^ 63 := by
      calc unsignedValue bytes < 256 ^ bytes.length := unsignedValue_lt bytes
        _ ≤ 256 ^ 7 := Nat.pow_le_pow_right (by decide) (by omega)
        _ ≤ 2 ^ 63 := by decide
    have htop : ¬ TopBit bytes := by
      rintro ⟨height, -⟩
      omega
    exact iff_of_true hvalue htop
  · obtain ⟨front, top, rfl⟩ : ∃ front top, bytes = front ++ [top] := by
      cases bytes using List.reverseRecOn with
      | nil => simp at height
      | append_singleton front top => exact ⟨front, top, rfl⟩
    rw [List.length_append, List.length_singleton] at hlength height
    have hfront : front.length = 7 := by omega
    have hlow : unsignedValue front < 256 ^ 7 := by
      rw [← hfront]
      exact unsignedValue_lt front
    have hvalue : unsignedValue (front ++ [top]) = unsignedValue front + 256 ^ 7 * top.toNat := by
      unfold unsignedValue
      rw [List.map_append, Nat.ofDigits_append, List.length_map, hfront, List.map_singleton,
        Nat.ofDigits_singleton]
    have htop : TopBit (front ++ [top]) ↔ 128 ≤ top.toNat := by
      unfold TopBit
      rw [List.length_append, hfront, List.getLast?_concat]
      simp [UInt8.le_iff_toNat_le]
    rw [hvalue, htop]
    omega

/-- **An integer in a column is the unsigned number**, unless the top bit is set. -/
theorem columnValue_unsigned_iff {field : DataTableField} {value : QByteArray}
    (hinteger : IsInteger field) (hfits : Fits field value) :
    (∃ number : Int64, columnValue field value = .longlong number ∧
      number.toInt = unsignedValue value) ↔ ¬ TopBit value := by
  have htext : field.type ≠ 's' := by
    intro htext
    unfold IsInteger at hinteger
    rw [htext] at hinteger
    exact absurd hinteger (by decide)
  have hlength : value.length ≤ 8 := by
    rcases hfits.2 with ⟨-, hlength⟩ | htype
    · exact hlength
    · exact absurd htype htext
  have hvalue : unsignedValue value < 2 ^ 64 := by
    calc unsignedValue value < 256 ^ value.length := unsignedValue_lt value
      _ ≤ 256 ^ 8 := Nat.pow_le_pow_right (by decide) hlength
      _ = 2 ^ 64 := by decide
  have hcolumn : columnValue field value = .longlong (Int64.ofNat (unsignedValue value)) :=
    if_neg htext
  rw [hcolumn, ← unsignedValue_lt_iff hlength, ← toInt_ofNat_eq_iff hvalue]
  constructor
  · rintro ⟨number, hnumber, hsame⟩
    rwa [← QVariant.longlong.inj hnumber] at hsame
  · intro hsame
    exact ⟨_, rfl, hsame⟩

/-! ### A record -/

variable {columns : List DataTableField} {values : List QByteArray}

/-- What is shown is a column with its value. -/
theorem Shown.fits {field : DataTableField} {value : QByteArray}
    (hfits : List.Forall₂ Fits columns values) (h : Shown columns values field value) :
    Fits field value := by
  have hmem : (field, value) ∈ columns.zip values :=
    List.mem_reverse.mp (List.mem_of_find?_eq_some h)
  exact List.forall₂_zip hfits hmem

/-- The record of a block is right about its integers, if no top bit is set in them. -/
theorem unsignedIntegers_fillRecord_iff (hfits : List.Forall₂ Fits columns values) :
    UnsignedIntegers columns values (fillRecord (columns.zip values) QVariantMap.empty) ↔
      ∀ field value, Shown columns values field value → IsInteger field → ¬ TopBit value := by
  have hrecord : ∀ field value, Shown columns values field value →
      (fillRecord (columns.zip values) QVariantMap.empty).find? field.name =
        some (columnValue field value) := by
    intro field value hshown
    rw [fillRecord_recordOf columns values field.name, hshown]
    rfl
  unfold UnsignedIntegers
  apply forall₂_congr
  intro field value
  apply forall₂_congr
  intro hshown hinteger
  rw [hrecord field value hshown, ← columnValue_unsigned_iff hinteger (hshown.fits hfits)]
  simp only [Option.some.injEq]

/-! ### The payload -/

/-- The records of a payload give every integer as the unsigned number of its bytes. -/
def ReadsUnsigned (payload : QByteArray) (expectedTableIndex : ℤ)
    (tableFields : List DataTableField) : Prop :=
  ∀ columns blocks, IsTablePayload payload expectedTableIndex tableFields columns blocks →
    List.Forall₂ (UnsignedIntegers columns) blocks
      (parseGetDataPayload payload expectedTableIndex tableFields).records

/-- **Integers are unsigned, up to the top bit.** The records of a payload give every
integer as the number that was sent if and only if none has eight bytes with the top bit
of the highest one set. -/
theorem readsUnsigned_iff (payload : QByteArray) (expectedTableIndex : ℤ)
    (tableFields : List DataTableField) :
    ReadsUnsigned payload expectedTableIndex tableFields ↔
      ∀ columns blocks, IsTablePayload payload expectedTableIndex tableFields columns blocks →
        ∀ values ∈ blocks, ∀ field value, Shown columns values field value → IsInteger field →
          ¬ TopBit value := by
  unfold ReadsUnsigned
  apply forall₂_congr
  intro columns blocks
  apply forall_congr'
  intro hpayload
  rw [hpayload.parse, List.forall₂_map_right_iff, List.forall₂_same]
  apply forall₂_congr
  intro values hvalues
  exact unsignedIntegers_fillRecord_iff (hpayload.fits values hvalues)

/-- A number of eight bytes with all bits set is read as minus one. -/
theorem allBits_negative :
    ¬ ReadsUnsigned ([1, 1, 1, 8] ++ List.replicate 8 0xFF) 1 [⟨"CardNo", 'L', 1⟩] := by
  intro h
  have hfirst : FirstWithIndex [⟨"CardNo", 'L', 1⟩] 1 ⟨"CardNo", 'L', 1⟩ :=
    ⟨[], [], rfl, rfl, by simp⟩
  have hfits : Fits ⟨"CardNo", 'L', 1⟩ (List.replicate 8 0xFF) :=
    ⟨by decide, .inl ⟨.inr rfl, by decide⟩⟩
  have hpayload : IsTablePayload ([1, 1, 1, 8] ++ List.replicate 8 0xFF) 1 [⟨"CardNo", 'L', 1⟩]
      [⟨"CardNo", 'L', 1⟩] [[List.replicate 8 0xFF]] :=
    ⟨⟨1, [1], by decide, by decide, .cons hfirst .nil, by decide⟩, by simpa using hfits, by simp⟩
  have hrecords := h _ _ hpayload
  rw [hpayload.parse] at hrecords
  obtain ⟨number, hnumber, hvalue⟩ :=
    (List.forall₂_cons.mp hrecords).1 ⟨"CardNo", 'L', 1⟩ (List.replicate 8 0xFF) rfl (.inr rfl)
  have hminus : number = -1 := by
    apply QVariant.longlong.inj
    apply Option.some.inj
    rw [← hnumber]
    decide
  rw [hminus] at hvalue
  exact absurd hvalue (by decide)

end QtAppBase.C3
