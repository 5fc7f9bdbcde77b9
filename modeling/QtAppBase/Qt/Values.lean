import Mathlib.Algebra.Group.Int.Defs
import Mathlib.Algebra.Group.Nat.Defs
import Mathlib.Data.List.Lex
import Mathlib.Order.Defs.LinearOrder
import Mathlib.Tactic.Common

/-!
# Qt value types

Byte arrays, strings, variants and variant maps, as far as the drivers use
them. Strings hold UTF-16 code units in Qt, which matters for the order of map
keys and for the conversion to Latin-1.
-/

namespace QtAppBase.Qt

/-- `QByteArray`: the bytes themselves. -/
abbrev QByteArray := List UInt8

/-- `QString`. -/
abbrev QString := String

/-- The byte at an index that lies inside the array. -/
def byteAt (data : QByteArray) (index : ℕ) : UInt8 := data.getD index 0

/-- `QByteArray::mid`. -/
def mid (data : QByteArray) (pos len : ℕ) : QByteArray := (data.drop pos).take len

/-- A byte inside the first array is that byte of the whole. -/
theorem byteAt_append_left {data : QByteArray} (more : QByteArray) {i : ℕ} (hi : i < data.length) :
    byteAt (data ++ more) i = byteAt data i := by
  rw [byteAt, byteAt, List.getD_eq_getElem?_getD, List.getD_eq_getElem?_getD,
    List.getElem?_append_left hi]

/-- A byte behind the first part of an array. -/
theorem byteAt_append_right (front back : QByteArray) (i : ℕ) :
    byteAt (front ++ back) (front.length + i) = byteAt back i := by
  rw [byteAt, byteAt, List.getD_eq_getElem?_getD, List.getD_eq_getElem?_getD,
    List.getElem?_append_right (Nat.le_add_right _ _), Nat.add_sub_cancel_left]

/-- The UTF-16 code units of a character. -/
def utf16Units (c : Char) : List UInt16 :=
  if c.toNat < 0x10000 then [UInt16.ofNat c.toNat]
  else
    let offset := c.toNat - 0x10000
    [UInt16.ofNat (0xD800 + offset / 0x400), UInt16.ofNat (0xDC00 + offset % 0x400)]

/-- The UTF-16 code units of a string. -/
def utf16 (s : QString) : List UInt16 := s.toList.flatMap utf16Units

/-- The first code unit of a character tells how many it has, and with them the
character. -/
theorem utf16Units_append_inj {a b : Char} {s t : List UInt16}
    (h : utf16Units a ++ s = utf16Units b ++ t) : a = b ∧ s = t := by
  have hofNat : ∀ {m n : ℕ}, m < 0x10000 → n < 0x10000 →
      UInt16.ofNat m = UInt16.ofNat n → m = n := by
    intro m n hm hn heq
    have := congrArg UInt16.toNat heq
    simpa [Nat.mod_eq_of_lt hm, Nat.mod_eq_of_lt hn] using this
  have ha : a.toNat < 0xD800 ∨ 0xDFFF < a.toNat ∧ a.toNat < 0x110000 := a.valid
  have hb : b.toNat < 0xD800 ∨ 0xDFFF < b.toNat ∧ b.toNat < 0x110000 := b.valid
  unfold utf16Units at h
  dsimp only at h
  split_ifs at h with hasmall hbsmall hbsmall
  · obtain ⟨hunit, hrest⟩ := List.cons.inj h
    exact ⟨Char.toNat_inj.mp (hofNat hasmall hbsmall hunit), hrest⟩
  · have hunit := hofNat hasmall (by omega) (List.cons.inj h).1
    omega
  · have hunit := hofNat (by omega) hbsmall (List.cons.inj h).1
    omega
  · obtain ⟨hhigh, htail⟩ := List.cons.inj h
    obtain ⟨hlow, hrest⟩ := List.cons.inj htail
    have hhigh := hofNat (by omega) (by omega) hhigh
    have hlow := hofNat (by omega) (by omega) hlow
    exact ⟨Char.toNat_inj.mp (by omega), hrest⟩

/-- Different strings have different code units. -/
theorem utf16_injective : Function.Injective utf16 := by
  have hchars : ∀ cs ds : List Char, cs.flatMap utf16Units = ds.flatMap utf16Units → cs = ds := by
    have hpos : ∀ (c : Char) (s : List UInt16), utf16Units c ++ s ≠ [] := by
      intro c s
      unfold utf16Units
      split_ifs <;> simp
    intro cs
    induction cs with
    | nil =>
      intro ds h
      cases ds with
      | nil => rfl
      | cons d ds => exact absurd h.symm (hpos d _)
    | cons c cs ih =>
      intro ds h
      cases ds with
      | nil => exact absurd h (hpos c _)
      | cons d ds =>
        obtain ⟨rfl, hrest⟩ := utf16Units_append_inj h
        rw [ih ds hrest]
  intro s t h
  exact String.toList_injective (hchars _ _ h)

/-- `QString::toLatin1`: code units outside Latin-1 become question marks. -/
def toLatin1 (s : QString) : QByteArray :=
  (utf16 s).map fun unit => if unit < 256 then unit.toUInt8 else 63

/-- `QString::fromLatin1`, as characters. -/
def latin1Chars (data : QByteArray) : List Char := data.map fun byte => Char.ofNat byte.toNat

/-- `QString::fromLatin1` of bytes and their number. -/
def fromLatin1 (data : QByteArray) : QString := String.ofList (latin1Chars data)

/-- `QString::fromLatin1` of a `QByteArray`, as characters: a zero byte ends it. -/
def latin1Text (data : QByteArray) : List Char := latin1Chars (data.takeWhile (· ≠ 0))

/-- `QChar::isSpace`: the controls that count as white space, and the separators. -/
def isSpace (c : Char) : Bool :=
  c.toNat = 0x20 || (0x09 ≤ c.toNat && c.toNat ≤ 0x0D) || c.toNat = 0x85 || c.toNat = 0xA0 ||
    c.toNat = 0x1680 || (0x2000 ≤ c.toNat && c.toNat ≤ 0x200A) || c.toNat = 0x2028 ||
    c.toNat = 0x2029 || c.toNat = 0x202F || c.toNat = 0x205F || c.toNat = 0x3000

/-- The characters between leading and trailing white space. -/
def trimmed (s : List Char) : List Char :=
  ((s.dropWhile isSpace).reverse.dropWhile isSpace).reverse

/-- The value of decimal digits. -/
def digitsValue (digits : List Char) : ℤ :=
  digits.foldl (fun value c => 10 * value + (c.toNat - '0'.toNat)) 0

/-- `QString::toInt`, a decimal number that fits a 32-bit integer; `none` where it sets `ok` to
`false`. -/
def toInt? (s : QString) : Option ℤ :=
  let (sign, digits) : ℤ × List Char :=
    match trimmed s.toList with
    | '-' :: digits => (-1, digits)
    | '+' :: digits => (1, digits)
    | digits => (1, digits)
  let value := sign * digitsValue digits
  if digits ≠ [] ∧ digits.all Char.isDigit ∧ -2 ^ 31 ≤ value ∧ value < 2 ^ 31 then some value
  else none

/-- `QString::toInt` without `ok`: a failure reads as zero. -/
def toInt (s : QString) : ℤ := (toInt? s).getD 0

/-- A decimal number without a minus, below the bound. -/
def unsignedNumber? (bound : ℕ) (s : QString) : Option ℕ :=
  let digits :=
    match trimmed s.toList with
    | '+' :: digits => digits
    | digits => digits
  let value := (digitsValue digits).toNat
  if digits ≠ [] ∧ digits.all Char.isDigit ∧ value < bound then some value else none

/-- `QString::toUInt`. -/
def toUInt : QString → Option ℕ := unsignedNumber? (2 ^ 32)

/-- `QString::toULongLong`. -/
def toULongLong : QString → Option ℕ := unsignedNumber? (2 ^ 64)

/-- The `QVariant`s the drivers make and accept, and those the settings hold. -/
inductive QVariant where
  | string (value : QString)
  | longlong (value : Int64)
  deriving DecidableEq, Repr

/-- `QVariant::toString`. -/
def QVariant.toString : QVariant → QString
  | .string value => value
  | .longlong value => ToString.toString value.toInt

/-- `QVariant::toULongLong`, if the value can be converted. -/
def QVariant.toULongLong : QVariant → Option ℕ
  | .string value => Qt.toULongLong value
  | .longlong value => some (value.toInt % 2 ^ 64).toNat

/-- `QVariant::toUInt`: what does not fit is cut to 32 bits. -/
def QVariant.toUInt (value : QVariant) : Option ℕ := value.toULongLong.map (· % 2 ^ 32)

/-- The order of `QMap` keys: by UTF-16 code units. -/
def keyLess (a b : QString) : Prop := utf16 a < utf16 b

instance (a b : QString) : Decidable (keyLess a b) := inferInstanceAs (Decidable (_ < _))

/-- The order of keys is transitive. -/
theorem keyLess_trans {a b c : QString} (hab : keyLess a b) (hbc : keyLess b c) : keyLess a c := by
  have hab : utf16 a < utf16 b := hab
  have hbc : utf16 b < utf16 c := hbc
  exact List.lt_trans hab hbc

/-- Keys that are not ordered are the same. -/
theorem eq_of_not_keyLess {a b : QString} (hab : ¬ keyLess a b) (hba : ¬ keyLess b a) : a = b := by
  apply utf16_injective
  exact List.le_antisymm (List.not_lt.mp hba) (List.not_lt.mp hab)

/-- `QMap` iterates its entries by increasing key. -/
def Ascending (entries : List (QString × QVariant)) : Prop :=
  entries.Pairwise fun a b => keyLess a.1 b.1

/-- Insert an entry at its place; the value of an equal key is replaced. -/
def insertEntry (key : QString) (value : QVariant) :
    List (QString × QVariant) → List (QString × QVariant)
  | [] => [(key, value)]
  | entry :: rest =>
    if keyLess key entry.1 then (key, value) :: entry :: rest
    else if keyLess entry.1 key then entry :: insertEntry key value rest
    else (entry.1, value) :: rest

/-- Inserting an entry adds no key but its own. -/
theorem mem_insertEntry {key : QString} {value : QVariant} {entries : List (QString × QVariant)}
    {entry : QString × QVariant} (h : entry ∈ insertEntry key value entries) :
    entry.1 = key ∨ ∃ old ∈ entries, entry.1 = old.1 := by
  induction entries with
  | nil => simp_all [insertEntry]
  | cons first rest ih =>
    unfold insertEntry at h
    split_ifs at h
    · rcases List.mem_cons.mp h with rfl | h
      · exact Or.inl rfl
      · exact Or.inr ⟨entry, h, rfl⟩
    · rcases List.mem_cons.mp h with rfl | h
      · exact Or.inr ⟨entry, List.mem_cons_self, rfl⟩
      · rcases ih h with hkey | ⟨old, hold, hsame⟩
        · exact Or.inl hkey
        · exact Or.inr ⟨old, List.mem_cons_of_mem _ hold, hsame⟩
    · rcases List.mem_cons.mp h with rfl | h
      · exact Or.inr ⟨first, List.mem_cons_self, rfl⟩
      · exact Or.inr ⟨entry, List.mem_cons_of_mem _ h, rfl⟩

/-- Inserting an entry keeps the keys in order. -/
theorem insertEntry_ascending {key : QString} {value : QVariant}
    {entries : List (QString × QVariant)} (h : Ascending entries) :
    Ascending (insertEntry key value entries) := by
  induction entries with
  | nil => simp [insertEntry, Ascending]
  | cons first rest ih =>
    obtain ⟨hfirst, hrest⟩ := List.pairwise_cons.mp h
    unfold insertEntry
    split_ifs with hbefore hafter
    · refine List.pairwise_cons.mpr ⟨?_, h⟩
      intro entry hentry
      rcases List.mem_cons.mp hentry with rfl | hentry
      · exact hbefore
      · exact keyLess_trans hbefore (hfirst entry hentry)
    · refine List.pairwise_cons.mpr ⟨?_, ih hrest⟩
      intro entry hentry
      rcases mem_insertEntry hentry with hkey | ⟨old, hold, hsame⟩
      · rw [hkey]
        exact hafter
      · rw [hsame]
        exact hfirst old hold
    · exact List.pairwise_cons.mpr ⟨hfirst, hrest⟩

/-- The entries after inserting one are this one and old ones. -/
theorem eq_or_mem_of_mem_insertEntry {key : QString} {value : QVariant}
    {entries : List (QString × QVariant)} {entry : QString × QVariant}
    (h : entry ∈ insertEntry key value entries) : entry = (key, value) ∨ entry ∈ entries := by
  induction entries with
  | nil => exact Or.inl (List.mem_singleton.mp h)
  | cons first rest ih =>
    unfold insertEntry at h
    split_ifs at h with hbefore hafter
    · exact List.mem_cons.mp h
    · rcases List.mem_cons.mp h with rfl | h
      · exact Or.inr List.mem_cons_self
      · exact (ih h).imp_right (List.mem_cons_of_mem _)
    · rcases List.mem_cons.mp h with rfl | h
      · rw [eq_of_not_keyLess hafter hbefore]
        exact Or.inl rfl
      · exact Or.inr (List.mem_cons_of_mem _ h)

/-- An entry with the greatest key is inserted at the end. -/
theorem insertEntry_greatest {key : QString} {value : QVariant}
    {entries : List (QString × QVariant)} (h : ∀ entry ∈ entries, keyLess entry.1 key) :
    insertEntry key value entries = entries ++ [(key, value)] := by
  induction entries with
  | nil => rfl
  | cons first rest ih =>
    obtain ⟨hfirst, hrest⟩ := List.forall_mem_cons.mp h
    have hnot : ¬ keyLess key first.1 := fun hkey =>
      List.lt_irrefl _ (keyLess_trans hfirst hkey)
    unfold insertEntry
    rw [if_neg hnot, if_pos hfirst, ih hrest]
    rfl

/-- The value of a key. -/
def lookupEntry (name : QString) (entries : List (QString × QVariant)) : Option QVariant :=
  (entries.find? fun entry => entry.1 = name).map (·.2)

/-- Inserting an entry gives its key the new value, and leaves the others alone. -/
theorem lookupEntry_insertEntry (key : QString) (value : QVariant) (name : QString)
    (entries : List (QString × QVariant)) :
    lookupEntry name (insertEntry key value entries) =
      if key = name then some value else lookupEntry name entries := by
  induction entries with
  | nil => by_cases hname : key = name <;> simp [insertEntry, lookupEntry, hname]
  | cons entry rest ih =>
    unfold insertEntry
    by_cases hbefore : keyLess key entry.1
    · rw [if_pos hbefore]
      by_cases hname : key = name <;> simp [lookupEntry, hname]
    · rw [if_neg hbefore]
      by_cases hafter : keyLess entry.1 key
      · rw [if_pos hafter]
        by_cases hentry : entry.1 = name
        · -- the inserted key comes later, so it is another one
          have hname : key ≠ name := by
            rintro rfl
            rw [hentry] at hafter
            exact List.lt_irrefl _ hafter
          simp [lookupEntry, hentry, hname]
        · rw [lookupEntry, List.find?_cons_of_neg (by simpa using hentry), ← lookupEntry, ih,
            lookupEntry, lookupEntry, List.find?_cons_of_neg (by simpa using hentry)]
      · rw [if_neg hafter]
        have hkey : entry.1 = key := eq_of_not_keyLess hafter hbefore
        by_cases hname : key = name <;> simp [lookupEntry, hkey, hname]

/-- `QVariantMap`. -/
structure QVariantMap where
  entries : List (QString × QVariant)
  ascending : Ascending entries

namespace QVariantMap

instance : DecidableEq QVariantMap := fun a b =>
  decidable_of_iff (a.entries = b.entries)
    ⟨fun h => by cases a; cases b; simp_all, fun h => h ▸ rfl⟩

/-- The map without entries. -/
def empty : QVariantMap := ⟨[], List.Pairwise.nil⟩

/-- `QMap::insert`. -/
def insert (key : QString) (value : QVariant) (map : QVariantMap) : QVariantMap :=
  ⟨insertEntry key value map.entries, insertEntry_ascending map.ascending⟩

/-- The value of a key. -/
def find? (map : QVariantMap) (name : QString) : Option QVariant := lookupEntry name map.entries

/-- An inserted key has the new value, and the others keep theirs. -/
theorem find?_insert (key : QString) (value : QVariant) (map : QVariantMap) (name : QString) :
    (map.insert key value).find? name = if key = name then some value else map.find? name :=
  lookupEntry_insertEntry key value name map.entries

/-- Inserting entries in the order of their keys gives these entries. -/
theorem entries_foldl_insert (entries : List (QString × QVariant)) (map : QVariantMap)
    (h : Ascending (map.entries ++ entries)) :
    (entries.foldl (fun map entry => map.insert entry.1 entry.2) map).entries =
      map.entries ++ entries := by
  induction entries generalizing map with
  | nil => exact (List.append_nil _).symm
  | cons entry entries ih =>
    have hgreatest : ∀ old ∈ map.entries, keyLess old.1 entry.1 := fun old hold =>
      (List.pairwise_append.mp h).2.2 old hold entry List.mem_cons_self
    have hinsert : (map.insert entry.1 entry.2).entries = map.entries ++ [entry] :=
      insertEntry_greatest hgreatest
    have hsplit : map.entries ++ entry :: entries =
        (map.insert entry.1 entry.2).entries ++ entries := by
      rw [hinsert, List.append_assoc]
      rfl
    rw [hsplit] at h ⊢
    exact ih _ h

end QVariantMap

end QtAppBase.Qt
