import QtAppBase.C3.KeyValues
import QtAppBase.Qt.Decimals

/-!
# The table configuration there and back

A device describes each of its tables on a line of its own: the name and the
index of the table, and then every field with its type and its index. The
decoder gives back exactly the tables that are described in this way, whatever
the type characters are.
-/

namespace QtAppBase.C3

open Library Qt

/-! ### Descriptions -/

/-- An index is written in decimals, and fits an integer. -/
def IsIndex (index : ℤ) : Prop := 0 ≤ index ∧ index < 2 ^ 31

instance (index : ℤ) : Decidable (IsIndex index) := inferInstanceAs (Decidable (_ ∧ _))

/-- A field that can be described. -/
structure IsField (field : DataTableField) : Prop where
  name : IsKey field.name
  type : field.type.toNat < 0x100 ∧ field.type ≠ ',' ∧ field.type ≠ '\t' ∧ field.type ≠ '\n' ∧
    field.type ≠ Char.ofNat 0
  index : IsIndex field.index

/-- A table that can be described. -/
structure IsTable (table : DataTableConfig) : Prop where
  name : IsKey table.name
  index : IsIndex table.index
  fields : ∀ field ∈ table.fields, IsField field

/-- A field as a pair: its name, and its type and index. -/
def fieldPair (field : DataTableField) : QString × QString :=
  (field.name, String.singleton field.type ++ toString field.index)

/-- A table as pairs: its name and index, and its fields. -/
def tablePairs (table : DataTableConfig) : List (QString × QString) :=
  (table.name, toString table.index) :: table.fields.map fieldPair

/-- A table on a line. -/
def tableLine (table : DataTableConfig) : QString := joinPairs (tablePairs table)

/-- The lines of some tables, each with a newline behind it. -/
def tablesPayload (tables : List DataTableConfig) : QByteArray :=
  tables.flatMap fun table => toLatin1 (tableLine table) ++ [10]

/-! ### Decoding a line -/

/-- An index in decimals is a value of digits. -/
theorem IsIndex.isValue {index : ℤ} (h : IsIndex index) : IsValue (toString index) := by
  have hdigits := toString_toList h.1
  refine ⟨fun hempty => ?_, fun c hc => ?_⟩
  · rw [hempty] at hdigits
    exact Nat.toDigits_ne_nil hdigits.symm
  · have hrange := isDigit_toNat (isDigit_of_mem_toString h.1 hc)
    have hcomma : c ≠ ',' := by
      rintro rfl
      exact absurd hrange (by decide)
    have htab : c ≠ '\t' := by
      rintro rfl
      exact absurd hrange (by decide)
    simp [isValueChar, hcomma, htab]

/-- The characters of a described field. -/
theorem fieldPair_toList (field : DataTableField) :
    (fieldPair field).2.toList = field.type :: (toString field.index).toList := by
  rw [fieldPair, String.toList_append, String.toList_singleton]
  rfl

/-- A described field is a pair of the pattern. -/
theorem IsField.isPair {field : DataTableField} (h : IsField field) :
    IsKey (fieldPair field).1 ∧ IsValue (fieldPair field).2 := by
  have hindex := h.index.isValue
  refine ⟨h.name, fun hempty => ?_, fun c hc => ?_⟩
  · have hlist := fieldPair_toList field
    rw [hempty] at hlist
    cases hlist
  · rw [fieldPair_toList] at hc
    rcases List.mem_cons.mp hc with rfl | hc
    · simp [isValueChar, h.type.2.1, h.type.2.2.1]
    · exact hindex.2 c hc

/-- A described table consists of pairs of the pattern. -/
theorem IsTable.isPair {table : DataTableConfig} (h : IsTable table) :
    ∀ pair ∈ tablePairs table, IsKey pair.1 ∧ IsValue pair.2 := by
  intro pair hpair
  rcases List.mem_cons.mp hpair with rfl | hpair
  · exact ⟨h.name, h.index.isValue⟩
  · obtain ⟨field, hfield, rfl⟩ := List.mem_map.mp hpair
    exact (h.fields field hfield).isPair

/-- A digit survives in a line, and does not end it. -/
theorem digit_lineChar {c : Char} (h : c.isDigit = true) : IsLineChar c ∧ c ≠ '\n' := by
  have hrange := isDigit_toNat h
  refine ⟨⟨by omega, ?_⟩, ?_⟩
  · rintro rfl
    exact absurd hrange (by decide)
  · rintro rfl
    exact absurd hrange (by decide)

/-- The characters of a line survive in it, and none is a newline. -/
theorem tableLine_chars {table : DataTableConfig} (h : IsTable table) :
    ∀ c ∈ (tableLine table).toList, IsLineChar c ∧ c ≠ '\n' := by
  have hkey : ∀ key : QString, IsKey key → ∀ c ∈ key.toList, IsLineChar c ∧ c ≠ '\n' := by
    intro key hkey c hc
    refine ⟨isKeyChar_lineChar (hkey.2 c hc), ?_⟩
    rintro rfl
    exact absurd (hkey.2 _ hc) (by decide)
  have hindex : ∀ index : ℤ, IsIndex index →
      ∀ c ∈ (toString index).toList, IsLineChar c ∧ c ≠ '\n' :=
    fun index hindex c hc => digit_lineChar (isDigit_of_mem_toString hindex.1 hc)
  refine forall_mem_joinPairs ⟨⟨by decide, by decide⟩, by decide⟩
    ⟨⟨by decide, by decide⟩, by decide⟩ fun pair hpair => ⟨hkey _ (h.isPair pair hpair).1, ?_⟩
  rcases List.mem_cons.mp hpair with rfl | hfield
  · exact hindex table.index h.index
  · obtain ⟨field, hmem, rfl⟩ := List.mem_map.mp hfield
    have hfield := h.fields field hmem
    intro c hc
    rw [fieldPair_toList] at hc
    rcases List.mem_cons.mp hc with rfl | hc
    · exact ⟨⟨hfield.type.1, hfield.type.2.2.2.2⟩, hfield.type.2.2.2.1⟩
    · exact hindex field.index hfield.index c hc

/-- A described field is decoded. -/
theorem decodeField_fieldPair {field : DataTableField} (h : IsField field) :
    decodeField (fieldPair field) = some field := by
  rw [decodeField, fieldPair_toList]
  dsimp only
  rw [String.ofList_toList, toInt_toString h.index.1 h.index.2]
  rfl

/-- A described table is decoded from its line. -/
theorem decodeTableLine_tableLine {table : DataTableConfig} (h : IsTable table) :
    decodeTableLine (toLatin1 (tableLine table)) = some table := by
  have hchars : ∀ c ∈ (tableLine table).toList, IsLineChar c := fun c hc =>
    (tableLine_chars h c hc).1
  have hfields : (table.fields.map fieldPair).filterMap decodeField = table.fields := by
    rw [List.filterMap_map]
    refine (List.filterMap_congr fun field hfield => ?_).trans (List.filterMap_some)
    exact decodeField_fieldPair (h.fields field hfield)
  rw [decodeTableLine, tableLine, parseKeyValuePairs_joinPairs h.isPair hchars, tablePairs]
  dsimp only
  rw [toInt_toString h.index.1 h.index.2, hfields]

/-! ### Decoding the tables -/

/-- No byte of a line is a newline. -/
theorem newline_notMem_tableLine {table : DataTableConfig} (h : IsTable table) :
    (10 : UInt8) ∉ toLatin1 (tableLine table) := by
  have hlatin1 : IsLatin1 (tableLine table).toList := fun c hc => (tableLine_chars h c hc).1.1
  rw [toLatin1_eq hlatin1]
  intro hmem
  obtain ⟨c, hc, hbyte⟩ := List.mem_map.mp hmem
  obtain ⟨⟨hlow, -⟩, hnewline⟩ := tableLine_chars h c hc
  have hvalue := congrArg UInt8.toNat hbyte
  rw [UInt8.toNat_ofNat_of_lt' hlow] at hvalue
  exact hnewline (Char.toNat_inj.mp hvalue)

/-- Each line of the payload gives its table, and the end gives none. -/
theorem decodeLines_tablesPayload {tables : List DataTableConfig}
    (h : ∀ table ∈ tables, IsTable table) :
    ((tablesPayload tables).splitOn 10).filterMap decodeTableLine = tables := by
  induction tables with
  | nil => rfl
  | cons table tables ih =>
    obtain ⟨htable, htables⟩ := List.forall_mem_cons.mp h
    have hpayload : tablesPayload (table :: tables) =
        toLatin1 (tableLine table) ++ 10 :: tablesPayload tables := by
      rw [tablesPayload, List.flatMap_cons, List.append_assoc]
      rfl
    rw [hpayload, List.splitOn_append_cons_self_of_not_mem (newline_notMem_tableLine htable),
      List.filterMap_cons_some (decodeTableLine_tableLine htable), ih htables]

/-- **Described tables are decoded**, all of them and in order, in both session modes. -/
theorem decodeDataTableConfigResponse_tablesPayload {tables : List DataTableConfig} {b : Bool}
    (htables : ∀ table ∈ tables, IsTable table)
    (hlength : (if b then 4 else 0) + (tablesPayload tables).length < 2 ^ 16)
    (sessionId : UInt16) (requestNr : Int32) :
    decodeDataTableConfigResponse
        (encodeFrame kReplyOk sessionId requestNr (tablesPayload tables) b) b =
      { status := .ok, tables := tables } := by
  have hframe : decodeFrameGeneric
      (encodeFrame kReplyOk sessionId requestNr (tablesPayload tables) b) b =
        { status := .ok, payload := tablesPayload tables, command := kReplyOk } :=
    (decodeFrameGeneric_encodeFrame hlength (by decide)).2
  rw [decodeDataTableConfigResponse, hframe]
  dsimp only
  rw [if_neg (not_not.mpr rfl), decodeLines_tablesPayload htables]

/-- A table without fields, and one whose fields have an equals sign and a digit as types. -/
def oddTables : List DataTableConfig :=
  [{ name := "user", index := 1 },
   { name := "log"
     index := 2147483647
     fields := [⟨"Pin", '=', 0⟩, ⟨"Time", '7', 12⟩] }]

theorem oddTables_decoded :
    decodeDataTableConfigResponse (encodeFrame kReplyOk 5 9 (tablesPayload oddTables) true) true =
      { status := .ok, tables := oddTables } := by
  refine decodeDataTableConfigResponse_tablesPayload ?_ (by decide +kernel) 5 9
  intro table htable
  rcases List.mem_cons.mp htable with rfl | htable
  · exact ⟨by decide +kernel, by decide, by simp⟩
  · obtain rfl := List.mem_singleton.mp htable
    refine ⟨by decide +kernel, by decide, fun field hfield => ?_⟩
    rcases List.mem_cons.mp hfield with rfl | hfield
    · exact ⟨by decide +kernel, by decide, by decide⟩
    · obtain rfl := List.mem_singleton.mp hfield
      exact ⟨by decide +kernel, by decide, by decide⟩

end QtAppBase.C3
