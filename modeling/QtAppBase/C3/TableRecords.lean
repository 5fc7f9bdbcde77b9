import QtAppBase.Library.Reading
import QtAppBase.C3.FrameDecoding
import Mathlib.Data.List.Forall2
import Mathlib.Data.Nat.Digits.Lemmas

/-!
# The grammar of table records

A table reply names the table and the returned columns, and then gives records
to its end: for each column a size and that many bytes. The parser accepts
exactly this grammar, and what it returns is the meaning of the blocks it read.
-/

namespace QtAppBase.C3

open Library Qt

/-! ### The grammar -/

/-- A value on the wire: its size and its bytes. -/
def valueBlock (value : QByteArray) : QByteArray := UInt8.ofNat value.length :: value

/-- A record on the wire: its values in the order of the columns. -/
def recordBlock (values : List QByteArray) : QByteArray := values.flatMap valueBlock

/-- What may stand in a column: a value that a size byte can announce, of at most
eight bytes for an integer, in a column of a known type. -/
def Fits (field : DataTableField) (value : QByteArray) : Prop :=
  value.length < 2 ^ 8 ∧
    ((field.type = 'i' ∨ field.type = 'L') ∧ value.length ≤ 8 ∨ field.type = 's')

/-- The meaning of the bytes in a column: an integer in two's complement, the
lowest byte first, or text. -/
def columnValue (field : DataTableField) (value : QByteArray) : QVariant :=
  if field.type = 's' then .string (fromLatin1 value)
  else .longlong (Int64.ofNat (Nat.ofDigits 256 (value.map UInt8.toNat)))

/-- The field is the first one with that index. -/
def FirstWithIndex (tableFields : List DataTableField) (index : UInt8) (field : DataTableField) :
    Prop :=
  ∃ before after, tableFields = before ++ field :: after ∧ field.index = (index.toNat : ℤ) ∧
    ∀ other ∈ before, other.index ≠ (index.toNat : ℤ)

/-- A record gives every name the value of the last column of that name. -/
def RecordOf (columns : List DataTableField) (values : List QByteArray) (record : QVariantMap) :
    Prop :=
  ∀ name, record.find? name =
    ((columns.zip values).reverse.find? fun entry => entry.1.name = name).map fun entry =>
      columnValue entry.1 entry.2

/-- A payload made of a header with the table's index and the columns' indexes,
and of record blocks. Without columns there are no records. -/
structure IsTablePayload (payload : QByteArray) (expectedTableIndex : ℤ)
    (tableFields columns : List DataTableField) (blocks : List (List QByteArray)) : Prop where
  /-- The table, the number of columns, the columns and the records. -/
  layout : ∃ (table : UInt8) (indexes : List UInt8),
    (table.toNat : ℤ) = expectedTableIndex % 2 ^ 8 ∧
    indexes.length < 2 ^ 8 ∧ List.Forall₂ (FirstWithIndex tableFields) indexes columns ∧
    payload = table :: UInt8.ofNat indexes.length :: indexes ++ (blocks.map recordBlock).flatten
  /-- Every block has a value for every column. -/
  fits : ∀ values ∈ blocks, List.Forall₂ Fits columns values
  /-- A record has at least one column. -/
  noColumns : columns = [] → blocks = []

/-! ### Values -/

/-- Or-ing the bytes of an integer in, the lowest first, gives its positional value. -/
theorem integerValue_foldl {bytes : QByteArray} (hlength : bytes.length ≤ 8) :
    (bytes.zipIdx.foldl
      (fun value entry => value ||| (entry.1.toUInt64 <<< UInt64.ofNat (8 * entry.2))) 0).toNat =
      Nat.ofDigits 256 (bytes.map UInt8.toNat) := by
  induction bytes using List.reverseRecOn with
  | nil => rfl
  | append_singleton bytes byte ih =>
    have hshorter : bytes.length < 8 := by
      simp only [List.length_append, List.length_singleton] at hlength
      omega
    have hlow : Nat.ofDigits 256 (bytes.map UInt8.toNat) < 2 ^ (8 * bytes.length) := by
      have hbound := Nat.ofDigits_lt_base_pow_length (b := 256) (l := bytes.map UInt8.toNat)
        (by omega) fun digit hdigit => by
          obtain ⟨b, -, rfl⟩ := List.mem_map.mp hdigit
          exact b.toNat_lt
      rwa [List.length_map, show 256 = 2 ^ 8 by rfl, ← pow_mul] at hbound
    have hbyte : byte.toNat < 2 ^ 8 := byte.toNat_lt
    have hshift : (byte.toUInt64 <<< UInt64.ofNat (8 * bytes.length)).toNat =
        byte.toNat <<< (8 * bytes.length) := by
      have hamount : (UInt64.ofNat (8 * bytes.length)).toNat = 8 * bytes.length :=
        UInt64.toNat_ofNat_of_lt' (by change 8 * bytes.length < 2 ^ 64; omega)
      have hfits : byte.toNat <<< (8 * bytes.length) < 2 ^ 64 := by
        rw [Nat.shiftLeft_eq]
        calc byte.toNat * 2 ^ (8 * bytes.length)
            < 2 ^ 8 * 2 ^ (8 * bytes.length) :=
              Nat.mul_lt_mul_of_pos_right hbyte (Nat.two_pow_pos _)
          _ = 2 ^ (8 + 8 * bytes.length) := (pow_add 2 8 _).symm
          _ ≤ 2 ^ 64 := Nat.pow_le_pow_right (by omega) (by omega)
      rw [UInt64.toNat_shiftLeft, hamount, UInt8.toNat_toUInt64,
        Nat.mod_eq_of_lt (show 8 * bytes.length < 64 by omega), Nat.mod_eq_of_lt hfits]
    rw [List.zipIdx_append, List.foldl_append, List.map_append, Nat.ofDigits_append]
    simp only [List.zipIdx_singleton, List.foldl_cons, List.foldl_nil, Nat.zero_add,
      UInt64.toNat_or, hshift, ih (by omega)]
    rw [or_shift_toNat hlow, List.length_map, List.map_singleton, Nat.ofDigits_singleton, pow_mul,
      show 2 ^ 8 = 256 by rfl]

/-- An integer of at most eight bytes is read in two's complement. -/
theorem integerValue_eq {bytes : QByteArray} (hlength : bytes.length ≤ 8) :
    integerValue bytes = Int64.ofNat (Nat.ofDigits 256 (bytes.map UInt8.toNat)) := by
  rw [integerValue, ← integerValue_foldl hlength]
  exact congrArg UInt64.toInt64 (UInt64.ofNat_toNat).symm

/-- A column value is decoded to its meaning, and only if it may stand there. -/
theorem decodeValue_eq_some_iff {field : DataTableField} {value : QByteArray}
    (hsize : value.length < 2 ^ 8) (decoded : QVariant) :
    decodeValue field.type value = some decoded ↔
      Fits field value ∧ decoded = columnValue field value := by
  have hbyte : value.length < 256 := hsize
  unfold decodeValue Fits columnValue
  by_cases hinteger : field.type = 'i' ∨ field.type = 'L'
  · have htext : field.type ≠ 's' := by
      intro htext
      rw [htext] at hinteger
      exact absurd hinteger (by decide)
    rw [if_pos hinteger, if_neg htext]
    by_cases hlong : value.length > 8
    · have hshort : ¬ value.length ≤ 8 := by omega
      simp [hlong, hshort, htext]
    · have hshort : value.length ≤ 8 := by omega
      rw [if_neg hlong, integerValue_eq hshort]
      simp [hbyte, hinteger, hshort, eq_comm]
  · rw [if_neg hinteger]
    by_cases htext : field.type = 's'
    · simp [htext, hbyte, eq_comm]
    · simp [htext, hinteger]

/-! ### Records -/

/-- Insert the values of a record, column by column. -/
def fillRecord (columns : List (DataTableField × QByteArray)) (record : QVariantMap) :
    QVariantMap :=
  columns.foldl
    (fun record entry => record.insert entry.1.name (columnValue entry.1 entry.2)) record

/-- The parser of a record is exact: it takes off a value for each column. -/
theorem parseRecord_eq_some_iff (columns : List DataTableField) (message : QByteArray)
    (start record : QVariantMap) (rest : QByteArray) :
    parseRecord columns message start = some (record, rest) ↔
      ∃ values, List.Forall₂ Fits columns values ∧ message = recordBlock values ++ rest ∧
        record = fillRecord (columns.zip values) start := by
  induction columns generalizing message start with
  | nil =>
    constructor
    · intro h
      obtain ⟨rfl, rfl⟩ := Prod.mk.inj (Option.some.inj h)
      exact ⟨[], .nil, rfl, rfl⟩
    · rintro ⟨values, hfits, rfl, rfl⟩
      cases hfits
      rfl
  | cons field columns ih =>
    cases message with
    | nil =>
      constructor
      · intro h
        cases h
      · rintro ⟨values, hfits, hmessage, -⟩
        cases hfits
        cases hmessage
    | cons size message =>
      constructor
      · intro h
        unfold parseRecord at h
        split_ifs at h with hsize
        split at h
        · cases h
        · rename_i decoded hdecoded
          have hlength : (message.take size.toNat).length = size.toNat := by
            rw [List.length_take]
            omega
          have hbyte := size.toNat_lt
          obtain ⟨hvalue, rfl⟩ := (decodeValue_eq_some_iff (by omega) decoded).mp hdecoded
          obtain ⟨values, hfits, hrest, hrecord⟩ := (ih _ _).mp h
          refine ⟨message.take size.toNat :: values, .cons hvalue hfits, ?_, hrecord⟩
          have hblock : valueBlock (message.take size.toNat) = size :: message.take size.toNat := by
            rw [valueBlock, hlength, UInt8.ofNat_toNat]
          rw [recordBlock, List.flatMap_cons, hblock, List.append_assoc, ← recordBlock, ← hrest,
            List.cons_append, List.take_append_drop]
      · rintro ⟨values, hfits, hmessage, rfl⟩
        cases hfits with
        | @cons _ value _ values hvalue hfits =>
          obtain ⟨rfl, hrest⟩ : size = UInt8.ofNat value.length ∧
              message = value ++ (recordBlock values ++ rest) := by
            simpa [recordBlock, valueBlock] using hmessage
          have hlength : (UInt8.ofNat value.length).toNat = value.length :=
            UInt8.toNat_ofNat_of_lt' hvalue.1
          have hshort : ¬ value.length > message.length := by
            rw [hrest, List.length_append]
            omega
          have htake : message.take value.length = value := by rw [hrest, List.take_left]
          have hdrop : message.drop value.length = recordBlock values ++ rest := by
            rw [hrest, List.drop_left]
          unfold parseRecord
          rw [hlength, if_neg hshort, htake, hdrop,
            (decodeValue_eq_some_iff hvalue.1 _).mpr ⟨hvalue, rfl⟩]
          exact (ih _ _).mpr ⟨values, hfits, rfl, rfl⟩

/-- A filled record gives a name the value of its last column, or else what the
record had before. -/
theorem fillRecord_find? (entries : List (DataTableField × QByteArray)) (start : QVariantMap)
    (name : QString) :
    (fillRecord entries start).find? name =
      ((entries.reverse.find? fun entry => entry.1.name = name).map fun entry =>
        columnValue entry.1 entry.2).or (start.find? name) := by
  induction entries generalizing start with
  | nil => rfl
  | cons entry entries ih =>
    have hstep : fillRecord (entry :: entries) start =
        fillRecord entries (start.insert entry.1.name (columnValue entry.1 entry.2)) := rfl
    rw [hstep, ih, QVariantMap.find?_insert, List.reverse_cons, List.find?_append]
    cases hlater : entries.reverse.find? fun entry => entry.1.name = name with
    | some later => rfl
    | none => by_cases hname : entry.1.name = name <;> simp [hname]

/-- A record filled from scratch is the record of its columns and values. -/
theorem fillRecord_recordOf (columns : List DataTableField) (values : List QByteArray) :
    RecordOf columns values (fillRecord (columns.zip values) QVariantMap.empty) := by
  intro name
  rw [fillRecord_find?]
  exact Option.or_none

/-- The stretch of a payload is a record block, and the record is filled from it. -/
def StandsFor (columns : List DataTableField) (block : QByteArray) (record : QVariantMap) : Prop :=
  ∃ values, List.Forall₂ Fits columns values ∧ block = recordBlock values ∧
    record = fillRecord (columns.zip values) QVariantMap.empty

/-- The parser of a record is an exact reader. -/
theorem parseRecord_exact (columns : List DataTableField) :
    Exact (fun message => parseRecord columns message QVariantMap.empty) (StandsFor columns) := by
  intro message record rest
  rw [parseRecord_eq_some_iff]
  constructor
  · rintro ⟨values, hfits, hmessage, hrecord⟩
    exact ⟨recordBlock values, ⟨values, hfits, rfl, hrecord⟩, hmessage⟩
  · rintro ⟨_, ⟨values, hfits, rfl, hrecord⟩, hmessage⟩
    exact ⟨values, hfits, hmessage, hrecord⟩

/-- The records are read to the end of the payload. -/
theorem parseRecords_eq_readAll (columns : List DataTableField) (rounds : ℕ)
    (message : QByteArray) :
    parseRecords columns rounds message =
      readAll (fun message => parseRecord columns message QVariantMap.empty) rounds message := by
  induction rounds generalizing message with
  | zero => cases message <;> rfl
  | succ rounds ih =>
    cases message with
    | nil => rfl
    | cons byte message =>
      unfold parseRecords readAll
      cases parseRecord columns (byte :: message) QVariantMap.empty with
      | none => rfl
      | some result => exact congrArg (Option.map (result.1 :: ·)) (ih result.2)

/-- With columns to read, the records are the meanings of the blocks the payload
is made of. -/
theorem parseRecords_eq_some_iff {columns : List DataTableField} (hcolumns : columns ≠ [])
    (message : QByteArray) (records : List QVariantMap) :
    parseRecords columns message.length message = some records ↔
      ∃ blocks : List (List QByteArray),
        (∀ values ∈ blocks, List.Forall₂ Fits columns values) ∧
        message = (blocks.map recordBlock).flatten ∧
        records = blocks.map fun values => fillRecord (columns.zip values) QVariantMap.empty := by
  have hnonempty : ∀ front record, StandsFor columns front record → front ≠ [] := by
    rintro _ record ⟨values, hfits, rfl, -⟩
    cases hfits with
    | nil => exact absurd rfl hcolumns
    | cons _ _ => exact List.cons_ne_nil _ _
  rw [parseRecords_eq_readAll,
    readAll_eq_some_iff (parseRecord_exact columns) hnonempty (Nat.le_refl _)]
  constructor
  · rintro ⟨fronts, hstands, rfl⟩
    induction hstands with
    | nil => exact ⟨[], by simp, rfl, rfl⟩
    | cons hfront _ ih =>
      obtain ⟨values, hvalues, rfl, rfl⟩ := hfront
      obtain ⟨blocks, hfits, hflat, rfl⟩ := ih
      refine ⟨values :: blocks, ?_, ?_, rfl⟩
      · intro other hother
        rcases List.mem_cons.mp hother with rfl | hother
        · exact hvalues
        · exact hfits other hother
      · rw [List.flatten_cons, hflat, List.map_cons, List.flatten_cons]
  · rintro ⟨blocks, hfits, rfl, rfl⟩
    refine ⟨blocks.map recordBlock, ?_, rfl⟩
    rw [List.forall₂_map_left_iff, List.forall₂_map_right_iff, List.forall₂_same]
    exact fun values hvalues => ⟨values, hfits values hvalues, rfl, rfl⟩

/-! ### The payload -/

/-- The returned columns are the first fields with the indexes given. -/
theorem returnedFields_eq_some_iff (tableFields : List DataTableField) (indexes : List UInt8)
    (columns : List DataTableField) :
    returnedFields tableFields indexes = some columns ↔
      List.Forall₂ (FirstWithIndex tableFields) indexes columns := by
  have hfirst : ∀ (index : UInt8) (field : DataTableField),
      (tableFields.find? fun field => field.index = (index.toNat : ℤ)) = some field ↔
        FirstWithIndex tableFields index field := by
    intro index field
    rw [List.find?_eq_some_iff_append]
    constructor
    · rintro ⟨hindex, before, after, hsplit, hbefore⟩
      exact ⟨before, after, hsplit, by simpa using hindex, by simpa using hbefore⟩
    · rintro ⟨before, after, hsplit, hindex, hbefore⟩
      exact ⟨by simpa using hindex, before, after, hsplit, by simpa using hbefore⟩
  induction indexes generalizing columns with
  | nil =>
    constructor
    · intro h
      obtain rfl : [] = columns := Option.some.inj h
      exact .nil
    · intro h
      cases h
      rfl
  | cons index indexes ih =>
    unfold returnedFields
    constructor
    · intro h
      split at h
      · cases h
      · rename_i field hfield
        obtain ⟨others, hothers, rfl⟩ := Option.map_eq_some_iff.mp h
        exact .cons ((hfirst index field).mp hfield) ((ih others).mp hothers)
    · intro h
      cases h with
      | cons hfield hothers =>
        rw [(hfirst _ _).mpr hfield]
        dsimp only
        rw [(ih _).mpr hothers]
        rfl

/-- Records come with the status ok only, and the parser announces no transfer. -/
theorem parseGetDataPayload_shape (payload : QByteArray) (expectedTableIndex : ℤ)
    (tableFields : List DataTableField) :
    ((parseGetDataPayload payload expectedTableIndex tableFields).status ≠ .ok →
      (parseGetDataPayload payload expectedTableIndex tableFields).records = []) ∧
    (parseGetDataPayload payload expectedTableIndex tableFields).prepareInfo = {} := by
  unfold parseGetDataPayload
  dsimp only
  split_ifs
  · simp
  · simp
  · simp
  · split
    · simp
    · split_ifs
      · simp
      · split <;> simp

/-- A byte is an integer reduced to eight bits if it is its residue. -/
theorem eq_ofInt_iff (byte : UInt8) (value : ℤ) :
    byte = UInt8.ofInt value ↔ (byte.toNat : ℤ) = value % 2 ^ 8 := by
  have hresidue : ((UInt8.ofInt value).toNat : ℤ) = value % 2 ^ 8 := by
    have hofInt : (UInt8.ofInt value).toNat = (value % 2 ^ 8).toNat :=
      UInt8.toNat_ofNat_of_lt' (by change (value % 2 ^ 8).toNat < 256; omega)
    rw [hofInt]
    omega
  rw [← hresidue, Nat.cast_inj, UInt8.toNat_inj]

/-- The parser past the two bytes of the header. -/
theorem parseGetDataPayload_cons (table count : UInt8) (body : QByteArray) (expectedTableIndex : ℤ)
    (tableFields : List DataTableField) :
    parseGetDataPayload (table :: count :: body) expectedTableIndex tableFields =
      if table ≠ UInt8.ofInt expectedTableIndex then { status := .tableMismatch }
      else if body.length < count.toNat then { status := .malformed }
      else
        match returnedFields tableFields (body.take count.toNat) with
        | none => { status := .malformed }
        | some columns =>
          if columns.isEmpty ∧ body.drop count.toNat ≠ [] then { status := .malformed }
          else
            match parseRecords columns (body.drop count.toNat).length (body.drop count.toNat) with
            | none => { status := .malformed }
            | some records => { status := .ok, records := records } := by
  have hheader : ¬ (table :: count :: body).length < 2 := by simp
  have hshort : (table :: count :: body).length < 2 + count.toNat ↔ body.length < count.toNat := by
    simp only [List.length_cons]
    omega
  have hrest : (table :: count :: body).drop (2 + count.toNat) = body.drop count.toNat := by
    rw [Nat.add_comm]
    rfl
  have htable : byteAt (table :: count :: body) 0 = table := rfl
  have hcount : byteAt (table :: count :: body) 1 = count := rfl
  have hmid : mid (table :: count :: body) 2 count.toNat = body.take count.toNat := rfl
  unfold parseGetDataPayload
  rw [if_neg hheader]
  dsimp only
  rw [htable, hcount, hmid, hrest]
  exact if_congr Iff.rfl rfl (if_congr hshort rfl rfl)

/-- A payload that follows the grammar gives the meanings of its blocks. -/
theorem IsTablePayload.parse {payload : QByteArray} {expectedTableIndex : ℤ}
    {tableFields columns : List DataTableField} {blocks : List (List QByteArray)}
    (h : IsTablePayload payload expectedTableIndex tableFields columns blocks) :
    parseGetDataPayload payload expectedTableIndex tableFields =
      { status := .ok
        records :=
          blocks.map fun values => fillRecord (columns.zip values) QVariantMap.empty } := by
  obtain ⟨⟨table, indexes, htable, hlength, hindexes, rfl⟩, hfits, hnone⟩ := h
  have hcount : (UInt8.ofNat indexes.length).toNat = indexes.length :=
    UInt8.toNat_ofNat_of_lt' hlength
  have htable' : ¬ table ≠ UInt8.ofInt expectedTableIndex :=
    not_not.mpr ((eq_ofInt_iff _ _).mpr htable)
  have hshort : ¬ (indexes ++ (blocks.map recordBlock).flatten).length < indexes.length := by
    rw [List.length_append]
    omega
  rw [List.cons_append, List.cons_append, parseGetDataPayload_cons, if_neg htable', hcount,
    if_neg hshort, List.take_left, List.drop_left, (returnedFields_eq_some_iff _ _ _).mpr hindexes]
  dsimp only
  by_cases hempty : columns = []
  · subst hempty
    rw [hnone rfl]
    rfl
  · have hsurplus : ¬ (columns.isEmpty ∧ (blocks.map recordBlock).flatten ≠ []) := by
      rintro ⟨h, -⟩
      exact hempty (List.isEmpty_iff.mp h)
    rw [if_neg hsurplus, (parseRecords_eq_some_iff hempty _ _).mpr ⟨blocks, hfits, rfl, rfl⟩]

/-- A payload with the right table and enough columns is laid out by the blocks of its rest. -/
theorem payload_layout {table count : UInt8} {body : QByteArray} {expectedTableIndex : ℤ}
    {tableFields columns : List DataTableField} {blocks : List (List QByteArray)}
    (htable : table = UInt8.ofInt expectedTableIndex) (hlong : count.toNat ≤ body.length)
    (hcolumns : returnedFields tableFields (body.take count.toNat) = some columns)
    (hrest : body.drop count.toNat = (blocks.map recordBlock).flatten) :
    ∃ (table' : UInt8) (indexes : List UInt8),
      (table'.toNat : ℤ) = expectedTableIndex % 2 ^ 8 ∧ indexes.length < 2 ^ 8 ∧
      List.Forall₂ (FirstWithIndex tableFields) indexes columns ∧
      table :: count :: body = table' :: UInt8.ofNat indexes.length :: indexes ++
        (blocks.map recordBlock).flatten := by
  have hcount : (body.take count.toNat).length = count.toNat := by
    rw [List.length_take]
    omega
  refine ⟨table, body.take count.toNat, (eq_ofInt_iff _ _).mp htable,
    by rw [hcount]; exact count.toNat_lt, (returnedFields_eq_some_iff _ _ _).mp hcolumns, ?_⟩
  rw [hcount, UInt8.ofNat_toNat, ← hrest, List.cons_append, List.cons_append,
    List.take_append_drop]

/-- The parser returns records if and only if the payload follows the grammar,
and these are the meanings of its blocks. -/
theorem parseGetDataPayload_eq_ok_iff (payload : QByteArray) (expectedTableIndex : ℤ)
    (tableFields : List DataTableField) (records : List QVariantMap) :
    parseGetDataPayload payload expectedTableIndex tableFields =
        { status := .ok, records := records } ↔
      ∃ columns blocks, IsTablePayload payload expectedTableIndex tableFields columns blocks ∧
        records = blocks.map fun values => fillRecord (columns.zip values) QVariantMap.empty := by
  constructor
  · intro h
    match payload with
    | [] => cases congrArg GetDataResponse.status h
    | [_] => cases congrArg GetDataResponse.status h
    | table :: count :: body =>
      rw [parseGetDataPayload_cons] at h
      split_ifs at h with htable hshort
      · cases h
      · cases h
      · split at h
        · cases h
        · rename_i columns hcolumns
          split_ifs at h with hsurplus
          · cases h
          · split at h
            · cases h
            · rename_i parsed hparsed
              obtain rfl : parsed = records := congrArg GetDataResponse.records h
              by_cases hempty : columns = []
              · -- without columns the rest is empty, and so are the records
                subst hempty
                have hrest : body.drop count.toNat = [] := by
                  by_contra hne
                  exact hsurplus ⟨rfl, hne⟩
                rw [hrest] at hparsed
                obtain rfl : [] = parsed := Option.some.inj hparsed
                have hlayout := payload_layout (not_not.mp htable) (not_lt.mp hshort) hcolumns
                  (show _ = (([] : List (List QByteArray)).map recordBlock).flatten from hrest)
                exact ⟨[], [], ⟨hlayout, by simp, fun _ => rfl⟩, rfl⟩
              · obtain ⟨blocks, hfits, hrest, hrecords⟩ :=
                  (parseRecords_eq_some_iff hempty _ _).mp hparsed
                have hlayout := payload_layout (not_not.mp htable) (not_lt.mp hshort) hcolumns hrest
                exact ⟨columns, blocks, ⟨hlayout, hfits, fun h => absurd h hempty⟩, hrecords⟩
  · rintro ⟨columns, blocks, h, rfl⟩
    exact h.parse

/-- **The parser accepts exactly the grammar.** It returns ok if and only if the
payload follows it; the records are then those of the blocks, one for each and
in order; and a payload that is not accepted gives no record. -/
theorem parseGetDataPayload_grammar (payload : QByteArray) (expectedTableIndex : ℤ)
    (tableFields : List DataTableField) :
    ((parseGetDataPayload payload expectedTableIndex tableFields).status = .ok ↔
      ∃ columns blocks, IsTablePayload payload expectedTableIndex tableFields columns blocks) ∧
    (∀ columns blocks, IsTablePayload payload expectedTableIndex tableFields columns blocks →
      List.Forall₂ (RecordOf columns) blocks
        (parseGetDataPayload payload expectedTableIndex tableFields).records) ∧
    ((parseGetDataPayload payload expectedTableIndex tableFields).status ≠ .ok →
      (parseGetDataPayload payload expectedTableIndex tableFields).records = []) := by
  refine ⟨⟨fun hok => ?_, ?_⟩, ?_, (parseGetDataPayload_shape _ _ _).1⟩
  · obtain ⟨columns, blocks, h, -⟩ := (parseGetDataPayload_eq_ok_iff payload expectedTableIndex
      tableFields (parseGetDataPayload payload expectedTableIndex tableFields).records).mp (by
        rw [← hok, ← (parseGetDataPayload_shape payload expectedTableIndex tableFields).2])
    exact ⟨columns, blocks, h⟩
  · rintro ⟨columns, blocks, h⟩
    rw [h.parse]
  · intro columns blocks h
    rw [h.parse, List.forall₂_map_right_iff, List.forall₂_same]
    exact fun values _ => fillRecord_recordOf columns values

end QtAppBase.C3
