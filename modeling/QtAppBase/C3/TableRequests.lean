import QtAppBase.C3.TableRecords

/-!
# The columns that are requested and returned

A request names the columns it wants by their indexes, one byte each, and the
reply repeats them. The encoder reduces the indexes and their number to a byte,
while the parser compares the indexes in full, so that the two agree on the columns
exactly when the indexes and the number of fields are bytes. A record is a map by
name besides, and its values are decoded by type: a column of a name that another
one has is lost, and one of an unknown type is rejected.
-/

namespace QtAppBase.C3

open Library Qt

/-- What a request says about the columns, and a reply repeats: the table, the
number of columns, and their indexes, a byte each. -/
def requestHeader (table : DataTableConfig) : QByteArray :=
  UInt8.ofInt table.index :: UInt8.ofNat table.fields.length ::
    table.fields.map fun field => UInt8.ofInt field.index

/-- The request for all fields of a table starts with the header. -/
theorem encodeGetDataRequest_requestHeader (table : DataTableConfig) (b : Bool)
    (sessionId : UInt16) (requestNr : Int32) :
    encodeGetDataRequest table.index (table.fields.map DataTableField.index) b sessionId
        requestNr =
      encodeFrame kCommandGetData sessionId requestNr (requestHeader table ++ [0, 0]) b := by
  simp [encodeGetDataRequest, requestHeader, Function.comp_def]

/-- The columns that the parser reads off a header it accepts, and the rest of the payload. -/
def readColumns (payload : QByteArray) (expectedTableIndex : ℤ)
    (tableFields : List DataTableField) : Option (List DataTableField × QByteArray) :=
  match payload with
  | tableByte :: count :: body =>
    if tableByte ≠ UInt8.ofInt expectedTableIndex ∨ body.length < count.toNat then none
    else
      (returnedFields tableFields (body.take count.toNat)).map fun columns =>
        (columns, body.drop count.toNat)
  | _ => none

/-- The parser decodes the rest with the columns it has read. -/
theorem parseGetDataPayload_readColumns {payload rest : QByteArray} {expectedTableIndex : ℤ}
    {tableFields columns : List DataTableField}
    (h : readColumns payload expectedTableIndex tableFields = some (columns, rest)) :
    parseGetDataPayload payload expectedTableIndex tableFields =
      if columns.isEmpty ∧ rest ≠ [] then { status := .malformed }
      else
        match parseRecords columns rest.length rest with
        | none => { status := .malformed }
        | some records => { status := .ok, records := records } := by
  unfold readColumns at h
  split at h
  · rename_i tableByte count body
    split_ifs at h with hrefused
    obtain ⟨htable, hshort⟩ := not_or.mp hrefused
    obtain ⟨found, hfound, hpair⟩ := Option.map_eq_some_iff.mp h
    obtain ⟨rfl, rfl⟩ := Prod.mk.inj hpair
    have hparse := parseGetDataPayload_cons tableByte count body expectedTableIndex tableFields
    rw [if_neg htable, if_neg hshort, hfound] at hparse
    exact hparse
  · cases h

/-- A header that is not accepted gives no records. -/
theorem parseGetDataPayload_refused {payload : QByteArray} {expectedTableIndex : ℤ}
    {tableFields : List DataTableField}
    (h : readColumns payload expectedTableIndex tableFields = none) :
    (parseGetDataPayload payload expectedTableIndex tableFields).status ≠ .ok := by
  match payload with
  | [] => exact GetDataStatus.noConfusion
  | [_] => exact GetDataStatus.noConfusion
  | tableByte :: count :: body =>
    rw [parseGetDataPayload_cons]
    by_cases htable : tableByte ≠ UInt8.ofInt expectedTableIndex
    · rw [if_pos htable]
      decide
    · rw [if_neg htable]
      by_cases hshort : body.length < count.toNat
      · rw [if_pos hshort]
        decide
      · rw [readColumns, if_neg (not_or.mpr ⟨htable, hshort⟩), Option.map_eq_none_iff] at h
        rw [if_neg hshort, h]
        exact GetDataStatus.noConfusion

/-- A value that a size byte can announce, of at most eight bytes for an integer. -/
def Sized (field : DataTableField) (value : QByteArray) : Prop :=
  value.length < 2 ^ 8 ∧ (field.type = 'i' ∨ field.type = 'L' → value.length ≤ 8)

instance (field : DataTableField) (value : QByteArray) : Decidable (Sized field value) :=
  inferInstanceAs (Decidable (_ ∧ _))

/-- A type of column that the parser knows. -/
def KnownType (field : DataTableField) : Prop :=
  field.type = 'i' ∨ field.type = 'L' ∨ field.type = 's'

instance (field : DataTableField) : Decidable (KnownType field) :=
  inferInstanceAs (Decidable (_ ∨ _ ∨ _))

/-- A record with the values of a reply, column by column. -/
structure ReadsColumns (columns : List DataTableField) (values : List QByteArray)
    (record : QVariantMap) : Prop where
  /-- The `k`-th value is that of the `k`-th column. -/
  each : List.Forall₂ (fun field value => record.find? field.name = some (columnValue field value))
    columns values
  /-- There is nothing else in it. -/
  others : ∀ name, name ∉ columns.map DataTableField.name → record.find? name = none

/-- The reply to a request, which repeats its header, is read as requested. -/
structure ReadAsRequested (table : DataTableConfig) : Prop where
  /-- The header is what the request for all fields of the table says. -/
  request : ∀ (b : Bool) (sessionId : UInt16) (requestNr : Int32),
    encodeGetDataRequest table.index (table.fields.map DataTableField.index) b sessionId requestNr =
      encodeFrame kCommandGetData sessionId requestNr (requestHeader table ++ [0, 0]) b
  /-- The header is accepted, and its columns are the requested fields, in order. -/
  columns : ∀ body, readColumns (requestHeader table ++ body) table.index table.fields =
    some (table.fields, body)
  /-- The values of every record are decoded as those of the requested fields, in order. -/
  records : ∀ blocks, (∀ values ∈ blocks, List.Forall₂ Sized table.fields values) →
    (table.fields = [] → blocks = []) →
    (parseGetDataPayload (requestHeader table ++ (blocks.map recordBlock).flatten) table.index
      table.fields).status = .ok ∧
    List.Forall₂ (ReadsColumns table.fields) blocks
      (parseGetDataPayload (requestHeader table ++ (blocks.map recordBlock).flatten) table.index
        table.fields).records

/-- The number of fields and all their indexes are bytes. -/
def FitsBytes (table : DataTableConfig) : Prop :=
  table.fields.length < 2 ^ 8 ∧ ∀ field ∈ table.fields, 0 ≤ field.index ∧ field.index < 2 ^ 8

instance (table : DataTableConfig) : Decidable (FitsBytes table) :=
  inferInstanceAs (Decidable (_ ∧ _))

/-- The number of fields and all their indexes are bytes, all types are known, and no two
fields have the same name. -/
structure Requestable (table : DataTableConfig) : Prop where
  bytes : FitsBytes table
  types : ∀ field ∈ table.fields, KnownType field
  names : (table.fields.map DataTableField.name).Nodup

instance (table : DataTableConfig) : Decidable (Requestable table) :=
  decidable_of_iff (FitsBytes table ∧ (∀ field ∈ table.fields, KnownType field) ∧
    (table.fields.map DataTableField.name).Nodup)
    ⟨fun ⟨h1, h2, h3⟩ => ⟨h1, h2, h3⟩, fun h => ⟨h.bytes, h.types, h.names⟩⟩

variable {table : DataTableConfig}

/-- An index that is a byte is requested as it is. -/
theorem ofInt_toNat {index : ℤ} (hnonneg : 0 ≤ index) (hbyte : index < 2 ^ 8) :
    index = ((UInt8.ofInt index).toNat : ℤ) := by
  rw [(eq_ofInt_iff _ index).mp rfl]
  omega

/-- A field with an index of its own is the first one with this index. -/
theorem firstWithIndex_of_mem {fields : List DataTableField}
    (hdistinct : (fields.map DataTableField.index).Nodup) {field : DataTableField}
    (hmem : field ∈ fields) {index : UInt8} (hindex : field.index = (index.toNat : ℤ)) :
    FirstWithIndex fields index field := by
  obtain ⟨before, after, rfl⟩ := List.append_of_mem hmem
  refine ⟨before, after, rfl, hindex, fun other hother hsame => ?_⟩
  rw [List.map_append, List.map_cons] at hdistinct
  have hnotBefore := (List.nodup_append.mp hdistinct).2.2
  exact hnotBefore other.index (List.mem_map_of_mem hother) field.index List.mem_cons_self
    (hsame.trans hindex.symm)

/-- The requested columns, when their indexes are bytes. -/
theorem requested_columns (hdistinct : (table.fields.map DataTableField.index).Nodup)
    (h : FitsBytes table) :
    List.Forall₂ (FirstWithIndex table.fields)
      (table.fields.map fun field => UInt8.ofInt field.index) table.fields := by
  rw [List.forall₂_map_left_iff, List.forall₂_same]
  intro field hfield
  obtain ⟨hnonneg, hbyte⟩ := h.2 field hfield
  exact firstWithIndex_of_mem hdistinct hfield (ofInt_toNat hnonneg hbyte)

/-- A header in bytes is read as the columns that were requested. -/
theorem readColumns_requestHeader (hdistinct : (table.fields.map DataTableField.index).Nodup)
    (h : FitsBytes table) (body : QByteArray) :
    readColumns (requestHeader table ++ body) table.index table.fields =
      some (table.fields, body) := by
  have hcount : (UInt8.ofNat table.fields.length).toNat = table.fields.length :=
    UInt8.toNat_ofNat_of_lt' h.1
  have hlength : (table.fields.map fun field => UInt8.ofInt field.index).length =
      table.fields.length := List.length_map _
  have hcolumns := (returnedFields_eq_some_iff _ _ _).mpr (requested_columns hdistinct h)
  have haccepted : ¬ (UInt8.ofInt table.index ≠ UInt8.ofInt table.index ∨
      ((table.fields.map fun field => UInt8.ofInt field.index) ++ body).length <
        (UInt8.ofNat table.fields.length).toNat) := by
    rw [not_or, hcount, List.length_append, hlength]
    exact ⟨not_not.mpr rfl, by omega⟩
  rw [requestHeader, List.cons_append, List.cons_append, readColumns, if_neg haccepted, hcount,
    List.take_left' hlength, List.drop_left' hlength, hcolumns]
  rfl

/-- A header in bytes, with records behind it, follows the grammar of table records. -/
theorem isTablePayload_requestHeader (hdistinct : (table.fields.map DataTableField.index).Nodup)
    (h : FitsBytes table) {blocks : List (List QByteArray)}
    (hfits : ∀ values ∈ blocks, List.Forall₂ Fits table.fields values)
    (hnone : table.fields = [] → blocks = []) :
    IsTablePayload (requestHeader table ++ (blocks.map recordBlock).flatten) table.index
      table.fields table.fields blocks := by
  have hlength : (table.fields.map fun field => UInt8.ofInt field.index).length =
      table.fields.length := List.length_map _
  refine ⟨⟨UInt8.ofInt table.index, table.fields.map fun field => UInt8.ofInt field.index,
    (eq_ofInt_iff _ _).mp rfl, by rw [hlength]; exact h.1, requested_columns hdistinct h, ?_⟩,
    hfits, hnone⟩
  rw [hlength]
  rfl

/-- A header that is read as requested has bytes for its indexes and for their number. -/
theorem fitsBytes_of_readColumns
    (h : readColumns (requestHeader table) table.index table.fields = some (table.fields, [])) :
    FitsBytes table := by
  have hlength : (table.fields.map fun field => UInt8.ofInt field.index).length =
      table.fields.length := List.length_map _
  have hbyte := (UInt8.ofNat table.fields.length).toNat_lt
  rw [requestHeader, readColumns] at h
  split_ifs at h with hrefused
  obtain ⟨columns, hcolumns, hpair⟩ := Option.map_eq_some_iff.mp h
  obtain ⟨rfl, hrest⟩ := Prod.mk.inj hpair
  -- nothing is left of the indexes, so that the byte counts them all
  have hall := List.drop_eq_nil_iff.mp hrest
  have hforall := (returnedFields_eq_some_iff _ _ _).mp hcolumns
  refine ⟨by omega, fun field hfield => ?_⟩
  obtain ⟨i, hi, rfl⟩ := List.getElem_of_mem hfield
  have hfirst := hforall.get (by rw [hforall.length_eq]; exact hi) hi
  obtain ⟨_, _, _, hindex, _⟩ := hfirst
  have hindexByte := UInt8.toNat_lt
    (((table.fields.map fun field => UInt8.ofInt field.index).take
      (UInt8.ofNat table.fields.length).toNat).get ⟨i, by rw [hforall.length_eq]; exact hi⟩)
  have hvalue : table.fields[i].index = _ := hindex
  rw [hvalue]
  omega

/-! ### Types and names -/

/-- In a column of a known type, every value of the right size fits. -/
theorem Sized.fits {field : DataTableField} {value : QByteArray} (h : Sized field value)
    (htype : KnownType field) : Fits field value := by
  refine ⟨h.1, ?_⟩
  rcases htype with hint | hlong | htext
  · exact Or.inl ⟨Or.inl hint, h.2 (Or.inl hint)⟩
  · exact Or.inl ⟨Or.inr hlong, h.2 (Or.inr hlong)⟩
  · exact Or.inr htext

/-- The type of a column that some value fits is known. -/
theorem Fits.knownType {field : DataTableField} {value : QByteArray} (h : Fits field value) :
    KnownType field := by
  rcases h.2 with ⟨hint | hlong, -⟩ | htext
  · exact Or.inl hint
  · exact Or.inr (Or.inl hlong)
  · exact Or.inr (Or.inr htext)

/-- Where the names differ, the last column of a name is the only one. -/
theorem RecordOf.readsColumns {columns : List DataTableField} {values : List QByteArray}
    {record : QVariantMap} (h : RecordOf columns values record)
    (hnames : (columns.map DataTableField.name).Nodup) (hlength : columns.length = values.length) :
    ReadsColumns columns values record := by
  refine ⟨List.forall₂_iff_get.mpr ⟨hlength, fun k hk hv => ?_⟩, fun name hname => ?_⟩
  · have hzip : (columns[k], values[k]) ∈ (columns.zip values).reverse := by
      rw [List.mem_reverse, ← List.getElem_zip (h := by rw [List.length_zip]; omega)]
      exact List.getElem_mem _
    have hsome : ((columns.zip values).reverse.find? fun entry =>
        entry.1.name = columns[k].name).isSome :=
      List.find?_isSome.mpr ⟨_, hzip, decide_eq_true rfl⟩
    obtain ⟨entry, hentry⟩ := Option.isSome_iff_exists.mp hsome
    obtain ⟨j, hj, hget⟩ :=
      List.getElem_of_mem (List.mem_reverse.mp (List.mem_of_find?_eq_some hentry))
    rw [List.getElem_zip] at hget
    rw [List.length_zip] at hj
    have hname : columns[j].name = columns[k].name := by
      rw [← of_decide_eq_true (List.find?_some hentry :), ← hget]
    have hjname : j < (columns.map DataTableField.name).length := by rw [List.length_map]; omega
    have hkname : k < (columns.map DataTableField.name).length := by rwa [List.length_map]
    have hnamed : (columns.map DataTableField.name)[j] = (columns.map DataTableField.name)[k] := by
      rw [List.getElem_map, List.getElem_map, hname]
    obtain rfl : j = k := hnames.getElem_inj_iff.mp hnamed
    refine (h _).trans ?_
    rw [List.get_eq_getElem, hentry, ← hget]
    rfl
  · refine (h name).trans (Option.map_eq_none_iff.mpr (List.find?_eq_none.mpr ?_))
    rintro ⟨field, value⟩ hentry
    have hfield := (List.of_mem_zip (List.mem_reverse.mp hentry)).1
    rw [decide_eq_true_iff]
    rintro rfl
    exact hname (List.mem_map_of_mem hfield)

/-- Nothing and a byte have different meanings. -/
theorem columnValue_ne (a b : DataTableField) : columnValue a [] ≠ columnValue b [1] := by
  unfold columnValue
  split_ifs
  · exact fun h => absurd (QVariant.string.inj h) (by decide)
  · exact nofun
  · exact nofun
  · exact fun h => absurd (QVariant.longlong.inj h) (by decide)

/-- One record, whose values are empty except for the last column of a choice. -/
def probe (fields : List DataTableField) (k : ℕ) : List QByteArray :=
  fields.mapIdx fun i _ => if i = k then [1] else []

theorem probe_sized (fields : List DataTableField) (k : ℕ) :
    List.Forall₂ Sized fields (probe fields k) := by
  refine List.forall₂_iff_get.mpr ⟨by simp [probe], fun i hi _ => ?_⟩
  simp only [probe, List.get_eq_getElem, List.getElem_mapIdx]
  split_ifs <;> exact ⟨by decide, fun _ => by decide⟩

/-- A record that is read as requested has columns of known types. -/
theorem ReadAsRequested.types (h : ReadAsRequested table) :
    ∀ field ∈ table.fields, KnownType field := by
  intro field hfield
  have hfields : table.fields ≠ [] := List.ne_nil_of_mem hfield
  obtain ⟨hstatus, -⟩ := h.records [probe table.fields 0]
    (by simpa using probe_sized table.fields 0) (fun hnil => absurd hnil hfields)
  rw [parseGetDataPayload_readColumns (h.columns _), if_neg (by simp [hfields])] at hstatus
  cases hparsed : parseRecords table.fields _ ([probe table.fields 0].map recordBlock).flatten with
  | none =>
    rw [hparsed] at hstatus
    cases hstatus
  | some records =>
    obtain ⟨blocks, hfits, hflatten, -⟩ := (parseRecords_eq_some_iff hfields _ _).mp hparsed
    cases blocks with
    | nil =>
      -- a record of these columns has a size byte at least
      obtain ⟨first, rest, hcolumns⟩ := List.exists_cons_of_ne_nil hfields
      rw [hcolumns, probe, List.mapIdx_cons] at hflatten
      exact absurd hflatten (List.cons_ne_nil _ _)
    | cons values blocks =>
      obtain ⟨k, hk, rfl⟩ := List.getElem_of_mem hfield
      have hvalues := hfits values List.mem_cons_self
      exact (hvalues.get hk (hvalues.length_eq ▸ hk)).knownType

/-- The columns of a record that is read as requested have names of their own. -/
theorem ReadAsRequested.names (h : ReadAsRequested table) :
    (table.fields.map DataTableField.name).Nodup := by
  rw [List.nodup_iff_pairwise_ne, List.pairwise_iff_getElem]
  intro j k hj hk hlt hsame
  rw [List.length_map] at hj hk
  rw [List.getElem_map, List.getElem_map] at hsame
  obtain ⟨-, hrecords⟩ := h.records [probe table.fields k]
    (by simpa using probe_sized table.fields k)
    (fun hnil => absurd hnil (List.ne_nil_of_length_pos (Nat.zero_lt_of_lt hk)))
  obtain ⟨record, -, hrecord, -, -⟩ := List.forall₂_cons_left_iff.mp hrecords
  have hlength := hrecord.each.length_eq
  have hfirst := hrecord.each.get hj (hlength ▸ hj)
  have hsecond := hrecord.each.get hk (hlength ▸ hk)
  simp only [probe, List.get_eq_getElem, List.getElem_mapIdx, if_neg hlt.ne, if_true]
    at hfirst hsecond
  rw [hsame, hsecond, Option.some.injEq] at hfirst
  exact columnValue_ne _ _ hfirst.symm

/-- **A reply is read as requested** if and only if the number of fields and all their
indexes are bytes, all types are known, and no two fields have the same name. -/
theorem readAsRequested_iff (hdistinct : (table.fields.map DataTableField.index).Nodup) :
    ReadAsRequested table ↔ Requestable table := by
  constructor
  · intro h
    have hcolumns := h.columns []
    rw [List.append_nil] at hcolumns
    exact ⟨fitsBytes_of_readColumns hcolumns, h.types, h.names⟩
  · intro h
    refine ⟨encodeGetDataRequest_requestHeader table, readColumns_requestHeader hdistinct h.bytes,
      fun blocks hsized hnone => ?_⟩
    have hfits : ∀ values ∈ blocks, List.Forall₂ Fits table.fields values := by
      intro values hvalues
      have hlist := hsized values hvalues
      refine List.forall₂_iff_get.mpr ⟨hlist.length_eq, fun k hk hv => ?_⟩
      exact (hlist.get hk hv).fits (h.types _ (List.getElem_mem hk))
    have hpayload := isTablePayload_requestHeader hdistinct h.bytes hfits hnone
    rw [hpayload.parse, List.forall₂_map_right_iff, List.forall₂_same]
    refine ⟨rfl, fun values hvalues => ?_⟩
    exact (fillRecord_recordOf table.fields values).readsColumns h.names
      (hfits values hvalues).length_eq

/-- A table whose second index does not fit a byte, and is taken for the first one. -/
def wideTable : DataTableConfig :=
  { name := "user", index := 1, fields := [⟨"Pin", 'i', 1⟩, ⟨"Card", 'i', 257⟩] }

/-- A device may describe the table, and a record of it gives the card number as the pin. -/
theorem wideTable_misread :
    ¬ ∀ (data : QByteArray) (b : Bool), ∀ table ∈ (decodeDataTableConfigResponse data b).tables,
      (table.fields.map DataTableField.index).Nodup → ReadAsRequested table := by
  intro h
  have hdescribed : wideTable ∈ (decodeDataTableConfigResponse
      (encodeFrame kReplyOk 0 0 (toLatin1 "user=1,Pin=i1,Card=i257\n") false) false).tables := by
    decide +kernel
  have hsized : ∀ values ∈ [[[7], [9]]], List.Forall₂ Sized wideTable.fields values := by
    intro values hvalues
    obtain rfl := List.mem_singleton.mp hvalues
    exact .cons (by decide) (.cons (by decide) .nil)
  obtain ⟨-, hrecords⟩ := (h _ _ wideTable hdescribed (by decide)).records _ hsized
    (fun hnone => absurd hnone (by decide))
  have hparsed : (parseGetDataPayload (requestHeader wideTable ++
      ([[[7], [9]]].map recordBlock).flatten) wideTable.index wideTable.fields).records =
        [QVariantMap.empty.insert "Pin" (.longlong 9)] := by decide +kernel
  rw [hparsed] at hrecords
  cases hrecords with
  | cons hrecord _ =>
    have hcard := hrecord.each.get (i := 1) (by decide) (by decide)
    revert hcard
    decide +kernel

/-- A table whose indexes are bytes, up to the last one. -/
def narrowTable : DataTableConfig :=
  { name := "user", index := -1, fields := [⟨"Pin", 'i', 255⟩, ⟨"Name", 's', 0⟩] }

theorem narrowTable_readAsRequested : ReadAsRequested narrowTable ↔ Requestable narrowTable :=
  readAsRequested_iff (by decide)

end QtAppBase.C3
