import QtAppBase.C3.Routine
import QtAppBase.C3.TableRecords
import QtAppBase.C3.TransferBounds

/-!
# The columns of an answer

All records of one table reply are read by the same list of columns, so that they
have the same keys, whatever the panel sends. The window relies on it: it takes the
columns of its table from the first record.
-/

namespace QtAppBase

open Library QtAppBase.Core Qt

/-! ### Keys of a map -/

namespace Qt.QVariantMap

/-- `QMap::keys`. -/
def keys (map : QVariantMap) : List QString := map.entries.map Prod.fst

/-- Which keys there are after an insert depends on the keys alone. -/
theorem keys_insertEntry {key : QString} (value other : QVariant)
    {entries others : List (QString × QVariant)}
    (h : entries.map Prod.fst = others.map Prod.fst) :
    (insertEntry key value entries).map Prod.fst =
      (insertEntry key other others).map Prod.fst := by
  induction entries generalizing others with
  | nil =>
    obtain rfl : others = [] := List.map_eq_nil_iff.mp h.symm
    rfl
  | cons entry rest ih =>
    cases others with
    | nil => cases h
    | cons first others =>
      obtain ⟨hfirst, hrest⟩ := List.cons.inj h
      unfold insertEntry
      rw [← hfirst]
      split_ifs
      · rw [List.map_cons, List.map_cons, List.map_cons, List.map_cons, hfirst, hrest]
      · rw [List.map_cons, List.map_cons, hfirst, ih hrest]
      · rw [List.map_cons, List.map_cons, hrest]

theorem keys_insert {a b : QVariantMap} (h : a.keys = b.keys) (key : QString)
    (value other : QVariant) : (a.insert key value).keys = (b.insert key other).keys :=
  keys_insertEntry value other h

/-- An entry is found by its key, since no two entries have the same. -/
theorem find?_of_mem {map : QVariantMap} {entry : QString × QVariant}
    (h : entry ∈ map.entries) : map.find? entry.1 = some entry.2 := by
  obtain ⟨entries, hascending⟩ := map
  have hfound : lookupEntry entry.1 entries = some entry.2 := by
    induction entries with
    | nil => cases h
    | cons first rest ih =>
      obtain ⟨hfirst, hrest⟩ := List.pairwise_cons.mp hascending
      rcases List.mem_cons.mp h with rfl | hlater
      · rw [lookupEntry, List.find?_cons_of_pos (by simp)]
        rfl
      · have hless := hfirst entry hlater
        have hne : ¬ first.1 = entry.1 := by
          intro heq
          rw [heq] at hless
          exact List.lt_irrefl _ hless
        rw [lookupEntry, List.find?_cons_of_neg (by simpa using hne)]
        exact ih hrest hlater
  exact hfound

end Qt.QVariantMap

namespace C3

/-- Records of one table. -/
def SameColumns (records : List QVariantMap) : Prop :=
  ∀ a ∈ records, ∀ b ∈ records, a.keys = b.keys

/-! ### The parser -/

/-- Records filled by the same names have the same keys. -/
theorem keys_fillRecord {entries others : List (DataTableField × QByteArray)}
    (hnames : entries.map Prod.fst = others.map Prod.fst) {a b : QVariantMap}
    (h : a.keys = b.keys) : (fillRecord entries a).keys = (fillRecord others b).keys := by
  induction entries generalizing others a b with
  | nil =>
    obtain rfl : others = [] := List.map_eq_nil_iff.mp hnames.symm
    exact h
  | cons entry rest ih =>
    cases others with
    | nil => cases hnames
    | cons first others =>
      obtain ⟨hfirst, hrest⟩ := List.cons.inj hnames
      refine ih hrest ?_
      dsimp only
      rw [← hfirst]
      exact QVariantMap.keys_insert h _ _ _

/-- Whatever the payload is, its records have the same columns. -/
theorem parseGetDataPayload_columns (payload : QByteArray) (expectedTableIndex : ℤ)
    (tableFields : List DataTableField) :
    SameColumns (parseGetDataPayload payload expectedTableIndex tableFields).records := by
  obtain ⟨hrefused, hinfo⟩ := parseGetDataPayload_shape payload expectedTableIndex tableFields
  by_cases hok : (parseGetDataPayload payload expectedTableIndex tableFields).status = .ok
  · obtain ⟨columns, blocks, h, hrecords⟩ :=
      (parseGetDataPayload_eq_ok_iff payload expectedTableIndex tableFields
        (parseGetDataPayload payload expectedTableIndex tableFields).records).mp
        (by rw [← hok, ← hinfo])
    have hcolumns : ∀ values ∈ blocks, (columns.zip values).map Prod.fst = columns :=
      fun values hvalues => List.map_fst_zip (h.fits values hvalues).length_eq.le
    rw [hrecords]
    intro a ha b hb
    obtain ⟨first, hfirst, rfl⟩ := List.mem_map.mp ha
    obtain ⟨second, hsecond, rfl⟩ := List.mem_map.mp hb
    exact keys_fillRecord ((hcolumns first hfirst).trans (hcolumns second hsecond).symm) rfl
  · rw [hrefused hok]
    exact fun _ h => absurd h List.not_mem_nil

/-- So have those of a reply. -/
theorem decodeGetDataResponse_columns (data : QByteArray) (expectedTableIndex : ℤ)
    (tableFields : List DataTableField) (b : Bool) :
    SameColumns (decodeGetDataResponse data expectedTableIndex tableFields b).records := by
  have hnone : SameColumns [] := fun _ h => absurd h List.not_mem_nil
  unfold decodeGetDataResponse
  dsimp only
  split
  · exact hnone
  · exact hnone
  · exact hnone
  · split_ifs
    · exact hnone
    · exact hnone
    · exact parseGetDataPayload_columns _ _ _

/-! ### The driver -/

/-- What the driver hands on of a table has the same columns. -/
def Effect.Tabular : Effect → Prop
  | .tableDataReceived _ records => SameColumns records
  | _ => True

theorem tabular_of {effects : List Effect}
    (h : effects.all (fun effect => !effect.isReceived) = true) :
    ∀ effect ∈ effects, effect.Tabular := by
  intro effect heffect
  have hother := List.all_eq_true.mp h effect heffect
  cases effect with
  | tableDataReceived tableName records => cases hother
  | _ => exact trivial

namespace C3Connection

/-- Every effect of a reaction is tabular. -/
def Tabulates (r : Reaction C3Connection Effect) : Prop := ∀ effect ∈ r.2, effect.Tabular

variable {c : C3Connection}

theorem Tabulates.andThen {r : Reaction C3Connection Effect}
    {f : C3Connection → Reaction C3Connection Effect} (h : Tabulates r) (hf : Tabulates (f r.1)) :
    Tabulates (r.andThen f) := by
  intro effect heffect
  rcases List.mem_append.mp heffect with hfirst | hlater
  · exact h effect hfirst
  · exact hf effect hlater

theorem onState_tabulates (f : ConnectionState → Reaction ConnectionState Signal)
    (c : C3Connection) : Tabulates (onState f c) := by
  intro effect heffect
  obtain ⟨connected, rfl⟩ := onState_forwards heffect
  trivial

theorem failAttempt_tabulates (error : QString) (c : C3Connection) :
    Tabulates (c.failAttempt error) := by
  unfold failAttempt
  dsimp only
  split_ifs <;> exact tabular_of rfl

theorem connectFn_tabulates (launch : Launch) (c : C3Connection) :
    Tabulates (c.connectFn launch) := by
  cases launch with
  | started => exact tabular_of rfl
  | failed error => exact failAttempt_tabulates error _

theorem onHandshakeData_tabulates (c : C3Connection) : Tabulates c.onHandshakeData := by
  unfold onHandshakeData
  cases c.handshakeStep with
  | none => exact tabular_of rfl
  | awaitingSessionReply =>
    dsimp only
    unfold onSessionReply
    dsimp only
    split
    · exact tabular_of rfl
    · exact Tabulates.andThen (tabular_of rfl) (onState_tabulates _ _)
    · exact tabular_of rfl
    · exact Tabulates.andThen (tabular_of rfl) (onState_tabulates _ _)
  | awaitingSessionLessReply =>
    dsimp only
    unfold onSessionLessReply
    dsimp only
    split_ifs
    · exact tabular_of rfl
    · exact Tabulates.andThen (tabular_of rfl) (onState_tabulates _ _)
    · exact Tabulates.andThen (tabular_of rfl) (onState_tabulates _ _)

/-- Records are handed on as they are decoded. -/
theorem finishDataQuery_tabulates {records : List QVariantMap} (h : SameColumns records)
    (c : C3Connection) : Tabulates (c.finishDataQuery records) := by
  intro effect heffect
  obtain rfl := List.mem_singleton.mp heffect
  exact h

theorem onDataQueryData_tabulates (c : C3Connection) : Tabulates c.onDataQueryData.reaction := by
  unfold onDataQueryData
  cases c.dataQueryStep with
  | none => exact tabular_of rfl
  | awaitingTableConfig =>
    dsimp only
    unfold onDataTableConfig
    dsimp only
    split_ifs
    · exact tabular_of rfl
    · exact tabular_of rfl
    · split <;> exact tabular_of rfl
  | awaitingTableData =>
    dsimp only
    unfold onTableData
    dsimp only
    split
    · exact tabular_of rfl
    · split_ifs <;> exact tabular_of rfl
    · exact finishDataQuery_tabulates (decodeGetDataResponse_columns _ _ _ _) _
    · exact tabular_of rfl
  | awaitingBigDataChunk =>
    dsimp only
    unfold onBigDataChunk
    dsimp only
    split_ifs <;> exact tabular_of rfl
  | awaitingFreeDataAck =>
    dsimp only
    unfold onFreeDataAck
    dsimp only
    split_ifs
    · exact tabular_of rfl
    · exact finishDataQuery_tabulates (parseGetDataPayload_columns _ _ _) _
    · exact tabular_of rfl

theorem onOtherData_tabulates (c : C3Connection) : Tabulates c.onOtherData := by
  unfold onOtherData
  split_ifs
  · obtain h | ⟨-, _, h⟩ | ⟨-, h⟩ | ⟨-, _, h⟩ | ⟨_, h⟩ := onRtLogQueryData_cases c.readAll <;>
      · rw [h]
        exact tabular_of rfl
  · unfold onControlData
    dsimp only
    split_ifs <;> exact tabular_of rfl
  · unfold onGetParamData
    dsimp only
    split_ifs <;> exact tabular_of rfl
  · unfold onSetParamData
    dsimp only
    split_ifs <;> exact tabular_of rfl
  · unfold onCountQueryData
    cases c.readAll.countQueryStep with
    | none => exact tabular_of rfl
    | awaitingTableConfig =>
      dsimp only
      unfold onCountTableConfig
      dsimp only
      split_ifs
      · exact tabular_of rfl
      · exact tabular_of rfl
      · split <;> exact tabular_of rfl
    | awaitingCount =>
      dsimp only
      unfold onCount
      dsimp only
      split_ifs <;> exact tabular_of rfl
  · exact tabular_of rfl

theorem onSocketReadyRead_tabulates (c : C3Connection) : Tabulates c.onSocketReadyRead := by
  unfold onSocketReadyRead
  split_ifs
  · exact onHandshakeData_tabulates _
  · dsimp only
    split_ifs
    · exact onDataQueryData_tabulates _
    · exact (onDataQueryData_tabulates _).andThen (onOtherData_tabulates _)
  · exact onOtherData_tabulates _

theorem callRequest_tabulates (call : RequestCall) (c : C3Connection) :
    Tabulates (c.callRequest call) := by
  obtain ⟨-, hnothing | ⟨-, hframe⟩⟩ := callRequest_written call c
  · unfold Tabulates
    rw [hnothing]
    exact tabular_of rfl
  · unfold Tabulates
    rw [hframe]
    exact tabular_of rfl

/-- **Records of one answer have the same columns**, whatever the panel sends. -/
theorem handle_tabulates (c : C3Connection) (e : Event) : Tabulates (c.handle e) := by
  cases e with
  | connectToHost host port launch =>
    exact (connectFn_tabulates launch _).andThen (onState_tabulates _ _)
  | disconnectNow =>
    refine Tabulates.andThen (tabular_of ?_) (onState_tabulates _ _)
    unfold disconnectFrames
    split_ifs <;> rfl
  | request call => exact callRequest_tabulates call c
  | socketConnected => exact tabular_of rfl
  | socketError error dropped =>
    change Tabulates (c.onSocketError error dropped)
    unfold onSocketError
    dsimp only
    by_cases hattempt : c.connectAttemptPending = true
    · rw [if_pos hattempt]
      exact (failAttempt_tabulates error _).andThen (onState_tabulates _ _)
    · rw [if_neg hattempt]
      exact failAttempt_tabulates error _
  | socketDisconnected => exact tabular_of rfl
  | readyRead chunk => exact onSocketReadyRead_tabulates _
  | handshakeTimeout =>
    change Tabulates (onHandshakeTimeout { c with handshakeTimer := none })
    unfold onHandshakeTimeout
    dsimp only
    split_ifs
    · exact Tabulates.andThen (tabular_of rfl) (onState_tabulates _ _)
    · exact tabular_of rfl
  | requestTimeout k => cases k <;> exact tabular_of rfl
  | heartbeatTick => exact onState_tabulates _ c
  | reconnectTick launch =>
    change Tabulates (c.onReconnectTick launch)
    unfold onReconnectTick
    refine Tabulates.andThen ?_ (onState_tabulates _ _)
    split_ifs
    · exact connectFn_tabulates launch _
    · exact tabular_of rfl
    · exact connectFn_tabulates launch _
    · exact tabular_of rfl

end C3Connection

end C3

end QtAppBase
