import QtAppBase.C3.TableQuery

/-!
# Big data is transparent

A table whose records do not fit one frame is announced, fetched in chunks at
the offsets the driver asks for, and parsed when the transfer is acknowledged.
The loop invariant is that the big-data buffer is the part of the payload
fetched so far; in the end the outcome is that of the payload in one frame.
-/

namespace QtAppBase.C3

open Library QtAppBase.Core Qt

/-- The configuration of the queried table is found in the reply. -/
structure ConfigReply (frame : QByteArray) (strip : Bool) (tableName : QString)
    (table : DataTableConfig) : Prop where
  complete : Complete frame
  status : (decodeDataTableConfigResponse frame strip).status = .ok
  found : ((decodeDataTableConfigResponse frame strip).tables.find?
    fun table => table.name = tableName) = some table

instance (frame : QByteArray) (strip : Bool) (tableName : QString) (table : DataTableConfig) :
    Decidable (ConfigReply frame strip tableName table) :=
  decidable_of_iff (Complete frame ∧ (decodeDataTableConfigResponse frame strip).status = .ok ∧
    ((decodeDataTableConfigResponse frame strip).tables.find?
      fun table => table.name = tableName) = some table)
    ⟨fun h => ⟨h.1, h.2.1, h.2.2⟩, fun h => ⟨h.complete, h.status, h.found⟩⟩

/-- The reply announces an uncompressed transfer of the given length. -/
structure PrepareReply (frame : QByteArray) (strip : Bool) (payload : QByteArray) (length : ℕ) :
    Prop where
  reply : IsReply frame strip kCommandPrepareData payload
  size : payload.length = 17
  uncompressed : (prepareDataInfo payload).compressed = false
  dataLength : (prepareDataInfo payload).dataLength.toNat = length

instance (frame : QByteArray) (strip : Bool) (payload : QByteArray) (length : ℕ) :
    Decidable (PrepareReply frame strip payload length) :=
  decidable_of_iff (IsReply frame strip kCommandPrepareData payload ∧ payload.length = 17 ∧
    (prepareDataInfo payload).compressed = false ∧
    (prepareDataInfo payload).dataLength.toNat = length)
    ⟨fun h => ⟨h.1, h.2.1, h.2.2.1, h.2.2.2⟩,
      fun h => ⟨h.reply, h.size, h.uncompressed, h.dataLength⟩⟩

/-- A chunk at an offset is decoded as that. -/
theorem decodeTransmitDataResponse_isReply {frame chunk : QByteArray} {strip : Bool}
    {command : UInt8} {offset : UInt32}
    (h : IsReply frame strip command (bytes32 offset ++ chunk)) :
    decodeTransmitDataResponse frame strip =
      { status := .ok, offset := offset, chunkData := chunk } := by
  obtain ⟨a, b, c, d, hbytes⟩ : ∃ a b c d, bytes32 offset = [a, b, c, d] := ⟨_, _, _, _, rfl⟩
  have hoffset : word32At (bytes32 offset ++ chunk) 0 = offset := by
    rw [hbytes]
    exact word32_bytes hbytes
  have hlong : ¬ (bytes32 offset ++ chunk).length < 4 := by
    rw [hbytes]
    simp
  unfold decodeTransmitDataResponse
  rw [h.decoded]
  dsimp only
  rw [if_neg (by decide), if_neg hlong, hoffset]
  rfl

/-- The offset a TRANSMIT_DATA request asks for. -/
def Effect.requestedOffset (strip : Bool) : Effect → Option UInt32
  | .write frame =>
    if frameCommand frame = kCommandTransmitData then
      some (word32At (decodeFrameGeneric frame strip).payload 0)
    else none
  | _ => none

/-- The request for an offset asks for it. -/
theorem requestedOffset_transmit (strip : Bool) (offset : UInt32) (sessionId : UInt16)
    (requestNr : Int32) :
    (Effect.write (encodeTransmitDataRequest offset strip sessionId requestNr)).requestedOffset
      strip = some offset := by
  obtain ⟨a, b, c, d, hbytes⟩ : ∃ a b c d, bytes32 offset = [a, b, c, d] := ⟨_, _, _, _, rfl⟩
  have hlength : (if strip then 4 else 0) + (bytes32 offset).length < 2 ^ 16 := by
    rw [hbytes]
    cases strip <;> simp
  have hreply :
      IsReply (encodeFrame kCommandTransmitData sessionId requestNr (bytes32 offset) strip)
        strip kCommandTransmitData (bytes32 offset) := isReply_encodeFrame hlength (by decide)
  rw [Effect.requestedOffset, encodeTransmitDataRequest, if_pos (frameCommand_encodeFrame ..),
    hreply.decoded, hbytes]
  exact congrArg some (word32_bytes hbytes)

/-- A reply of the transfer: the chunk it carries, and the pieces it arrives in. -/
structure ChunkReply where
  chunk : QByteArray
  pieces : List QByteArray

/-- The replies carry nonempty chunks, each at the offset where the last one ended. -/
def ChunkReplies (strip : Bool) : ℕ → List ChunkReply → Prop
  | _, [] => True
  | offset, reply :: replies =>
    reply.chunk ≠ [] ∧ Pieces reply.pieces.flatten reply.pieces ∧
      IsReply reply.pieces.flatten strip (frameCommand reply.pieces.flatten)
        (bytes32 (UInt32.ofNat offset) ++ reply.chunk) ∧
      ChunkReplies strip (offset + reply.chunk.length) replies

instance decidableChunkReplies (strip : Bool) :
    ∀ offset replies, Decidable (ChunkReplies strip offset replies)
  | _, [] => isTrue trivial
  | offset, reply :: replies =>
    have := decidableChunkReplies strip (offset + reply.chunk.length) replies
    inferInstanceAs (Decidable (_ ∧ _ ∧ _ ∧ _))

/-- Where the chunks start. -/
def chunkStarts : ℕ → List ChunkReply → List UInt32
  | _, [] => []
  | offset, reply :: replies =>
    UInt32.ofNat offset :: chunkStarts (offset + reply.chunk.length) replies

/-- The chunks put together. -/
def assembled (replies : List ChunkReply) : QByteArray := (replies.map ChunkReply.chunk).flatten

/-- The replies arrive one after another. -/
def chunkEvents (replies : List ChunkReply) : List Event :=
  replies.flatMap fun reply => delivered reply.pieces

/-- The replies of a transfer after the configuration, each in its pieces. -/
structure Transfer where
  prepare : List QByteArray
  /-- The payload of CMD_PREPARE_DATA. -/
  announcement : QByteArray
  chunks : List ChunkReply
  freeData : List QByteArray

/-- The transfer delivers the payload: it is announced uncompressed with its
length, split into chunks, and any complete frame acknowledges its end. -/
structure Delivers (strip : Bool) (payload : QByteArray) (t : Transfer) : Prop where
  prepare : PrepareReply t.prepare.flatten strip t.announcement payload.length
  preparePieces : Pieces t.prepare.flatten t.prepare
  chunks : ChunkReplies strip 0 t.chunks
  assembled : assembled t.chunks = payload
  freeData : Complete t.freeData.flatten
  freeDataPieces : Pieces t.freeData.flatten t.freeData

instance (strip : Bool) (payload : QByteArray) (t : Transfer) :
    Decidable (Delivers strip payload t) :=
  decidable_of_iff (PrepareReply t.prepare.flatten strip t.announcement payload.length ∧
    Pieces t.prepare.flatten t.prepare ∧ ChunkReplies strip 0 t.chunks ∧
    QtAppBase.C3.assembled t.chunks = payload ∧ Complete t.freeData.flatten ∧
    Pieces t.freeData.flatten t.freeData)
    ⟨fun ⟨h1, h2, h3, h4, h5, h6⟩ => ⟨h1, h2, h3, h4, h5, h6⟩,
      fun h => ⟨h.prepare, h.preparePieces, h.chunks, h.assembled, h.freeData, h.freeDataPieces⟩⟩

/-- The replies of a transfer arrive. -/
def Transfer.events (t : Transfer) : List Event :=
  delivered t.prepare ++ (chunkEvents t.chunks ++ delivered t.freeData)

/-- A table is queried and its configuration arrives, followed by other replies. -/
def tableRun (tableName : QString) (config : List QByteArray) (replies : List Event) :
    List Event :=
  .request (.requestTableData tableName) :: (delivered config ++ replies)

namespace C3Connection

variable {c : C3Connection} {frame : QByteArray} {pieces : List QByteArray} {tableName : QString}
  {strip : Bool} {table : DataTableConfig}

/-- A query for a table whose configuration is known. -/
structure TableQuery (tableName : QString) (strip : Bool) (table : DataTableConfig)
    (step : DataQueryStep) (c : C3Connection) : Prop extends Awaiting step c where
  name : c.pendingTableName = tableName
  session : (!c.sessionLess) = strip
  config : c.tableConfig = table

/-- The chunk the transfer takes from a reply, if it accepts it. -/
def acceptedChunk (c : C3Connection) (frame : QByteArray) : Option QByteArray :=
  let response := decodeTransmitDataResponse frame (!c.sessionLess)
  if c.dataQueryPending = true ∧ c.dataQueryStep = .awaitingBigDataChunk ∧
      response.status = .ok ∧ response.offset = UInt32.ofNat c.bigDataBuffer.length then
    some response.chunkData
  else none

/-- A reply at the requested offset is accepted. -/
theorem acceptedChunk_isReply (h : Awaiting .awaitingBigDataChunk c) {command : UInt8}
    {chunk : QByteArray} (hreply : IsReply frame (!c.sessionLess) command
      (bytes32 (UInt32.ofNat c.bigDataBuffer.length) ++ chunk)) :
    c.acceptedChunk frame = some chunk := by
  rw [acceptedChunk, decodeTransmitDataResponse_isReply hreply]
  exact if_pos ⟨h.pending, h.awaited, rfl, rfl⟩

/-! ### One reply -/

/-- The reply to the first frame configures the query. -/
theorem after_config (h : Awaiting .awaitingTableConfig c) (hname : c.pendingTableName = tableName)
    (hsession : (!c.sessionLess) = strip) (hconfig : ConfigReply frame strip tableName table)
    (hpieces : Pieces frame pieces) :
    TableQuery tableName strip table .awaitingTableData (machine.after c (delivered pieces)) ∧
      ∃ request, machine.emitted c (delivered pieces) = [.write request] ∧
        frameCommand request = kCommandGetData := by
  subst hname hsession
  let d : C3Connection := { c with readBuffer := frame }
  let e : C3Connection := { d.takeDataReply with tableConfig := table }
  have hreaction : d.onDataQueryData.reaction =
      e.continueDataQuery .awaitingTableData e.getDataFrame := by
    have hbranch : d.onDataQueryData = d.onDataTableConfig := by
      rw [onDataQueryData, show d.dataQueryStep = _ from h.awaited]
    rw [hbranch, onDataTableConfig]
    dsimp only
    rw [if_neg (by rw [show (decodeDataTableConfigResponse d.readBuffer _).status = _
      from hconfig.status]; decide), if_neg (not_not.mpr hconfig.status)]
    have hfound : ((decodeDataTableConfigResponse d.readBuffer (!d.sessionLess)).tables.find?
        fun table => table.name = d.pendingTableName) = some table := hconfig.found
    rw [hfound]
  obtain ⟨hawaiting, hafter, hemitted⟩ := h.after_continued hconfig.complete hpieces hreaction
    (h.toQuerying.of_same rfl rfl rfl rfl) (by decide)
  rw [hemitted]
  exact ⟨⟨hawaiting, by rw [hafter]; rfl, by rw [hafter]; rfl, by rw [hafter]; rfl⟩, _, rfl, rfl⟩

/-- Records in one frame end the query. -/
theorem after_single (h : TableQuery tableName strip table .awaitingTableData c)
    {payload : QByteArray} (hreply : IsReply frame strip kReplyOk payload)
    (hpieces : Pieces frame pieces) :
    ∃ outcome, machine.emitted c (delivered pieces) = [outcome] ∧ outcome.isWrite = false ∧
      outcome.tableOutcome =
        some (tableName, recordsOf (parseGetDataPayload payload table.index table.fields)) := by
  obtain ⟨hawaiting, rfl, rfl, rfl⟩ := h
  obtain ⟨_, hemitted⟩ := hawaiting.after_reply hreply.complete hpieces
  let d : C3Connection := { c with readBuffer := frame }
  have hresponse : decodeGetDataResponse d.readBuffer d.tableConfig.index d.tableConfig.fields
      (!d.sessionLess) =
      parseGetDataPayload payload c.tableConfig.index c.tableConfig.fields := by
    have hdecoded : decodeFrameGeneric d.readBuffer (!d.sessionLess) = _ := hreply.decoded
    rw [decodeGetDataResponse, hdecoded]
    exact if_neg (show ¬ kReplyOk = kCommandPrepareData by decide)
  have hbranch : d.onDataQueryData = d.onTableData := by
    rw [onDataQueryData, show d.dataQueryStep = _ from hawaiting.awaited]
  obtain ⟨hincomplete, hpending⟩ :=
    parseGetDataPayload_complete payload c.tableConfig.index c.tableConfig.fields
  rw [hemitted]
  change ∃ outcome, d.onDataQueryData.reaction.2 = [outcome] ∧ _
  rw [hbranch, onTableData]
  dsimp only
  rw [hresponse, recordsOf]
  cases hstatus : (parseGetDataPayload payload c.tableConfig.index c.tableConfig.fields).status with
  | incomplete => exact absurd hstatus hincomplete
  | bigDataPending => exact absurd hstatus hpending
  | ok => exact ⟨_, rfl, rfl, rfl⟩
  | malformed => exact ⟨_, rfl, rfl, rfl⟩
  | rejected => exact ⟨_, rfl, rfl, rfl⟩
  | tableMismatch => exact ⟨_, rfl, rfl, rfl⟩

/-- An announcement starts the transfer at offset zero. -/
theorem after_prepare (h : TableQuery tableName strip table .awaitingTableData c)
    {payload : QByteArray} {length : ℕ} (hprepare : PrepareReply frame strip payload length)
    (hpieces : Pieces frame pieces) :
    TableQuery tableName strip table .awaitingBigDataChunk (machine.after c (delivered pieces)) ∧
      (machine.after c (delivered pieces)).bigDataBuffer = [] ∧
      (machine.after c (delivered pieces)).bigDataExpectedLength.toNat = length ∧
      ∃ sessionId requestNr, machine.emitted c (delivered pieces) =
        [.write (encodeTransmitDataRequest 0 strip sessionId requestNr)] := by
  obtain ⟨hawaiting, rfl, rfl, rfl⟩ := h
  let d : C3Connection := { c with readBuffer := frame }
  let e : C3Connection := { d.takeDataReply with
    bigDataBuffer := [], bigDataExpectedLength := (prepareDataInfo payload).dataLength }
  have hresponse : decodeGetDataResponse d.readBuffer d.tableConfig.index d.tableConfig.fields
      (!d.sessionLess) = { status := .bigDataPending, prepareInfo := prepareDataInfo payload } := by
    have hdecoded : decodeFrameGeneric d.readBuffer (!d.sessionLess) = _ := hprepare.reply.decoded
    rw [decodeGetDataResponse, hdecoded]
    dsimp only
    rw [if_pos rfl, if_neg (not_not.mpr hprepare.size)]
  have hreaction : d.onDataQueryData.reaction =
      e.continueDataQuery .awaitingBigDataChunk e.transmitDataFrame := by
    have hbranch : d.onDataQueryData = d.onTableData := by
      rw [onDataQueryData, show d.dataQueryStep = _ from hawaiting.awaited]
    rw [hbranch, onTableData]
    dsimp only
    rw [hresponse]
    dsimp only
    rw [hprepare.uncompressed]
    rfl
  obtain ⟨hnext, hafter, hemitted⟩ := hawaiting.after_continued hprepare.reply.complete hpieces
    hreaction (hawaiting.toQuerying.of_same rfl rfl rfl rfl) (by decide)
  rw [hemitted]
  refine ⟨⟨hnext, ?_, ?_, ?_⟩, ?_, ?_, _, _, rfl⟩ <;> rw [hafter]
  · rfl
  · rfl
  · rfl
  · rfl
  · exact hprepare.dataLength

/-- An accepted chunk is appended; the query goes on with the rest, or ends the transfer. -/
theorem onDataQueryData_accepted {chunk : QByteArray}
    (hchunk : c.acceptedChunk c.readBuffer = some chunk) :
    c.onDataQueryData.reaction =
      let c := { c.takeDataReply with bigDataBuffer := c.bigDataBuffer ++ chunk }
      if UInt32.ofNat c.bigDataBuffer.length < c.bigDataExpectedLength then
        c.continueDataQuery .awaitingBigDataChunk c.transmitDataFrame
      else c.continueDataQuery .awaitingFreeDataAck c.freeDataFrame := by
  unfold acceptedChunk at hchunk
  dsimp only at hchunk
  split_ifs at hchunk with haccepted
  obtain ⟨_, hstep, hstatus, hoffset⟩ := haccepted
  have hok : ¬ (decodeTransmitDataResponse c.readBuffer (!c.sessionLess)).status = .incomplete := by
    rw [hstatus]
    decide
  have hsame : ¬ ((decodeTransmitDataResponse c.readBuffer (!c.sessionLess)).status ≠ .ok ∨
      (decodeTransmitDataResponse c.readBuffer (!c.sessionLess)).offset ≠
        UInt32.ofNat c.bigDataBuffer.length) := by
    simp [hstatus, hoffset]
  rw [onDataQueryData, hstep]
  dsimp only
  rw [onBigDataChunk]
  dsimp only
  rw [if_neg hok, if_neg hsame, Option.some.inj hchunk]
  split_ifs <;> rfl

/-- While bytes are missing, the next chunk is requested where the last one ended. -/
theorem after_chunk (h : TableQuery tableName strip table .awaitingBigDataChunk c)
    (hcomplete : Complete frame) {chunk : QByteArray} (hchunk : c.acceptedChunk frame = some chunk)
    (hmore : UInt32.ofNat (c.bigDataBuffer ++ chunk).length < c.bigDataExpectedLength)
    (hpieces : Pieces frame pieces) :
    TableQuery tableName strip table .awaitingBigDataChunk (machine.after c (delivered pieces)) ∧
      (machine.after c (delivered pieces)).bigDataBuffer = c.bigDataBuffer ++ chunk ∧
      (machine.after c (delivered pieces)).bigDataExpectedLength = c.bigDataExpectedLength ∧
      ∃ sessionId requestNr, machine.emitted c (delivered pieces) =
        [.write (encodeTransmitDataRequest (UInt32.ofNat (c.bigDataBuffer ++ chunk).length) strip
          sessionId requestNr)] := by
  obtain ⟨hawaiting, rfl, rfl, rfl⟩ := h
  let d : C3Connection := { c with readBuffer := frame }
  let e : C3Connection := { d.takeDataReply with bigDataBuffer := c.bigDataBuffer ++ chunk }
  have hreaction : d.onDataQueryData.reaction =
      e.continueDataQuery .awaitingBigDataChunk e.transmitDataFrame :=
    (onDataQueryData_accepted (c := d) hchunk).trans (if_pos hmore)
  obtain ⟨hnext, hafter, hemitted⟩ := hawaiting.after_continued hcomplete hpieces hreaction
    (hawaiting.toQuerying.of_same rfl rfl rfl rfl) (by decide)
  rw [hemitted]
  refine ⟨⟨hnext, ?_, ?_, ?_⟩, ?_, ?_, _, _, rfl⟩ <;> rw [hafter] <;> rfl

/-- With the announced length reached, the transfer is released. -/
theorem after_lastChunk (h : TableQuery tableName strip table .awaitingBigDataChunk c)
    (hcomplete : Complete frame) {chunk : QByteArray} (hchunk : c.acceptedChunk frame = some chunk)
    (hlast : ¬ UInt32.ofNat (c.bigDataBuffer ++ chunk).length < c.bigDataExpectedLength)
    (hpieces : Pieces frame pieces) :
    TableQuery tableName strip table .awaitingFreeDataAck (machine.after c (delivered pieces)) ∧
      (machine.after c (delivered pieces)).bigDataBuffer = c.bigDataBuffer ++ chunk ∧
      (machine.after c (delivered pieces)).bigDataExpectedLength = c.bigDataExpectedLength ∧
      ∃ sessionId requestNr, machine.emitted c (delivered pieces) =
        [.write (encodeFreeDataRequest strip sessionId requestNr)] := by
  obtain ⟨hawaiting, rfl, rfl, rfl⟩ := h
  let d : C3Connection := { c with readBuffer := frame }
  let e : C3Connection := { d.takeDataReply with bigDataBuffer := c.bigDataBuffer ++ chunk }
  have hreaction : d.onDataQueryData.reaction =
      e.continueDataQuery .awaitingFreeDataAck e.freeDataFrame :=
    (onDataQueryData_accepted (c := d) hchunk).trans (if_neg hlast)
  obtain ⟨hnext, hafter, hemitted⟩ := hawaiting.after_continued hcomplete hpieces hreaction
    (hawaiting.toQuerying.of_same rfl rfl rfl rfl) (by decide)
  rw [hemitted]
  refine ⟨⟨hnext, ?_, ?_, ?_⟩, ?_, ?_, _, _, rfl⟩ <;> rw [hafter] <;> rfl

/-- Any complete acknowledgement ends the query with what the buffer amounts to. -/
theorem after_freeData (h : TableQuery tableName strip table .awaitingFreeDataAck c)
    (hcomplete : Complete frame) (hpieces : Pieces frame pieces) :
    Over (machine.after c (delivered pieces)) ∧
      ∃ outcome, machine.emitted c (delivered pieces) = [outcome] ∧ outcome.isWrite = false ∧
        outcome.tableOutcome = some (tableName,
          recordsOf (parseGetDataPayload c.bigDataBuffer table.index table.fields)) := by
  obtain ⟨hawaiting, rfl, rfl, rfl⟩ := h
  obtain ⟨hafter, hemitted⟩ := hawaiting.after_reply hcomplete hpieces
  let d : C3Connection := { c with readBuffer := frame }
  have hwhole : ¬ decodeGenericReply d.readBuffer = .incomplete :=
    mt decodeGenericReply_incomplete.mp hcomplete.notPartial
  have hbranch : d.onDataQueryData = d.onFreeDataAck := by
    rw [onDataQueryData, show d.dataQueryStep = _ from hawaiting.awaited]
  have hover : ∀ e : C3Connection, e.connectAttemptPending = c.connectAttemptPending →
      e.dataQueryPending = false → (∀ k, k ≠ .tableData → e.pending k = c.pending k) → Over e :=
    fun _ => hawaiting.toQuerying.over
  rw [hafter, hemitted]
  change Over d.onDataQueryData.reaction.1 ∧ ∃ outcome, d.onDataQueryData.reaction.2 = [outcome] ∧ _
  rw [hbranch, onFreeDataAck]
  dsimp only
  rw [if_neg hwhole, recordsOf]
  split_ifs with hok
  · refine ⟨hover _ rfl rfl ?_, _, rfl, rfl, rfl⟩
    intro k hk
    cases k <;> first | rfl | exact absurd rfl hk
  · refine ⟨hover _ rfl rfl ?_, _, rfl, rfl, rfl⟩
    intro k hk
    cases k <;> first | rfl | exact absurd rfl hk

/-- Any other complete reply ends the transfer with a failure. -/
theorem after_refusedChunk (h : TableQuery tableName strip table .awaitingBigDataChunk c)
    (hcomplete : Complete frame) (hrefused : c.acceptedChunk frame = none)
    (hpieces : Pieces frame pieces) :
    Over (machine.after c (delivered pieces)) ∧
      ∃ error, machine.emitted c (delivered pieces) = [.tableDataFailed tableName error] := by
  obtain ⟨hawaiting, rfl, rfl, rfl⟩ := h
  obtain ⟨hafter, hemitted⟩ := hawaiting.after_reply hcomplete hpieces
  let d : C3Connection := { c with readBuffer := frame }
  have hwhole : ¬ (decodeTransmitDataResponse d.readBuffer (!d.sessionLess)).status = .incomplete :=
    mt (decodeTransmitDataResponse_incomplete _).mp hcomplete.notPartial
  have hbad : (decodeTransmitDataResponse d.readBuffer (!d.sessionLess)).status ≠ .ok ∨
      (decodeTransmitDataResponse d.readBuffer (!d.sessionLess)).offset ≠
        UInt32.ofNat d.bigDataBuffer.length := by
    unfold acceptedChunk at hrefused
    dsimp only at hrefused
    split_ifs at hrefused with haccepted
    by_contra hgood
    obtain ⟨hstatus, hoffset⟩ := not_or.mp hgood
    exact haccepted ⟨hawaiting.pending, hawaiting.awaited, not_not.mp hstatus, not_not.mp hoffset⟩
  have hbranch : d.onDataQueryData = d.onBigDataChunk := by
    rw [onDataQueryData, show d.dataQueryStep = _ from hawaiting.awaited]
  rw [hafter, hemitted]
  change Over d.onDataQueryData.reaction.1 ∧ ∃ error, d.onDataQueryData.reaction.2 = _
  rw [hbranch, onBigDataChunk]
  dsimp only
  rw [if_neg hwhole, if_pos hbad]
  refine ⟨hawaiting.toQuerying.over rfl rfl ?_, _, rfl⟩
  intro k hk
  cases k <;> first | rfl | exact absurd rfl hk

/-! ### The whole transfer -/

/-- Lengths below 2 ^ 32 compare as they do in the driver. -/
theorem ofNat_lt_iff {n : ℕ} {w : UInt32} (hn : n ≤ w.toNat) :
    UInt32.ofNat n < w ↔ n < w.toNat := by
  have hvalue : (UInt32.ofNat n).toNat = n :=
    UInt32.toNat_ofNat_of_lt' (Nat.lt_of_le_of_lt hn w.toNat_lt)
  rw [UInt32.lt_iff_toNat_lt, hvalue]

/-- **Transfer loop.** With the fetched part of the payload in the buffer, the
remaining chunks complete it; every request asks for the chunk that is sent. -/
theorem after_chunks {replies : List ChunkReply} {payload : QByteArray}
    (h : TableQuery tableName strip table .awaitingBigDataChunk c)
    (hreplies : ChunkReplies strip c.bigDataBuffer.length replies) (hsome : replies ≠ [])
    (hpayload : c.bigDataBuffer ++ assembled replies = payload)
    (hlength : c.bigDataExpectedLength.toNat = payload.length) :
    TableQuery tableName strip table .awaitingFreeDataAck (machine.after c (chunkEvents replies)) ∧
      (machine.after c (chunkEvents replies)).bigDataBuffer = payload ∧
      signals (machine.emitted c (chunkEvents replies)) = [] ∧
      (machine.emitted c (chunkEvents replies)).filterMap (Effect.requestedOffset strip) =
        (chunkStarts c.bigDataBuffer.length replies).tail := by
  induction replies generalizing c with
  | nil => exact absurd rfl hsome
  | cons reply rest ih =>
    obtain ⟨hchunk, hpieces, hreply, hrest⟩ := hreplies
    have haccepted : c.acceptedChunk reply.pieces.flatten = some reply.chunk := by
      rw [← h.session] at hreply
      exact acceptedChunk_isReply h.toAwaiting hreply
    have hassembled : c.bigDataBuffer ++ reply.chunk ++ assembled rest = payload := by
      rw [← hpayload, assembled, assembled, List.map_cons, List.flatten_cons, List.append_assoc]
    have htotal := congrArg List.length hassembled
    rw [List.length_append] at htotal
    have hevents : chunkEvents (reply :: rest) = delivered reply.pieces ++ chunkEvents rest :=
      List.flatMap_cons ..
    rw [hevents, Mealy.after_append, Mealy.emitted_append]
    cases rest with
    | nil =>
      -- the buffer has the announced length
      have hwhole : c.bigDataBuffer ++ reply.chunk = payload := by
        rw [← hassembled]
        simp [assembled]
      have hlast : ¬ UInt32.ofNat (c.bigDataBuffer ++ reply.chunk).length <
          c.bigDataExpectedLength := by
        rw [ofNat_lt_iff (by rw [hwhole, hlength]), hwhole, hlength]
        exact lt_irrefl _
      obtain ⟨hnext, hbuffer, _, sessionId, requestNr, hemitted⟩ :=
        after_lastChunk h hreply.complete haccepted hlast hpieces
      have hnone : chunkEvents [] = [] := rfl
      rw [hnone, Mealy.after_nil, Mealy.emitted_nil, List.append_nil, hemitted]
      exact ⟨hnext, hbuffer.trans hwhole, rfl, rfl⟩
    | cons next later =>
      -- the next chunk is missing
      have hpos : 0 < (assembled (next :: later)).length := by
        have hnext := List.length_pos_iff.mpr hrest.1
        rw [assembled, List.map_cons, List.flatten_cons, List.length_append]
        omega
      have hmore : UInt32.ofNat (c.bigDataBuffer ++ reply.chunk).length <
          c.bigDataExpectedLength := by
        rw [ofNat_lt_iff (by omega), hlength]
        omega
      obtain ⟨hnext, hbuffer, hexpected, sessionId, requestNr, hemitted⟩ :=
        after_chunk h hreply.complete haccepted hmore hpieces
      have hoffset : (machine.after c (delivered reply.pieces)).bigDataBuffer.length =
          c.bigDataBuffer.length + reply.chunk.length := by
        rw [hbuffer, List.length_append]
      obtain ⟨hdone, hdoneBuffer, hsignals, hoffsets⟩ := ih hnext (by rwa [hoffset])
        (List.cons_ne_nil _ _) (by rw [hbuffer]; exact hassembled) (by rw [hexpected, hlength])
      refine ⟨hdone, hdoneBuffer, ?_, ?_⟩
      · rw [hemitted, signals_append, hsignals]
        rfl
      · rw [hemitted, List.filterMap_append, hoffsets, hoffset, List.length_append]
        have hfirst := requestedOffset_transmit strip
          (UInt32.ofNat (c.bigDataBuffer.length + reply.chunk.length)) sessionId requestNr
        rw [List.filterMap_cons, hfirst]
        rfl

/-- The query up to its configuration writes two frames; then it waits for table data. -/
theorem tableRun_configured (hready : ReadyIdle c) {config : List QByteArray}
    (hconfig : ConfigReply config.flatten (!c.sessionLess) tableName table)
    (hpieces : Pieces config.flatten config) :
    ∃ d request request', TableQuery tableName (!c.sessionLess) table .awaitingTableData d ∧
      frameCommand request = kCommandDataTableCfg ∧ frameCommand request' = kCommandGetData ∧
      ∀ replies, machine.after c (tableRun tableName config replies) = machine.after d replies ∧
        machine.emitted c (tableRun tableName config replies) =
          .write request :: .write request' :: machine.emitted d replies := by
  obtain ⟨hawaiting, hname, hsession, hrequest⟩ := requestTableData_awaiting hready tableName
  let e : C3Connection := (requestTableData tableName c).1
  obtain ⟨hquery, request', hemitted, hcommand⟩ :=
    after_config hawaiting hname (by rw [hsession]) hconfig hpieces
  have hfirst : (machine.step c (.request (.requestTableData tableName))).2 =
      [.write (encodeDataTableConfigRequest (!c.sessionLess) c.sessionId c.requestNr)] := hrequest
  have hsecond : machine.emitted (machine.next c (.request (.requestTableData tableName)))
      (delivered config) = [.write request'] := hemitted
  refine ⟨machine.after e (delivered config),
    encodeDataTableConfigRequest (!c.sessionLess) c.sessionId c.requestNr, request', hquery, rfl,
    hcommand, ?_⟩
  intro replies
  constructor
  · rw [tableRun, Mealy.after_cons, Mealy.after_append]
    rfl
  · rw [tableRun, Mealy.emitted_cons, Mealy.emitted_append, hfirst, hsecond]
    rfl

/-- An outcome is the only signal of a reply that ends the query. -/
theorem signals_outcome {outcome : Effect} (hwrite : outcome.isWrite = false) :
    signals [outcome] = [outcome] := by
  rw [signals, List.filter_cons, hwrite]
  rfl

/-- A payload in one frame has the outcome that the parser gives. -/
theorem single_outcome (hready : ReadyIdle c) {config single : List QByteArray}
    {payload : QByteArray}
    (hconfig : ConfigReply config.flatten (!c.sessionLess) tableName table)
    (hconfigPieces : Pieces config.flatten config)
    (hsingle : IsReply single.flatten (!c.sessionLess) kReplyOk payload)
    (hsinglePieces : Pieces single.flatten single) :
    (signals (machine.emitted c (tableRun tableName config (delivered single)))).map
        Effect.tableOutcome =
      [some (tableName, recordsOf (parseGetDataPayload payload table.index table.fields))] := by
  obtain ⟨d, request, request', hquery, _, _, hrun⟩ :=
    tableRun_configured hready hconfig hconfigPieces
  obtain ⟨outcome, hemitted, hwrite, houtcome⟩ := after_single hquery hsingle hsinglePieces
  have hsignals : signals (machine.emitted c (tableRun tableName config (delivered single))) =
      signals (machine.emitted d (delivered single)) := by
    rw [(hrun _).2]
    rfl
  have hemitted : machine.emitted d (delivered single) = [outcome] := hemitted
  rw [hsignals, hemitted, signals_outcome hwrite, List.map_cons, houtcome]
  rfl

/-- So has a payload that arrives as big data, and each request names the offset of its chunk. -/
theorem transfer_outcome {d : C3Connection}
    (h : TableQuery tableName strip table .awaitingTableData d) {payload : QByteArray}
    (hpayload : payload ≠ []) {transfer : Transfer} (htransfer : Delivers strip payload transfer) :
    (signals (machine.emitted d transfer.events)).map Effect.tableOutcome =
        [some (tableName, recordsOf (parseGetDataPayload payload table.index table.fields))] ∧
      (machine.emitted d transfer.events).filterMap (Effect.requestedOffset strip) =
        chunkStarts 0 transfer.chunks := by
  obtain ⟨hprepared, hbuffer, hexpected, sessionId, requestNr, hprepareEmitted⟩ :=
    after_prepare h htransfer.prepare htransfer.preparePieces
  have hsome : transfer.chunks ≠ [] := by
    intro hnone
    have hassembled := htransfer.assembled
    rw [hnone] at hassembled
    exact hpayload hassembled.symm
  obtain ⟨hchunked, hwhole, hchunkSignals, hchunkOffsets⟩ := after_chunks hprepared
    (by rw [hbuffer]; exact htransfer.chunks) hsome
    (by rw [hbuffer]; exact htransfer.assembled) hexpected
  obtain ⟨_, outcome, hemitted, hwrite, houtcome⟩ :=
    after_freeData hchunked htransfer.freeData htransfer.freeDataPieces
  have hrun : machine.emitted d transfer.events =
      machine.emitted d (delivered transfer.prepare) ++
        (machine.emitted (machine.after d (delivered transfer.prepare))
          (chunkEvents transfer.chunks) ++ [outcome]) := by
    rw [Transfer.events, Mealy.emitted_append, Mealy.emitted_append, hemitted]
  constructor
  · rw [hrun, hprepareEmitted, signals_append, signals_append, hchunkSignals,
      signals_outcome hwrite, signals_write, List.nil_append, List.nil_append, List.map_cons,
      houtcome, hwhole]
    rfl
  · have hother : outcome.requestedOffset strip = none := by
      cases outcome <;> first | rfl | cases hwrite
    have hfirst := requestedOffset_transmit strip 0 sessionId requestNr
    rw [hrun, hprepareEmitted, List.filterMap_append, List.filterMap_append,
      hchunkOffsets, hbuffer, List.filterMap_cons, List.filterMap_cons, hfirst, hother]
    cases hchunks : transfer.chunks with
    | nil => exact absurd hchunks hsome
    | cons reply later => simp [chunkStarts]

/-- **Big data is transparent.** A payload that arrives as big data, in any
chunks and any pieces, has the same outcome as in one frame: the same table name
and records, or a failure in both. The chunks sent are the ones requested. -/
theorem bigData_transparent (c : C3Connection) (hready : ReadyIdle c) (tableName : QString)
    (table : DataTableConfig) (payload : QByteArray) (hpayload : payload ≠ [])
    (config single : List QByteArray) (transfer : Transfer)
    (hconfig : ConfigReply config.flatten (!c.sessionLess) tableName table)
    (hconfigPieces : Pieces config.flatten config)
    (hsingle : IsReply single.flatten (!c.sessionLess) kReplyOk payload)
    (hsinglePieces : Pieces single.flatten single)
    (htransfer : Delivers (!c.sessionLess) payload transfer) :
    (signals (machine.emitted c (tableRun tableName config transfer.events))).map
        Effect.tableOutcome =
      (signals (machine.emitted c (tableRun tableName config (delivered single)))).map
        Effect.tableOutcome ∧
    (signals (machine.emitted c (tableRun tableName config (delivered single)))).map
        Effect.tableOutcome =
      [some (tableName, recordsOf (parseGetDataPayload payload table.index table.fields))] ∧
    (machine.emitted c (tableRun tableName config transfer.events)).filterMap
        (Effect.requestedOffset (!c.sessionLess)) = chunkStarts 0 transfer.chunks := by
  have hsingleRun := single_outcome hready hconfig hconfigPieces hsingle hsinglePieces
  obtain ⟨d, request, request', hquery, hcommand, hcommand', hconfigured⟩ :=
    tableRun_configured hready hconfig hconfigPieces
  obtain ⟨houtcome, hoffsets⟩ := transfer_outcome hquery hpayload htransfer
  have hsignals : signals (machine.emitted c (tableRun tableName config transfer.events)) =
      signals (machine.emitted d transfer.events) := by
    rw [(hconfigured _).2]
    rfl
  have hnone : (Effect.write request).requestedOffset (!c.sessionLess) = none :=
    if_neg (by rw [hcommand]; decide)
  have hnone' : (Effect.write request').requestedOffset (!c.sessionLess) = none :=
    if_neg (by rw [hcommand']; decide)
  refine ⟨?_, hsingleRun, ?_⟩
  · rw [hsingleRun, hsignals, houtcome]
  · rw [(hconfigured _).2, List.filterMap_cons, List.filterMap_cons, hnone, hnone']
    exact hoffsets

/-- A table with one column, as the panel describes it: `user=1,uid=i1`. -/
def userConfig : QByteArray :=
  encodeFrame kReplyOk 1 0 [117, 115, 101, 114, 61, 49, 44, 117, 105, 100, 61, 105, 49] true

/-- That table. -/
def userTable : DataTableConfig :=
  { name := "user", index := 1, fields := [{ name := "uid", type := 'i', index := 1 }] }

/-- One record in which the column has the value seven. -/
def userPayload : QByteArray := [1, 1, 1, 1, 7]

/-- That record in two chunks, each reply in two pieces. -/
def userTransfer : Transfer :=
  let split (n : ℕ) (frame : QByteArray) : List QByteArray := [frame.take n, frame.drop n]
  let announcement : QByteArray := [0] ++ bytes32 5 ++ [0, 0, 0, 0, 0, 0, 0, 0, 0, 0, 0, 0]
  { prepare := split 4 (encodeFrame kCommandPrepareData 1 0 announcement true)
    announcement := announcement
    chunks :=
      [⟨[1, 1, 1], split 9 (encodeFrame kReplyOk 1 0 (bytes32 0 ++ [1, 1, 1]) true)⟩,
        ⟨[1, 7], split 2 (encodeFrame kReplyOk 1 0 (bytes32 3 ++ [1, 7]) true)⟩]
    freeData := split 1 (encodeFrame kReplyError 1 0 [] true) }

/-- Both ways to fetch the record end alike. -/
theorem userTransfer_transparent :
    (signals (machine.emitted sessionOpen (tableRun "user" [userConfig] userTransfer.events))).map
        Effect.tableOutcome =
      (signals (machine.emitted sessionOpen
        (tableRun "user" [userConfig] (delivered [encodeFrame kReplyOk 1 0 userPayload true])))).map
          Effect.tableOutcome :=
  (bigData_transparent sessionOpen (by decide +kernel) "user" userTable userPayload (by decide)
    [userConfig] [encodeFrame kReplyOk 1 0 userPayload true] userTransfer (by decide +kernel)
    (by decide +kernel) (by decide +kernel) (by decide +kernel) (by decide +kernel)).1

end C3Connection

end QtAppBase.C3
