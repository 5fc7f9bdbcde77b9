import QtAppBase.C3.BigData

/-!
# How far a transfer goes

The announced length bounds the transfer only if the chunks keep to it. With
chunks that are not empty and not longer than what is missing, every accepted
reply makes progress towards the announced length; the bytes still missing are
the measure that bounds the requests.
-/

namespace QtAppBase.C3

open Library QtAppBase.Core Qt

/-- Records of a table are received. -/
def Effect.isReceived : Effect → Bool
  | .tableDataReceived .. => true
  | _ => false

namespace C3Connection

variable {c : C3Connection} {pieces : List QByteArray} {tableName : QString} {strip : Bool}
  {table : DataTableConfig} {length : ℕ}

/-- The machine that takes whole replies, each in its pieces. -/
def replyMachine : Mealy C3Connection (List QByteArray) Effect := machine.grouped delivered

/-- The panel sends well-formed replies. -/
def WellFormedReply (_ : C3Connection) (pieces : List QByteArray) : Prop :=
  WellFormed pieces.flatten ∧ Pieces pieces.flatten pieces

instance (c : C3Connection) (pieces : List QByteArray) : Decidable (WellFormedReply c pieces) :=
  inferInstanceAs (Decidable (_ ∧ _))

/-- An accepted reply makes the buffer grow, and not beyond the announced length. -/
def Grows (length : ℕ) (c : C3Connection) (pieces : List QByteArray) : Prop :=
  (c.acceptedChunk pieces.flatten).isSome →
    c.bigDataBuffer.length < (replyMachine.next c pieces).bigDataBuffer.length ∧
      (replyMachine.next c pieces).bigDataBuffer.length ≤ length

instance (length : ℕ) (c : C3Connection) (pieces : List QByteArray) :
    Decidable (Grows length c pieces) := inferInstanceAs (Decidable (_ → _))

/-- Records are received only of a buffer of the announced length. -/
def ReceivesExactly (length : ℕ) (c : C3Connection) (pieces : List QByteArray) : Prop :=
  (replyMachine.step c pieces).2.any Effect.isReceived → c.bigDataBuffer.length = length

instance (length : ℕ) (c : C3Connection) (pieces : List QByteArray) :
    Decidable (ReceivesExactly length c pieces) := inferInstanceAs (Decidable (_ → _))

/-- An accepted reply carries a nonempty chunk of at most the bytes still missing. -/
def Fits (length : ℕ) (c : C3Connection) (pieces : List QByteArray) : Prop :=
  ∀ chunk ∈ c.acceptedChunk pieces.flatten,
    chunk ≠ [] ∧ chunk.length ≤ length - c.bigDataBuffer.length

instance (length : ℕ) (c : C3Connection) (pieces : List QByteArray) :
    Decidable (Fits length c pieces) := inferInstanceAs (Decidable (∀ _ ∈ _, _))

/-- How far the transfer has come: a proper part of the announced length is
fetched, or all of it, or the query is over. -/
inductive Progress (tableName : QString) (strip : Bool) (table : DataTableConfig) (length : ℕ)
    (c : C3Connection) : Prop
  | fetching (query : TableQuery tableName strip table .awaitingBigDataChunk c)
      (expected : c.bigDataExpectedLength.toNat = length)
      (missing : c.bigDataBuffer.length < length)
  | fetched (query : TableQuery tableName strip table .awaitingFreeDataAck c)
      (whole : c.bigDataBuffer.length = length)
  | finished (ended : Over c)

/-- The bytes that further requests may fetch, the last request not counted. -/
def missing (length : ℕ) (c : C3Connection) : ℕ :=
  if c.dataQueryPending = true ∧ c.dataQueryStep = .awaitingBigDataChunk then
    length - c.bigDataBuffer.length - 1
  else 0

/-- Only a transfer accepts chunks. -/
theorem acceptedChunk_none {frame : QByteArray} (h : c.dataQueryStep ≠ .awaitingBigDataChunk) :
    c.acceptedChunk frame = none :=
  if_neg fun haccepted => h haccepted.2.1

/-- With nothing pending, no chunk is accepted. -/
theorem Over.acceptedChunk_none {frame : QByteArray} (h : Over c) :
    c.acceptedChunk frame = none := by
  have hdata : c.dataQueryPending = false := dispatch_none.mp h.idle .tableData
  refine if_neg fun haccepted => ?_
  rw [hdata] at haccepted
  exact Bool.false_ne_true haccepted.1

/-- An accepted chunk is appended. -/
theorem next_buffer (h : TableQuery tableName strip table .awaitingBigDataChunk c)
    (hreply : c.WellFormedReply pieces) {chunk : QByteArray}
    (hchunk : c.acceptedChunk pieces.flatten = some chunk) :
    (replyMachine.next c pieces).bigDataBuffer = c.bigDataBuffer ++ chunk := by
  by_cases hmore : UInt32.ofNat (c.bigDataBuffer ++ chunk).length < c.bigDataExpectedLength
  · exact (after_chunk h hreply.1.complete hchunk hmore hreply.2).2.1
  · exact (after_lastChunk h hreply.1.complete hchunk hmore hreply.2).2.1

/-- For one reply, progress is a matter of its chunk. -/
theorem grows_iff_fits (h : Progress tableName strip table length c)
    (hreply : c.WellFormedReply pieces) : c.Grows length pieces ↔ c.Fits length pieces := by
  have hnone : c.acceptedChunk pieces.flatten = none →
      (c.Grows length pieces ↔ c.Fits length pieces) := by
    intro hrefused
    simp [Grows, Fits, hrefused]
  cases h with
  | fetched query =>
    refine hnone (acceptedChunk_none ?_)
    rw [query.awaited]
    decide
  | finished hended => exact hnone hended.acceptedChunk_none
  | fetching query _ hmissing =>
    cases hchunk : c.acceptedChunk pieces.flatten with
    | none => exact hnone hchunk
    | some chunk =>
      have hbuffer := next_buffer query hreply hchunk
      have hpos : chunk ≠ [] ↔ 0 < chunk.length := List.length_pos_iff.symm
      simp only [Grows, Fits, hchunk, hbuffer, List.length_append, Option.isSome_some, true_implies,
        Option.mem_def, Option.some.injEq, forall_eq', hpos]
      omega

/-- A fitting chunk keeps the progress, and costs what it requests. -/
theorem progress_chunk (query : TableQuery tableName strip table .awaitingBigDataChunk c)
    (hexpected : c.bigDataExpectedLength.toNat = length)
    (hmissing : c.bigDataBuffer.length < length) (hreply : c.WellFormedReply pieces)
    {chunk : QByteArray} (hchunk : c.acceptedChunk pieces.flatten = some chunk)
    (hnonempty : chunk ≠ []) (hfit : chunk.length ≤ length - c.bigDataBuffer.length) :
    Progress tableName strip table length (replyMachine.next c pieces) ∧
      (replyMachine.step c pieces).2.countP Effect.isTransmit +
        missing length (replyMachine.next c pieces) ≤ missing length c := by
  have hpos := List.length_pos_iff.mpr hnonempty
  have htotal : (c.bigDataBuffer ++ chunk).length = c.bigDataBuffer.length + chunk.length :=
    List.length_append
  have hnextBuffer := next_buffer query hreply hchunk
  have hmeasure : missing length c = length - c.bigDataBuffer.length - 1 :=
    if_pos ⟨query.pending, query.awaited⟩
  by_cases hmore : UInt32.ofNat (c.bigDataBuffer ++ chunk).length < c.bigDataExpectedLength
  · obtain ⟨hnext, _, hsame, sessionId, requestNr, hemitted⟩ :=
      after_chunk query hreply.1.complete hchunk hmore hreply.2
    rw [ofNat_lt_iff (by omega), hexpected, htotal] at hmore
    have hrequest : (replyMachine.step c pieces).2 = [.write _] := hemitted
    have hnextMeasure : missing length (replyMachine.next c pieces) =
        length - (replyMachine.next c pieces).bigDataBuffer.length - 1 :=
      if_pos ⟨hnext.pending, hnext.awaited⟩
    refine ⟨.fetching hnext (by rw [← hexpected, ← hsame]; rfl)
      (by rw [hnextBuffer]; omega), ?_⟩
    have hone : (replyMachine.step c pieces).2.countP Effect.isTransmit ≤ 1 := by
      rw [hrequest]
      exact List.countP_le_length
    rw [hnextMeasure, hmeasure, hnextBuffer]
    omega
  · obtain ⟨hnext, _, _, sessionId, requestNr, hemitted⟩ :=
      after_lastChunk query hreply.1.complete hchunk hmore hreply.2
    rw [ofNat_lt_iff (by omega), hexpected, htotal] at hmore
    have hrequest : (replyMachine.step c pieces).2 =
        [.write (encodeFreeDataRequest strip sessionId requestNr)] := hemitted
    have hnextMeasure : missing length (replyMachine.next c pieces) = 0 := by
      refine if_neg fun hfetching => ?_
      have hstep : (replyMachine.next c pieces).dataQueryStep = .awaitingFreeDataAck :=
        hnext.awaited
      rw [hstep] at hfetching
      exact DataQueryStep.noConfusion hfetching.2
    refine ⟨.fetched hnext (by rw [hnextBuffer]; omega), ?_⟩
    rw [hrequest, hnextMeasure]
    exact Nat.zero_le _

/-- A fitting reply keeps the progress, and costs what it requests. -/
theorem progress_next (h : Progress tableName strip table length c)
    (hreply : c.WellFormedReply pieces) (hfits : c.Fits length pieces) :
    Progress tableName strip table length (replyMachine.next c pieces) ∧
      (replyMachine.step c pieces).2.countP Effect.isTransmit +
        missing length (replyMachine.next c pieces) ≤ missing length c := by
  have hzero : ∀ {d : C3Connection}, Over d → missing length d = 0 := by
    intro d hover
    have hdata : d.dataQueryPending = false := dispatch_none.mp hover.idle .tableData
    exact if_neg (by simp [hdata])
  cases h with
  | finished hended =>
    obtain ⟨hover, hemitted⟩ := hended.after pieces
    have hnext : Over (replyMachine.next c pieces) := hover
    have hnothing : (replyMachine.step c pieces).2 = [] := hemitted
    refine ⟨.finished hnext, ?_⟩
    rw [hnothing, hzero hnext]
    exact Nat.zero_le _
  | fetched query =>
    obtain ⟨hover, outcome, hemitted, hwrite, _⟩ := after_freeData query hreply.1.complete hreply.2
    have hnext : Over (replyMachine.next c pieces) := hover
    have houtcome : (replyMachine.step c pieces).2 = [outcome] := hemitted
    have hother : outcome.isTransmit = false := by
      cases outcome <;> first | rfl | cases hwrite
    refine ⟨.finished hnext, ?_⟩
    rw [houtcome, hzero hnext, List.countP_singleton, hother]
    exact Nat.zero_le _
  | fetching query hexpected hmissing =>
    cases hchunk : c.acceptedChunk pieces.flatten with
    | none =>
      obtain ⟨hover, error, hemitted⟩ := after_refusedChunk query hreply.1.complete hchunk hreply.2
      have hnext : Over (replyMachine.next c pieces) := hover
      have hfailure :
          (replyMachine.step c pieces).2 = [.tableDataFailed tableName error] := hemitted
      refine ⟨.finished hnext, ?_⟩
      rw [hfailure, hzero hnext]
      exact Nat.zero_le _
    | some chunk =>
      obtain ⟨hnonempty, hfit⟩ := hfits chunk hchunk
      exact progress_chunk query hexpected hmissing hreply hchunk hnonempty hfit

/-- Under the progress invariant, records are received only of the announced length. -/
theorem Progress.receivesExactly (h : Progress tableName strip table length c)
    (hreply : c.WellFormedReply pieces) : c.ReceivesExactly length pieces := by
  intro hreceived
  cases h with
  | fetched _ whole => exact whole
  | finished hended =>
    have hnothing : (replyMachine.step c pieces).2 = [] := (hended.after pieces).2
    rw [hnothing] at hreceived
    cases hreceived
  | fetching query =>
    exfalso
    cases hchunk : c.acceptedChunk pieces.flatten with
    | none =>
      obtain ⟨_, error, hemitted⟩ := after_refusedChunk query hreply.1.complete hchunk hreply.2
      have hfailure :
          (replyMachine.step c pieces).2 = [.tableDataFailed tableName error] := hemitted
      rw [hfailure] at hreceived
      cases hreceived
    | some chunk =>
      have hwrite : ∃ frame, (replyMachine.step c pieces).2 = [.write frame] := by
        by_cases hmore : UInt32.ofNat (c.bigDataBuffer ++ chunk).length < c.bigDataExpectedLength
        · obtain ⟨_, _, _, _, _, hemitted⟩ :=
            after_chunk query hreply.1.complete hchunk hmore hreply.2
          exact ⟨_, hemitted⟩
        · obtain ⟨_, _, _, _, _, hemitted⟩ :=
            after_lastChunk query hreply.1.complete hchunk hmore hreply.2
          exact ⟨_, hemitted⟩
      obtain ⟨frame, hframe⟩ := hwrite
      rw [hframe] at hreceived
      cases hreceived

/-- The state in which the transfer of a query starts. -/
def transferStart (tableName : QString) (config prepare : List QByteArray) (c : C3Connection) :
    C3Connection :=
  machine.after c (tableRun tableName config (delivered prepare))

/-- **Bounds of a transfer.** A transfer is announced with a positive length.
Every accepted reply makes the buffer grow within that length, records are
received only of a buffer of that length, and at most as many chunks are
requested, exactly when every accepted reply carries a nonempty chunk of at most
the bytes still missing. -/
theorem transferBounded_iff_fits (c : C3Connection) (hready : ReadyIdle c) (tableName : QString)
    (table : DataTableConfig) (config prepare : List QByteArray) (announcement : QByteArray)
    (length : ℕ) (hlength : 1 ≤ length)
    (hconfig : ConfigReply config.flatten (!c.sessionLess) tableName table)
    (hconfigPieces : Pieces config.flatten config)
    (hprepare : PrepareReply prepare.flatten (!c.sessionLess) announcement length)
    (hpreparePieces : Pieces prepare.flatten prepare) (replies : List (List QByteArray))
    (hreplies : replyMachine.EachStep WellFormedReply
      (transferStart tableName config prepare c) replies) :
    (replyMachine.EachStep (Grows length) (transferStart tableName config prepare c) replies ∧
      replyMachine.EachStep (ReceivesExactly length) (transferStart tableName config prepare c)
        replies ∧
      (machine.emitted c (tableRun tableName config
        (delivered prepare ++ replies.flatMap delivered))).countP Effect.isTransmit ≤ length) ↔
    replyMachine.EachStep (Fits length) (transferStart tableName config prepare c) replies := by
  obtain ⟨d, request, request', hquery, hcommand, hcommand', hconfigured⟩ :=
    tableRun_configured hready hconfig hconfigPieces
  obtain ⟨hprepared, hbuffer, hexpected, sessionId, requestNr, hprepareEmitted⟩ :=
    after_prepare hquery hprepare hpreparePieces
  have hstart : transferStart tableName config prepare c =
      machine.after d (delivered prepare) := (hconfigured _).1
  rw [← hstart] at hprepared hbuffer hexpected
  have hprogress : Progress tableName (!c.sessionLess) table length
      (transferStart tableName config prepare c) := by
    refine .fetching hprepared hexpected ?_
    rw [hbuffer]
    exact hlength
  have hstep : ∀ s pieces, Progress tableName (!c.sessionLess) table length s →
      WellFormedReply s pieces ∧ Fits length s pieces →
      Progress tableName (!c.sessionLess) table length (replyMachine.next s pieces) :=
    fun _ _ h hP => (progress_next h hP.1 hP.2).1
  constructor
  · rintro ⟨hgrows, _, _⟩
    exact Mealy.eachStep_of_invariant
      (fun s pieces h hP => hstep s pieces h ⟨hP.1, (grows_iff_fits h hP.1).mp hP.2⟩)
      (fun _ _ h hP => (grows_iff_fits h hP.1).mp hP.2) hprogress (hreplies.and hgrows)
  · intro hfits
    have hadmitted := hreplies.and hfits
    refine ⟨?_, ?_, ?_⟩
    · exact Mealy.eachStep_of_invariant hstep
        (fun _ _ h hP => (grows_iff_fits h hP.1).mpr hP.2) hprogress hadmitted
    · exact Mealy.eachStep_of_invariant hstep
        (fun _ _ h hP => h.receivesExactly hP.1) hprogress hadmitted
    · have hmeasure : missing length (transferStart tableName config prepare c) = length - 1 := by
        rw [missing, if_pos ⟨hprepared.pending, hprepared.awaited⟩, hbuffer]
        rfl
      have hcount : (replyMachine.emitted (transferStart tableName config prepare c)
          replies).countP Effect.isTransmit ≤ length - 1 := by
        rw [← hmeasure]
        exact Mealy.countP_emitted_le hstep (fun _ _ h hP => (progress_next h hP.1 hP.2).2)
          hprogress hadmitted
      have hnone : (Effect.write request).isTransmit = false := by
        rw [Effect.isTransmit, hcommand]
        decide
      have hnone' : (Effect.write request').isTransmit = false := by
        rw [Effect.isTransmit, hcommand']
        decide
      rw [replyMachine, Mealy.grouped_emitted, hstart] at hcount
      rw [(hconfigured _).2, Mealy.emitted_append, hprepareEmitted, List.countP_cons,
        List.countP_cons, List.countP_append, List.countP_singleton, hnone, hnone']
      simp only [Bool.false_eq_true, if_false]
      split_ifs <;> omega

/-- The replies that fetch the record of two chunks. -/
def userReplies : List (List QByteArray) :=
  userTransfer.chunks.map ChunkReply.pieces ++ [userTransfer.freeData]

/-- That transfer is bounded. -/
theorem userReplies_bounded :
    replyMachine.EachStep (Grows 5)
      (transferStart "user" [userConfig] userTransfer.prepare sessionOpen) userReplies :=
  ((transferBounded_iff_fits sessionOpen (by decide +kernel) "user" userTable [userConfig]
    userTransfer.prepare userTransfer.announcement 5 (by decide) (by decide +kernel)
    (by decide +kernel) (by decide +kernel) (by decide +kernel) userReplies
    (by decide +kernel)).mpr (by decide +kernel)).1

/-- One byte is announced; an empty chunk arrives, and then a chunk of five bytes. -/
def unboundedTransfer : Transfer :=
  let announcement : QByteArray := [0] ++ bytes32 1 ++ [0, 0, 0, 0, 0, 0, 0, 0, 0, 0, 0, 0]
  { prepare := [encodeFrame kCommandPrepareData 1 0 announcement true]
    announcement := announcement
    chunks :=
      [⟨[], [encodeFrame kReplyOk 1 0 (bytes32 0) true]⟩,
        ⟨userPayload, [encodeFrame kReplyOk 1 0 (bytes32 0 ++ userPayload) true]⟩]
    freeData := [encodeFrame kReplyOk 1 0 [] true] }

/-- The replies of that transfer. -/
def unboundedReplies : List (List QByteArray) :=
  unboundedTransfer.chunks.map ChunkReply.pieces ++ [unboundedTransfer.freeData]

/-- The empty chunk is accepted without progress, the chunk of five bytes is
accepted beyond the announced length, and its record is received. -/
theorem unboundedReplies_overrun :
    ¬ ∀ (c : C3Connection) (tableName : QString) (table : DataTableConfig)
      (config prepare : List QByteArray) (announcement : QByteArray) (length : ℕ)
      (replies : List (List QByteArray)), ReadyIdle c → 1 ≤ length →
      ConfigReply config.flatten (!c.sessionLess) tableName table → Pieces config.flatten config →
      PrepareReply prepare.flatten (!c.sessionLess) announcement length →
      Pieces prepare.flatten prepare →
      replyMachine.EachStep WellFormedReply (transferStart tableName config prepare c) replies →
      replyMachine.EachStep (Grows length) (transferStart tableName config prepare c) replies ∧
        replyMachine.EachStep (ReceivesExactly length) (transferStart tableName config prepare c)
          replies ∧
        (machine.emitted c (tableRun tableName config
          (delivered prepare ++ replies.flatMap delivered))).countP Effect.isTransmit ≤ length := by
  intro h
  exact absurd (h sessionOpen "user" userTable [userConfig] unboundedTransfer.prepare
    unboundedTransfer.announcement 1 unboundedReplies (by decide +kernel) (by decide)
    (by decide +kernel) (by decide +kernel) (by decide +kernel) (by decide +kernel)
    (by decide +kernel)) (by decide +kernel)

end C3Connection

end QtAppBase.C3
