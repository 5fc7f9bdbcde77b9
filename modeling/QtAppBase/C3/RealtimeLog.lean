import QtAppBase.C3.FrameDecoding

/-!
# Records of the binary realtime log

A binary log is a sequence of records of sixteen bytes. The decoder reads each
record from its own bytes, in one of two layouts that the eleventh byte selects,
and an event keeps every byte of its record.
-/

namespace QtAppBase.C3

open Library Qt

/-- The payload of a frame, without its session block. -/
def framePayload (frame : QByteArray) (stripSessionBlock : Bool) : QByteArray :=
  let payload := mid frame 5 (lengthField frame)
  if stripSessionBlock && 4 ≤ payload.length then payload.drop 4 else payload

/-- An event on the wire. -/
def encodeEvent (record : RtLogRecord) : QByteArray :=
  bytes32 record.cardNo ++ bytes32 record.pin ++
    [record.verified, record.doorId, record.eventType, record.inOutState] ++
    bytes32 record.timeSecond

/-- The record of a block: a door status if the eleventh byte says so, and else
an event that has all its bytes. -/
structure RecordOfBlock (block : QByteArray) (record : RtLogRecord) : Prop where
  /-- The eleventh byte tells the kind. -/
  kind : record.kind = .doorAlarmStatus ↔ byteAt block 10 = 255
  /-- An event is written back to its block. -/
  event : record.kind = .event → encodeEvent record = block

variable {frame : QByteArray} {b : Bool}

/-- A well-formed frame that reports no error is decoded to its payload. -/
theorem decodeFrameGeneric_wellFormed (hframe : WellFormed frame)
    (hcommand : frameCommand frame ≠ kReplyError) :
    decodeFrameGeneric frame b =
      { status := .ok, payload := framePayload frame b, command := frameCommand frame } := by
  rw [decodeFrameGeneric, if_neg hframe.complete.notPartial, if_neg (not_not.mpr hframe.intact),
    if_neg hcommand]
  rfl

/-- A block of sixteen bytes gives its record. -/
theorem decodeRtLogRecord_recordOfBlock {block : QByteArray} (hlength : block.length = 16) :
    RecordOfBlock block (decodeRtLogRecord block) := by
  unfold decodeRtLogRecord
  by_cases hkind : byteAt block 10 = 255
  · rw [if_pos hkind]
    refine ⟨⟨fun _ => hkind, fun _ => rfl⟩, fun hevent => ?_⟩
    cases hevent
  · rw [if_neg hkind]
    refine ⟨⟨fun hdoor => ?_, fun hbyte => absurd hbyte hkind⟩, fun _ => ?_⟩
    · cases hdoor
    · unfold encodeEvent word32At
      dsimp only
      rw [bytes32_word32, bytes32_word32, bytes32_word32]
      match block, hlength with
      | [_, _, _, _, _, _, _, _, _, _, _, _, _, _, _, _], _ => rfl

/-- A block that lies inside the payload has sixteen bytes. -/
theorem length_block {payload : QByteArray} {k : ℕ} (hk : k < payload.length / 16) :
    (mid payload (16 * k) 16).length = 16 := by
  rw [mid, List.length_take, List.length_drop]
  omega

/-- What is read from a frame is its payload, cut into blocks of sixteen bytes. -/
structure ReadInBlocks (frame : QByteArray) (b : Bool) : Prop where
  /-- A payload that is not made of whole blocks gives no records. -/
  notBinary : (framePayload frame b).length % 16 ≠ 0 →
    decodeRtlogBinaryResponse frame b = { status := .notBinaryMode, records := [] }
  /-- Whole blocks are accepted. -/
  accepted : (framePayload frame b).length % 16 = 0 →
    (decodeRtlogBinaryResponse frame b).status = .ok ∧
    (decodeRtlogBinaryResponse frame b).records.length = (framePayload frame b).length / 16
  /-- Each record is the one of its own block. -/
  records : (framePayload frame b).length % 16 = 0 → ∀ k < (framePayload frame b).length / 16,
    (decodeRtlogBinaryResponse frame b).records[k]? =
      some (decodeRtLogRecord (mid (framePayload frame b) (16 * k) 16)) ∧
    RecordOfBlock (mid (framePayload frame b) (16 * k) 16)
      (decodeRtLogRecord (mid (framePayload frame b) (16 * k) 16))

/-- **The binary log is read record by record.** A payload of whole records gives
one record for each sixteen bytes, which are all it depends on; any other
payload gives none. -/
theorem decodeRtlogBinaryResponse_readInBlocks (hframe : WellFormed frame)
    (hcommand : frameCommand frame ≠ kReplyError) : ReadInBlocks frame b := by
  have hdecode : decodeRtlogBinaryResponse frame b =
      if (framePayload frame b).length % 16 ≠ 0 then { status := .notBinaryMode }
      else
        { status := .ok
          records := (List.range ((framePayload frame b).length / 16)).map fun i =>
            decodeRtLogRecord (mid (framePayload frame b) (16 * i) 16) } := by
    rw [decodeRtlogBinaryResponse, decodeFrameGeneric_wellFormed hframe hcommand]
  constructor
  · intro hrest
    rw [hdecode, if_pos hrest]
  · intro hwhole
    rw [hdecode, if_neg (not_not.mpr hwhole)]
    exact ⟨rfl, by rw [List.length_map, List.length_range]⟩
  · intro hwhole k hk
    rw [hdecode, if_neg (not_not.mpr hwhole)]
    refine ⟨?_, decodeRtLogRecord_recordOfBlock (length_block hk)⟩
    rw [List.getElem?_map, List.getElem?_range hk]
    rfl

/-- A reply of two records in a session: an event, and a door status. -/
def twoRecords : QByteArray :=
  encodeFrame kReplyOk 1 7
    [1, 0, 0, 0, 2, 0, 0, 0, 4, 1, 27, 0, 9, 8, 7, 6,
      0, 0, 0, 0, 1, 0, 0, 0, 0, 200, 255, 0, 9, 8, 7, 6] true

theorem twoRecords_readInBlocks : ReadInBlocks twoRecords true :=
  decodeRtlogBinaryResponse_readInBlocks (by decide +kernel) (by decide +kernel)

end QtAppBase.C3
