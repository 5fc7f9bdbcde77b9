import QtAppBase.C3.Codec

/-!
# When a reply is complete

Every decoder waits for the same thing: the five bytes of the header, and then
as many as its length field announces. A reply that arrives in pieces is
therefore incomplete up to its last byte, for all of them alike.
-/

namespace QtAppBase.C3

open Library Qt

variable {data frame : QByteArray}

/-- The bytes are one complete frame. -/
def Complete (frame : QByteArray) : Prop := frame.length = frameSize frame

instance (frame : QByteArray) : Decidable (Complete frame) := inferInstanceAs (Decidable (_ = _))

/-- A frame as the protocol wants it: complete, with the right markers and checksum. -/
structure WellFormed (frame : QByteArray) : Prop where
  /-- The size is the one the length field announces. -/
  complete : Complete frame
  /-- The markers and the checksum are right. -/
  intact : Intact frame

instance (frame : QByteArray) : Decidable (WellFormed frame) :=
  decidable_of_iff (Complete frame ∧ Intact frame)
    ⟨fun h => ⟨h.1, h.2⟩, fun h => ⟨h.complete, h.intact⟩⟩

/-- Nothing is a partial frame. -/
theorem partial_nil : Partial [] := Or.inl (by decide)

/-- A complete frame has at least the eight bytes around its payload. -/
theorem Complete.length_ge (h : Complete frame) : 8 ≤ frame.length := by
  rw [h, frameSize]
  omega

/-- A complete frame is not partial. -/
theorem Complete.notPartial (h : Complete frame) : ¬ Partial frame := by
  have hlength := h.length_ge
  have hsize : frame.length = frameSize frame := h
  unfold Partial
  omega

/-- The header of a prefix is the header of the whole. -/
theorem byteAt_ofPrefix {piece : QByteArray} (hPrefix : piece <+: frame) {i : ℕ}
    (hi : i < piece.length) : byteAt piece i = byteAt frame i := by
  obtain ⟨rest, rfl⟩ := hPrefix
  unfold byteAt
  rw [List.getD_eq_getElem?_getD, List.getD_eq_getElem?_getD, List.getElem?_append_left hi]

/-- The length field is read off any piece that has it. -/
theorem lengthField_ofPrefix {piece : QByteArray} (hPrefix : piece <+: frame)
    (hheader : 5 ≤ piece.length) : lengthField piece = lengthField frame := by
  unfold lengthField
  rw [byteAt_ofPrefix hPrefix (by omega), byteAt_ofPrefix hPrefix (by omega)]

/-- A piece of a complete frame that is not all of it is partial. -/
theorem Complete.partial_ofPrefix {piece : QByteArray} (h : Complete frame)
    (hPrefix : piece <+: frame) (hshort : piece.length < frame.length) : Partial piece := by
  by_cases hheader : piece.length < 5
  · exact Or.inl hheader
  · refine Or.inr ?_
    have hfield := lengthField_ofPrefix hPrefix (by omega)
    have hsize : frame.length = frameSize frame := h
    rw [frameSize, hfield, ← frameSize]
    omega

/-- The generic reply decoder accepts a frame only with the command kReplyOk. -/
theorem frameCommand_of_ok (h : decodeGenericReply data = .ok) : frameCommand data = kReplyOk := by
  unfold decodeGenericReply at h
  split_ifs at h with hPartial hbad hrejected
  by_contra hcommand
  exact hbad (Or.inr ⟨hcommand, hrejected⟩)

/-! ### Decoding what was encoded -/

/-- What lies between the length field and the checksum. -/
def frameContent (sessionId : UInt16) (requestNr : Int32) (payload : QByteArray)
    (includeSessionBlock : Bool) : QByteArray :=
  (if includeSessionBlock then
    littleEndian16 sessionId ++ littleEndian16 requestNr.toUInt32.toUInt16
  else []) ++ payload

variable {command : UInt8} {sessionId : UInt16} {requestNr : Int32} {payload : QByteArray}
  {b : Bool}

/-- A session block has four bytes. -/
theorem frameContent_length :
    (frameContent sessionId requestNr payload b).length =
      (if b then 4 else 0) + payload.length := by
  cases b with
  | false => simp [frameContent]
  | true =>
    simp [frameContent, littleEndian16]
    omega

/-- The payload is what is left of the content without the session block. -/
theorem frameContent_strip :
    (if b && decide (4 ≤ (frameContent sessionId requestNr payload b).length) then
      (frameContent sessionId requestNr payload b).drop 4
    else frameContent sessionId requestNr payload b) = payload := by
  cases b with
  | false => simp [frameContent]
  | true =>
    have hlength : 4 ≤ (frameContent sessionId requestNr payload true).length := by
      rw [frameContent_length]
      exact Nat.le_add_right 4 _
    rw [decide_eq_true hlength]
    rfl

/-- The body is the header without the start byte, and the content. -/
theorem frameBody_eq :
    frameBody command sessionId requestNr payload b =
      [kProtocolVersion, command] ++
        littleEndian16 (UInt16.ofNat (frameContent sessionId requestNr payload b).length) ++
        frameContent sessionId requestNr payload b := by
  rw [frameContent_length, frameBody, frameContent]
  simp only [List.append_assoc]

/-- **Frames round trip.** A content that fits the length field comes back from
the frame built of it, whatever the command, unless that means an error. -/
theorem decodeFrameGeneric_encodeFrame
    (hlength : (if b then 4 else 0) + payload.length < 2 ^ 16) (hcommand : command ≠ kReplyError) :
    Complete (encodeFrame command sessionId requestNr payload b) ∧
      decodeFrameGeneric (encodeFrame command sessionId requestNr payload b) b =
        { status := .ok, payload := payload, command := command } := by
  set content := frameContent sessionId requestNr payload b with hcontent
  set body := frameBody command sessionId requestNr payload b with hbody
  set frame := encodeFrame command sessionId requestNr payload b with hframe
  have hsize : content.length < 2 ^ 16 := by
    rw [hcontent, frameContent_length]
    exact hlength
  have hbodyEq : body = [kProtocolVersion, command] ++
      littleEndian16 (UInt16.ofNat content.length) ++ content := frameBody_eq
  have hbodyLength : body.length = 4 + content.length := by
    rw [hbodyEq]
    simp [littleEndian16]
    omega
  have hframeEq :
      frame = ([kFrameStart] ++ body) ++ (littleEndian16 (crc16 body) ++ [kFrameEnd]) := by
    rw [hframe, encodeFrame]
    simp only [List.append_assoc]
    rfl
  have hfield : lengthField frame = content.length := by
    have hword : word16 (byteAt frame 3) (byteAt frame 4) = UInt16.ofNat content.length := by
      rw [hframeEq, hbodyEq]
      exact word16_bytes _
    rw [lengthField, hword, UInt16.toNat_ofNat_of_lt' hsize]
  have hframeSize : frameSize frame = 8 + content.length := by
    rw [frameSize, hfield]
    omega
  have hcomplete : Complete frame := by
    rw [Complete, hframeSize, hframeEq]
    simp [hbodyLength, littleEndian16]
    omega
  have hfront : ([kFrameStart] ++ body).length = 5 + content.length := by
    rw [List.length_append, hbodyLength]
    simp
    omega
  have hback : ∀ i, byteAt frame (5 + content.length + i) =
      byteAt (littleEndian16 (crc16 body) ++ [kFrameEnd]) i := by
    intro i
    rw [hframeEq, ← hfront, byteAt_append_right]
  have hchecksum : expectedCrc frame = crc16 body := by
    rw [expectedCrc, hfield, hback 1, show 5 + content.length = 5 + content.length + 0 from rfl,
      hback 0]
    exact word16_bytes _
  have hcovered : mid frame 1 (4 + lengthField frame) = body := by
    rw [hfield, ← hbodyLength, hframeEq, mid]
    simp
  have hend : byteAt frame (frameSize frame - 1) = kFrameEnd := by
    rw [hframeSize, show 8 + content.length - 1 = 5 + content.length + 2 by omega, hback 2]
    rfl
  have hintact : Intact frame := ⟨by rw [hframeEq]; rfl, hend, by rw [hcovered, hchecksum]⟩
  have hcommandEq : frameCommand frame = command := by
    rw [frameCommand, hframeEq, hbodyEq]
    rfl
  have hpayload : mid frame 5 (lengthField frame) = content := by
    rw [hfield, hframeEq, hbodyEq, mid]
    simp [littleEndian16]
  refine ⟨hcomplete, ?_⟩
  rw [decodeFrameGeneric, if_neg hcomplete.notPartial, if_neg (not_not.mpr hintact), hcommandEq,
    if_neg hcommand, hpayload]
  exact congrArg (fun p => (⟨.ok, p, command⟩ : DecodedFrame)) frameContent_strip

/-! ### The status of every decoder -/

/-- The generic decoder waits exactly for a complete frame. -/
theorem decodeFrameGeneric_incomplete (strip : Bool) :
    (decodeFrameGeneric data strip).status = .incomplete ↔ Partial data := by
  unfold decodeFrameGeneric
  split_ifs with hPartial <;> simp [hPartial]

theorem decodeConnectSessionResponse_incomplete :
    (decodeConnectSessionResponse data).status = .incomplete ↔ Partial data := by
  unfold decodeConnectSessionResponse
  split_ifs with hPartial <;> simp [hPartial]

theorem decodeGenericReply_incomplete : decodeGenericReply data = .incomplete ↔ Partial data := by
  unfold decodeGenericReply
  split_ifs with hPartial <;> simp [hPartial]

theorem decodeDataTableConfigResponse_incomplete (b : Bool) :
    (decodeDataTableConfigResponse data b).status = .incomplete ↔ Partial data := by
  rw [← decodeFrameGeneric_incomplete b]
  unfold decodeDataTableConfigResponse
  dsimp only
  split_ifs with hok <;> simp_all

/-- Records, however parsed, have a status other than incomplete. -/
theorem parseGetDataPayload_complete (payload : QByteArray) (index : ℤ)
    (fields : List DataTableField) :
    (parseGetDataPayload payload index fields).status ≠ .incomplete ∧
      (parseGetDataPayload payload index fields).status ≠ .bigDataPending := by
  unfold parseGetDataPayload
  dsimp only
  split_ifs <;> try simp
  split
  · simp
  · split_ifs
    · simp
    · split <;> simp

theorem decodeGetDataResponse_incomplete (index : ℤ) (fields : List DataTableField) (b : Bool) :
    (decodeGetDataResponse data index fields b).status = .incomplete ↔ Partial data := by
  rw [← decodeFrameGeneric_incomplete b]
  unfold decodeGetDataResponse
  dsimp only
  split <;> try simp_all
  split_ifs
  · simp
  · simp
  · exact (parseGetDataPayload_complete _ _ _).1

theorem decodeTransmitDataResponse_incomplete (b : Bool) :
    (decodeTransmitDataResponse data b).status = .incomplete ↔ Partial data := by
  rw [← decodeFrameGeneric_incomplete b]
  unfold decodeTransmitDataResponse
  dsimp only
  split_ifs with hok <;> simp_all

theorem decodeGetDataCountResponse_incomplete (b : Bool) :
    (decodeGetDataCountResponse data b).status = .incomplete ↔ Partial data := by
  rw [← decodeFrameGeneric_incomplete b]
  unfold decodeGetDataCountResponse
  dsimp only
  split_ifs with hlength hok <;> simp_all

theorem decodeGetParamResponse_incomplete (b : Bool) :
    (decodeGetParamResponse data b).status = .incomplete ↔ Partial data := by
  rw [← decodeFrameGeneric_incomplete b]
  unfold decodeGetParamResponse
  dsimp only
  split_ifs with hok <;> simp_all

theorem decodeRtlogBinaryResponse_incomplete (b : Bool) :
    (decodeRtlogBinaryResponse data b).status = .incomplete ↔ Partial data := by
  rw [← decodeFrameGeneric_incomplete b]
  unfold decodeRtlogBinaryResponse
  dsimp only
  split <;> try simp_all
  split_ifs <;> simp

theorem decodeRtlogKeyValueResponse_incomplete (b : Bool) :
    (decodeRtlogKeyValueResponse data b).status = .incomplete ↔ Partial data := by
  rw [← decodeFrameGeneric_incomplete b]
  unfold decodeRtlogKeyValueResponse
  dsimp only
  split_ifs with hok
  · simp
  · split <;> simp_all

end QtAppBase.C3
