import QtAppBase.Library.Crc
import QtAppBase.C3.FrameDecoding

/-!
# What the length field and the checksum guarantee

A frame decodes back to its payload exactly as long as the length field can hold
the size, whatever follows it in the receive buffer. A complete frame is not
accepted with two neighbouring bytes changed: markers, checksum and content all
lie under a check that comes before the command is looked at.
-/

namespace QtAppBase.C3

open Library Qt

variable {data frame rest : QByteArray}

/-! ### Bytes behind a frame -/

/-- A part inside the first array is that part of the whole. -/
theorem mid_append (frame rest : QByteArray) {pos len : ℕ} (h : pos + len ≤ frame.length) :
    mid (frame ++ rest) pos len = mid frame pos len := by
  unfold mid
  rw [List.drop_append_of_le_length (by omega), List.take_append_of_le_length]
  rw [List.length_drop]
  omega

/-- What is read of the first complete frame does not depend on what follows it. -/
theorem front_append (h : ¬ Partial frame) (rest : QByteArray) :
    ¬ Partial (frame ++ rest) ∧ lengthField (frame ++ rest) = lengthField frame ∧
      (Intact (frame ++ rest) ↔ Intact frame) ∧
      ∀ i < 8 + lengthField frame, byteAt (frame ++ rest) i = byteAt frame i := by
  have hPrefix : frame <+: frame ++ rest := List.prefix_append frame rest
  have hsize : 5 ≤ frame.length ∧ frameSize frame ≤ frame.length := by
    unfold Partial at h
    omega
  have hspan : 8 + lengthField frame ≤ frame.length := by
    have := hsize.2
    unfold frameSize at this
    omega
  have hfield : lengthField (frame ++ rest) = lengthField frame :=
    (lengthField_ofPrefix hPrefix hsize.1).symm
  have hframeSize : frameSize (frame ++ rest) = frameSize frame := by
    rw [frameSize, hfield, ← frameSize]
  have hbyte : ∀ i < 8 + lengthField frame, byteAt (frame ++ rest) i = byteAt frame i :=
    fun i hi => (byteAt_ofPrefix hPrefix (by omega)).symm
  have hPartial : ¬ Partial (frame ++ rest) := by
    unfold Partial
    rw [hframeSize, List.length_append]
    omega
  have hend : byteAt (frame ++ rest) (frameSize frame - 1) = byteAt frame (frameSize frame - 1) :=
    hbyte _ (by unfold frameSize; omega)
  have hintact : Intact (frame ++ rest) ↔ Intact frame := by
    unfold Intact expectedCrc
    rw [hframeSize, hfield, hbyte 0 (by omega), hend, hbyte _ (by omega), hbyte _ (by omega),
      mid_append frame rest (by omega)]
  exact ⟨hPartial, hfield, hintact, hbyte⟩

/-- The generic decoder does not look behind the first complete frame. -/
theorem decodeFrameGeneric_append (h : ¬ Partial frame) (rest : QByteArray) (strip : Bool) :
    decodeFrameGeneric (frame ++ rest) strip = decodeFrameGeneric frame strip := by
  obtain ⟨hPartial, hfield, hintact, hbyte⟩ := front_append h rest
  have hspan : 5 + lengthField frame ≤ frame.length := by
    unfold Partial frameSize at h
    omega
  unfold decodeFrameGeneric frameCommand
  simp only [if_neg hPartial, if_neg h, hintact, hbyte 2 (by omega), hfield,
    mid_append frame rest hspan]

/-! ### The length field -/

/-- The payload an accepted frame gives is as long as its length field says,
without the session block. -/
theorem payload_length_le (strip : Bool) (h : (decodeFrameGeneric data strip).status = .ok) :
    (decodeFrameGeneric data strip).payload.length + (if strip then 4 else 0) ≤
      max (lengthField data) 7 := by
  have hmid : (mid data 5 (lengthField data)).length ≤ lengthField data := by
    rw [mid, List.length_take]
    exact Nat.min_le_left _ _
  unfold decodeFrameGeneric at h ⊢
  cases strip with
  | false =>
    simp only [Bool.false_and, Bool.false_eq_true, if_false] at h ⊢
    split_ifs at h ⊢ with hPartial hintact hcommand
    exact hmid.trans (Nat.le_max_left _ _)
  | true =>
    simp only [Bool.true_and, decide_eq_true_eq, if_true] at h ⊢
    split_ifs at h ⊢ with hPartial hintact hcommand hblock
    · dsimp only
      rw [List.length_drop]
      omega
    · dsimp only
      omega

/-- The length field of an encoded frame is the size of its content, reduced to 16 bits. -/
theorem lengthField_encodeFrame (command : UInt8) (sessionId : UInt16) (requestNr : Int32)
    (payload rest : QByteArray) (b : Bool) :
    lengthField (encodeFrame command sessionId requestNr payload b ++ rest) =
      ((if b then 4 else 0) + payload.length) % 2 ^ 16 := by
  set frame := encodeFrame command sessionId requestNr payload b ++ rest with hframe
  have hword : word16 (byteAt frame 3) (byteAt frame 4) =
      UInt16.ofNat ((if b then 4 else 0) + payload.length) := word16_bytes _
  rw [lengthField, hword]
  exact UInt16.toNat_ofNat'

/-- **Frames round trip as far as the length field reaches.** Followed by
whatever bytes, an encoded frame decodes to its payload and command if and only
if the session block and the payload together fit sixteen bits. -/
theorem decodeFrameGeneric_encodeFrame_iff (command : UInt8) (hcommand : command ≠ kReplyError)
    (sessionId : UInt16) (requestNr : Int32) (payload rest : QByteArray) (b : Bool) :
    decodeFrameGeneric (encodeFrame command sessionId requestNr payload b ++ rest) b =
        { status := .ok, payload := payload, command := command } ↔
      payload.length + (if b then 4 else 0) ≤ 65535 := by
  constructor
  · intro hdecoded
    have hbound := payload_length_le b (congrArg DecodedFrame.status hdecoded)
    rw [hdecoded, lengthField_encodeFrame] at hbound
    -- a field that wrapped around is too small for the payload
    have hmod := Nat.mod_lt ((if b then 4 else 0) + payload.length) (show 0 < 2 ^ 16 by omega)
    dsimp only at hbound
    omega
  · intro hfits
    obtain ⟨hcomplete, hround⟩ : Complete (encodeFrame command sessionId requestNr payload b) ∧
        decodeFrameGeneric (encodeFrame command sessionId requestNr payload b) b =
          { status := .ok, payload := payload, command := command } :=
      decodeFrameGeneric_encodeFrame (by omega) hcommand
    rw [decodeFrameGeneric_append hcomplete.notPartial, hround]

/-- Three bytes of payload come back from their frame and the start of the next one. -/
theorem shortFrame_decodes :
    decodeFrameGeneric (encodeFrame kCommandGetData 1 5 [1, 2, 3] true ++ [0xAA]) true =
      { status := .ok, payload := [1, 2, 3], command := kCommandGetData } :=
  (decodeFrameGeneric_encodeFrame_iff kCommandGetData (by decide) 1 5 [1, 2, 3] [0xAA] true).mpr
    (by decide)

/-! ### The checksum -/

/-- CRC-16/ARC, as a reflected polynomial. -/
def crcPolynomial : BitVec 16 := 0xA001#16

/-- The polynomial has its highest bit set. -/
theorem crcPolynomial_msb : crcPolynomial.msb = true := by decide

/-- One bit of the checksum loop is a step of the register. -/
theorem crcBit_toBitVec (crc : UInt16) :
    (crcBit crc).toBitVec = Crc.bitStep crcPolynomial crc.toBitVec := by
  have hlow : crc &&& 1 ≠ 0 ↔ crc.toBitVec.getLsbD 0 = true := by
    rw [ne_eq, ← UInt16.toBitVec_inj, UInt16.toBitVec_and]
    have hone := BitVec.and_one_eq_setWidth_ofBool_getLsbD (x := crc.toBitVec)
    have hand : crc.toBitVec &&& UInt16.toBitVec 1 =
        BitVec.setWidth 16 (BitVec.ofBool (crc.toBitVec.getLsbD 0)) := hone
    rw [hand]
    cases crc.toBitVec.getLsbD 0 <;> decide
  unfold crcBit Crc.bitStep
  by_cases h : crc &&& 1 ≠ 0
  · rw [if_pos h, if_pos (hlow.mp h), UInt16.toBitVec_xor, UInt16.toBitVec_shiftRight]
    rfl
  · rw [if_neg h, if_neg (fun h' => h (hlow.mpr h')), UInt16.toBitVec_shiftRight]
    rfl

/-- One byte of the checksum loop is a unit of eight bits. -/
theorem crcByte_toBitVec (crc : UInt16) (byte : UInt8) :
    (crcByte crc byte).toBitVec = Crc.unitStep crcPolynomial crc.toBitVec byte.toBitVec := by
  have hloop : ∀ (rounds : List ℕ) (crc : UInt16),
      (rounds.foldl (fun crc _ => crcBit crc) crc).toBitVec =
        (Crc.bitStep crcPolynomial)^[rounds.length] crc.toBitVec := by
    intro rounds
    induction rounds with
    | nil => exact fun _ => rfl
    | cons round rounds ih =>
      intro crc
      rw [List.foldl_cons, ih, crcBit_toBitVec]
      rfl
  rw [crcByte, hloop, List.length_range, UInt16.toBitVec_xor, UInt8.toBitVec_toUInt16]
  rfl

/-- The checksum loop is the register run over the bytes. -/
theorem crc16_toBitVec (data : QByteArray) :
    (crc16 data).toBitVec = Crc.checksum crcPolynomial 0#16 (data.map UInt8.toBitVec) := by
  have hloop : ∀ crc : UInt16, (data.foldl crcByte crc).toBitVec =
      Crc.checksum crcPolynomial crc.toBitVec (data.map UInt8.toBitVec) := by
    induction data with
    | nil => exact fun _ => rfl
    | cons byte data ih =>
      intro crc
      rw [List.foldl_cons, ih, crcByte_toBitVec]
      rfl
  exact hloop 0

/-- A word is the pair of its bytes. -/
theorem word16_toBitVec (lo hi : UInt8) :
    (word16 lo hi).toBitVec = Crc.pair 16 lo.toBitVec hi.toBitVec := by
  have hor : (word16 lo hi).toBitVec =
      lo.toBitVec.setWidth 16 ||| (hi.toBitVec.setWidth 16 <<< 8) := rfl
  rw [hor, Crc.pair]
  apply BitVec.eq_of_getLsbD_eq
  intro i _
  rw [BitVec.getLsbD_or, BitVec.getLsbD_xor, BitVec.getLsbD_shiftLeft]
  by_cases hi8 : i < 8
  · simp [hi8]
  · simp [BitVec.getLsbD_of_ge lo.toBitVec i (by omega)]

/-- The part of a frame that the checksum protects: everything between the
markers, the checksum included. -/
def protectedPart (data : QByteArray) : QByteArray := mid data 1 (6 + lengthField data)

/-- A part of an array, continued by the byte behind it. -/
theorem mid_succ {pos len : ℕ} (h : pos + len < data.length) :
    mid data pos (len + 1) = mid data pos len ++ [byteAt data (pos + len)] := by
  have hlen : len < (data.drop pos).length := by
    rw [List.length_drop]
    omega
  rw [mid, mid, List.take_succ_eq_append_getElem hlen, List.getElem_drop, byteAt,
    List.getD_eq_getElem?_getD, List.getElem?_eq_getElem h]
  rfl

/-- The checksum of a complete frame is right if and only if it empties the
register. -/
theorem expectedCrc_iff (h : Complete data) :
    crc16 (mid data 1 (4 + lengthField data)) = expectedCrc data ↔
      Crc.checksum crcPolynomial 0#16 ((protectedPart data).map UInt8.toBitVec) = 0#16 := by
  have hsize : data.length = 8 + lengthField data := by
    rw [h, frameSize]
    omega
  have hpart : protectedPart data = mid data 1 (4 + lengthField data) ++
      [byteAt data (5 + lengthField data), byteAt data (5 + lengthField data + 1)] := by
    rw [protectedPart, show 6 + lengthField data = 4 + lengthField data + 1 + 1 by omega,
      mid_succ (by omega), mid_succ (by omega), List.append_assoc]
    simp only [show 1 + (4 + lengthField data) = 5 + lengthField data by omega,
      show 1 + (4 + lengthField data + 1) = 5 + lengthField data + 1 by omega, List.cons_append,
      List.nil_append]
  rw [hpart, List.map_append, Crc.checksum, List.foldl_append, ← UInt16.toBitVec_inj,
    crc16_toBitVec, expectedCrc, word16_toBitVec]
  exact (Crc.checksum_pair_eq_zero crcPolynomial_msb (by omega) _ _ _).symm

/-! ### Corrupted frames -/

/-- The frame was changed in one byte, or in two neighbouring ones, but not in
its length field. -/
structure Corrupts (frame corrupted : QByteArray) : Prop where
  /-- No byte was lost or added. -/
  sameSize : corrupted.length = frame.length
  /-- Something was changed. -/
  changed : corrupted ≠ frame
  /-- All changes lie side by side, outside the length field. -/
  burst : ∃ i, ∀ j < frame.length, byteAt corrupted j ≠ byteAt frame j →
    (j = i ∨ j = i + 1) ∧ j ≠ 3 ∧ j ≠ 4

/-- The protected part of a frame, byte by byte. -/
theorem protectedPart_getElem? (h : Complete data) {j : ℕ} (hj : j < 6 + lengthField data) :
    (protectedPart data)[j]? = some (byteAt data (j + 1)) := by
  have hsize : data.length = 8 + lengthField data := by
    rw [h, frameSize]
    omega
  rw [protectedPart, mid, List.getElem?_take, if_pos hj, List.getElem?_drop, byteAt,
    List.getD_eq_getElem?_getD, Nat.add_comm 1 j, List.getElem?_eq_getElem (by omega)]
  rfl

/-- A complete frame has its protected part between the markers. -/
theorem protectedPart_length (h : Complete data) :
    (protectedPart data).length = 6 + lengthField data := by
  have hsize : data.length = 8 + lengthField data := by
    rw [h, frameSize]
    omega
  rw [protectedPart, mid, List.length_take, List.length_drop]
  omega

/-- Two arrays of one size that are different differ in some byte. -/
theorem exists_byteAt_ne {data' : QByteArray} (hlength : data'.length = data.length)
    (hne : data' ≠ data) : ∃ j < data.length, byteAt data' j ≠ byteAt data j := by
  by_contra hsame
  push Not at hsame
  refine hne (List.ext_getElem hlength fun j hj' hj => ?_)
  simpa [byteAt, hj, hj'] using hsame j hj

/-- The length field is outside the burst. -/
theorem Corrupts.lengthField_eq {corrupted : QByteArray} (hframe : WellFormed frame)
    (h : Corrupts frame corrupted) : lengthField corrupted = lengthField frame := by
  obtain ⟨i, hburst⟩ := h.burst
  have hsize : frame.length = 8 + lengthField frame := by
    rw [hframe.complete, frameSize]
    omega
  have hkept : ∀ j, (j = 3 ∨ j = 4 → byteAt corrupted j = byteAt frame j) := by
    intro j hj
    by_contra hne
    have := (hburst j (by omega) hne).2
    omega
  rw [lengthField, lengthField, hkept 3 (Or.inl rfl), hkept 4 (Or.inr rfl)]

/-- So a corrupted frame is complete. -/
theorem Corrupts.complete {corrupted : QByteArray} (hframe : WellFormed frame)
    (h : Corrupts frame corrupted) : Complete corrupted := by
  rw [Complete, h.sameSize, frameSize, h.lengthField_eq hframe]
  exact hframe.complete

/-- Where the markers of both frames are right, the change lies between them. -/
theorem Corrupts.changed_between {corrupted : QByteArray} (hframe : WellFormed frame)
    (h : Corrupts frame corrupted) (hintact : Intact corrupted) :
    ∃ j, 0 < j ∧ j ≤ 6 + lengthField frame ∧ byteAt corrupted j ≠ byteAt frame j := by
  have hsize : frame.length = frameSize frame := hframe.complete
  have hfield : frameSize frame = 8 + lengthField frame := by
    rw [frameSize]
    omega
  have hframeSize : frameSize corrupted = frameSize frame := by
    rw [frameSize, h.lengthField_eq hframe, ← frameSize]
  obtain ⟨j, hj, hjne⟩ := exists_byteAt_ne h.sameSize h.changed
  have hstart : j ≠ 0 := by
    rintro rfl
    exact hjne (hintact.1.trans hframe.intact.1.symm)
  have hend : j ≠ frameSize frame - 1 := by
    rintro rfl
    apply hjne
    rw [hframe.intact.2.1, ← hframeSize, hintact.2.1]
  exact ⟨j, by omega, by omega, hjne⟩

/-- The protected parts of two complete frames differ where the frames do. -/
theorem protectedPart_ne_iff {corrupted : QByteArray} (hcomplete : Complete corrupted)
    (hframe : Complete frame) (hfield : lengthField corrupted = lengthField frame) (k : ℕ) :
    ((protectedPart corrupted).map UInt8.toBitVec)[k]? ≠
        ((protectedPart frame).map UInt8.toBitVec)[k]? ↔
      k < 6 + lengthField frame ∧ byteAt corrupted (k + 1) ≠ byteAt frame (k + 1) := by
  rw [List.getElem?_map, List.getElem?_map]
  by_cases hk : k < 6 + lengthField frame
  · rw [protectedPart_getElem? hcomplete (by omega), protectedPart_getElem? hframe hk]
    simp [hk, UInt8.toBitVec_inj]
  · rw [List.getElem?_eq_none (by rw [protectedPart_length hcomplete]; omega),
      List.getElem?_eq_none (by rw [protectedPart_length hframe]; omega)]
    simp [hk]

/-- A corrupted frame is complete, and has a wrong marker or a wrong checksum. -/
theorem Corrupts.broken {corrupted : QByteArray} (hframe : WellFormed frame)
    (h : Corrupts frame corrupted) : Complete corrupted ∧ ¬ Intact corrupted := by
  have hcomplete := h.complete hframe
  refine ⟨hcomplete, fun hintact => ?_⟩
  obtain ⟨i, hburst⟩ := h.burst
  obtain ⟨j, hpos, hj, hjne⟩ := h.changed_between hframe hintact
  have hfield := h.lengthField_eq hframe
  -- both checksums are right, although the protected parts differ in a burst
  have hzero := (expectedCrc_iff hcomplete).mp hintact.2.2
  have hzero' := (expectedCrc_iff hframe.complete).mp hframe.intact.2.2
  have hlength : ((protectedPart corrupted).map UInt8.toBitVec).length =
      ((protectedPart frame).map UInt8.toBitVec).length := by
    rw [List.length_map, List.length_map, protectedPart_length hcomplete,
      protectedPart_length hframe.complete, hfield]
  have hbytes := protectedPart_ne_iff hcomplete hframe.complete hfield
  have hne : (protectedPart corrupted).map UInt8.toBitVec ≠
      (protectedPart frame).map UInt8.toBitVec := by
    intro heq
    refine (hbytes (j - 1)).mpr ⟨by omega, ?_⟩ (by rw [heq])
    rwa [Nat.sub_add_cancel hpos]
  refine Crc.checksum_ne_of_burst crcPolynomial_msb (by omega) 0#16 hlength hne (i := i - 1) ?_
    (hzero.trans hzero'.symm)
  intro k hk
  obtain ⟨hinside, hchanged⟩ := (hbytes k).mp hk
  have hsize : frame.length = 8 + lengthField frame := by
    rw [hframe.complete, frameSize]
    omega
  have := (hburst (k + 1) (by omega) hchanged).1
  omega

/-- **Bursts of two bytes are caught.** Whoever decodes a frame that was changed
in up to two neighbouring bytes outside its length field finds it malformed. -/
theorem corrupted_malformed {corrupted : QByteArray} (hframe : WellFormed frame)
    (h : Corrupts frame corrupted) :
    (decodeConnectSessionResponse corrupted).status = .malformed ∧
      decodeGenericReply corrupted = .malformed ∧
      ∀ strip, (decodeFrameGeneric corrupted strip).status = .malformed := by
  obtain ⟨hcomplete, hbroken⟩ := h.broken hframe
  have hPartial := hcomplete.notPartial
  refine ⟨?_, ?_, fun strip => ?_⟩
  · rw [decodeConnectSessionResponse, if_neg hPartial, if_pos (Or.inl hbroken)]
  · rw [decodeGenericReply, if_neg hPartial, if_pos (Or.inl hbroken)]
  · rw [decodeFrameGeneric, if_neg hPartial, if_pos hbroken]

/-- The last payload byte and the low byte of the checksum, both changed. -/
theorem straddlingBurst_malformed :
    (decodeConnectSessionResponse [0xAA, 1, 0xC8, 2, 0, 1, 0xFF, 0x00, 0x29, 0x55]).status =
        .malformed ∧
      decodeGenericReply [0xAA, 1, 0xC8, 2, 0, 1, 0xFF, 0x00, 0x29, 0x55] = .malformed ∧
      ∀ strip, (decodeFrameGeneric [0xAA, 1, 0xC8, 2, 0, 1, 0xFF, 0x00, 0x29, 0x55]
        strip).status = .malformed :=
  corrupted_malformed
    (show WellFormed [0xAA, 1, 0xC8, 2, 0, 1, 0x00, 0xE0, 0x29, 0x55] by decide +kernel)
    { sameSize := by decide
      changed := by decide
      burst := ⟨6, by decide⟩ }

end QtAppBase.C3
