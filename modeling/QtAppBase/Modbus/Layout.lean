import QtAppBase.Modbus.Codec

/-!
# The layout of an accepted response

All decoders first look for a frame at the front of the received bytes: a
header with protocol id zero and as many bytes behind it as the length field
announces. What they then read is determined by the body of that frame, the
bytes behind its function code.
-/

namespace QtAppBase.Modbus

open Library Qt

/-! ### Words -/

/-- The bytes of a word that was read are the bytes read. -/
theorem bigEndian16_readBigEndian16 (data : QByteArray) (index : ℕ) :
    bigEndian16 (readBigEndian16 data index) = [byteAt data index, byteAt data (index + 1)] := by
  rw [bigEndian16, readBigEndian16, lowByte_word16, highByte_word16]

/-- The words of an array, from the front. -/
def words (data : QByteArray) (count : ℕ) : List UInt16 :=
  (List.range count).map fun i => readBigEndian16 data (2 * i)

/-- The words behind the first one. -/
theorem words_succ (hi lo : UInt8) (data : QByteArray) (count : ℕ) :
    words (hi :: lo :: data) (count + 1) = word16 lo hi :: words data count := by
  rw [words, List.range_succ_eq_map, List.map_cons, List.map_map]
  rfl

/-- Words are read back from their bytes. -/
theorem words_flatMap (values : List UInt16) (rest : QByteArray) :
    words (values.flatMap bigEndian16 ++ rest) values.length = values := by
  induction values with
  | nil => rfl
  | cons value values ih =>
    change words (highByte value :: lowByte value :: (values.flatMap bigEndian16 ++ rest))
      (values.length + 1) = value :: values
    rw [words_succ, ih, word16_bytes]

/-- The bytes of all words of an array are the array. -/
theorem flatMap_words {data : QByteArray} {count : ℕ} (hlength : data.length = 2 * count) :
    (words data count).flatMap bigEndian16 = data := by
  induction count generalizing data with
  | zero =>
    obtain rfl : data = [] := List.length_eq_zero_iff.mp hlength
    rfl
  | succ count ih =>
    match data with
    | [] => simp at hlength
    | [_] =>
      simp at hlength
      omega
    | hi :: lo :: data =>
      have hrest : data.length = 2 * count := by
        simp only [List.length_cons] at hlength
        omega
      rw [words_succ, List.flatMap_cons, ih hrest, bigEndian16, lowByte_word16, highByte_word16]
      rfl

/-! ### Frames -/

/-- A frame lies at the front, whose length field counts the unit id, the
function code and the body. -/
structure FrameAtFront (data : QByteArray) (transactionId : UInt16) (unitId functionCode : UInt8)
    (body : QByteArray) : Prop where
  /-- The length field can announce the body. -/
  fits : 2 + body.length < 2 ^ 16
  /-- Behind the header come the body and whatever else was received. -/
  layout : ∃ rest, data =
    frameHeader transactionId (UInt16.ofNat (2 + body.length)) unitId functionCode ++ (body ++ rest)

variable {data body : QByteArray} {transactionId : UInt16} {unitId functionCode : UInt8}

theorem frameHeader_length (transactionId length : UInt16) (unitId functionCode : UInt8) :
    (frameHeader transactionId length unitId functionCode).length = 8 := rfl

/-- The transaction id of a header, with anything behind it. -/
theorem frameHeader_transactionId (length : UInt16) (rest : QByteArray) :
    readBigEndian16 (frameHeader transactionId length unitId functionCode ++ rest) 0 =
      transactionId := word16_bytes transactionId

/-- The protocol id of a header. -/
theorem frameHeader_protocolId (length : UInt16) (rest : QByteArray) :
    readBigEndian16 (frameHeader transactionId length unitId functionCode ++ rest) 2 = 0 :=
  word16_bytes 0

/-- The length field of a header. -/
theorem frameHeader_mbapLength (length : UInt16) (rest : QByteArray) :
    readBigEndian16 (frameHeader transactionId length unitId functionCode ++ rest) 4 = length :=
  word16_bytes length

namespace FrameAtFront

/-- The length field announces the body. -/
theorem mbapLength_toNat (h : FrameAtFront data transactionId unitId functionCode body) :
    (UInt16.ofNat (2 + body.length)).toNat = 2 + body.length := UInt16.toNat_ofNat_of_lt' h.fits

/-- The transaction id is read off the frame. -/
theorem transactionId_eq (h : FrameAtFront data transactionId unitId functionCode body) :
    readBigEndian16 data 0 = transactionId := by
  obtain ⟨rest, rfl⟩ := h.layout
  exact frameHeader_transactionId _ _

/-- The length field is read off the frame. -/
theorem mbapLength_eq (h : FrameAtFront data transactionId unitId functionCode body) :
    readBigEndian16 data 4 = UInt16.ofNat (2 + body.length) := by
  obtain ⟨rest, rfl⟩ := h.layout
  exact frameHeader_mbapLength _ _

/-- All bytes of the frame are there. -/
theorem length_ge (h : FrameAtFront data transactionId unitId functionCode body) :
    8 + body.length ≤ data.length := by
  obtain ⟨rest, rfl⟩ := h.layout
  simp only [List.length_append, frameHeader_length]
  omega

/-- A byte of the body is read at its place. -/
theorem byteAt_eq (h : FrameAtFront data transactionId unitId functionCode body) {i : ℕ}
    (hi : i < body.length) : byteAt data (8 + i) = byteAt body i := by
  obtain ⟨rest, rfl⟩ := h.layout
  rw [← frameHeader_length transactionId (UInt16.ofNat (2 + body.length)) unitId functionCode,
    byteAt_append_right, byteAt_append_left rest hi]

/-- A word of the body is read at its place. -/
theorem readBigEndian16_eq (h : FrameAtFront data transactionId unitId functionCode body) {i : ℕ}
    (hi : i + 1 < body.length) : readBigEndian16 data (8 + i) = readBigEndian16 body i := by
  have hnext := h.byteAt_eq hi
  rw [← Nat.add_assoc] at hnext
  rw [readBigEndian16, readBigEndian16, h.byteAt_eq (show i < body.length by omega), hnext]

/-- A byte count at the front of the body is read behind the function code. -/
theorem byteCount_eq {count : UInt8} {payload : QByteArray}
    (h : FrameAtFront data transactionId unitId functionCode (count :: payload)) :
    byteAt data 8 = count :=
  h.byteAt_eq (show 0 < (count :: payload).length from Nat.succ_pos _)

/-- With a byte count the length field is at least three. -/
theorem not_lt_three {count : UInt8} {payload : QByteArray}
    (h : FrameAtFront data transactionId unitId functionCode (count :: payload)) :
    ¬ UInt16.ofNat (2 + (count :: payload).length) < 3 := by
  rw [UInt16.lt_iff_toNat_lt, h.mbapLength_toNat, List.length_cons]
  change ¬ 2 + (payload.length + 1) < 3
  omega

/-- The length field agrees with a byte count if this counts what follows it. -/
theorem announced_iff {count : UInt8} {payload : QByteArray}
    (h : FrameAtFront data transactionId unitId functionCode (count :: payload)) :
    UInt16.ofNat (2 + (count :: payload).length) = UInt16.ofNat (3 + count.toNat) ↔
      payload.length = count.toNat := by
  have hcount := count.toNat_lt
  rw [← UInt16.toNat_inj, h.mbapLength_toNat, UInt16.toNat_ofNat_of_lt' (by
    change 3 + count.toNat < 2 ^ 16; omega), List.length_cons]
  omega

end FrameAtFront

/-- Bytes that pass the framing checks have a frame at the front. -/
theorem exists_frameAtFront (hheader : 8 ≤ data.length)
    (hframe : 6 + (readBigEndian16 data 4).toNat ≤ data.length)
    (hprotocol : readBigEndian16 data 2 = 0) (hlength : 2 ≤ (readBigEndian16 data 4).toNat) :
    ∃ body, FrameAtFront data (readBigEndian16 data 0) (byteAt data 6) (byteAt data 7) body ∧
      2 + body.length = (readBigEndian16 data 4).toNat := by
  have hbound := (readBigEndian16 data 4).toNat_lt
  have hbody : 2 + ((data.drop 8).take ((readBigEndian16 data 4).toNat - 2)).length =
      (readBigEndian16 data 4).toNat := by
    rw [List.length_take, List.length_drop]
    omega
  have hword : ∀ index, bigEndian16 (readBigEndian16 data index) =
      [byteAt data index, byteAt data (index + 1)] := bigEndian16_readBigEndian16 data
  have hfront : frameHeader (readBigEndian16 data 0) (readBigEndian16 data 4) (byteAt data 6)
      (byteAt data 7) = data.take 8 := by
    rw [frameHeader, hword, ← hprotocol, hword, hword]
    match data, hheader with
    | _ :: _ :: _ :: _ :: _ :: _ :: _ :: _ :: _, _ => rfl
  refine ⟨(data.drop 8).take ((readBigEndian16 data 4).toNat - 2), ⟨by omega,
    (data.drop 8).drop ((readBigEndian16 data 4).toNat - 2), ?_⟩, hbody⟩
  rw [hbody, UInt16.ofNat_toNat, hfront, List.take_append_drop, List.take_append_drop]

/-! ### Decoding -/

variable {α : Type} [Inhabited α] {expectedCode : UInt8}
  {decodeContent : QByteArray → UInt16 → Option α}

/-- What a decoder makes of a frame. -/
theorem FrameAtFront.decodeResponse_eq
    (h : FrameAtFront data transactionId unitId functionCode body) :
    decodeResponse expectedCode decodeContent data =
      if functionCode &&& 0x80 ≠ 0 then
        if body = [] then
          { status := .malformed, transactionId := transactionId, content := default }
        else
          { status := .exception
            transactionId := transactionId
            exceptionCode := byteAt body 0
            content := default }
      else if functionCode ≠ expectedCode then
        { status := .malformed, transactionId := transactionId, content := default }
      else
        match decodeContent data (UInt16.ofNat (2 + body.length)) with
        | none => { status := .malformed, transactionId := transactionId, content := default }
        | some content =>
          { status := .ok, transactionId := transactionId, content := content } := by
  have hsize := h.length_ge
  have hlength := h.mbapLength_toNat
  have hprotocol : readBigEndian16 data 2 = 0 := by
    obtain ⟨rest, rfl⟩ := h.layout
    exact frameHeader_protocolId _ _
  have hcode : byteAt data 7 = functionCode := by
    obtain ⟨rest, rfl⟩ := h.layout
    rfl
  have hheader : ¬ data.length < 8 := by omega
  have hframe : ¬ data.length < 6 + (2 + body.length) := by omega
  have htwo : ¬ UInt16.ofNat (2 + body.length) < 2 := by
    rw [UInt16.lt_iff_toNat_lt, hlength]
    change ¬ 2 + body.length < 2
    omega
  have hthree : UInt16.ofNat (2 + body.length) < 3 ↔ body = [] := by
    rw [UInt16.lt_iff_toNat_lt, hlength, ← List.length_eq_zero_iff]
    change 2 + body.length < 3 ↔ body.length = 0
    omega
  have hexception : body ≠ [] → byteAt data 8 = byteAt body 0 := fun hbody =>
    h.byteAt_eq (List.length_pos_iff.mpr hbody)
  unfold decodeResponse
  simp only [h.transactionId_eq, h.mbapLength_eq, hlength, if_neg hheader, if_neg hframe,
    hprotocol, htwo, hcode, hthree, ne_eq, not_true_eq_false, or_self, if_false]
  -- The two sides differ in where the exception code is read.
  refine if_congr Iff.rfl ?_ rfl
  by_cases hbody : body = []
  · rw [if_pos hbody, if_pos hbody]
  · rw [if_neg hbody, if_neg hbody, hexception hbody]

/-- A response that is accepted, or reported as an exception, is a frame. -/
theorem exists_frame_of_accepted
    (h : (decodeResponse expectedCode decodeContent data).status = .ok ∨
      (decodeResponse expectedCode decodeContent data).status = .exception) :
    ∃ transactionId unitId functionCode body,
      FrameAtFront data transactionId unitId functionCode body := by
  unfold decodeResponse at h
  dsimp only at h
  split_ifs at h with hheader hframe hprotocol <;> try simp at h
  all_goals
    obtain ⟨hprotocol, hlength⟩ := not_or.mp hprotocol
    have htwo : 2 ≤ (readBigEndian16 data 4).toNat := by
      rw [UInt16.lt_iff_toNat_lt] at hlength
      exact not_lt.mp hlength
    obtain ⟨body, hbody, -⟩ := exists_frameAtFront (not_lt.mp hheader) (not_lt.mp hframe)
      (not_not.mp hprotocol) htwo
    exact ⟨_, _, _, body, hbody⟩

/-- **A response is accepted** if and only if a frame with the function code lies
at the front, and its content can be read. -/
theorem decodeResponse_eq_ok_iff (hcode : expectedCode &&& 0x80 = 0) (content : α) :
    decodeResponse expectedCode decodeContent data =
        { status := .ok, transactionId := transactionId, content := content } ↔
      ∃ unitId body, FrameAtFront data transactionId unitId expectedCode body ∧
        decodeContent data (UInt16.ofNat (2 + body.length)) = some content := by
  constructor
  · intro h
    obtain ⟨transactionId', unitId, functionCode, body, hframe⟩ :=
      exists_frame_of_accepted (Or.inl (congrArg Response.status h))
    rw [hframe.decodeResponse_eq] at h
    split_ifs at h with hhigh hbody hother
    · cases congrArg Response.status h
    · cases congrArg Response.status h
    · cases congrArg Response.status h
    · obtain rfl := not_not.mp hother
      split at h
      · cases congrArg Response.status h
      · rename_i content' hcontent
        obtain rfl : transactionId' = transactionId := congrArg Response.transactionId h
        obtain rfl : content' = content := congrArg Response.content h
        exact ⟨unitId, body, hframe, hcontent⟩
  · rintro ⟨unitId, body, hframe, hcontent⟩
    rw [hframe.decodeResponse_eq, if_neg (not_not.mpr hcode), if_neg (not_not.mpr rfl), hcontent]

/-- Only exceptions have an exception code. -/
theorem decodeResponse_exceptionCode {α : Type} [Inhabited α] {expectedCode : UInt8}
    {decodeContent : QByteArray → UInt16 → Option α}
    (h : (decodeResponse expectedCode decodeContent data).status ≠ .exception) :
    (decodeResponse expectedCode decodeContent data).exceptionCode = 0 := by
  unfold decodeResponse at h ⊢
  dsimp only at h ⊢
  split_ifs at h ⊢ <;> try rfl
  · exact absurd rfl h
  · split <;> rfl

/-- An accepted response is given by its transaction id and its content. -/
theorem decodeResponse_eq_of_ok {α : Type} [Inhabited α] {expectedCode : UInt8}
    {decodeContent : QByteArray → UInt16 → Option α}
    (h : (decodeResponse expectedCode decodeContent data).status = .ok) :
    decodeResponse expectedCode decodeContent data =
      { status := .ok
        transactionId := (decodeResponse expectedCode decodeContent data).transactionId
        content := (decodeResponse expectedCode decodeContent data).content } := by
  have hcode := decodeResponse_exceptionCode (h.trans_ne (by decide))
  cases hresponse : decodeResponse expectedCode decodeContent data with
  | mk status transactionId exceptionCode content =>
    rw [hresponse] at h hcode
    obtain rfl : status = .ok := h
    obtain rfl : exceptionCode = 0 := hcode
    rfl

end QtAppBase.Modbus
