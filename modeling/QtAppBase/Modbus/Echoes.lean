import QtAppBase.Modbus.Layout

/-!
# Echoed writes

The response to a single write repeats the request. A confirmed register write
is therefore an echo of the request it confirms; a confirmed coil write is one
only if its value is one of the two that a request can carry.
-/

namespace QtAppBase.Modbus

open Library Qt

variable {data body : QByteArray} {transactionId : UInt16} {unitId functionCode : UInt8}

/-- Two words are read if and only if the body consists of them. -/
theorem FrameAtFront.decodeWords_iff
    (h : FrameAtFront data transactionId unitId functionCode body) (first second : UInt16) :
    decodeWords data (UInt16.ofNat (2 + body.length)) = some (first, second) ↔
      body = bigEndian16 first ++ bigEndian16 second := by
  have hlength := h.mbapLength_toNat
  have hsix : UInt16.ofNat (2 + body.length) = 6 ↔ body.length = 4 := by
    rw [← UInt16.toNat_inj, hlength]
    change 2 + body.length = 6 ↔ body.length = 4
    omega
  unfold decodeWords
  constructor
  · intro hok
    split_ifs at hok with hwrong
    have hfour := hsix.mp (not_not.mp hwrong)
    obtain ⟨hfirst, hsecond⟩ := Prod.mk.inj (Option.some.inj hok)
    have hfirst : readBigEndian16 body 0 = first :=
      (h.readBigEndian16_eq (show 0 + 1 < body.length by omega)).symm.trans hfirst
    have hsecond : readBigEndian16 body 2 = second :=
      (h.readBigEndian16_eq (show 2 + 1 < body.length by omega)).symm.trans hsecond
    rw [← hfirst, ← hsecond, bigEndian16_readBigEndian16, bigEndian16_readBigEndian16]
    match body, hfour with
    | [_, _, _, _], _ => rfl
  · intro hbody
    have hfour : body.length = 4 := congrArg List.length hbody
    have hfirst := h.readBigEndian16_eq (show 0 + 1 < body.length by omega)
    have hsecond := h.readBigEndian16_eq (show 2 + 1 < body.length by omega)
    rw [if_neg (not_not.mpr (hsix.mpr hfour)), hfirst, hsecond, hbody]
    exact congrArg some (Prod.ext (word16_bytes first) (word16_bytes second))

/-- A frame with two words is what the encoder builds of them. -/
theorem frameAtFront_encodeWords (transactionId : UInt16) (unitId functionCode : UInt8)
    (first second : UInt16) (rest : QByteArray) :
    FrameAtFront (encodeWords transactionId unitId functionCode first second ++ rest)
      transactionId unitId functionCode (bigEndian16 first ++ bigEndian16 second) :=
  ⟨by change 2 + 4 < 2 ^ 16; decide, rest, rfl⟩

/-- A decoder of two words accepts exactly what the encoder builds of two words. -/
theorem decodeWords_eq_ok_iff {expectedCode : UInt8} (hcode : expectedCode &&& 0x80 = 0)
    (data : QByteArray) (transactionId first second : UInt16) :
    decodeResponse expectedCode decodeWords data =
        { status := .ok, transactionId := transactionId, content := (first, second) } ↔
      ∃ unitId rest, data = encodeWords transactionId unitId expectedCode first second ++ rest := by
  rw [decodeResponse_eq_ok_iff hcode]
  constructor
  · rintro ⟨unitId, body, hframe, hcontent⟩
    obtain rfl := (hframe.decodeWords_iff first second).mp hcontent
    obtain ⟨rest, rfl⟩ := hframe.layout
    exact ⟨unitId, rest, rfl⟩
  · rintro ⟨unitId, rest, rfl⟩
    have hframe := frameAtFront_encodeWords transactionId unitId expectedCode first second rest
    exact ⟨unitId, _, hframe, (hframe.decodeWords_iff first second).mpr rfl⟩

/-- The coil decoder accepts the same frames, and takes any other value than that
of an on for an off. -/
theorem decodeCoil_eq_ok_iff (data : QByteArray) (transactionId address : UInt16) (value : Bool) :
    decodeWriteSingleCoilResponse data =
        { status := .ok, transactionId := transactionId, content := (address, value) } ↔
      ∃ unitId word rest, data = encodeWords transactionId unitId 0x05 address word ++ rest ∧
        value = decide (word = 0xFF00) := by
  unfold decodeWriteSingleCoilResponse
  rw [decodeResponse_eq_ok_iff (by decide)]
  constructor
  · rintro ⟨unitId, body, hframe, hcontent⟩
    obtain ⟨⟨first, word⟩, hwords, hvalue⟩ := Option.map_eq_some_iff.mp hcontent
    obtain rfl := (hframe.decodeWords_iff first word).mp hwords
    obtain ⟨rest, rfl⟩ := hframe.layout
    obtain ⟨rfl, rfl⟩ := Prod.mk.inj hvalue
    exact ⟨unitId, word, rest, rfl, rfl⟩
  · rintro ⟨unitId, word, rest, rfl, rfl⟩
    have hframe := frameAtFront_encodeWords transactionId unitId 0x05 address word rest
    refine ⟨unitId, _, hframe, ?_⟩
    rw [decodeCoil, (hframe.decodeWords_iff address word).mpr rfl]
    rfl

/-! ### Requests and their echoes -/

/-- An accepted register response starts with the request of what it confirms. -/
def RegisterEcho (data : QByteArray) : Prop :=
  (decodeWriteSingleRegisterResponse data).status = .ok →
    data.take 12 = encodeWriteSingleRegisterRequest
      { transactionId := (decodeWriteSingleRegisterResponse data).transactionId
        unitId := byteAt data 6
        address := (decodeWriteSingleRegisterResponse data).content.1
        value := (decodeWriteSingleRegisterResponse data).content.2 }

/-- An accepted coil response starts with the request of what it confirms. -/
def CoilEcho (data : QByteArray) : Prop :=
  (decodeWriteSingleCoilResponse data).status = .ok →
    data.take 12 = encodeWriteSingleCoilRequest
      { transactionId := (decodeWriteSingleCoilResponse data).transactionId
        unitId := byteAt data 6
        address := (decodeWriteSingleCoilResponse data).content.1
        value := (decodeWriteSingleCoilResponse data).content.2 }

/-- The two single writes are confirmed by their echoes, and by nothing else. -/
structure EchoLaw (registerRequest : WriteSingleRegisterRequest)
    (coilRequest : WriteSingleCoilRequest) (trailing data : QByteArray) : Prop where
  /-- The echo of a register write confirms it. -/
  registerConfirmed : decodeWriteSingleRegisterResponse
      (encodeWriteSingleRegisterRequest registerRequest ++ trailing) =
    { status := .ok
      transactionId := registerRequest.transactionId
      content := (registerRequest.address, registerRequest.value) }
  /-- The echo of a coil write confirms it. -/
  coilConfirmed : decodeWriteSingleCoilResponse
      (encodeWriteSingleCoilRequest coilRequest ++ trailing) =
    { status := .ok
      transactionId := coilRequest.transactionId
      content := (coilRequest.address, coilRequest.value) }
  /-- Only an echo confirms a register write. -/
  registerEcho : RegisterEcho data
  /-- Only an echo confirms a coil write. -/
  coilEcho : CoilEcho data

/-- A coil frame at the front has one of the two values for on and off. -/
def CoilValueKnown (data : QByteArray) : Prop :=
  ∀ transactionId unitId address word rest,
    data = encodeWords transactionId unitId 0x05 address word ++ rest →
      word = 0xFF00 ∨ word = 0x0000

/-- The first twelve bytes are the frame with two words. -/
theorem take_encodeWords (transactionId : UInt16) (unitId functionCode : UInt8)
    (first second : UInt16) (rest : QByteArray) :
    (encodeWords transactionId unitId functionCode first second ++ rest).take 12 =
      encodeWords transactionId unitId functionCode first second := rfl

/-- The unit id of a frame with two words. -/
theorem unitId_encodeWords (transactionId : UInt16) (unitId functionCode : UInt8)
    (first second : UInt16) (rest : QByteArray) :
    byteAt (encodeWords transactionId unitId functionCode first second ++ rest) 6 = unitId := rfl

/-- Only an echo confirms a register write. -/
theorem registerEcho (data : QByteArray) : RegisterEcho data := by
  intro hok
  obtain ⟨unitId, rest, hdata⟩ := (decodeWords_eq_ok_iff (by decide) data
    (decodeWriteSingleRegisterResponse data).transactionId
    (decodeWriteSingleRegisterResponse data).content.1
    (decodeWriteSingleRegisterResponse data).content.2).mp (decodeResponse_eq_of_ok hok)
  have hunit : byteAt data 6 = unitId := by
    rw [hdata]
    exact unitId_encodeWords _ _ _ _ _ rest
  conv_lhs => rw [hdata, take_encodeWords, ← hunit]
  rfl

/-- The word of a coil request tells on from off. -/
theorem coilWord_eq_iff (word : UInt16) :
    word = (if decide (word = 0xFF00) then 0xFF00 else 0x0000) ↔
      word = 0xFF00 ∨ word = 0x0000 := by
  by_cases hon : word = 0xFF00
  · simp [hon]
  · simp [hon]

/-- The words of a frame are determined by its bytes. -/
theorem encodeWords_second_inj {transactionId transactionId' : UInt16}
    {unitId unitId' functionCode functionCode' : UInt8}
    {first first' second second' : UInt16} {rest rest' : QByteArray}
    (h : encodeWords transactionId unitId functionCode first second ++ rest =
      encodeWords transactionId' unitId' functionCode' first' second' ++ rest') :
    second = second' := by
  have hread : ∀ (transactionId : UInt16) (unitId functionCode : UInt8) (first second : UInt16)
      (rest : QByteArray), readBigEndian16
        (encodeWords transactionId unitId functionCode first second ++ rest) 10 = second := by
    intro transactionId unitId functionCode first second rest
    exact word16_bytes second
  rw [← hread transactionId unitId functionCode first second rest, h, hread]

/-- A coil frame at the front is an echo if and only if its value is known. -/
theorem coilEcho_iff (data : QByteArray) : CoilEcho data ↔ CoilValueKnown data := by
  constructor
  · intro h transactionId unitId address word rest hdata
    have hok := (decodeCoil_eq_ok_iff data transactionId address (decide (word = 0xFF00))).mpr
      ⟨unitId, word, rest, hdata, rfl⟩
    have hecho := h (by rw [hok])
    rw [hok, hdata, take_encodeWords] at hecho
    have hsame := encodeWords_second_inj (congrArg (· ++ []) hecho)
    exact (coilWord_eq_iff word).mp hsame
  · intro h hok
    obtain ⟨unitId, word, rest, hdata, hvalue⟩ := (decodeCoil_eq_ok_iff data
      (decodeWriteSingleCoilResponse data).transactionId
      (decodeWriteSingleCoilResponse data).content.1
      (decodeWriteSingleCoilResponse data).content.2).mp (decodeResponse_eq_of_ok hok)
    have hunit : byteAt data 6 = unitId := by
      rw [hdata]
      exact unitId_encodeWords _ _ _ _ _ rest
    have hword := (coilWord_eq_iff word).mpr (h _ _ _ _ _ hdata)
    rw [← hvalue] at hword
    conv_lhs => rw [hdata, take_encodeWords, ← hunit, hword]
    rfl

/-- **Confirmed writes are echoes**, of register writes always, and of coil
writes if and only if a coil frame has one of the two values for on and off. -/
theorem echoLaw_iff (registerRequest : WriteSingleRegisterRequest)
    (coilRequest : WriteSingleCoilRequest) (trailing data : QByteArray) :
    EchoLaw registerRequest coilRequest trailing data ↔ CoilValueKnown data := by
  constructor
  · intro h
    exact (coilEcho_iff data).mp h.coilEcho
  · intro h
    refine ⟨?_, ?_, registerEcho data, (coilEcho_iff data).mpr h⟩
    · exact (decodeWords_eq_ok_iff (by decide) _ _ _ _).mpr ⟨registerRequest.unitId, trailing, rfl⟩
    · refine (decodeCoil_eq_ok_iff _ _ _ _).mpr ⟨coilRequest.unitId, _, trailing, rfl, ?_⟩
      cases coilRequest.value <;> decide

/-- A response with another value confirms that a coil is off. -/
theorem echoLaw_otherValue :
    ¬ ∀ (registerRequest : WriteSingleRegisterRequest) (coilRequest : WriteSingleCoilRequest)
      (trailing data : QByteArray), EchoLaw registerRequest coilRequest trailing data := by
  intro h
  exact absurd ((h {} {} [] (encodeWords 7 1 0x05 3 0x0001)).coilEcho (by decide)) (by decide)

end QtAppBase.Modbus
