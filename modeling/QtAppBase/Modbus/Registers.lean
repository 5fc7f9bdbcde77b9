import QtAppBase.Modbus.Layout

/-!
# Register responses

The two register reads accept exactly the frames that announce their registers
consistently, and give these registers back. Apart from the function code they
expect, the two decoders are the same.
-/

namespace QtAppBase.Modbus

open Library Qt

/-- The bytes start with a register response: the length field and the byte
count both announce the registers, which follow one after another. -/
def RegisterFrame (functionCode : UInt8) (data : QByteArray) (transactionId : UInt16)
    (registers : List UInt16) : Prop :=
  registers.length ≤ 127 ∧ ∃ unitId rest, data =
    bigEndian16 transactionId ++ [0, 0] ++ bigEndian16 (UInt16.ofNat (3 + 2 * registers.length)) ++
      [unitId, functionCode, UInt8.ofNat (2 * registers.length)] ++
      registers.flatMap bigEndian16 ++ rest

/-- A word has two bytes. -/
theorem length_flatMap_bigEndian16 (values : List UInt16) :
    (values.flatMap bigEndian16).length = 2 * values.length := by
  induction values with
  | nil => rfl
  | cons value values ih =>
    rw [List.flatMap_cons, List.length_append, ih, List.length_cons]
    change 2 + 2 * values.length = 2 * (values.length + 1)
    omega

variable {data body : QByteArray} {transactionId : UInt16} {unitId functionCode : UInt8}

/-- The parity of a byte is that of its number. -/
theorem even_iff_toNat (count : UInt8) : count % 2 = 0 ↔ count.toNat % 2 = 0 := by
  rw [← UInt8.toNat_inj, UInt8.toNat_mod]
  rfl

/-- The registers behind a byte count are the words of the payload. -/
theorem FrameAtFront.readRegisters_eq {count : UInt8} {payload : QByteArray}
    (h : FrameAtFront data transactionId unitId functionCode (count :: payload))
    (hpayload : payload.length = count.toNat) :
    (List.range (count.toNat / 2)).map (fun i => readBigEndian16 data (9 + 2 * i)) =
      words payload (count.toNat / 2) := by
  refine List.map_congr_left fun i hi => ?_
  have hi := List.mem_range.mp hi
  rw [show 9 + 2 * i = 8 + (2 * i + 1) by omega,
    h.readBigEndian16_eq (by rw [List.length_cons]; omega)]
  rfl

/-- The registers of a frame are read if and only if its body is their byte
count and their bytes. -/
theorem FrameAtFront.decodeRegisters_iff
    (h : FrameAtFront data transactionId unitId functionCode body) (registers : List UInt16) :
    decodeRegisters data (UInt16.ofNat (2 + body.length)) = some registers ↔
      registers.length ≤ 127 ∧
        body = UInt8.ofNat (2 * registers.length) :: registers.flatMap bigEndian16 := by
  unfold decodeRegisters
  dsimp only
  cases body with
  | nil =>
    rw [if_pos (by decide)]
    simp
  | cons count payload =>
    have hcountByte := count.toNat_lt
    have hannounced := h.announced_iff
    rw [if_neg h.not_lt_three, h.byteCount_eq]
    constructor
    · intro hok
      split_ifs at hok with hwrong
      obtain ⟨hcountEven, hpayload⟩ := not_or.mp hwrong
      have hpayload := hannounced.mp (not_not.mp hpayload)
      have hcountEven := (even_iff_toNat count).mp (not_not.mp hcountEven)
      rw [h.readRegisters_eq hpayload] at hok
      obtain rfl := Option.some.inj hok
      have hwords : (words payload (count.toNat / 2)).length = count.toNat / 2 := by simp [words]
      refine ⟨by omega, ?_⟩
      rw [hwords, flatMap_words (by omega), show 2 * (count.toNat / 2) = count.toNat by omega,
        UInt8.ofNat_toNat]
    · rintro ⟨hmany, hbody⟩
      obtain ⟨rfl, rfl⟩ := List.cons.inj hbody
      have hdouble : (UInt8.ofNat (2 * registers.length)).toNat = 2 * registers.length :=
        UInt8.toNat_ofNat_of_lt' (by change 2 * registers.length < 256; omega)
      have hpayload := length_flatMap_bigEndian16 registers
      have hright : ¬ (UInt8.ofNat (2 * registers.length) % 2 ≠ 0 ∨
          UInt16.ofNat (2 + (UInt8.ofNat (2 * registers.length) ::
            registers.flatMap bigEndian16).length) ≠
              UInt16.ofNat (3 + (UInt8.ofNat (2 * registers.length)).toNat)) := by
        rw [not_or, not_not, not_not, even_iff_toNat, hannounced, hdouble]
        omega
      have hall := words_flatMap registers []
      rw [List.append_nil] at hall
      rw [if_neg hright, h.readRegisters_eq (by rw [hpayload, hdouble]), hdouble,
        Nat.mul_div_cancel_left _ (by decide), hall]

/-- A register decoder accepts exactly the register responses with its function code. -/
theorem decodeRegisters_eq_ok_iff {expectedCode : UInt8} (hcode : expectedCode &&& 0x80 = 0)
    (data : QByteArray) (transactionId : UInt16) (registers : List UInt16) :
    decodeResponse expectedCode decodeRegisters data =
        { status := .ok, transactionId := transactionId, content := registers } ↔
      RegisterFrame expectedCode data transactionId registers := by
  have hbytes := length_flatMap_bigEndian16 registers
  have hlength : ∀ body, body = UInt8.ofNat (2 * registers.length) ::
      registers.flatMap bigEndian16 → 2 + body.length = 3 + 2 * registers.length := by
    rintro body rfl
    rw [List.length_cons]
    omega
  rw [decodeResponse_eq_ok_iff hcode]
  constructor
  · rintro ⟨unitId, body, hframe, hcontent⟩
    obtain ⟨hmany, hbody⟩ := (hframe.decodeRegisters_iff registers).mp hcontent
    obtain ⟨rest, hlayout⟩ := hframe.layout
    refine ⟨hmany, unitId, rest, ?_⟩
    rw [hlayout, hlength body hbody, hbody]
    simp [frameHeader, bigEndian16, highByte, lowByte]
  · rintro ⟨hmany, unitId, rest, rfl⟩
    refine ⟨unitId, UInt8.ofNat (2 * registers.length) :: registers.flatMap bigEndian16, ?_⟩
    have hframe : FrameAtFront
        (bigEndian16 transactionId ++ [0, 0] ++
          bigEndian16 (UInt16.ofNat (3 + 2 * registers.length)) ++
          [unitId, expectedCode, UInt8.ofNat (2 * registers.length)] ++
          registers.flatMap bigEndian16 ++ rest) transactionId unitId expectedCode
        (UInt8.ofNat (2 * registers.length) :: registers.flatMap bigEndian16) := by
      refine ⟨by rw [hlength _ rfl]; omega, rest, ?_⟩
      rw [hlength _ rfl]
      simp [frameHeader, bigEndian16, highByte, lowByte]
    exact ⟨hframe, (hframe.decodeRegisters_iff registers).mpr ⟨hmany, rfl⟩⟩

/-- The registers are read behind the function code. -/
theorem decodeRegisters_functionCode {front : QByteArray} (hfront : front.length = 7)
    (code code' : UInt8) (rest : QByteArray) (mbapLength : UInt16) :
    decodeRegisters (front ++ code :: rest) mbapLength =
      decodeRegisters (front ++ code' :: rest) mbapLength := by
  have hbyte : ∀ (code : UInt8) (i : ℕ), byteAt (front ++ code :: rest) (8 + i) =
      byteAt rest i := by
    intro code i
    rw [show 8 + i = front.length + (i + 1) by omega, byteAt_append_right]
    rfl
  have hword : ∀ i, readBigEndian16 (front ++ code :: rest) (9 + 2 * i) =
      readBigEndian16 (front ++ code' :: rest) (9 + 2 * i) := by
    intro i
    rw [readBigEndian16, readBigEndian16, show 9 + 2 * i + 1 = 8 + (2 * i + 2) by omega,
      show 9 + 2 * i = 8 + (2 * i + 1) by omega, hbyte, hbyte, hbyte, hbyte]
  have hcount : byteAt (front ++ code :: rest) 8 = byteAt (front ++ code' :: rest) 8 :=
    (hbyte code 0).trans (hbyte code' 0).symm
  unfold decodeRegisters
  simp only [hcount, hword]

/-- Decoders with different function codes agree on frames that differ in just these. -/
theorem decodeResponse_functionCode {α : Type} [Inhabited α] {code code' : UInt8}
    {decodeContent : QByteArray → UInt16 → Option α} (hcode : code &&& 0x80 = 0)
    (hcode' : code' &&& 0x80 = 0) {front : QByteArray} (hfront : front.length = 7)
    {rest : QByteArray} (hcontent : ∀ mbapLength,
      decodeContent (front ++ code :: rest) mbapLength =
        decodeContent (front ++ code' :: rest) mbapLength) :
    decodeResponse code decodeContent (front ++ code :: rest) =
      decodeResponse code' decodeContent (front ++ code' :: rest) := by
  have hbyte : ∀ code : UInt8, byteAt (front ++ code :: rest) 7 = code := by
    intro code
    have h := byteAt_append_right front (code :: rest) 0
    rwa [hfront] at h
  have hword : ∀ {i : ℕ}, i + 1 < front.length →
      readBigEndian16 (front ++ code :: rest) i = readBigEndian16 (front ++ code' :: rest) i := by
    intro i hi
    rw [readBigEndian16, readBigEndian16, byteAt_append_left _ hi, byteAt_append_left _ hi,
      byteAt_append_left _ (by omega), byteAt_append_left _ (by omega)]
  have hlength : (front ++ code :: rest).length = (front ++ code' :: rest).length := by simp
  unfold decodeResponse
  simp only [hlength, hword (show 0 + 1 < front.length by omega),
    hword (show 2 + 1 < front.length by omega), hword (show 4 + 1 < front.length by omega), hbyte,
    hcode, hcode', hcontent, ne_eq, not_true_eq_false, if_false]

/-- **Register responses are accepted exactly.** Both decoders return registers
if and only if the bytes start with the response that carries them; and they
return the same for bytes that differ only in the function code. -/
theorem readRegisters_exact :
    (∀ (data : QByteArray) (transactionId : UInt16) (registers : List UInt16),
      (decodeReadHoldingRegistersResponse data =
          { status := .ok, transactionId := transactionId, content := registers } ↔
        RegisterFrame 0x03 data transactionId registers) ∧
      (decodeReadInputRegistersResponse data =
          { status := .ok, transactionId := transactionId, content := registers } ↔
        RegisterFrame 0x04 data transactionId registers)) ∧
    ∀ front rest : QByteArray, front.length = 7 →
      decodeReadHoldingRegistersResponse (front ++ 0x03 :: rest) =
        decodeReadInputRegistersResponse (front ++ 0x04 :: rest) := by
  refine ⟨fun data transactionId registers => ⟨?_, ?_⟩, fun front rest hfront => ?_⟩
  · exact decodeRegisters_eq_ok_iff (by decide) data transactionId registers
  · exact decodeRegisters_eq_ok_iff (by decide) data transactionId registers
  · exact decodeResponse_functionCode (by decide) (by decide) hfront
      (decodeRegisters_functionCode hfront _ _ rest)

end QtAppBase.Modbus
