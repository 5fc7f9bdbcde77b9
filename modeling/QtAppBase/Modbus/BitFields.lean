import QtAppBase.Library.Bits
import QtAppBase.Modbus.Layout

/-!
# Packed bits

Coils and inputs travel as bits, the lowest bit of a byte first. Packing sets
one bit after another in zeroed bytes, and unpacking reads byte by byte, so that
each undoes the other up to the padding of the last byte.
-/

namespace QtAppBase.Modbus

open Library Qt

/-! ### Unpacking -/

/-- The unpacked bits of an array. -/
theorem unpackBits_eq (data : QByteArray) (offset byteCount : ℕ) :
    unpackBits data offset byteCount =
      (List.range byteCount).flatMap fun i =>
        (List.range 8).map fun j => bit (byteAt data (offset + i)) j := by
  unfold unpackBits
  refine congrArg (List.flatMap · _) (funext fun i => List.map_congr_left fun j hj => ?_)
  exact and_mask_ne_zero _ (List.mem_range.mp hj)

/-- The last byte is unpacked behind the others. -/
theorem unpackBits_succ (data : QByteArray) (offset byteCount : ℕ) :
    unpackBits data offset (byteCount + 1) = unpackBits data offset byteCount ++
      (List.range 8).map fun j => bit (byteAt data (offset + byteCount)) j := by
  rw [unpackBits_eq, unpackBits_eq, @List.range_succ byteCount, List.flatMap_append,
    List.flatMap_singleton]

/-- Each byte is unpacked to eight bits. -/
theorem length_unpackBits (data : QByteArray) (offset byteCount : ℕ) :
    (unpackBits data offset byteCount).length = 8 * byteCount := by
  induction byteCount with
  | zero => rfl
  | succ byteCount ih =>
    rw [unpackBits_succ, List.length_append, ih, List.length_map, List.length_range]
    omega

/-- An unpacked bit is found at its place in the array. -/
theorem getElem?_unpackBits (data : QByteArray) (byteCount : ℕ) {position : ℕ}
    (hposition : position < 8 * byteCount) :
    (unpackBits data 0 byteCount)[position]? = some (bitAt data position) := by
  induction byteCount with
  | zero => omega
  | succ byteCount ih =>
    have hlength := length_unpackBits data 0 byteCount
    rw [unpackBits_succ]
    by_cases hbefore : position < 8 * byteCount
    · rw [List.getElem?_append_left (by omega), ih hbefore]
    · rw [List.getElem?_append_right (by omega), hlength, List.getElem?_map,
        List.getElem?_range (by omega), bitAt]
      have hdiv : position / 8 = byteCount := by omega
      have hmod : position % 8 = position - 8 * byteCount := by omega
      rw [hdiv, hmod, Nat.zero_add]
      rfl

/-! ### Packing -/

/-- One round of the packing loop. -/
def packStep (packed : QByteArray) (entry : Bool × ℕ) : QByteArray :=
  if entry.1 then
    packed.set (entry.2 / 8) (byteAt packed (entry.2 / 8) ||| (1 <<< UInt8.ofNat (entry.2 % 8)))
  else packed

theorem length_packStep (packed : QByteArray) (entry : Bool × ℕ) :
    (packStep packed entry).length = packed.length := by
  unfold packStep
  split_ifs
  · exact List.length_set
  · rfl

/-- A round sets the bit at its position, if the value is set. -/
theorem bitAt_packStep {packed : QByteArray} {entry : Bool × ℕ}
    (hentry : entry.2 < 8 * packed.length) (position : ℕ) :
    bitAt (packStep packed entry) position =
      (bitAt packed position || (entry.1 && decide (entry.2 = position))) := by
  unfold packStep
  cases hvalue : entry.1 with
  | false => simp
  | true =>
    rw [if_pos rfl, byteAt, bitAt_set hentry]
    rfl

/-- The rounds keep the number of bytes. -/
theorem length_packSteps (entries : List (Bool × ℕ)) (packed : QByteArray) :
    (entries.foldl packStep packed).length = packed.length := by
  induction entries generalizing packed with
  | nil => rfl
  | cons entry entries ih => rw [List.foldl_cons, ih, length_packStep]

/-- The rounds set the bits from a position on, and keep the others. -/
theorem bitAt_packSteps (values : List Bool) (start : ℕ) (packed : QByteArray)
    (hroom : start + values.length ≤ 8 * packed.length) (position : ℕ) :
    bitAt ((values.zipIdx start).foldl packStep packed) position =
      (bitAt packed position ||
        (decide (start ≤ position) && values.getD (position - start) false)) := by
  induction values generalizing start packed with
  | nil => simp
  | cons value values ih =>
    rw [List.length_cons] at hroom
    have hstep := length_packStep packed (value, start)
    rw [List.zipIdx_cons, List.foldl_cons, ih (start + 1) _ (by omega),
      bitAt_packStep (by dsimp only; omega)]
    rcases lt_trichotomy position start with hbefore | rfl | hafter
    · simp [show ¬ start ≤ position by omega, show ¬ start + 1 ≤ position by omega,
        show start ≠ position by omega]
    · simp
    · obtain ⟨i, rfl⟩ := Nat.exists_eq_add_of_lt hafter
      simp [show start ≤ start + i + 1 by omega, show start + i + 1 - start = i + 1 by omega,
        show start + i + 1 - (start + 1) = i by omega, show start ≠ start + i + 1 by omega]

/-- The packing loop in rounds. -/
theorem packBits_eq (values : List Bool) :
    packBits values =
      (values.zipIdx 0).foldl packStep (List.replicate ((values.length + 7) / 8) 0) := rfl

/-- There are as many bytes as the bits need. -/
theorem length_packBits (values : List Bool) :
    (packBits values).length = (values.length + 7) / 8 := by
  rw [packBits_eq, length_packSteps, List.length_replicate]

/-- A packed bit is the value at its position, and the padding is zero. -/
theorem bitAt_packBits (values : List Bool) (position : ℕ) :
    bitAt (packBits values) position = values.getD position false := by
  have hroom : 0 + values.length ≤
      8 * (List.replicate ((values.length + 7) / 8) (0 : UInt8)).length := by
    rw [List.length_replicate]
    omega
  rw [packBits_eq, bitAt_packSteps values 0 _ hroom position, bitAt_replicate]
  simp

/-! ### Round trips -/

/-- Packing unpacked bytes gives them back. -/
theorem packBits_unpackBits (data : QByteArray) :
    packBits (unpackBits data 0 data.length) = data := by
  have hbits := length_unpackBits data 0 data.length
  have hlength : (packBits (unpackBits data 0 data.length)).length = data.length := by
    rw [length_packBits, hbits]
    omega
  apply eq_of_bitAt hlength
  intro position hposition
  rw [hlength] at hposition
  rw [bitAt_packBits, List.getD_eq_getElem?_getD, getElem?_unpackBits data _ hposition,
    Option.getD_some]

/-- Unpacking packed bits gives them back, padded to full bytes. -/
theorem unpackBits_packBits (values : List Bool) :
    unpackBits (packBits values) 0 (packBits values).length =
      values ++ List.replicate (8 * ((values.length + 7) / 8) - values.length) false := by
  have hbits := length_unpackBits (packBits values) 0 (packBits values).length
  have hbytes := length_packBits values
  apply List.ext_getElem?
  intro position
  by_cases hposition : position < 8 * (packBits values).length
  · rw [getElem?_unpackBits _ _ hposition, bitAt_packBits, List.getD_eq_getElem?_getD]
    by_cases hvalue : position < values.length
    · rw [List.getElem?_append_left hvalue, List.getElem?_eq_getElem hvalue]
      rfl
    · rw [List.getElem?_append_right (by omega), List.getElem?_eq_none (by omega),
        List.getElem?_replicate, if_pos (by omega)]
      rfl
  · rw [List.getElem?_eq_none (by omega), List.getElem?_eq_none]
    rw [List.length_append, List.length_replicate]
    omega

/-! ### Responses -/

/-- The bytes start with a response that carries the given bytes: the length
field and the byte count both announce them. -/
def BitFrame (functionCode : UInt8) (data : QByteArray) (transactionId : UInt16)
    (bytes : QByteArray) : Prop :=
  bytes.length < 2 ^ 8 ∧ ∃ unitId rest, data =
    frameHeader transactionId (UInt16.ofNat (3 + bytes.length)) unitId functionCode ++
      UInt8.ofNat bytes.length :: (bytes ++ rest)

variable {data body : QByteArray} {transactionId : UInt16} {unitId functionCode : UInt8}

/-- The bits behind a byte count are those of the payload. -/
theorem FrameAtFront.readBits_eq {count : UInt8} {payload : QByteArray}
    (h : FrameAtFront data transactionId unitId functionCode (count :: payload))
    (hpayload : payload.length = count.toNat) :
    unpackBits data 9 count.toNat = unpackBits payload 0 count.toNat := by
  rw [unpackBits_eq, unpackBits_eq]
  refine List.flatMap_congr fun i hi => ?_
  have hi := List.mem_range.mp hi
  have hbyte : byteAt data (9 + i) = byteAt payload (0 + i) := by
    rw [show 9 + i = 8 + (i + 1) by omega, h.byteAt_eq (by rw [List.length_cons]; omega),
      Nat.zero_add]
    rfl
  rw [hbyte]

/-- The bits of a frame are read if and only if its body is a byte count and as
many bytes. -/
theorem FrameAtFront.decodeBits_iff
    (h : FrameAtFront data transactionId unitId functionCode body) (bits : List Bool) :
    decodeBits data (UInt16.ofNat (2 + body.length)) = some bits ↔
      ∃ bytes : QByteArray, bytes.length < 2 ^ 8 ∧ body = UInt8.ofNat bytes.length :: bytes ∧
        bits = unpackBits bytes 0 bytes.length := by
  unfold decodeBits
  dsimp only
  cases body with
  | nil =>
    rw [if_pos (by decide)]
    simp
  | cons count payload =>
    have hannounced := h.announced_iff
    rw [if_neg h.not_lt_three, h.byteCount_eq]
    constructor
    · intro hok
      split_ifs at hok with hwrong
      have hpayload := hannounced.mp (not_not.mp hwrong)
      rw [h.readBits_eq hpayload] at hok
      obtain rfl := Option.some.inj hok
      exact ⟨payload, hpayload ▸ count.toNat_lt, by rw [hpayload, UInt8.ofNat_toNat],
        by rw [hpayload]⟩
    · rintro ⟨bytes, hfew, hbody, rfl⟩
      obtain ⟨rfl, rfl⟩ := List.cons.inj hbody
      have hcount : (UInt8.ofNat payload.length).toNat = payload.length :=
        UInt8.toNat_ofNat_of_lt' hfew
      rw [if_neg (not_not.mpr (hannounced.mpr hcount.symm)), h.readBits_eq hcount.symm, hcount]

/-- A bit decoder accepts exactly the bit responses with its function code, and
unpacks their bytes. -/
theorem decodeBits_eq_ok_iff {expectedCode : UInt8} (hcode : expectedCode &&& 0x80 = 0)
    (data : QByteArray) (transactionId : UInt16) (bits : List Bool) :
    decodeResponse expectedCode decodeBits data =
        { status := .ok, transactionId := transactionId, content := bits } ↔
      ∃ bytes, BitFrame expectedCode data transactionId bytes ∧
        bits = unpackBits bytes 0 bytes.length := by
  rw [decodeResponse_eq_ok_iff hcode]
  constructor
  · rintro ⟨unitId, body, hframe, hcontent⟩
    obtain ⟨bytes, hfew, rfl, hbits⟩ := (hframe.decodeBits_iff bits).mp hcontent
    obtain ⟨rest, hlayout⟩ := hframe.layout
    refine ⟨bytes, ⟨hfew, unitId, rest, ?_⟩, hbits⟩
    rw [hlayout, List.length_cons, show 2 + (bytes.length + 1) = 3 + bytes.length by omega,
      List.cons_append]
  · rintro ⟨bytes, ⟨hfew, unitId, rest, rfl⟩, hbits⟩
    have hframe : FrameAtFront
        (frameHeader transactionId (UInt16.ofNat (3 + bytes.length)) unitId expectedCode ++
          UInt8.ofNat bytes.length :: (bytes ++ rest))
        transactionId unitId expectedCode (UInt8.ofNat bytes.length :: bytes) := by
      refine ⟨by rw [List.length_cons]; omega, rest, ?_⟩
      rw [List.length_cons, show 2 + (bytes.length + 1) = 3 + bytes.length by omega,
        List.cons_append]
    exact ⟨unitId, _, hframe, (hframe.decodeBits_iff bits).mpr ⟨bytes, hfew, rfl, hbits⟩⟩

/-- What a bit decoder accepts, what it returns, and what it returns for packed values. -/
structure BitsExact (functionCode : UInt8) (decode : QByteArray → Response (List Bool)) : Prop where
  /-- Exactly the bit responses are accepted. -/
  accepted : ∀ data, (decode data).status = .ok ↔
    ∃ transactionId bytes, BitFrame functionCode data transactionId bytes
  /-- Each byte gives its eight bits, the lowest first, which pack to the bytes again. -/
  bits : ∀ data transactionId bytes, BitFrame functionCode data transactionId bytes →
    (decode data).content.length = 8 * bytes.length ∧
    (∀ i < 8 * bytes.length,
      (decode data).content[i]? = some ((bytes.getD (i / 8) 0).toNat.testBit (i % 8))) ∧
    packBits (decode data).content = bytes
  /-- Packed values come back, padded to full bytes. -/
  packed : ∀ transactionId unitId (values : List Bool) (rest : QByteArray),
    values.length ≤ 2040 →
    decode (frameHeader transactionId (UInt16.ofNat (3 + (packBits values).length)) unitId
        functionCode ++ UInt8.ofNat (packBits values).length :: (packBits values ++ rest)) =
      { status := .ok
        transactionId := transactionId
        content := values ++ List.replicate ((8 - values.length % 8) % 8) false }

theorem decodeBits_exact {expectedCode : UInt8} (hcode : expectedCode &&& 0x80 = 0) :
    BitsExact expectedCode (decodeResponse expectedCode decodeBits) := by
  refine ⟨fun data => ⟨fun hok => ?_, ?_⟩, ?_, ?_⟩
  · obtain ⟨bytes, hframe, -⟩ :=
      (decodeBits_eq_ok_iff hcode data _ _).mp (decodeResponse_eq_of_ok hok)
    exact ⟨_, bytes, hframe⟩
  · rintro ⟨transactionId, bytes, hframe⟩
    rw [(decodeBits_eq_ok_iff hcode data transactionId _).mpr ⟨bytes, hframe, rfl⟩]
  · intro data transactionId bytes hframe
    rw [(decodeBits_eq_ok_iff hcode data transactionId _).mpr ⟨bytes, hframe, rfl⟩]
    refine ⟨length_unpackBits bytes 0 bytes.length, ?_, packBits_unpackBits bytes⟩
    intro i hi
    exact getElem?_unpackBits bytes bytes.length hi
  · intro transactionId unitId values rest hmany
    have hbytes := length_packBits values
    have hpadding : 8 * ((values.length + 7) / 8) - values.length =
        (8 - values.length % 8) % 8 := by omega
    rw [← hpadding, ← unpackBits_packBits]
    refine (decodeBits_eq_ok_iff hcode _ transactionId _).mpr ⟨packBits values, ⟨?_, ?_⟩, rfl⟩
    · omega
    · exact ⟨unitId, rest, rfl⟩

/-- **Bit responses are accepted exactly**, by the coil and by the input decoder. -/
theorem readBits_exact :
    BitsExact 0x01 decodeReadCoilsResponse ∧ BitsExact 0x02 decodeReadDiscreteInputsResponse := by
  constructor
  · exact decodeBits_exact (by decide)
  · exact decodeBits_exact (by decide)

end QtAppBase.Modbus
