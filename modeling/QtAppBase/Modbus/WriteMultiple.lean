import QtAppBase.Modbus.Registers
import QtAppBase.Modbus.BitFields

/-!
# Writes of several values

A write of several registers or coils announces its body three times: by the
length field, by the quantity and by the byte count. Within the limits of the
protocol the three agree with each other and with the body, and the values can
be read back, so no two requests share a frame.
-/

namespace QtAppBase.Modbus

open Library Qt

/-- The three announcements of a frame agree with its size and its quantity of values. -/
structure Announced (frame : QByteArray) (quantity : ℕ) : Prop where
  /-- The length field counts what follows it. -/
  length : (readBigEndian16 frame 4).toNat = frame.length - 6
  /-- The quantity is the number of values. -/
  quantity : (readBigEndian16 frame 10).toNat = quantity
  /-- The byte count counts what follows it. -/
  byteCount : (byteAt frame 12).toNat = frame.length - 13

variable {transactionId startAddress : UInt16} {unitId functionCode : UInt8} {quantity : ℕ}
  {packed : QByteArray}

/-- The size of a frame. -/
theorem length_encodeValues :
    (encodeValues transactionId unitId functionCode startAddress quantity packed).length =
      13 + packed.length := by
  rw [encodeValues, List.length_append, List.length_append, List.length_append,
    List.length_append, frameHeader_length]
  change 8 + 2 + 2 + 1 + packed.length = _
  omega

/-- The announcements agree as long as they fit their fields. -/
theorem encodeValues_announced (hquantity : quantity < 2 ^ 16) (hpacked : packed.length < 2 ^ 8) :
    Announced (encodeValues transactionId unitId functionCode startAddress quantity packed)
      quantity := by
  have hlength : (UInt16.ofNat (7 + packed.length)).toNat = 7 + packed.length :=
    UInt16.toNat_ofNat_of_lt' (by change 7 + packed.length < 2 ^ 16; omega)
  have hcount : (UInt8.ofNat packed.length).toNat = packed.length :=
    UInt8.toNat_ofNat_of_lt' hpacked
  have hmbap : readBigEndian16
      (encodeValues transactionId unitId functionCode startAddress quantity packed) 4 =
        UInt16.ofNat (7 + packed.length) := word16_bytes _
  have hword : readBigEndian16
      (encodeValues transactionId unitId functionCode startAddress quantity packed) 10 =
        UInt16.ofNat quantity := word16_bytes _
  have hbyte : byteAt
      (encodeValues transactionId unitId functionCode startAddress quantity packed) 12 =
        UInt8.ofNat packed.length := rfl
  refine ⟨?_, ?_, ?_⟩
  · rw [hmbap, hlength, length_encodeValues]
    omega
  · rw [hword, UInt16.toNat_ofNat_of_lt' hquantity]
  · rw [hbyte, hcount, length_encodeValues]
    omega

/-- The ids and the address of a frame are determined by its bytes. -/
theorem encodeValues_inj {transactionId' startAddress' : UInt16} {unitId' functionCode' : UInt8}
    {quantity' : ℕ} {packed' : QByteArray}
    (h : encodeValues transactionId unitId functionCode startAddress quantity packed =
      encodeValues transactionId' unitId' functionCode' startAddress' quantity' packed') :
    transactionId = transactionId' ∧ unitId = unitId' ∧ startAddress = startAddress' := by
  refine ⟨?_, congrArg (byteAt · 6) h, ?_⟩
  · have hword := congrArg (readBigEndian16 · 0) h
    exact (word16_bytes _).symm.trans (hword.trans (word16_bytes _))
  · have hword := congrArg (readBigEndian16 · 8) h
    exact (word16_bytes _).symm.trans (hword.trans (word16_bytes _))

/-- A register request within the limits of the protocol reads back from its frame. -/
structure RegistersReadBack (request : WriteMultipleRegistersRequest) : Prop where
  /-- The announcements agree. -/
  announced : Announced (encodeWriteMultipleRegistersRequest request) request.values.length
  /-- The words of the body are the registers. -/
  values : (List.range request.values.length).map
      (fun i => readBigEndian16 (encodeWriteMultipleRegistersRequest request) (13 + 2 * i)) =
    request.values

/-- A coil request within the limits of the protocol reads back from its frame. -/
structure CoilsReadBack (request : WriteMultipleCoilsRequest) : Prop where
  /-- The announcements agree. -/
  announced : Announced (encodeWriteMultipleCoilsRequest request) request.values.length
  /-- The bits of the body are the coils. -/
  values : (List.range request.values.length).map
      (fun i => (byteAt (encodeWriteMultipleCoilsRequest request) (13 + i / 8)).toNat.testBit
        (i % 8)) = request.values
  /-- The bits behind the last coil are zero. -/
  padding : ∀ i, request.values.length ≤ i →
    i < 8 * ((encodeWriteMultipleCoilsRequest request).length - 13) →
    (byteAt (encodeWriteMultipleCoilsRequest request) (13 + i / 8)).toNat.testBit (i % 8) = false

/-- The words behind the header are those of the body. -/
theorem readBigEndian16_encodeValues (i : ℕ) :
    readBigEndian16 (encodeValues transactionId unitId functionCode startAddress quantity packed)
      (13 + i) = readBigEndian16 packed i := by
  have hbyte : ∀ i, byteAt
      (encodeValues transactionId unitId functionCode startAddress quantity packed) (13 + i) =
        byteAt packed i := fun i => byteAt_append_right _ packed i
  rw [readBigEndian16, readBigEndian16, hbyte, Nat.add_assoc, hbyte]

theorem registers_readBack {request : WriteMultipleRegistersRequest}
    (hmany : request.values.length ≤ 123) : RegistersReadBack request := by
  have hbytes := length_flatMap_bigEndian16 request.values
  refine ⟨encodeValues_announced (by omega) (by omega), ?_⟩
  have hwords := words_flatMap request.values []
  rw [List.append_nil] at hwords
  conv_rhs => rw [← hwords]
  exact List.map_congr_left fun i _ => readBigEndian16_encodeValues (2 * i)

/-- A register request that reads back is determined by its frame. -/
theorem RegistersReadBack.eq_of_frame {request request' : WriteMultipleRegistersRequest}
    (h : RegistersReadBack request) (h' : RegistersReadBack request')
    (hframe : encodeWriteMultipleRegistersRequest request =
      encodeWriteMultipleRegistersRequest request') : request = request' := by
  obtain ⟨htransaction, hunit, hstart⟩ := encodeValues_inj hframe
  have hlength : request.values.length = request'.values.length := by
    rw [← h.announced.quantity, hframe, h'.announced.quantity]
  have hvalues : request.values = request'.values := by
    rw [← h.values, ← h'.values, hframe, hlength]
  cases request
  cases request'
  simp_all

/-- A bit of the body is the coil at its position, and the padding is zero. -/
theorem bit_encodeWriteMultipleCoils (request : WriteMultipleCoilsRequest) (i : ℕ) :
    (byteAt (encodeWriteMultipleCoilsRequest request) (13 + i / 8)).toNat.testBit (i % 8) =
      request.values.getD i false := by
  have hbyte : byteAt (encodeWriteMultipleCoilsRequest request) (13 + i / 8) =
      byteAt (packBits request.values) (i / 8) := byteAt_append_right _ _ (i / 8)
  rw [hbyte]
  exact bitAt_packBits request.values i

theorem coils_readBack {request : WriteMultipleCoilsRequest}
    (hmany : request.values.length ≤ 1968) : CoilsReadBack request := by
  have hbytes := length_packBits request.values
  refine ⟨encodeValues_announced (by omega) (by omega), ?_, ?_⟩
  · apply List.ext_getElem
    · simp
    · intro i hi hvalue
      rw [List.getElem_map, List.getElem_range, bit_encodeWriteMultipleCoils,
        List.getD_eq_getElem _ _ hvalue]
  · intro i hi _
    rw [bit_encodeWriteMultipleCoils, List.getD_eq_default _ _ hi]

/-- A coil request that reads back is determined by its frame. -/
theorem CoilsReadBack.eq_of_frame {request request' : WriteMultipleCoilsRequest}
    (h : CoilsReadBack request) (h' : CoilsReadBack request')
    (hframe : encodeWriteMultipleCoilsRequest request =
      encodeWriteMultipleCoilsRequest request') : request = request' := by
  obtain ⟨htransaction, hunit, hstart⟩ := encodeValues_inj hframe
  have hlength : request.values.length = request'.values.length := by
    rw [← h.announced.quantity, hframe, h'.announced.quantity]
  have hvalues : request.values = request'.values := by
    rw [← h.values, ← h'.values, hframe, hlength]
  cases request
  cases request'
  simp_all

/-- **Writes of several values are announced consistently and read back**, within
the limits of the protocol, so that different requests have different frames. -/
theorem writeMultiple_readBack :
    (∀ request : WriteMultipleRegistersRequest, 1 ≤ request.values.length →
      request.values.length ≤ 123 → RegistersReadBack request) ∧
    (∀ request : WriteMultipleCoilsRequest, 1 ≤ request.values.length →
      request.values.length ≤ 1968 → CoilsReadBack request) ∧
    Set.InjOn encodeWriteMultipleRegistersRequest
      {request | 1 ≤ request.values.length ∧ request.values.length ≤ 123} ∧
    Set.InjOn encodeWriteMultipleCoilsRequest
      {request | 1 ≤ request.values.length ∧ request.values.length ≤ 1968} := by
  refine ⟨fun _ _ hmany => registers_readBack hmany, fun _ _ hmany => coils_readBack hmany, ?_, ?_⟩
  · intro request hrequest request' hrequest' hframe
    exact (registers_readBack hrequest.2).eq_of_frame (registers_readBack hrequest'.2) hframe
  · intro request hrequest request' hrequest' hframe
    exact (coils_readBack hrequest.2).eq_of_frame (coils_readBack hrequest'.2) hframe

end QtAppBase.Modbus
