import QtAppBase.Library.Buffering
import QtAppBase.C3.FrameCheck

/-!
# The decoders side by side

The frame parser exists three times: in the generic decoder, in the decoder of
CONNECT_SESSION, and in that of replies without a payload. All of them look at
the first frame only and wait until it is complete. They differ in the command
bytes they accept, and one of them reads a payload that may not be there.
-/

namespace QtAppBase.C3

open Library Qt

variable {data : QByteArray}

/-! ### Buffering a reply -/

/-- The generic decoder is settled. -/
theorem decodeFrameGeneric_settled (strip : Bool) :
    Settled (decodeFrameGeneric · strip) (·.status = .incomplete) :=
  fun _ rest hanswer =>
    decodeFrameGeneric_append (mt (decodeFrameGeneric_incomplete strip).mpr hanswer) rest strip

/-- So is the decoder of CONNECT_SESSION: the two bytes it reads behind the
header lie inside every complete frame. -/
theorem decodeConnectSessionResponse_settled :
    Settled decodeConnectSessionResponse (·.status = .incomplete) := by
  intro front rest hanswer
  have hcomplete : ¬ Partial front := mt decodeConnectSessionResponse_incomplete.mpr hanswer
  obtain ⟨hPartial, _, hintact, hbyte⟩ := front_append hcomplete rest
  unfold decodeConnectSessionResponse frameCommand
  simp only [if_neg hPartial, if_neg hcomplete, hintact, hbyte 2 (by omega), hbyte 5 (by omega),
    hbyte 6 (by omega)]

/-- So is the decoder of replies without a payload. -/
theorem decodeGenericReply_settled : Settled decodeGenericReply (· = .incomplete) := by
  intro front rest hanswer
  have hcomplete : ¬ Partial front := mt decodeGenericReply_incomplete.mpr hanswer
  obtain ⟨hPartial, _, hintact, hbyte⟩ := front_append hcomplete rest
  unfold decodeGenericReply frameCommand
  simp only [if_neg hPartial, if_neg hcomplete, hintact, hbyte 2 (by omega)]

/-- How a decoder takes a reply that arrives in pieces. -/
structure Incremental {β : Type*} (decode : QByteArray → β) (waits : β → Prop)
    [DecidablePred waits] : Prop where
  /-- What follows an answered reply does not matter. -/
  settled : ∀ d e, ¬ waits (decode d) → decode (d ++ e) = decode d
  /-- Up to its last byte, a frame is waited for. -/
  waiting : ∀ frame piece, Complete frame → piece <+: frame → piece ≠ frame → waits (decode piece)
  /-- The pieces of a reply give the result of the whole. -/
  pieces : ∀ buffer pieces,
    buffered decode waits buffer pieces = decode (buffer ++ pieces.flatten)

/-- A settled decoder that waits exactly for the end of a frame takes replies in pieces. -/
theorem incremental_of_settled {β : Type*} {decode : QByteArray → β} {waits : β → Prop}
    [DecidablePred waits] (hsettled : Settled decode waits)
    (hwaits : ∀ {data}, waits (decode data) ↔ Partial data) : Incremental decode waits where
  settled := hsettled
  waiting frame piece hcomplete hPrefix hne := by
    have hshort : piece.length < frame.length := by
      have hle := hPrefix.length_le
      have hlength : piece.length ≠ frame.length := fun h => hne (hPrefix.eq_of_length h)
      omega
    exact hwaits.mpr (hcomplete.partial_ofPrefix hPrefix hshort)
  pieces := hsettled.buffered_eq

/-- So does a decoder that looks at the result of the generic one. -/
theorem incremental_of_generic {β : Type*} {decode : QByteArray → β} {waits : β → Prop}
    [DecidablePred waits] (strip : Bool)
    (hlooks : ∀ data data', decodeFrameGeneric data strip = decodeFrameGeneric data' strip →
      decode data = decode data')
    (hwaits : ∀ {data}, waits (decode data) ↔ Partial data) : Incremental decode waits :=
  incremental_of_settled ((decodeFrameGeneric_settled strip).of_looksAt hlooks fun _ h =>
    hwaits.mpr ((decodeFrameGeneric_incomplete strip).mp h)) hwaits

/-- **Replies may arrive in pieces.** Every response decoder answers for the first
frame alone, waits on every strict prefix of a frame of the announced size, and
gives the same result whether a reply is buffered in pieces or received whole. -/
theorem decoders_incremental (b : Bool) (tableIndex : ℤ) (tableFields : List DataTableField) :
    Incremental decodeConnectSessionResponse (·.status = .incomplete) ∧
    Incremental decodeGenericReply (· = .incomplete) ∧
    Incremental (decodeDataTableConfigResponse · b) (·.status = .incomplete) ∧
    Incremental (decodeGetDataResponse · tableIndex tableFields b) (·.status = .incomplete) ∧
    Incremental (decodeTransmitDataResponse · b) (·.status = .incomplete) ∧
    Incremental (decodeGetDataCountResponse · b) (·.status = .incomplete) ∧
    Incremental (decodeRtlogBinaryResponse · b) (·.status = .incomplete) ∧
    Incremental (decodeRtlogKeyValueResponse · b) (·.status = .incomplete) ∧
    Incremental (decodeGetParamResponse · b) (·.status = .incomplete) := by
  refine ⟨?_, ?_, ?_, ?_, ?_, ?_, ?_, ?_, ?_⟩
  · exact incremental_of_settled decodeConnectSessionResponse_settled
      decodeConnectSessionResponse_incomplete
  · exact incremental_of_settled decodeGenericReply_settled decodeGenericReply_incomplete
  · refine incremental_of_generic b (fun _ _ hframe => ?_)
      (decodeDataTableConfigResponse_incomplete b)
    simp only [decodeDataTableConfigResponse, hframe]
  · refine incremental_of_generic b (fun _ _ hframe => ?_)
      (decodeGetDataResponse_incomplete tableIndex tableFields b)
    simp only [decodeGetDataResponse, hframe]
  · refine incremental_of_generic b (fun _ _ hframe => ?_) (decodeTransmitDataResponse_incomplete b)
    simp only [decodeTransmitDataResponse, hframe]
  · refine incremental_of_generic b (fun _ _ hframe => ?_) (decodeGetDataCountResponse_incomplete b)
    simp only [decodeGetDataCountResponse, hframe]
  · refine incremental_of_generic b (fun _ _ hframe => ?_) (decodeRtlogBinaryResponse_incomplete b)
    simp only [decodeRtlogBinaryResponse, hframe]
  · refine incremental_of_generic b (fun _ _ hframe => ?_)
      (decodeRtlogKeyValueResponse_incomplete b)
    simp only [decodeRtlogKeyValueResponse, hframe]
  · refine incremental_of_generic b (fun _ _ hframe => ?_) (decodeGetParamResponse_incomplete b)
    simp only [decodeGetParamResponse, hframe]

/-! ### The verdict -/

/-- The status of a frame as `ResponseStatus` documents it: a command byte that is
neither `kReplyOk` nor `kReplyError` is malformed. -/
def documentedStatus (data : QByteArray) : ResponseStatus :=
  if Partial data then .incomplete
  else if ¬ Intact data ∨ (frameCommand data ≠ kReplyOk ∧ frameCommand data ≠ kReplyError) then
    .malformed
  else if frameCommand data = kReplyError then .rejected
  else .ok

/-- The decoders that report a `ResponseStatus` of the frame agree with the documentation. -/
structure SameVerdict (data : QByteArray) (b : Bool) : Prop where
  connectSession : (decodeConnectSessionResponse data).status = documentedStatus data
  genericReply : decodeGenericReply data = documentedStatus data
  dataTableConfig : (decodeDataTableConfigResponse data b).status = documentedStatus data
  rtlogKeyValue : (decodeRtlogKeyValueResponse data b).status = documentedStatus data
  getParam : (decodeGetParamResponse data b).status = documentedStatus data

/-- An intact frame whose command byte is no reply code. -/
def ForeignCommand (data : QByteArray) : Prop :=
  ¬ Partial data ∧ Intact data ∧ frameCommand data ≠ kReplyOk ∧ frameCommand data ≠ kReplyError

instance (data : QByteArray) : Decidable (ForeignCommand data) :=
  inferInstanceAs (Decidable (_ ∧ _ ∧ _ ∧ _))

/-- The decoders built on the generic one report its status. -/
theorem decodeDataTableConfigResponse_status (b : Bool) :
    (decodeDataTableConfigResponse data b).status = (decodeFrameGeneric data b).status := by
  unfold decodeDataTableConfigResponse
  dsimp only
  split_ifs with hok
  · rfl
  · exact (not_not.mp hok).symm

theorem decodeRtlogKeyValueResponse_status (b : Bool) :
    (decodeRtlogKeyValueResponse data b).status = (decodeFrameGeneric data b).status := by
  unfold decodeRtlogKeyValueResponse
  dsimp only
  split_ifs with hok
  · rfl
  · split <;> exact (not_not.mp hok).symm

theorem decodeGetParamResponse_status (b : Bool) :
    (decodeGetParamResponse data b).status = (decodeFrameGeneric data b).status := by
  unfold decodeGetParamResponse
  dsimp only
  split_ifs with hok
  · rfl
  · exact (not_not.mp hok).symm

/-- The generic decoder accepts every command byte but `kReplyError`. -/
theorem decodeFrameGeneric_status (b : Bool) :
    (decodeFrameGeneric data b).status =
      if ForeignCommand data then .ok else documentedStatus data := by
  unfold decodeFrameGeneric documentedStatus ForeignCommand
  by_cases hPartial : Partial data
  · simp [hPartial]
  · by_cases hintact : Intact data
    · by_cases herror : frameCommand data = kReplyError
      · simp [hPartial, hintact, herror]
      · by_cases hok : frameCommand data = kReplyOk
        · simp [hPartial, hintact, hok, show kReplyOk ≠ kReplyError by decide]
        · simp [hPartial, hintact, herror, hok]
    · simp [hPartial, hintact]

/-- A foreign command is documented as malformed. -/
theorem ForeignCommand.documented (h : ForeignCommand data) :
    documentedStatus data = .malformed := by
  rw [documentedStatus, if_neg h.1, if_pos (Or.inr h.2.2)]

/-- **The frame parsers agree on reply codes only.** For every byte sequence and
both session modes, the five decoders give the documented status if and only if
the sequence is not an intact frame with a foreign command byte. -/
theorem sameVerdict_iff (data : QByteArray) (b : Bool) :
    SameVerdict data b ↔ ¬ ForeignCommand data := by
  have hgeneric : (decodeFrameGeneric data b).status = _ := decodeFrameGeneric_status b
  constructor
  · intro hsame hforeign
    have hstatus := hsame.getParam
    rw [decodeGetParamResponse_status, hgeneric, if_pos hforeign, hforeign.documented] at hstatus
    cases hstatus
  · intro hforeign
    rw [if_neg hforeign] at hgeneric
    refine ⟨?_, rfl, ?_, ?_, ?_⟩
    · unfold decodeConnectSessionResponse documentedStatus
      split_ifs <;> rfl
    · rw [decodeDataTableConfigResponse_status, hgeneric]
    · rw [decodeRtlogKeyValueResponse_status, hgeneric]
    · rw [decodeGetParamResponse_status, hgeneric]

/-- An intact frame that answers with the command byte of a request. -/
def foreignFrame : QByteArray := encodeFrame kCommandGetParam 1 0 [] true

/-- The parsers disagree on it: malformed for one, accepted by another. -/
theorem foreignFrame_disagrees : ¬ ∀ data b, SameVerdict data b := by
  intro h
  have hstatus := (h foreignFrame true).getParam
  exact absurd hstatus (by decide +kernel)

/-! ### The session id -/

/-- The payload of the frame at the front. -/
def payloadOf (data : QByteArray) : QByteArray := mid data 5 (lengthField data)

/-- An accepted CONNECT_SESSION reply has room for a session id, which is read from it. -/
def IdInPayload (data : QByteArray) : Prop :=
  (decodeConnectSessionResponse data).status = .ok →
    2 ≤ lengthField data ∧ ∃ lo hi rest, payloadOf data = lo :: hi :: rest ∧
      (decodeConnectSessionResponse data).sessionId = word16 lo hi

/-- An accepted reply is an intact frame with the command `kReplyOk`. -/
theorem decodeConnectSessionResponse_ok :
    (decodeConnectSessionResponse data).status = .ok ↔
      ¬ Partial data ∧ Intact data ∧ frameCommand data = kReplyOk := by
  unfold decodeConnectSessionResponse
  by_cases hPartial : Partial data
  · simp [hPartial]
  · by_cases hintact : Intact data
    · by_cases hok : frameCommand data = kReplyOk
      · simp [hPartial, hintact, hok, show kReplyOk ≠ kReplyError by decide]
      · by_cases herror : frameCommand data = kReplyError <;>
          simp [hPartial, hintact, hok, herror, show kReplyError ≠ kReplyOk by decide]
    · simp [hPartial, hintact]

/-- The first two bytes of a payload that has them lie behind the header. -/
theorem payloadOf_eq_cons (hcomplete : ¬ Partial data) (hlength : 2 ≤ lengthField data) :
    ∃ rest, payloadOf data = byteAt data 5 :: byteAt data 6 :: rest := by
  have hspan : 5 + lengthField data ≤ data.length := by
    unfold Partial frameSize at hcomplete
    omega
  have hsize : (payloadOf data).length = lengthField data := by
    rw [payloadOf, mid, List.length_take, List.length_drop]
    omega
  have hbyte : ∀ i (hi : i < (payloadOf data).length), (payloadOf data)[i] =
      byteAt data (5 + i) := by
    intro i hi
    have hdata : 5 + i < data.length := by omega
    simp only [payloadOf, mid, List.getElem_take, List.getElem_drop, byteAt,
      List.getD_eq_getElem?_getD, List.getElem?_eq_getElem hdata, Option.getD_some]
  rcases hpayload : payloadOf data with _ | ⟨lo, _ | ⟨hi, rest⟩⟩
  · simp [hpayload] at hsize
    omega
  · simp [hpayload] at hsize
    omega
  · have hlo := hbyte 0 (by omega)
    have hhi := hbyte 1 (by omega)
    simp only [hpayload, List.getElem_cons_zero, List.getElem_cons_succ] at hlo hhi
    exact ⟨rest, by rw [hlo, hhi]⟩

/-- **The session id lies in the payload of all but short replies.** For every byte
sequence, an accepted reply has a payload of two bytes and the session id is read
from them, if and only if the sequence is not an intact `kReplyOk` frame with a
length field below two. -/
theorem idInPayload_iff (data : QByteArray) :
    IdInPayload data ↔
      ¬ (¬ Partial data ∧ Intact data ∧ frameCommand data = kReplyOk ∧ lengthField data < 2) := by
  constructor
  · rintro hid ⟨hcomplete, hintact, hcommand, hshort⟩
    have hlength := (hid (decodeConnectSessionResponse_ok.mpr ⟨hcomplete, hintact, hcommand⟩)).1
    omega
  · intro hlong hok
    obtain ⟨hcomplete, hintact, hcommand⟩ := decodeConnectSessionResponse_ok.mp hok
    have hlength : 2 ≤ lengthField data := by
      by_contra hshort
      exact hlong ⟨hcomplete, hintact, hcommand, by omega⟩
    obtain ⟨rest, hpayload⟩ := payloadOf_eq_cons hcomplete hlength
    refine ⟨hlength, _, _, rest, hpayload, ?_⟩
    unfold decodeConnectSessionResponse
    rw [if_neg hcomplete, if_neg (by simp [hintact, hcommand]),
      if_neg (by rw [hcommand]; decide)]

/-- A success without a payload, as the session-less handshake answers with. -/
def emptyReply : QByteArray := encodeFrame kReplyOk 0 0 [] false

/-- Its checksum is taken for a session id. -/
theorem emptyReply_misread : ¬ ∀ data, IdInPayload data := by
  intro h
  have hlength := (h emptyReply (by decide +kernel)).1
  exact absurd hlength (by decide +kernel)

end QtAppBase.C3
