import Mathlib.Tactic.Common

/-!
# Decoders that wait for more

A decoder looks at everything received so far and either answers or waits for
more. It is settled if an answer, once given, does not change with what is
received later. What a settled decoder says of a message is then the same
whether the message arrives whole or in pieces.
-/

namespace QtAppBase.Library

variable {α β γ : Type*}

/-- An answer does not change with what is received after it. -/
def Settled (decode : List α → β) (waits : β → Prop) : Prop :=
  ∀ front rest, ¬ waits (decode front) → decode (front ++ rest) = decode front

/-- Pieces are added to a buffer until the decoder answers. -/
def buffered (decode : List α → β) (waits : β → Prop) [DecidablePred waits] :
    List α → List (List α) → β
  | buffer, [] => decode buffer
  | buffer, piece :: pieces =>
    if waits (decode buffer) then buffered decode waits (buffer ++ piece) pieces
    else decode buffer

variable {decode : List α → β} {waits : β → Prop}

/-- **Buffering rule.** A settled decoder says of the pieces what it says of the whole. -/
theorem Settled.buffered_eq [DecidablePred waits] (h : Settled decode waits) (buffer : List α)
    (pieces : List (List α)) :
    buffered decode waits buffer pieces = decode (buffer ++ pieces.flatten) := by
  induction pieces generalizing buffer with
  | nil => rw [List.flatten_nil, List.append_nil, buffered]
  | cons piece pieces ih =>
    rw [buffered, List.flatten_cons]
    split_ifs with hwaits
    · rw [ih, List.append_assoc]
    · exact (h buffer _ hwaits).symm

/-- A decoder that only looks at the answers of a settled one is settled, if it
waits whenever that one does. -/
theorem Settled.of_looksAt {decode' : List α → γ} {waits' : γ → Prop} (h : Settled decode waits)
    (hlooks : ∀ data data', decode data = decode data' → decode' data = decode' data')
    (hwaits : ∀ data, waits (decode data) → waits' (decode' data)) : Settled decode' waits' :=
  fun front rest hanswer => hlooks _ _ (h front rest (mt (hwaits front) hanswer))

end QtAppBase.Library
