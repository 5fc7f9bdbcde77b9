import QtAppBase.Qt.TcpSocket
import Mathlib.Data.List.Basic

/-!
# Feeding an incremental parser

`MqBuffer::feed` appends a chunk and calls a consume function on the whole
buffer until it takes nothing more. The function has a state of its own, which
is threaded through the calls.
-/

namespace QtAppBase.Mq

open Qt

variable {σ : Type*}

/-- The loop of `feed`. Each round that continues removes a byte, so the length
of the buffer is enough fuel. -/
def feedLoop (consume : σ → QByteArray → ℕ × σ) : ℕ → σ → QByteArray → σ × QByteArray
  | 0, s, buffer => (s, buffer)
  | fuel + 1, s, buffer =>
    if buffer.isEmpty then (s, buffer)
    else
      let (consumed, s) := consume s buffer
      if consumed = 0 then (s, buffer) else feedLoop consume fuel s (buffer.drop consumed)

/-- `MqBuffer::feed`: consume every complete record, keep the partial remainder. -/
def feed (consume : σ → QByteArray → ℕ × σ) (s : σ) (buffer chunk : QByteArray) :
    σ × QByteArray :=
  feedLoop consume (buffer ++ chunk).length s (buffer ++ chunk)

/-- **Feed rule.** What holds of the consumer's state and the buffer before the
loop, and is kept by every call on a nonempty buffer, holds after it. The buffer
shown to the consumer is always an end of the one the loop began with. -/
theorem feedLoop_induct {consume : σ → QByteArray → ℕ × σ} {motive : σ → QByteArray → Prop}
    (hcall : ∀ s buffer, motive s buffer →
      motive (consume s buffer).2 (buffer.drop (consume s buffer).1))
    (fuel : ℕ) {s : σ} {buffer : QByteArray} (h : motive s buffer) :
    motive (feedLoop consume fuel s buffer).1 (feedLoop consume fuel s buffer).2 := by
  induction fuel generalizing s buffer with
  | zero => exact h
  | succ fuel ih =>
    unfold feedLoop
    split
    · exact h
    · dsimp only
      split
      · next hzero => simpa [hzero] using hcall s buffer h
      · exact ih (hcall s buffer h)

end QtAppBase.Mq
