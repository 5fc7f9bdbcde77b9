import QtAppBase.Library.Capped
import QtAppBase.Mq.Counters

/-!
# The numbers of the rows

The first column of the tab's table numbers the rows. Rows come from sending,
receiving and querying, a full table loses its oldest row for every new one, and a
query starts the table over.
-/

namespace QtAppBase.Mq

open Library QtAppBase.Core Qt

namespace MqTab

variable {presenter : Option (QString → QString → ShownMessage)} {t : MqTab}

/-- The state machine of the tab driven by its events. -/
def machine (presenter : Option (QString → QString → ShownMessage)) :
    Mealy MqTab TabEvent Empty := ⟨fun t event => .silently (t.step presenter event)⟩

/-- The rows carry the last numbers given out since the table was started over. -/
structure Numbered (t : MqTab) : Prop where
  pos : 1 ≤ t.nextSequence
  numbers : t.table.map TableRow.sequence =
    (List.range' 1 (t.nextSequence - 1)).rtake maximumRows

/-- Numbering looks at the table and the next number only. -/
theorem Numbered.of_same {u : MqTab} (h : Numbered t) (htable : u.table = t.table)
    (hnext : u.nextSequence = t.nextSequence) : Numbered u :=
  ⟨hnext ▸ h.pos, by rw [htable, hnext, h.numbers]⟩

/-- Appending commutes with reading a column. -/
theorem map_appendMakingRoom {α β : Type*} (f : α → β) (cap : ℕ) (rows : List α) (row : α) :
    (appendMakingRoom cap rows row).map f = appendMakingRoom cap (rows.map f) (f row) := by
  unfold appendMakingRoom
  rw [List.map_append, List.map_singleton, List.length_map]
  split_ifs
  · rw [List.map_drop]
  · rfl

/-- A new row gets the next number, and makes room for itself. -/
theorem insertRow_table (time direction type : QString) (presented : ShownMessage)
    (redelivered acked : Bool) (t : MqTab) :
    let u := t.insertRow time direction type presented redelivered acked
    u.nextSequence = t.nextSequence + 1 ∧ ∃ row : TableRow, row.sequence = t.nextSequence ∧
      u.table = appendMakingRoom maximumRows t.table row := by
  unfold insertRow
  dsimp only
  by_cases hreceived : direction = "received"
  · simp only [if_pos hreceived, true_and]
    refine ⟨_, ?_, rfl⟩
    rfl
  · simp only [if_neg hreceived, true_and]
    refine ⟨_, ?_, rfl⟩
    rfl

theorem insertRow_numbered {time direction type : QString} {presented : ShownMessage}
    {redelivered acked : Bool} (h : Numbered t) :
    Numbered (t.insertRow time direction type presented redelivered acked) := by
  obtain ⟨hnext, row, hrow, htable⟩ :=
    insertRow_table time direction type presented redelivered acked t
  obtain ⟨given, hgiven⟩ : ∃ given, t.nextSequence = given + 1 :=
    ⟨t.nextSequence - 1, (Nat.sub_add_cancel h.pos).symm⟩
  have hnumbers := h.numbers
  rw [hgiven, Nat.add_sub_cancel] at hnumbers
  refine ⟨hnext ▸ Nat.succ_pos _, ?_⟩
  rw [htable, map_appendMakingRoom, hnumbers, hrow, hnext, hgiven, Nat.add_sub_cancel,
    appendMakingRoom_rtake (by decide), List.range'_1_concat, Nat.add_comm 1 given]

/-- A table that starts over is numbered. -/
theorem numbered_empty (htable : t.table = []) (hnext : t.nextSequence = 1) : Numbered t :=
  ⟨hnext.ge, by simp [htable, hnext]⟩

/-- A query starts over. -/
theorem populateRows_numbered (time : QString) (messages : List StoredMessage) (t : MqTab) :
    Numbered (t.populateRows presenter time messages) := by
  have hfold : ∀ (messages : List StoredMessage) (t : MqTab), Numbered t →
      Numbered (messages.foldl (populateRow presenter time) t) := by
    intro messages
    induction messages with
    | nil => exact fun _ h => h
    | cons message messages ih => exact fun t h => ih _ (insertRow_numbered h)
  exact hfold messages _ (numbered_empty rfl rfl)

/-- What is called when a job is done keeps the rows numbered. -/
theorem onDone_numbered {time : QString} {ackedNow : Bool} {result : TabResult} (h : Numbered t)
    (job : TabJob) : Numbered (onDone presenter time ackedNow result t job) := by
  unfold onDone
  cases job with
  | insertSent envelope presented => exact insertRow_numbered h
  | insertReceived envelope presented redelivered =>
    have hacked : Numbered (if ackedNow then t.onDeliveryAcked envelope.id else t) := by
      unfold onDeliveryAcked
      split_ifs <;> exact h.of_same rfl rfl
    dsimp only
    generalize (if ackedNow then t.onDeliveryAcked envelope.id else t) = u at hacked ⊢
    split_ifs
    · exact insertRow_numbered hacked
    · exact hacked.of_same rfl rfl
  | markAcked envelopeId => exact h
  | recent => exact populateRows_numbered time _ t
  | search _ _ _ _ _ => exact populateRows_numbered time _ t
  | purge _ _ => exact h.of_same rfl rfl

/-- Every event keeps the rows numbered. -/
theorem step_numbered (h : Numbered t) (event : TabEvent) :
    Numbered (t.step presenter event) := by
  cases event with
  | deliveryAcked envelopeId =>
    change Numbered (t.onDeliveryAcked envelopeId)
    unfold onDeliveryAcked
    split_ifs <;> exact h.of_same rfl rfl
  | jobDone time ackedNow =>
    unfold step
    dsimp only
    split
    · next job result hdone =>
      have htaken : Numbered { t with worker := t.worker.take.2 } := h.of_same rfl rfl
      exact onDone_numbered htaken job
    · exact h
  | _ => exact h.of_same rfl rfl

/-- **The rows are numbered without gaps.** After every run the numbers in the table are
the last 5000 of those given out since the last query, in their order. -/
theorem rows_numbered (presenter : Option (QString → QString → ShownMessage)) (store : MqStore)
    (events : List TabEvent) :
    let t := (machine presenter).after (loadRecent { store := store }) events
    t.table.map TableRow.sequence = (List.range' 1 (t.nextSequence - 1)).rtake maximumRows := by
  have hrun : ∀ (t : MqTab), Numbered t → Numbered ((machine presenter).after t events) := by
    induction events with
    | nil => exact fun _ h => h
    | cons event events ih => exact fun t h => ih _ (step_numbered h event)
  exact (hrun _ (numbered_empty rfl rfl)).numbers

end MqTab

end QtAppBase.Mq
