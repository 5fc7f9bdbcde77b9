import QtAppBase.Mq.ServiceSteps
import QtAppBase.Mq.Tab

/-!
# No acknowledgement before the insert

A delivery may be acknowledged once `MqStore::insert` has returned for its
envelope. The machine here records what was received and which calls of `insert`
have returned. The completion of an insert carries a delivery tag and no channel,
so that a completion from an earlier channel can confirm a delivery of the
present one.
-/

namespace QtAppBase.Mq

open Library QtAppBase.Core Qt

/-- What was received. -/
def AppEffect.received? : AppEffect → Option (Delivery × Envelope)
  | .service effect => effect.received?
  | .insertReturned _ => none

/-- The delivery acknowledged. -/
def AppEffect.acked? : AppEffect → Option Delivery
  | .service effect => effect.acked?
  | .insertReturned _ => none

/-- The call that returned. -/
def AppEffect.returned? : AppEffect → Option InsertCall
  | .service _ => none
  | .insertReturned call => some call

namespace InsertCall

/-- The message whose envelope was inserted. -/
def message (call : InsertCall) : Delivery × Envelope := (call.delivery, call.envelope)

/-- The store holds the envelope; if it is no duplicate, as received. -/
def Settled (call : InsertCall) : Prop :=
  call.store.Holds call.envelope ∧
    (call.fresh = true → ∃ row ∈ call.store.rows,
      row.envelopeId = bindText call.envelope.id ∧ row.payload = bindText call.envelope.payload ∧
        row.direction = "received")

instance (call : InsertCall) : Decidable call.Settled := inferInstanceAs (Decidable (_ ∧ _))

end InsertCall

/-- The call of a job is for its message, and settled. -/
theorem StoreJob.insertCall?_spec {now : QString} {store : MqStore} {job : StoreJob}
    {call : InsertCall} (h : job.insertCall? now store = some call) :
    job.received? = some call.message ∧ call.Settled := by
  cases job with
  | insertReceived delivery envelope presented =>
    cases h
    have hdirection : bindText "received" = "received" := by decide
    exact ⟨rfl, MqStore.insert_holds,
      fun hfresh => ⟨_, MqStore.insert_mem_of_fresh hfresh, rfl, rfl, hdirection⟩⟩
  | insertSent envelope presented => cases h
  | markAcked envelopeId => cases h

namespace MqService

variable {s : MqService} {messages : List (Delivery × Envelope)}

/-- The deliveries received have distinct channels and tags, and the pending
tags are those of deliveries received on the present channel. -/
structure Numbered (s : MqService) (messages : List (Delivery × Envelope)) : Prop where
  nodup : (messages.map Prod.fst).Nodup
  made : ∀ message ∈ messages, message.1.channel < s.channelsMade
  channel_made : ∀ channel ∈ s.channel, channel.number < s.channelsMade
  tags : ∀ channel ∈ s.channel, ∀ message ∈ messages,
    message.1.channel = channel.number → message.1.tag < channel.nextDeliveryTag
  pending : ∀ channel ∈ s.channel, ∀ tag ∈ s.pendingDeliveries,
    ∃ message ∈ messages, message.1 = ⟨channel.number, tag⟩
  pending_empty : s.channel = none → s.pendingDeliveries = ∅
  committed : s.committedDeliveries ⊆ s.pendingDeliveries

/-- Nothing is received yet. -/
theorem numbered_init : Numbered {} [] := by
  refine ⟨List.nodup_nil, by simp, ?_, ?_, ?_, fun _ => rfl, subset_rfl⟩ <;>
    (intro channel hchannel; cases hchannel)

/-- All operations but the reset and a delivery keep the numbering. -/
theorem Numbered.carried {r : Reaction MqService ServiceEffect} (h : Numbered s messages)
    (hr : Carried s r) :
    Numbered r.1 (messages ++ r.2.filterMap ServiceEffect.received?) := by
  rw [hr.received, List.append_nil]
  rcases hr.channel with ⟨hchannel, hmade⟩ | ⟨hnone, hchannel, hmade⟩
  · refine ⟨h.nodup, ?_, ?_, ?_, ?_, ?_, hr.committed h.committed⟩
    · rw [hmade]
      exact h.made
    · rw [hchannel, hmade]
      exact h.channel_made
    · rw [hchannel]
      exact h.tags
    · rw [hchannel]
      exact fun channel hmem tag htag => h.pending channel hmem tag (hr.pending htag)
    · rw [hchannel]
      exact fun hnone => Finset.subset_empty.mp (h.pending_empty hnone ▸ hr.pending)
  · -- a channel is made: nothing was received on it, and nothing is pending
    have hempty : r.1.pendingDeliveries = ∅ :=
      Finset.subset_empty.mp (h.pending_empty hnone ▸ hr.pending)
    refine ⟨h.nodup, ?_, ?_, ?_, ?_, fun _ => hempty, hr.committed h.committed⟩
    · intro message hmessage
      rw [hmade]
      exact Nat.lt_succ_of_lt (h.made message hmessage)
    · rw [hchannel, hmade]
      rintro channel ⟨⟩
      exact Nat.lt_succ_self _
    · rw [hchannel]
      rintro channel ⟨⟩ message hmessage hnumber
      exact absurd (h.made message hmessage) (by rw [hnumber]; exact lt_irrefl _)
    · rw [hempty]
      intro channel _ tag htag
      exact absurd htag (Finset.notMem_empty tag)

/-- The reset forgets the channel and all that is pending. -/
theorem Numbered.reset (h : Numbered s messages) : Numbered s.resetConnectionState messages := by
  refine ⟨h.nodup, h.made, ?_, ?_, ?_, fun _ => rfl, subset_rfl⟩ <;>
    (intro channel hchannel; cases hchannel)

/-- The channel counts a delivery. -/
theorem Numbered.counted {channel : Channel} (h : Numbered s messages)
    (hchannel : s.channel = some channel) :
    Numbered { s with
      channel := some { channel with nextDeliveryTag := channel.nextDeliveryTag + 1 } }
      messages := by
  refine ⟨h.nodup, h.made, ?_, ?_, ?_, ?_, h.committed⟩
  · rintro _ ⟨⟩
    exact h.channel_made channel hchannel
  · rintro _ ⟨⟩ message hmessage hnumber
    exact Nat.lt_succ_of_lt (h.tags channel hchannel message hmessage hnumber)
  · rintro _ ⟨⟩ tag htag
    exact h.pending channel hchannel tag htag
  · intro hnone
    cases hnone

/-- A delivery has a number of its own. -/
theorem Numbered.delivered (amqp : AmqpAnswers) (message : Message) (h : Numbered s messages) :
    Numbered (s.deliver amqp message).1
      (messages ++ (s.deliver amqp message).2.filterMap ServiceEffect.received?) := by
  unfold deliver
  split
  · exact h.carried (Quiet.refl s).toCarried
  · rename_i channel hchannel
    have hcounted := h.counted hchannel
    unfold onReceived
    split_ifs with hlarge
    · exact hcounted.carried (rejectDelivery_quiet ..).toCarried
    · split
      · exact hcounted.carried (rejectDelivery_quiet ..).toCarried
      · rename_i envelope _
        have hfresh : ∀ other ∈ messages,
            other.1 ≠ ⟨channel.number, channel.nextDeliveryTag⟩ := by
          intro other hother hsame
          have hlt := h.tags channel hchannel other hother (by rw [hsame])
          rw [hsame] at hlt
          exact lt_irrefl _ hlt
        refine ⟨?_, ?_, hcounted.channel_made, ?_, ?_, ?_, ?_⟩
        · rw [List.map_append, List.nodup_append]
          refine ⟨h.nodup, List.nodup_singleton _, ?_⟩
          intro first hfirst second hsecond
          obtain ⟨other, hother, rfl⟩ := List.mem_map.mp hfirst
          rw [List.mem_singleton.mp hsecond]
          exact hfresh other hother
        · intro other hother
          rcases List.mem_append.mp hother with hother | hother
          · exact h.made other hother
          · rw [List.mem_singleton.mp hother]
            exact h.channel_made channel hchannel
        · rintro _ ⟨⟩ other hother hnumber
          rcases List.mem_append.mp hother with hother | hother
          · exact Nat.lt_succ_of_lt (h.tags channel hchannel other hother hnumber)
          · rw [List.mem_singleton.mp hother]
            exact Nat.lt_succ_self _
        · rintro _ ⟨⟩ tag htag
          rcases Finset.mem_insert.mp htag with rfl | htag
          · exact ⟨_, List.mem_append_right _ List.mem_cons_self, rfl⟩
          · obtain ⟨other, hother, hsame⟩ := h.pending channel hchannel tag htag
            exact ⟨other, List.mem_append_left _ hother, hsame⟩
        · intro hnone
          cases hnone
        · exact h.committed.trans (Finset.subset_insert _ _)

end MqService

namespace MqApp

variable (presenter : Option (QString → QString → PresentedMessage)) {a : MqApp}

/-- The messages whose insert has not returned, in the order of the queue. -/
def awaited (a : MqApp) : List (Delivery × Envelope) := a.worker.queue.filterMap StoreJob.received?

/-- A signal of the service queues at most the insert of what is received. -/
theorem onSignal_spec (effect : ServiceEffect) (a : MqApp) :
    (a.onSignal presenter effect).service = a.service ∧
      (a.onSignal presenter effect).worker.posted = a.worker.posted ∧
      (a.onSignal presenter effect).awaited = a.awaited ++ effect.received?.toList := by
  have hcall : ∀ (job : StoreJob) (b : MqApp),
      (b.call job).awaited = b.awaited ++ job.received?.toList := by
    intro job b
    rw [awaited, call, Worker.call_queue, List.filterMap_append]
    cases job <;> rfl
  cases effect with
  | published envelope => exact ⟨rfl, rfl, hcall _ a⟩
  | messageReceived envelope redelivered delivery => exact ⟨rfl, rfl, hcall _ a⟩
  | deliveryAcked deliveryTag =>
    change (a.onDeliveryAcked deliveryTag).service = _ ∧
      (a.onDeliveryAcked deliveryTag).worker.posted = _ ∧
      (a.onDeliveryAcked deliveryTag).awaited = _
    unfold onDeliveryAcked
    dsimp only
    split_ifs
    · exact ⟨rfl, rfl, (List.append_nil _).symm⟩
    · exact ⟨rfl, rfl, hcall _ _⟩
  | _ => exact ⟨rfl, rfl, (List.append_nil _).symm⟩

/-- So do all signals of an operation together. -/
theorem onSignals_spec (effects : List ServiceEffect) (a : MqApp) :
    (effects.foldl (onSignal presenter) a).service = a.service ∧
      (effects.foldl (onSignal presenter) a).worker.posted = a.worker.posted ∧
      (effects.foldl (onSignal presenter) a).awaited =
        a.awaited ++ effects.filterMap ServiceEffect.received? := by
  induction effects generalizing a with
  | nil => exact ⟨rfl, rfl, (List.append_nil _).symm⟩
  | cons effect rest ih =>
    obtain ⟨hservice, hposted, hawaited⟩ := onSignal_spec presenter effect a
    obtain ⟨hservices, hposteds, hawaiteds⟩ := ih (a.onSignal presenter effect)
    refine ⟨hservices.trans hservice, hposteds.trans hposted, ?_⟩
    rw [List.foldl_cons, hawaiteds, hawaited, List.append_assoc]
    cases hreceived : effect.received? with
    | none => rw [List.filterMap_cons_none hreceived]; rfl
    | some message => rw [List.filterMap_cons_some hreceived]; rfl

/-- An idle worker finishes nothing. -/
theorem onJobFinished_nil {now : QString} (hqueue : a.worker.queue = []) :
    a.onJobFinished now = (a, []) := by
  unfold onJobFinished Worker.finish
  rw [hqueue]
  rfl

/-- The oldest job is run and posted. -/
theorem onJobFinished_cons {now : QString} {job : StoreJob} {queue : List StoreJob}
    (hqueue : a.worker.queue = job :: queue) :
    a.onJobFinished now =
      ({ a with
          worker :=
            { queue := queue, posted := a.worker.posted ++ [(job, (job.run now a.store).1)] }
          store := (job.run now a.store).2 },
        (job.insertCall? now a.store).toList.map .insertReturned) := by
  unfold onJobFinished Worker.finish
  rw [hqueue]
  rfl

end MqApp

/-- The application with the record of what was received and what was inserted. -/
structure Ledger where
  app : MqApp := {}
  received : List (Delivery × Envelope) := []
  returned : List InsertCall := []

namespace Ledger

variable (presenter : Option (QString → QString → PresentedMessage)) (order : IterationOrder)

/-- Record what is seen. -/
def record (t : Ledger) (r : Reaction MqApp AppEffect) : Ledger :=
  { app := r.1
    received := t.received ++ r.2.filterMap AppEffect.received?
    returned := t.returned ++ r.2.filterMap AppEffect.returned? }

/-- The machine of both. -/
def machine : Mealy Ledger MqEvent AppEffect :=
  ⟨fun t e => (t.record (t.app.step presenter order e), (t.app.step presenter order e).2)⟩

/-- The envelope of this very delivery was passed to `insert`, the call has
returned, and it left the envelope stored or found it stored. -/
def Inserted (t : Ledger) (delivery : Delivery) : Prop :=
  (∃ message ∈ t.received, message.1 = delivery) ∧
    ∀ message ∈ t.received, message.1 = delivery →
      ∃ call ∈ t.returned, call.message = message ∧ call.Settled

instance (t : Ledger) (delivery : Delivery) : Decidable (t.Inserted delivery) :=
  inferInstanceAs (Decidable (_ ∧ _))

/-- Every delivery acknowledged in this step was inserted before. -/
def AcksInserted (t : Ledger) (e : MqEvent) : Prop :=
  ∀ effect ∈ (t.app.step presenter order e).2, ∀ delivery ∈ effect.acked?, t.Inserted delivery

instance (t : Ledger) (e : MqEvent) : Decidable (t.AcksInserted presenter order e) :=
  inferInstanceAs (Decidable (∀ effect ∈ _, _))

/-- The insert for a delivery has not returned yet. -/
def Awaits (t : Ledger) (delivery : Delivery) : Prop :=
  ∃ message ∈ t.app.awaited, message.1 = delivery

instance (t : Ledger) (delivery : Delivery) : Decidable (t.Awaits delivery) :=
  inferInstanceAs (Decidable (∃ message ∈ _, _))

/-- No tag is confirmed too early. When the completion of an insert for an
earlier channel is called, not during a pause, its tag is not that of a pending
delivery whose own insert has not returned; and when a pause ends, the inserts
of all committed deliveries have returned. Tags the channel refuses to
acknowledge do not count. -/
def ConfirmsOwn (t : Ledger) : MqEvent → Prop
  | .jobDone amqp =>
    ∀ done ∈ t.app.worker.take.1, ∀ message ∈ done.1.received?, ∀ channel ∈ t.app.service.channel,
      message.1.channel ≠ channel.number → t.app.service.paused = false →
      message.1.tag ∈ t.app.service.pendingDeliveries → amqp.ack message.1.tag = true →
        ¬ t.Awaits ⟨channel.number, message.1.tag⟩
  | .pauseToggled false amqp =>
    ∀ channel ∈ t.app.service.channel, ∀ tag ∈ t.app.service.committedDeliveries,
      amqp.ack tag = true → ¬ t.Awaits ⟨channel.number, tag⟩
  | _ => True

/-! ### The invariant -/

variable {presenter : Option (QString → QString → PresentedMessage)} {order : IterationOrder}
  {t : Ledger} {f : MqService → Reaction MqService ServiceEffect}

/-- Inserts return in the order of the deliveries: what was received is what has
returned and then what is still awaited. -/
structure Inv (t : Ledger) : Prop where
  numbered : t.app.service.Numbered t.received
  fifo : t.received = t.returned.map InsertCall.message ++ t.app.awaited
  settled : ∀ call ∈ t.returned, call.Settled
  posted : ∀ done ∈ t.app.worker.posted, ∀ message ∈ done.1.received?,
    ∃ call ∈ t.returned, call.message = message

/-- Nothing has happened. -/
theorem inv_init : Inv {} :=
  ⟨MqService.numbered_init, rfl, by simp, by intro done hdone; cases hdone⟩

/-- What an operation of the service shows of what is received, acknowledged and returned. -/
theorem service_filterMap (effects : List ServiceEffect) :
    (effects.map AppEffect.service).filterMap AppEffect.received? =
        effects.filterMap ServiceEffect.received? ∧
      (effects.map AppEffect.service).filterMap AppEffect.returned? = [] := by
  constructor
  · rw [List.filterMap_map]
    rfl
  · rw [List.filterMap_map]
    exact List.filterMap_eq_nil_iff.mpr fun effect _ => rfl

/-- An operation of the service keeps the invariant if it keeps the numbering. -/
theorem inv_service (h : Inv t)
    (hnumbered : (f t.app.service).1.Numbered
      (t.received ++ (f t.app.service).2.filterMap ServiceEffect.received?)) :
    Inv (t.record (t.app.onService presenter f)) := by
  obtain ⟨hservice, hposted, hawaited⟩ := MqApp.onSignals_spec presenter
    (f t.app.service).2 { t.app with service := (f t.app.service).1 }
  obtain ⟨hreceived, hreturned⟩ := service_filterMap (f t.app.service).2
  have hrecord : t.record (t.app.onService presenter f) =
      { app := (t.app.onService presenter f).1
        received := t.received ++ (f t.app.service).2.filterMap ServiceEffect.received?
        returned := t.returned } := by
    rw [record, MqApp.onService, hreceived, hreturned, List.append_nil]
  rw [hrecord]
  refine ⟨?_, ?_, h.settled, ?_⟩
  · exact hservice ▸ hnumbered
  · rw [MqApp.onService, hawaited, h.fifo, List.append_assoc]
    rfl
  · intro done hdone
    rw [MqApp.onService, hposted] at hdone
    exact h.posted done hdone

/-- Nothing to record. -/
theorem record_nil (t : Ledger) (a : MqApp) : t.record (a, []) = { t with app := a } := by
  simp [record]

/-- The return of an insert keeps the order. -/
theorem inv_jobFinished (h : Inv t) (now : QString) :
    Inv (t.record (t.app.onJobFinished now)) := by
  cases hqueue : t.app.worker.queue with
  | nil =>
    rw [MqApp.onJobFinished_nil hqueue, record_nil]
    exact h
  | cons job queue =>
    have hfifo := h.fifo
    rw [MqApp.awaited, hqueue] at hfifo
    rw [MqApp.onJobFinished_cons hqueue]
    cases hcall : job.insertCall? now t.app.store with
    | none =>
      -- a job that is not for a delivery
      have hjob : job.received? = none := Option.map_eq_none_iff.mp hcall
      rw [List.filterMap_cons_none hjob] at hfifo
      rw [Option.toList_none, List.map_nil, record_nil]
      refine ⟨h.numbered, hfifo, h.settled, ?_⟩
      intro done hdone message hmessage
      rcases List.mem_append.mp hdone with hdone | hdone
      · exact h.posted done hdone message hmessage
      · rw [List.mem_singleton.mp hdone, hjob] at hmessage
        cases hmessage
    | some call =>
      obtain ⟨hjob, hsettled⟩ := StoreJob.insertCall?_spec hcall
      rw [List.filterMap_cons_some hjob] at hfifo
      refine ⟨?_, ?_, ?_, ?_⟩
      · change t.app.service.Numbered (t.received ++ [])
        rw [List.append_nil]
        exact h.numbered
      · change t.received ++ [] = (t.returned ++ [call]).map InsertCall.message ++
          queue.filterMap StoreJob.received?
        rw [List.append_nil, List.map_append, List.append_assoc]
        exact hfifo
      · intro other hother
        rcases List.mem_append.mp hother with hother | hother
        · exact h.settled other hother
        · rw [List.mem_singleton.mp hother]
          exact hsettled
      · intro done hdone message hmessage
        rcases List.mem_append.mp hdone with hdone | hdone
        · obtain ⟨other, hother, hsame⟩ := h.posted done hdone message hmessage
          exact ⟨other, List.mem_append_left _ hother, hsame⟩
        · rw [List.mem_singleton.mp hdone, hjob] at hmessage
          cases hmessage
          exact ⟨call, List.mem_append_right _ List.mem_cons_self, rfl⟩

/-- Taking a posted `onDone`, and what the tab remembers, keep the invariant. -/
theorem inv_take (h : Inv t) (ids : ℕ → Option QString) :
    Inv { t with app :=
      { t.app with pendingAckEnvelopeIds := ids, worker := t.app.worker.take.2 } } := by
  unfold Worker.take
  cases hposted : t.app.worker.posted with
  | nil => exact ⟨h.numbered, h.fifo, h.settled, h.posted⟩
  | cons done posted =>
    refine ⟨h.numbered, h.fifo, h.settled, fun other hother => h.posted other ?_⟩
    rw [hposted]
    exact List.mem_cons_of_mem _ hother

/-- What is taken was inserted. -/
theorem Inv.taken (h : Inv t) {done : StoreJob × Option Bool}
    (hdone : t.app.worker.take.1 = some done) {message : Delivery × Envelope}
    (hmessage : done.1.received? = some message) :
    ∃ call ∈ t.returned, call.message = message := by
  unfold Worker.take at hdone
  cases hposted : t.app.worker.posted with
  | nil =>
    rw [hposted] at hdone
    cases hdone
  | cons oldest posted =>
    rw [hposted] at hdone
    cases hdone
    exact h.posted _ (hposted ▸ List.mem_cons_self) message hmessage

/-- A completion keeps the invariant. -/
theorem inv_jobDone (h : Inv t) (amqp : AmqpAnswers) :
    Inv (t.record (t.app.onJobDone presenter amqp)) := by
  unfold MqApp.onJobDone
  dsimp only
  split
  · rename_i delivery envelope _ _ _
    have htaken := inv_take h
      (Function.update t.app.pendingAckEnvelopeIds delivery.tag (some envelope.id))
    exact inv_service htaken
      (htaken.numbered.carried (MqService.confirmInserted_carried amqp delivery.tag _))
  · rw [record_nil]
    exact inv_take h t.app.pendingAckEnvelopeIds

/-- Every event keeps the invariant. -/
theorem inv_next (h : Inv t) (e : MqEvent) : Inv ((machine presenter order).next t e) := by
  have hcarried : ∀ f : MqService → Reaction MqService ServiceEffect,
      MqService.Carried t.app.service (f t.app.service) →
        Inv (t.record (t.app.onService presenter f)) :=
    fun f hf => inv_service h (h.numbered.carried hf)
  cases e with
  | connectionStateChanged connected amqp =>
    refine inv_service h ?_
    cases connected with
    | true => exact h.numbered.carried (MqService.startConsuming_quiet amqp _).toCarried
    | false => exact h.numbered.reset.carried (MqService.Quiet.refl _).toCarried
  | publish decoded amqp => exact hcarried _ (MqService.publish_quiet amqp decoded _).toCarried
  | pauseToggled paused amqp =>
    exact hcarried _ (MqService.pauseConsuming_carried order amqp paused _)
  | delivered message amqp => exact inv_service h (h.numbered.delivered amqp message)
  | consumeSucceeded tag => exact hcarried _ (MqService.onConsumeSuccess_quiet tag _).toCarried
  | consumeFailed message => exact hcarried _ ⟨Or.inl ⟨rfl, rfl⟩, subset_rfl, id, rfl⟩
  | consumerCancelled amqp =>
    exact hcarried _ (MqService.onConsumerCancelled_quiet amqp _).toCarried
  | cancelSucceeded amqp => exact hcarried _ (MqService.onCancelSuccess_quiet amqp _).toCarried
  | cancelFailed message => exact hcarried _ ⟨Or.inl ⟨rfl, rfl⟩, subset_rfl, id, rfl⟩
  | channelFailed message => exact hcarried _ ⟨Or.inl ⟨rfl, rfl⟩, subset_rfl, id, rfl⟩
  | messageReturned routingKey description =>
    exact hcarried _ ⟨Or.inl ⟨rfl, rfl⟩, subset_rfl, id, rfl⟩
  | jobFinished now => exact inv_jobFinished h now
  | jobDone amqp => exact inv_jobDone h amqp

/-! ### Acknowledgements -/

/-- What has returned is not awaited. -/
theorem Inv.not_awaits (h : Inv t) {call : InsertCall} (hcall : call ∈ t.returned) :
    ¬ t.Awaits call.delivery := by
  rintro ⟨message, hmessage, hsame⟩
  have hnodup := h.numbered.nodup
  rw [h.fifo, List.map_append, List.nodup_append] at hnodup
  have hreturned : call.delivery ∈ (t.returned.map InsertCall.message).map Prod.fst := by
    rw [List.map_map]
    exact List.mem_map_of_mem hcall
  have hawaited : call.delivery ∈ t.app.awaited.map Prod.fst := hsame ▸ List.mem_map_of_mem hmessage
  exact hnodup.2.2 _ hreturned _ hawaited rfl

/-- A pending delivery was inserted exactly when its insert is not awaited. -/
theorem Inv.inserted_iff (h : Inv t) {channel : Channel}
    (hchannel : t.app.service.channel = some channel) {tag : ℕ}
    (htag : tag ∈ t.app.service.pendingDeliveries) :
    t.Inserted ⟨channel.number, tag⟩ ↔ ¬ t.Awaits ⟨channel.number, tag⟩ := by
  constructor
  · rintro ⟨⟨message, hmessage, hsame⟩, hreturned⟩
    obtain ⟨call, hcall, rfl, _⟩ := hreturned message hmessage hsame
    rw [← hsame]
    exact h.not_awaits hcall
  · intro hnot
    refine ⟨h.numbered.pending channel hchannel tag htag, ?_⟩
    intro message hmessage hsame
    rw [h.fifo] at hmessage
    rcases List.mem_append.mp hmessage with hreturned | hawaited
    · obtain ⟨call, hcall, hmessage⟩ := List.mem_map.mp hreturned
      exact ⟨call, hcall, hmessage, h.settled call hcall⟩
    · exact absurd ⟨message, hawaited, hsame⟩ hnot

/-- What an operation of the service acknowledges. -/
theorem acks_service {a : MqApp} {P : Delivery → Prop} :
    (∀ effect ∈ (a.onService presenter f).2, ∀ delivery ∈ effect.acked?, P delivery) ↔
      ∀ delivery ∈ (f a.service).2.filterMap ServiceEffect.acked?, P delivery := by
  constructor
  · intro hall delivery hdelivery
    obtain ⟨effect, heffect, hacked⟩ := List.mem_filterMap.mp hdelivery
    exact hall (.service effect) (List.mem_map_of_mem heffect) delivery hacked
  · intro hall effect heffect delivery hdelivery
    obtain ⟨inner, hinner, rfl⟩ := List.mem_map.mp heffect
    exact hall delivery (List.mem_filterMap.mpr ⟨inner, hinner, hdelivery⟩)

/-- What a completion acknowledges. -/
theorem acks_jobDone {a : MqApp} {amqp : AmqpAnswers} {P : Delivery → Prop} :
    (∀ effect ∈ (a.onJobDone presenter amqp).2, ∀ delivery ∈ effect.acked?, P delivery) ↔
      ∀ done ∈ a.worker.take.1, ∀ message ∈ done.1.received?, ∀ delivery,
        a.service.Acknowledges amqp message.1.tag delivery → P delivery := by
  unfold MqApp.onJobDone
  dsimp only
  split
  · rename_i delivery envelope presented result htaken
    rw [htaken, MqApp.onInserted, acks_service]
    simp only [MqService.confirmInserted_acked]
    constructor
    · rintro hall _ ⟨⟩ _ ⟨⟩
      exact hall
    · intro hall
      exact hall _ rfl _ rfl
  · rename_i hother
    constructor
    · rintro _ ⟨job, result⟩ hdone message hmessage
      cases job with
      | insertReceived delivery envelope presented => exact absurd hdone (hother _ _ _ _)
      | insertSent envelope presented => cases hmessage
      | markAcked envelopeId => cases hmessage
    · intro _ effect heffect
      cases heffect

/-- A completion confirms its own delivery, or meets the condition. -/
theorem Inv.jobDone_iff (h : Inv t) (amqp : AmqpAnswers) :
    t.AcksInserted presenter order (.jobDone amqp) ↔ t.ConfirmsOwn (.jobDone amqp) := by
  change (∀ effect ∈ (t.app.onJobDone presenter amqp).2, _) ↔ _
  rw [acks_jobDone]
  constructor
  · intro hall done hdone message hmessage channel hchannel _ hpaused htag hack
    exact (h.inserted_iff hchannel htag).mp
      (hall done hdone message hmessage _ ⟨hpaused, htag, hack, channel, hchannel, rfl⟩)
  · rintro hown done hdone message hmessage _ ⟨hpaused, htag, hack, channel, hchannel, rfl⟩
    rw [h.inserted_iff hchannel htag]
    by_cases hsame : message.1.channel = channel.number
    · -- the completion is of this very delivery
      obtain ⟨call, hcall, hmessage⟩ := h.taken hdone hmessage
      have hdelivery : call.delivery = ⟨channel.number, message.1.tag⟩ := by
        rw [← hsame]
        exact congrArg Prod.fst hmessage
      rw [← hdelivery]
      exact h.not_awaits hcall
    · exact hown done hdone message hmessage channel hchannel hsame hpaused htag hack

/-- The end of a pause confirms what was committed. -/
theorem Inv.unpaused_iff (h : Inv t) (amqp : AmqpAnswers) :
    t.AcksInserted presenter order (.pauseToggled false amqp) ↔
      t.ConfirmsOwn (.pauseToggled false amqp) := by
  change (∀ effect ∈ (t.app.onService presenter _).2, _) ↔ _
  rw [acks_service]
  simp only [MqService.pauseConsuming_false_acked]
  constructor
  · intro hall channel hchannel tag htag hack
    have hpending := h.numbered.committed htag
    exact (h.inserted_iff hchannel hpending).mp
      (hall _ ⟨tag, htag, rfl, hpending, hack, channel, hchannel, rfl⟩)
  · rintro hown _ ⟨tag, htag, _, hpending, hack, channel, hchannel, rfl⟩
    exact (h.inserted_iff hchannel hpending).mpr (hown channel hchannel tag htag hack)

/-- The other events acknowledge nothing. -/
theorem acksInserted_of_quiet (hquiet : (f t.app.service).2.filterMap ServiceEffect.acked? = []) :
    ∀ effect ∈ (t.app.onService presenter f).2, ∀ delivery ∈ effect.acked?,
      t.Inserted delivery := by
  rw [acks_service, hquiet]
  intro delivery hdelivery
  cases hdelivery

/-- A delivery acknowledges nothing. -/
theorem deliver_acked (amqp : AmqpAnswers) (message : Message) (s : MqService) :
    (s.deliver amqp message).2.filterMap ServiceEffect.acked? = [] := by
  unfold MqService.deliver
  split
  · rfl
  · unfold MqService.onReceived
    split_ifs
    · exact (MqService.rejectDelivery_quiet ..).acked
    · split
      · exact (MqService.rejectDelivery_quiet ..).acked
      · rfl

/-- The return of an insert acknowledges nothing. -/
theorem jobFinished_acked (now : QString) (a : MqApp) :
    ∀ effect ∈ (a.onJobFinished now).2, effect.acked? = none := by
  intro effect heffect
  obtain ⟨call, _, rfl⟩ := List.mem_map.mp heffect
  rfl

/-- Under the invariant, a step acknowledges only what was inserted exactly when
it meets the condition. -/
theorem Inv.acksInserted_iff (h : Inv t) (e : MqEvent) :
    t.AcksInserted presenter order e ↔ t.ConfirmsOwn e := by
  have hquiet : ∀ f : MqService → Reaction MqService ServiceEffect,
      (f t.app.service).2.filterMap ServiceEffect.acked? = [] →
      ((∀ effect ∈ (t.app.onService presenter f).2, ∀ delivery ∈ effect.acked?,
        t.Inserted delivery) ↔ True) :=
    fun f hf => iff_of_true (acksInserted_of_quiet hf) trivial
  cases e with
  | connectionStateChanged connected amqp =>
    refine hquiet _ ?_
    cases connected with
    | true => exact (MqService.startConsuming_quiet amqp _).acked
    | false => rfl
  | publish decoded amqp => exact hquiet _ (MqService.publish_quiet amqp decoded _).acked
  | pauseToggled paused amqp =>
    cases paused with
    | true => exact hquiet _ (MqService.pauseConsuming_true_acked order amqp _)
    | false => exact h.unpaused_iff amqp
  | delivered message amqp => exact hquiet _ (deliver_acked amqp message _)
  | consumeSucceeded tag => exact hquiet _ (MqService.onConsumeSuccess_quiet tag _).acked
  | consumeFailed message => exact hquiet _ rfl
  | consumerCancelled amqp => exact hquiet _ (MqService.onConsumerCancelled_quiet amqp _).acked
  | cancelSucceeded amqp => exact hquiet _ (MqService.onCancelSuccess_quiet amqp _).acked
  | cancelFailed message => exact hquiet _ rfl
  | channelFailed message => exact hquiet _ rfl
  | messageReturned routingKey description => exact hquiet _ rfl
  | jobFinished now =>
    refine iff_of_true ?_ trivial
    intro effect heffect delivery hdelivery
    rw [jobFinished_acked now t.app effect heffect] at hdelivery
    cases hdelivery
  | jobDone amqp => exact h.jobDone_iff amqp

/-- **Acknowledged means inserted.** In every run the deliveries acknowledged
were all inserted before, exactly when no step of the run confirms a tag too early. -/
theorem acksInserted_iff_confirmsOwn (events : List MqEvent) :
    (machine presenter order).EachStep (AcksInserted presenter order) {} events ↔
      (machine presenter order).EachStep ConfirmsOwn {} events :=
  Mealy.eachStep_congr_of_invariant (fun _ e h => inv_next h e) (fun _ e h => h.acksInserted_iff e)
    inv_init

/-- An envelope with an id. -/
def envelope (id : QString) : Envelope := ⟨id, "2026-01-01T00:00:00.000Z", "card.issued", "{}"⟩

/-- A channel is made, its consumer starts, and a message is delivered. -/
def firstDelivery (id : QString) : List MqEvent :=
  [.connectionStateChanged true {}, .consumeSucceeded "amq.ctag-1",
    .delivered { bodySize := 100, decoded := some (envelope id) } {}]

/-- The connection is lost before the insert of a message returns, and the first
message on the next channel has the same tag. -/
def lateInsertRun : List MqEvent :=
  firstDelivery "first" ++ [.connectionStateChanged false {}] ++ firstDelivery "second" ++
    [.jobFinished "2026-01-01T00:00:01.000Z", .jobDone {}]

/-- The completion of the first insert acknowledges the second message. -/
theorem lateInsertRun_acksForeign :
    ¬ ∀ presenter order events,
      (machine presenter order).EachStep (AcksInserted presenter order) {} events := by
  intro h
  exact absurd (h none .increasing lateInsertRun) (by decide +kernel)

end Ledger

end QtAppBase.Mq
