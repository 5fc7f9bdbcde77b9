import QtAppBase.Mq.Service

/-!
# Deliveries pending and committed

Two sets say which deliveries the service still has to acknowledge, and which of
them are inserted but held back by a pause. For each operation of the service
this file says what it does to the channel and to the two sets, and which
deliveries it acknowledges.
-/

namespace QtAppBase.Mq

open Library Qt

namespace MqService

variable {s d : MqService} {amqp : AmqpAnswers}

/-- What all operations but the reset and a delivery lead to. -/
structure Carried (s : MqService) (r : Reaction MqService ServiceEffect) : Prop where
  /-- The channel stays, or the first use makes one. -/
  channel : (r.1.channel = s.channel ∧ r.1.channelsMade = s.channelsMade) ∨
    (s.channel = none ∧ r.1.channel = some { number := s.channelsMade } ∧
      r.1.channelsMade = s.channelsMade + 1)
  /-- No delivery becomes pending. -/
  pending : r.1.pendingDeliveries ⊆ s.pendingDeliveries
  /-- What is committed stays among what is pending. -/
  committed : s.committedDeliveries ⊆ s.pendingDeliveries →
    r.1.committedDeliveries ⊆ r.1.pendingDeliveries
  /-- Nothing is received. -/
  received : r.2.filterMap ServiceEffect.received? = []

/-- Most of these operations acknowledge nothing either. -/
structure Quiet (s : MqService) (r : Reaction MqService ServiceEffect) : Prop extends
    Carried s r where
  acked : r.2.filterMap ServiceEffect.acked? = []

/-- The two states have the same channel and the same deliveries. -/
structure SameDeliveries (s d : MqService) : Prop where
  channel : d.channel = s.channel
  channelsMade : d.channelsMade = s.channelsMade
  pending : d.pendingDeliveries = s.pendingDeliveries
  committed : d.committedDeliveries = s.committedDeliveries

/-- An operation that changes flags only. -/
theorem SameDeliveries.carried (h : SameDeliveries s d) {effects : List ServiceEffect}
    (hreceived : effects.filterMap ServiceEffect.received? = []) : Carried s (d, effects) := by
  refine ⟨Or.inl ⟨h.channel, h.channelsMade⟩, ?_, ?_, hreceived⟩
  · exact h.pending.subset
  · intro hcommitted
    rw [h.committed, h.pending]
    exact hcommitted

/-- An operation after a change of flags. -/
theorem Carried.of_same {r : Reaction MqService ServiceEffect} (hr : Carried d r)
    (h : SameDeliveries s d) : Carried s r := by
  obtain ⟨hchannel, hpending, hcommitted, hreceived⟩ := hr
  rw [h.channel, h.channelsMade] at hchannel
  rw [h.pending] at hpending
  rw [h.committed, h.pending] at hcommitted
  exact ⟨hchannel, hpending, hcommitted, hreceived⟩

/-- A quiet operation after a change of flags. -/
theorem Quiet.of_same {r : Reaction MqService ServiceEffect} (hr : Quiet d r)
    (h : SameDeliveries s d) : Quiet s r := ⟨hr.toCarried.of_same h, hr.acked⟩

/-- Nothing happens. -/
theorem Quiet.refl (s : MqService) : Quiet s (s, []) :=
  ⟨⟨Or.inl ⟨rfl, rfl⟩, subset_rfl, id, rfl⟩, rfl⟩

/-- One operation after another. -/
theorem Carried.andThen {r : Reaction MqService ServiceEffect}
    {f : MqService → Reaction MqService ServiceEffect} (hr : Carried s r)
    (hf : Carried r.1 (f r.1)) : Carried s (r.andThen f) := by
  refine ⟨?_, hf.pending.trans hr.pending, fun h => hf.committed (hr.committed h), ?_⟩
  · rcases hr.channel with ⟨hsame, hmade⟩ | ⟨hnone, hnew, hmade⟩
    · have hthen := hf.channel
      rw [hsame, hmade] at hthen
      exact hthen
    · rcases hf.channel with ⟨hsame, hmade'⟩ | ⟨hnone', _⟩
      · exact Or.inr ⟨hnone, hsame.trans hnew, hmade'.trans hmade⟩
      · rw [hnew] at hnone'
        cases hnone'
  · rw [Reaction.andThen_snd, List.filterMap_append, hr.received, hf.received]
    rfl

/-- With a channel there is nothing to make. -/
theorem ensureChannel_carried {channel : Channel} (h : s.ensureChannel amqp = .ok (channel, d)) :
    Quiet s (d, []) := by
  unfold ensureChannel at h
  split at h
  · cases h
    exact Quiet.refl s
  · split_ifs at h with hconnection
    cases h
    rename_i hnone
    exact ⟨⟨Or.inr ⟨hnone, rfl, rfl⟩, subset_rfl, id, rfl⟩, rfl⟩

/-- Changing flags and emitting after a quiet operation. -/
theorem Quiet.emit {s d e : MqService} {effects : List ServiceEffect} (hd : Quiet s (d, []))
    (h : SameDeliveries d e) (hreceived : effects.filterMap ServiceEffect.received? = [])
    (hacked : effects.filterMap ServiceEffect.acked? = []) : Quiet s (e, effects) := by
  have hboth := hd.toCarried.andThen (f := fun _ => (e, effects)) (h.carried hreceived)
  exact ⟨hboth, hacked⟩

theorem startConsuming_quiet (amqp : AmqpAnswers) (s : MqService) :
    Quiet s (s.startConsuming amqp).2 := by
  unfold startConsuming
  split_ifs with hidle
  · exact Quiet.refl s
  · cases hchannel : s.ensureChannel amqp with
    | error message => exact ⟨⟨Or.inl ⟨rfl, rfl⟩, subset_rfl, id, rfl⟩, rfl⟩
    | ok made => exact (ensureChannel_carried hchannel).emit ⟨rfl, rfl, rfl, rfl⟩ rfl rfl

theorem publish_quiet (amqp : AmqpAnswers) (decoded : Option Envelope) (s : MqService) :
    Quiet s (s.publish amqp decoded).2 := by
  unfold publish
  cases hchannel : s.ensureChannel amqp with
  | error message => exact ⟨⟨Or.inl ⟨rfl, rfl⟩, subset_rfl, id, rfl⟩, rfl⟩
  | ok made =>
    have hmade := ensureChannel_carried hchannel
    cases decoded with
    | none => exact hmade.emit ⟨rfl, rfl, rfl, rfl⟩ rfl rfl
    | some envelope =>
      dsimp only
      split_ifs <;> exact hmade.emit ⟨rfl, rfl, rfl, rfl⟩ rfl rfl

theorem cancelConsumer_quiet (s : MqService) : Quiet s s.cancelConsumer := by
  unfold cancelConsumer
  split
  · exact Quiet.refl s
  · split_ifs with hidle
    · exact Quiet.refl s
    · exact ⟨⟨Or.inl ⟨rfl, rfl⟩, subset_rfl, id, rfl⟩, rfl⟩

theorem rejectDelivery_quiet (amqp : AmqpAnswers) (deliveryTag : ℕ) (reason : QString)
    (s : MqService) : Quiet s (s.rejectDelivery amqp deliveryTag reason) := by
  unfold rejectDelivery
  split
  · exact ⟨⟨Or.inl ⟨rfl, rfl⟩, subset_rfl, id, rfl⟩, rfl⟩
  · split_ifs with hreject
    · exact ⟨⟨Or.inl ⟨rfl, rfl⟩, Finset.erase_subset _ _, fun h => Finset.erase_subset_erase _ h,
        rfl⟩, rfl⟩
    · exact ⟨⟨Or.inl ⟨rfl, rfl⟩, subset_rfl, id, rfl⟩, rfl⟩

theorem onConsumeSuccess_quiet (tag : QString) (s : MqService) :
    Quiet s (s.onConsumeSuccess tag) := by
  unfold onConsumeSuccess
  dsimp only
  split_ifs with hpaused
  · exact (cancelConsumer_quiet _).of_same ⟨rfl, rfl, rfl, rfl⟩
  · exact ⟨⟨Or.inl ⟨rfl, rfl⟩, subset_rfl, id, rfl⟩, rfl⟩

theorem onConsumerCancelled_quiet (amqp : AmqpAnswers) (s : MqService) :
    Quiet s (s.onConsumerCancelled amqp) := by
  unfold onConsumerCancelled
  dsimp only
  split_ifs with hpaused
  · exact (startConsuming_quiet amqp _).of_same ⟨rfl, rfl, rfl, rfl⟩
  · exact ⟨⟨Or.inl ⟨rfl, rfl⟩, subset_rfl, id, rfl⟩, rfl⟩

theorem onCancelSuccess_quiet (amqp : AmqpAnswers) (s : MqService) :
    Quiet s (s.onCancelSuccess amqp) := by
  unfold onCancelSuccess
  dsimp only
  split_ifs with hpaused
  · exact (startConsuming_quiet amqp _).of_same ⟨rfl, rfl, rfl, rfl⟩
  · exact ⟨⟨Or.inl ⟨rfl, rfl⟩, subset_rfl, id, rfl⟩, rfl⟩

/-! ### Confirmations -/

/-- What `confirmInserted` can do. -/
inductive Confirmed (s : MqService) (amqp : AmqpAnswers) (tag : ℕ)
    (r : Reaction MqService ServiceEffect) : Prop
  /-- The tag is not pending. -/
  | unknown (hpending : tag ∉ s.pendingDeliveries) (result : r = (s, []))
  /-- During a pause the delivery is committed. -/
  | deferred (hpending : tag ∈ s.pendingDeliveries) (hpaused : s.paused = true)
      (result : r =
        ({ s with committedDeliveries := insert tag s.committedDeliveries }, []))
  /-- The channel takes the acknowledgement. -/
  | acked (channel : Channel) (hchannel : s.channel = some channel)
      (hpending : tag ∈ s.pendingDeliveries) (hpaused : s.paused = false)
      (hack : amqp.ack tag = true)
      (result : r =
        ({ s with
            committedDeliveries := s.committedDeliveries.erase tag
            pendingDeliveries := s.pendingDeliveries.erase tag },
          [.ack ⟨channel.number, tag⟩, .deliveryAcked tag]))
  /-- There is no channel, or it refuses. -/
  | refused (hrefused : s.channel = none ∨ amqp.ack tag = false)
      (result : r = (s, [.errorOccurred "Could not acknowledge the inserted message"]))

theorem confirmInserted_confirmed (amqp : AmqpAnswers) (tag : ℕ) (s : MqService) :
    Confirmed s amqp tag (s.confirmInserted amqp tag) := by
  unfold confirmInserted
  by_cases hpending : tag ∈ s.pendingDeliveries
  · rw [if_neg (not_not.mpr hpending)]
    by_cases hpaused : s.paused = true
    · rw [if_pos hpaused]
      exact .deferred hpending hpaused rfl
    · rw [if_neg hpaused]
      split
      · rename_i hnone
        exact .refused (Or.inl hnone) rfl
      · rename_i channel hsome
        by_cases hack : amqp.ack tag = true
        · rw [if_pos hack]
          exact .acked channel hsome hpending (Bool.eq_false_iff.mpr hpaused) hack rfl
        · rw [if_neg hack]
          exact .refused (Or.inr (Bool.eq_false_iff.mpr hack)) rfl
  · rw [if_pos hpending]
    exact .unknown hpending rfl

/-- A confirmation moves tags between the sets, or out of them. -/
theorem confirmInserted_carried (amqp : AmqpAnswers) (tag : ℕ) (s : MqService) :
    Carried s (s.confirmInserted amqp tag) := by
  cases confirmInserted_confirmed amqp tag s with
  | unknown hpending result =>
    rw [result]
    exact (Quiet.refl s).toCarried
  | deferred hpending hpaused result =>
    rw [result]
    exact ⟨Or.inl ⟨rfl, rfl⟩, subset_rfl, fun h => Finset.insert_subset hpending h, rfl⟩
  | acked channel hchannel hpending hpaused hack result =>
    rw [result]
    exact ⟨Or.inl ⟨rfl, rfl⟩, Finset.erase_subset _ _, fun h => Finset.erase_subset_erase _ h, rfl⟩
  | refused hrefused result =>
    rw [result]
    exact ⟨Or.inl ⟨rfl, rfl⟩, subset_rfl, id, rfl⟩

/-- A confirmation leaves the pause, the channel and the other deliveries alone. -/
theorem confirmInserted_keeps (amqp : AmqpAnswers) (tag : ℕ) (s : MqService) :
    (s.confirmInserted amqp tag).1.paused = s.paused ∧
      (s.confirmInserted amqp tag).1.channel = s.channel ∧
      ∀ other ∈ s.pendingDeliveries, other ≠ tag →
        other ∈ (s.confirmInserted amqp tag).1.pendingDeliveries := by
  cases confirmInserted_confirmed amqp tag s with
  | acked channel hchannel hpending hpaused hack result =>
    rw [result]
    exact ⟨rfl, rfl, fun other hother hne => Finset.mem_erase.mpr ⟨hne, hother⟩⟩
  | unknown hpending result =>
    rw [result]
    exact ⟨rfl, rfl, fun other hother _ => hother⟩
  | deferred hpending hpaused result =>
    rw [result]
    exact ⟨rfl, rfl, fun other hother _ => hother⟩
  | refused hrefused result =>
    rw [result]
    exact ⟨rfl, rfl, fun other hother _ => hother⟩

/-- Asked to confirm the tag, the service acknowledges the delivery. -/
def Acknowledges (s : MqService) (amqp : AmqpAnswers) (tag : ℕ) (delivery : Delivery) : Prop :=
  s.paused = false ∧ tag ∈ s.pendingDeliveries ∧ amqp.ack tag = true ∧
    ∃ channel ∈ s.channel, delivery = ⟨channel.number, tag⟩

theorem confirmInserted_acked {tag : ℕ} {delivery : Delivery} :
    delivery ∈ (s.confirmInserted amqp tag).2.filterMap ServiceEffect.acked? ↔
      s.Acknowledges amqp tag delivery := by
  unfold Acknowledges
  cases confirmInserted_confirmed amqp tag s with
  | unknown hpending result => simp [result, hpending]
  | deferred hpending hpaused result => simp [result, hpaused]
  | acked channel hchannel hpending hpaused hack result =>
    simp [result, hchannel, hpending, hpaused, hack, ServiceEffect.acked?, eq_comm]
  | refused hrefused result =>
    rcases hrefused with hnone | hrefused
    · simp [result, hnone, ServiceEffect.acked?]
    · simp [result, hrefused, ServiceEffect.acked?]

theorem confirmAll_carried (amqp : AmqpAnswers) (tags : List ℕ) (s : MqService) :
    Carried s (s.confirmAll amqp tags) := by
  induction tags generalizing s with
  | nil => exact (Quiet.refl s).toCarried
  | cons tag rest ih => exact (confirmInserted_carried amqp tag s).andThen (ih _)

/-- The loop acknowledges every pending delivery with one of the tags. -/
theorem confirmAll_acked {tags : List ℕ} {delivery : Delivery} :
    delivery ∈ (s.confirmAll amqp tags).2.filterMap ServiceEffect.acked? ↔
      ∃ tag ∈ tags, s.Acknowledges amqp tag delivery := by
  induction tags generalizing s with
  | nil => simp [confirmAll]
  | cons tag rest ih =>
    obtain ⟨hpaused, hchannel, hothers⟩ := confirmInserted_keeps amqp tag s
    have hpending := (confirmInserted_carried amqp tag s).pending
    rw [confirmAll, Reaction.andThen_snd, List.filterMap_append, List.mem_append,
      confirmInserted_acked, ih]
    constructor
    · rintro (hfirst | ⟨other, hother, hack⟩)
      · exact ⟨tag, List.mem_cons_self, hfirst⟩
      · -- what the rest of the loop acknowledges was pending before
        refine ⟨other, List.mem_cons_of_mem _ hother, ?_⟩
        obtain ⟨hnotPaused, hmem, hanswer, hdelivery⟩ := hack
        rw [hchannel] at hdelivery
        exact ⟨hpaused.symm.trans hnotPaused, hpending hmem, hanswer, hdelivery⟩
    · rintro ⟨other, hother, hack⟩
      by_cases hsame : other = tag
      · exact Or.inl (hsame ▸ hack)
      · have hrest : other ∈ rest := (List.mem_cons.mp hother).resolve_left hsame
        refine Or.inr ⟨other, hrest, ?_⟩
        obtain ⟨hnotPaused, hmem, hanswer, hdelivery⟩ := hack
        refine ⟨hpaused.trans hnotPaused, hothers other hmem hsame, hanswer, ?_⟩
        rw [hchannel]
        exact hdelivery

/-- The end of a pause: the loop, and a new consumer if there is none. -/
theorem pauseConsuming_false (order : IterationOrder) (amqp : AmqpAnswers) (s : MqService) :
    s.pauseConsuming order amqp false =
      (confirmAll amqp (order.toList s.committedDeliveries) { s with paused := false }).andThen
        fun s => if !s.consuming && !s.cancelPending then (s.startConsuming amqp).2 else (s, []) :=
  rfl

/-- What follows the loop is quiet. -/
theorem restart_quiet (amqp : AmqpAnswers) (s : MqService) :
    Quiet s (if !s.consuming && !s.cancelPending then (s.startConsuming amqp).2 else (s, [])) := by
  split_ifs
  · exact startConsuming_quiet amqp s
  · exact Quiet.refl s

/-- Toggling the pause makes no delivery pending. -/
theorem pauseConsuming_carried (order : IterationOrder) (amqp : AmqpAnswers) (paused : Bool)
    (s : MqService) : Carried s (s.pauseConsuming order amqp paused) := by
  have hsame : SameDeliveries s { s with paused := paused } := ⟨rfl, rfl, rfl, rfl⟩
  cases paused with
  | true => exact ((cancelConsumer_quiet _).of_same hsame).toCarried
  | false =>
    rw [pauseConsuming_false]
    have hloop := (confirmAll_carried amqp (order.toList s.committedDeliveries)
      { s with paused := false }).of_same hsame
    exact hloop.andThen (restart_quiet amqp _).toCarried

/-- A pause acknowledges nothing. -/
theorem pauseConsuming_true_acked (order : IterationOrder) (amqp : AmqpAnswers) (s : MqService) :
    (s.pauseConsuming order amqp true).2.filterMap ServiceEffect.acked? = [] :=
  (cancelConsumer_quiet { s with paused := true }).acked

/-- The end of a pause acknowledges what was committed during it. -/
theorem pauseConsuming_false_acked {order : IterationOrder} {delivery : Delivery} :
    delivery ∈ (s.pauseConsuming order amqp false).2.filterMap ServiceEffect.acked? ↔
      ∃ tag ∈ s.committedDeliveries,
        MqService.Acknowledges { s with paused := false } amqp tag delivery := by
  rw [pauseConsuming_false, Reaction.andThen_snd, List.filterMap_append,
    (restart_quiet amqp _).acked, List.append_nil, confirmAll_acked]
  simp only [order.mem_toList]

end MqService

end QtAppBase.Mq
