import QtAppBase.Mq.ServiceSteps

/-!
# The deliveries of one channel

On one channel, whose acknowledgements and rejections succeed, every delivery has
a tag of its own. The machine here records beside the service which tags were
delivered and confirmed, and which were acknowledged and rejected. A
confirmation of a tag that is not pending is ignored, so that of the confirmed
tags only those count that were confirmed after their delivery.
-/

namespace QtAppBase.Mq

open Library Qt

/-- The envelope that `onReceived` reports; without one the delivery is rejected. -/
def Message.envelope? (message : Message) : Option Envelope :=
  if message.bodySize > 2147483647 then none else message.decoded

/-- The tag that a `basic.reject` names. -/
def ServiceEffect.rejected? : ServiceEffect → Option Delivery
  | .reject delivery => some delivery
  | _ => none

/-- The tags acknowledged. -/
def ackedTags (effects : List ServiceEffect) : List ℕ :=
  (effects.filterMap ServiceEffect.acked?).map Delivery.tag

/-- The tags rejected. -/
def rejectedTags (effects : List ServiceEffect) : List ℕ :=
  (effects.filterMap ServiceEffect.rejected?).map Delivery.tag

theorem ackedTags_append (effects effects' : List ServiceEffect) :
    ackedTags (effects ++ effects') = ackedTags effects ++ ackedTags effects' := by
  simp [ackedTags]

theorem rejectedTags_append (effects effects' : List ServiceEffect) :
    rejectedTags (effects ++ effects') = rejectedTags effects ++ rejectedTags effects' := by
  simp [rejectedTags]

/-- What happens on a channel: calls of the application, deliveries, and what
becomes of the consumer. -/
inductive ChannelEvent where
  | startConsuming
  | pauseConsuming (paused : Bool)
  | confirmInserted (deliveryTag : ℕ)
  | delivered (message : Message) (deliveryTag : ℕ)
  | consumeOk (consumerTag : QString)
  | cancelOk
  | consumerCancelled
  deriving DecidableEq

namespace MqService

variable {s d : MqService}

/-- What one event does. The connection is there, and the channel does what it is asked. -/
def handle (order : IterationOrder) (s : MqService) :
    ChannelEvent → Reaction MqService ServiceEffect
  | .startConsuming => (s.startConsuming {}).2
  | .pauseConsuming paused => s.pauseConsuming order {} paused
  | .confirmInserted deliveryTag => s.confirmInserted {} deliveryTag
  | .delivered message deliveryTag =>
    match s.channel with
    | none => (s, [])
    | some channel => s.onReceived {} message ⟨channel.number, deliveryTag⟩
  | .consumeOk consumerTag => s.onConsumeSuccess consumerTag
  | .cancelOk => s.onCancelSuccess {}
  | .consumerCancelled => s.onConsumerCancelled {}

/-! ### Operations that leave the deliveries alone -/

/-- The deliveries and the pause stay as they are, and nothing is acknowledged or rejected. -/
structure LeavesDeliveries (s : MqService) (r : Reaction MqService ServiceEffect) : Prop where
  channel : s.channel.isSome = true → r.1.channel.isSome = true
  paused : r.1.paused = s.paused
  pending : r.1.pendingDeliveries = s.pendingDeliveries
  committed : r.1.committedDeliveries = s.committedDeliveries
  acked : ackedTags r.2 = []
  rejected : rejectedTags r.2 = []

/-- Only flags of the consumer change. -/
theorem LeavesDeliveries.refl (s : MqService) : LeavesDeliveries s (s, []) :=
  ⟨id, rfl, rfl, rfl, rfl, rfl⟩

/-- A change of these flags may come first. -/
theorem LeavesDeliveries.of_same {r : Reaction MqService ServiceEffect} (h : LeavesDeliveries d r)
    (hsame : SameDeliveries s d) (hpaused : d.paused = s.paused) : LeavesDeliveries s r := by
  refine ⟨?_, h.paused.trans hpaused, h.pending.trans hsame.pending,
    h.committed.trans hsame.committed, h.acked, h.rejected⟩
  rw [← hsame.channel]
  exact h.channel

theorem startConsuming_leaves (amqp : AmqpAnswers) (s : MqService) :
    LeavesDeliveries s (s.startConsuming amqp).2 := by
  unfold startConsuming
  split_ifs with hidle
  · exact LeavesDeliveries.refl s
  · unfold ensureChannel
    cases hchannel : s.channel with
    | some channel => exact ⟨fun _ => congrArg Option.isSome hchannel, rfl, rfl, rfl, rfl, rfl⟩
    | none =>
      dsimp only
      split_ifs
      · exact ⟨fun _ => rfl, rfl, rfl, rfl, rfl, rfl⟩
      · exact ⟨id, rfl, rfl, rfl, rfl, rfl⟩

theorem cancelConsumer_leaves (s : MqService) : LeavesDeliveries s s.cancelConsumer := by
  unfold cancelConsumer
  split
  · exact LeavesDeliveries.refl s
  · split_ifs
    · exact LeavesDeliveries.refl s
    · exact ⟨id, rfl, rfl, rfl, rfl, rfl⟩

theorem onConsumeSuccess_leaves (tag : QString) (s : MqService) :
    LeavesDeliveries s (s.onConsumeSuccess tag) := by
  unfold onConsumeSuccess
  dsimp only
  split_ifs with hpaused
  · exact (cancelConsumer_leaves _).of_same ⟨rfl, rfl, rfl, rfl⟩ rfl
  · exact ⟨id, rfl, rfl, rfl, rfl, rfl⟩

theorem onCancelSuccess_leaves (amqp : AmqpAnswers) (s : MqService) :
    LeavesDeliveries s (s.onCancelSuccess amqp) := by
  unfold onCancelSuccess
  dsimp only
  split_ifs with hpaused
  · exact (startConsuming_leaves amqp _).of_same ⟨rfl, rfl, rfl, rfl⟩ rfl
  · exact ⟨id, rfl, rfl, rfl, rfl, rfl⟩

theorem onConsumerCancelled_leaves (amqp : AmqpAnswers) (s : MqService) :
    LeavesDeliveries s (s.onConsumerCancelled amqp) := by
  unfold onConsumerCancelled
  dsimp only
  split_ifs with hpaused
  · exact (startConsuming_leaves amqp _).of_same ⟨rfl, rfl, rfl, rfl⟩ rfl
  · exact ⟨id, rfl, rfl, rfl, rfl, rfl⟩

/-! ### The loop at the end of a pause -/

/-- On an unpaused channel the loop acknowledges every tag it is given, in this order,
and takes it out of both sets. -/
theorem confirmAll_unpaused {channel : Channel} {tags : List ℕ}
    (hchannel : s.channel = some channel) (hpaused : s.paused = false) (hnodup : tags.Nodup)
    (hpending : ∀ tag ∈ tags, tag ∈ s.pendingDeliveries) :
    s.confirmAll {} tags =
      ({ s with
          committedDeliveries := s.committedDeliveries \ tags.toFinset
          pendingDeliveries := s.pendingDeliveries \ tags.toFinset },
        tags.flatMap fun tag => [.ack ⟨channel.number, tag⟩, .deliveryAcked tag]) := by
  induction tags generalizing s with
  | nil => simp [confirmAll]
  | cons tag rest ih =>
    have htag : tag ∈ s.pendingDeliveries := hpending tag List.mem_cons_self
    obtain ⟨hfresh, hrest⟩ := List.nodup_cons.mp hnodup
    have hfirst : s.confirmInserted {} tag =
        ({ s with
            committedDeliveries := s.committedDeliveries.erase tag
            pendingDeliveries := s.pendingDeliveries.erase tag },
          [.ack ⟨channel.number, tag⟩, .deliveryAcked tag]) := by
      simp [confirmInserted, htag, hpaused, hchannel]
    have hlater : ∀ other ∈ rest, other ∈ s.pendingDeliveries.erase tag := by
      intro other hother
      refine Finset.mem_erase.mpr ⟨?_, hpending other (List.mem_cons_of_mem _ hother)⟩
      rintro rfl
      exact hfresh hother
    have hloop := ih (s := { s with
      committedDeliveries := s.committedDeliveries.erase tag
      pendingDeliveries := s.pendingDeliveries.erase tag }) hchannel hpaused hrest hlater
    have herase : ∀ tags : Finset ℕ,
        tags.erase tag \ rest.toFinset = tags \ (tag :: rest).toFinset := by
      intro tags
      rw [List.toFinset_cons, Finset.sdiff_insert, Finset.erase_sdiff_comm]
    rw [confirmAll, hfirst, Reaction.andThen]
    dsimp only
    rw [hloop, ← herase, ← herase]
    rfl

/-- The tags that the loop acknowledges. -/
theorem ackedTags_flatMap (number : ℕ) (tags : List ℕ) :
    ackedTags (tags.flatMap fun tag => [.ack ⟨number, tag⟩, .deliveryAcked tag]) = tags := by
  induction tags with
  | nil => rfl
  | cons tag rest ih =>
    rw [List.flatMap_cons, ackedTags_append, ih]
    rfl

theorem rejectedTags_flatMap (number : ℕ) (tags : List ℕ) :
    rejectedTags (tags.flatMap fun tag => [.ack ⟨number, tag⟩, .deliveryAcked tag]) = [] := by
  induction tags with
  | nil => rfl
  | cons tag rest ih =>
    rw [List.flatMap_cons, rejectedTags_append, ih]
    rfl

/-! ### Deliveries -/

/-- A delivery with an envelope becomes pending. -/
theorem onReceived_valid {amqp : AmqpAnswers} {message : Message} {delivery : Delivery}
    {envelope : Envelope} (h : message.envelope? = some envelope) :
    s.onReceived amqp message delivery =
      ({ s with pendingDeliveries := insert delivery.tag s.pendingDeliveries },
        [.messageReceived envelope message.redelivered delivery]) := by
  unfold Message.envelope? at h
  unfold onReceived
  split_ifs at h ⊢ with hsize
  rw [h]

/-- One without is rejected. -/
theorem onReceived_invalid {message : Message} (h : message.envelope? = none)
    (amqp : AmqpAnswers) (delivery : Delivery) (s : MqService) :
    ∃ reason, s.onReceived amqp message delivery = s.rejectDelivery amqp delivery.tag reason := by
  unfold Message.envelope? at h
  unfold onReceived
  split_ifs at h ⊢ with hsize
  · exact ⟨_, rfl⟩
  · rw [h]
    exact ⟨_, rfl⟩

end MqService

/-! ### The tally -/

/-- The service with a tally of the deliveries of its channel. -/
structure Tally where
  service : MqService := {}
  /-- The tags delivered. -/
  delivered : Finset ℕ := ∅
  /-- Those delivered with an envelope. -/
  valid : Finset ℕ := ∅
  /-- The tags that `confirmInserted` was called for. -/
  confirmed : Finset ℕ := ∅
  /-- Those it was called for after a valid delivery. -/
  due : Finset ℕ := ∅
  acked : List ℕ := []
  rejected : List ℕ := []

namespace Tally

open MqService

/-- What an event says about a tag. -/
def note (t : Tally) : ChannelEvent → Tally
  | .delivered message deliveryTag =>
    { t with
      delivered := insert deliveryTag t.delivered
      valid := if message.envelope?.isSome then insert deliveryTag t.valid else t.valid }
  | .confirmInserted deliveryTag =>
    { t with
      confirmed := insert deliveryTag t.confirmed
      due := if deliveryTag ∈ t.valid then insert deliveryTag t.due else t.due }
  | _ => t

/-- What the service does about it. -/
def record (t : Tally) (r : Reaction MqService ServiceEffect) : Tally :=
  { t with
    service := r.1
    acked := t.acked ++ ackedTags r.2
    rejected := t.rejected ++ rejectedTags r.2 }

/-- The machine of both. -/
def machine (order : IterationOrder) : Mealy Tally ChannelEvent ServiceEffect :=
  ⟨fun t e => ((t.note e).record (t.service.handle order e), (t.service.handle order e).2)⟩

/-- Deliveries come on a channel, with tags of their own. -/
def Enabled (t : Tally) : ChannelEvent → Prop
  | .delivered _ deliveryTag => t.service.channel.isSome = true ∧ deliveryTag ∉ t.delivered
  | _ => True

instance (t : Tally) (e : ChannelEvent) : Decidable (t.Enabled e) := by
  cases e <;> unfold Enabled <;> infer_instance

/-- The deliveries are in order. -/
structure InOrder (t : Tally) : Prop where
  /-- What is committed is pending. -/
  committed_subset : t.service.committedDeliveries ⊆ t.service.pendingDeliveries
  /-- No tag is acknowledged twice. -/
  once : t.acked.Nodup
  /-- Nor acknowledged and rejected. -/
  apart : ∀ tag ∈ t.acked, tag ∉ t.rejected
  /-- Pending is what was validly delivered and is not acknowledged yet. -/
  pending_eq : t.service.pendingDeliveries = t.valid \ t.acked.toFinset

/-- A step settles its deliveries; `counted` says which confirmations the end of a pause
has to settle. -/
structure Settles (counted : Tally → Finset ℕ) (order : IterationOrder) (t : Tally)
    (e : ChannelEvent) : Prop where
  /-- The deliveries are in order afterwards. -/
  inOrder : InOrder ((machine order).next t e)
  /-- What is acknowledged is confirmed, and there is no pause. -/
  acks : ∀ tag ∈ ackedTags (t.service.handle order e).2,
    tag ∈ ((machine order).next t e).confirmed ∧
      ((machine order).next t e).service.paused = false
  /-- After a pause every confirmation that counts is followed by its acknowledgement. -/
  resumed : e = .pauseConsuming false → ∀ tag ∈ counted ((machine order).next t e),
    tag ∈ ((machine order).next t e).acked

/-- The invariant. -/
structure Inv (t : Tally) : Prop where
  once : t.acked.Nodup
  pending_eq : t.service.pendingDeliveries = t.valid \ t.acked.toFinset
  committed_subset : t.service.committedDeliveries ⊆ t.service.pendingDeliveries
  /-- Without a channel nothing was delivered. -/
  channel : t.service.channel = none → t.delivered = ∅
  valid_delivered : t.valid ⊆ t.delivered
  acked_valid : ∀ tag ∈ t.acked, tag ∈ t.valid
  rejected_invalid : ∀ tag ∈ t.rejected, tag ∈ t.delivered \ t.valid
  committed_confirmed : t.service.committedDeliveries ⊆ t.confirmed
  /-- A confirmation is settled, or held back. -/
  due : ∀ tag ∈ t.due, tag ∈ t.acked ∨ tag ∈ t.service.committedDeliveries
  /-- Nothing is held back but in a pause. -/
  unpaused : t.service.paused = false → t.service.committedDeliveries = ∅

variable {t : Tally} {order : IterationOrder}

theorem Inv.inOrder (h : Inv t) : InOrder t := by
  refine ⟨h.committed_subset, h.once, ?_, h.pending_eq⟩
  intro tag hacked hrejected
  exact (Finset.mem_sdiff.mp (h.rejected_invalid tag hrejected)).2 (h.acked_valid tag hacked)

/-- A fresh service has no deliveries. -/
theorem inv_init : Inv {} := by
  refine ⟨List.nodup_nil, rfl, subset_rfl, fun _ => rfl, subset_rfl, ?_, ?_, subset_rfl, ?_,
    fun _ => rfl⟩ <;> simp

/-- One reaction after another. -/
theorem record_andThen (t : Tally) (r : Reaction MqService ServiceEffect)
    (f : MqService → Reaction MqService ServiceEffect) :
    t.record (r.andThen f) = (t.record r).record (f r.1) := by
  simp [record, ackedTags_append, rejectedTags_append]

/-- What leaves the deliveries alone keeps the invariant. -/
theorem inv_leaves (h : Inv t) {r : Reaction MqService ServiceEffect}
    (hr : LeavesDeliveries t.service r) : Inv (t.record r) := by
  have hrecord : t.record r = { t with service := r.1 } := by
    rw [record, hr.acked, hr.rejected, List.append_nil, List.append_nil]
  rw [hrecord]
  refine ⟨h.once, hr.pending.trans h.pending_eq, ?_, ?_, h.valid_delivered, h.acked_valid,
    h.rejected_invalid, ?_, ?_, ?_⟩
  · rw [hr.committed, hr.pending]
    exact h.committed_subset
  · intro hnone
    apply h.channel
    by_contra hsome
    have hkept := hr.channel (Option.isSome_iff_ne_none.mpr hsome)
    rw [hnone] at hkept
    cases hkept
  · rw [hr.committed]
    exact h.committed_confirmed
  · intro tag htag
    rw [hr.committed]
    exact h.due tag htag
  · rw [hr.committed, hr.paused]
    exact h.unpaused

/-- Without a channel nothing is pending, and nothing is held back. -/
theorem Inv.committed_empty (h : Inv t) (hnone : t.service.channel = none) :
    t.service.committedDeliveries = ∅ := by
  have hvalid : t.valid = ∅ := Finset.subset_empty.mp (h.channel hnone ▸ h.valid_delivered)
  have hpending := h.pending_eq
  rw [hvalid, Finset.empty_sdiff] at hpending
  exact Finset.subset_empty.mp (hpending ▸ h.committed_subset)

/-! ### The pause -/

/-- A pause keeps the invariant. -/
theorem inv_pause (order : IterationOrder) (h : Inv t) :
    Inv (t.record (t.service.pauseConsuming order {} true)) := by
  have hpaused : Inv { t with service := { t.service with paused := true } } :=
    ⟨h.once, h.pending_eq, h.committed_subset, h.channel, h.valid_delivered, h.acked_valid,
      h.rejected_invalid, h.committed_confirmed, h.due, fun hfalse => by cases hfalse⟩
  exact inv_leaves hpaused (cancelConsumer_leaves _)

/-- The loop at the end of a pause acknowledges what was held back. -/
theorem Inv.resume_loop (h : Inv t) (order : IterationOrder) : ∃ effects,
    confirmAll {} (order.toList t.service.committedDeliveries) { t.service with paused := false } =
        ({ t.service with
            paused := false
            committedDeliveries := ∅
            pendingDeliveries := t.service.pendingDeliveries \ t.service.committedDeliveries },
          effects) ∧
      ackedTags effects = order.toList t.service.committedDeliveries ∧
      rejectedTags effects = [] := by
  have hlist : (order.toList t.service.committedDeliveries).toFinset =
      t.service.committedDeliveries := by
    ext tag
    rw [List.mem_toFinset, order.mem_toList]
  cases hchannel : t.service.channel with
  | none =>
    have hempty := h.committed_empty hchannel
    have hnil : order.toList t.service.committedDeliveries = [] := by
      rw [← List.toFinset_eq_empty_iff, hlist, hempty]
    refine ⟨[], ?_, hnil.symm, rfl⟩
    rw [hnil, hempty, Finset.sdiff_empty, confirmAll, ← hempty]
  | some channel =>
    refine ⟨_, ?_, ackedTags_flatMap channel.number _, rejectedTags_flatMap channel.number _⟩
    have hloop := confirmAll_unpaused (s := { t.service with paused := false }) hchannel rfl
      (order.nodup t.service.committedDeliveries)
      fun tag htag => h.committed_subset ((order.mem_toList _ _).mp htag)
    rw [hlist, Finset.sdiff_self] at hloop
    exact hloop

/-- What follows the loop leaves the deliveries alone. -/
theorem restart_leaves (amqp : AmqpAnswers) (s : MqService) : LeavesDeliveries s
    (if !s.consuming && !s.cancelPending then (s.startConsuming amqp).2 else (s, [])) := by
  split_ifs
  · exact startConsuming_leaves amqp s
  · exact LeavesDeliveries.refl s

/-- What the end of a pause acknowledges, and that it ends. -/
theorem Inv.resume_acked (h : Inv t) (order : IterationOrder) :
    ackedTags (t.service.pauseConsuming order {} false).2 =
        order.toList t.service.committedDeliveries ∧
      (t.service.pauseConsuming order {} false).1.paused = false := by
  obtain ⟨effects, hloop, hacked, _⟩ := h.resume_loop order
  rw [pauseConsuming_false, hloop]
  have hrest := restart_leaves {} { t.service with
    paused := false
    committedDeliveries := ∅
    pendingDeliveries := t.service.pendingDeliveries \ t.service.committedDeliveries }
  refine ⟨?_, hrest.paused⟩
  rw [Reaction.andThen_snd, ackedTags_append, hacked, hrest.acked, List.append_nil]

/-- The end of a pause keeps the invariant. -/
theorem inv_resume (h : Inv t) : Inv (t.record (t.service.pauseConsuming order {} false)) := by
  obtain ⟨effects, hloop, hacked, hrejected⟩ := h.resume_loop order
  have hmem : ∀ tag, tag ∈ order.toList t.service.committedDeliveries ↔
      tag ∈ t.service.committedDeliveries := order.mem_toList _
  have hfresh : ∀ tag ∈ t.service.committedDeliveries, tag ∈ t.valid ∧ tag ∉ t.acked := by
    intro tag htag
    have hpending := h.committed_subset htag
    rw [h.pending_eq, Finset.mem_sdiff, List.mem_toFinset] at hpending
    exact hpending
  rw [pauseConsuming_false, record_andThen, hloop]
  refine inv_leaves ?_ (restart_leaves {} _)
  refine ⟨?_, ?_, Finset.empty_subset _, h.channel, h.valid_delivered, ?_, ?_,
    Finset.empty_subset _, ?_, fun _ => rfl⟩
  · rw [record, hacked, List.nodup_append]
    refine ⟨h.once, order.nodup _, ?_⟩
    rintro tag hold _ hnew rfl
    exact (hfresh tag ((hmem tag).mp hnew)).2 hold
  · ext tag
    simp only [record, hacked, Finset.mem_sdiff, List.mem_toFinset, List.mem_append, hmem,
      h.pending_eq]
    tauto
  · intro tag htag
    rw [record, hacked] at htag
    rcases List.mem_append.mp htag with hold | hnew
    · exact h.acked_valid tag hold
    · exact (hfresh tag ((hmem tag).mp hnew)).1
  · intro tag htag
    rw [record, hrejected, List.append_nil] at htag
    exact h.rejected_invalid tag htag
  · intro tag htag
    refine Or.inl (List.mem_append.mpr ?_)
    rw [hacked, hmem]
    exact h.due tag htag

/-! ### Confirmations -/

/-- The confirmation of a tag that is neither pending nor held back changes nothing. -/
theorem inv_ignored (h : Inv t) (tag : ℕ)
    (hsettled : tag ∈ t.valid → tag ∈ t.acked ∨ tag ∈ t.service.committedDeliveries) :
    Inv (t.note (.confirmInserted tag)) := by
  refine ⟨h.once, h.pending_eq, h.committed_subset, h.channel, h.valid_delivered, h.acked_valid,
    h.rejected_invalid, ?_, ?_, h.unpaused⟩
  · exact h.committed_confirmed.trans (Finset.subset_insert _ _)
  · intro other hother
    dsimp only [note] at hother
    split_ifs at hother with hvalid
    · rcases Finset.mem_insert.mp hother with rfl | hold
      · exact hsettled hvalid
      · exact h.due other hold
    · exact h.due other hother

/-- A pending tag may be held back in a pause. -/
theorem inv_held (h : Inv t) {tag : ℕ} (hpending : tag ∈ t.service.pendingDeliveries)
    (hpaused : t.service.paused = true) :
    Inv { t with
      service := { t.service with
        committedDeliveries := insert tag t.service.committedDeliveries }
      confirmed := insert tag t.confirmed } := by
  refine ⟨h.once, h.pending_eq, Finset.insert_subset hpending h.committed_subset, h.channel,
    h.valid_delivered, h.acked_valid, h.rejected_invalid,
    Finset.insert_subset_insert _ h.committed_confirmed, ?_, ?_⟩
  · intro other hother
    exact (h.due other hother).imp_right (Finset.mem_insert_of_mem)
  · intro hfalse
    cases hpaused.symm.trans hfalse

/-- A pending tag may be acknowledged outside a pause. -/
theorem inv_acknowledged (h : Inv t) {tag : ℕ} (hvalid : tag ∈ t.valid) (hfresh : tag ∉ t.acked)
    (hpaused : t.service.paused = false) :
    Inv { t with
      service := { t.service with
        committedDeliveries := t.service.committedDeliveries.erase tag
        pendingDeliveries := t.service.pendingDeliveries.erase tag }
      acked := t.acked ++ [tag] } := by
  have hempty := h.unpaused hpaused
  refine ⟨?_, ?_, Finset.erase_subset_erase _ h.committed_subset, h.channel, h.valid_delivered,
    ?_, h.rejected_invalid, (Finset.erase_subset _ _).trans h.committed_confirmed, ?_, ?_⟩
  · rw [List.nodup_append]
    refine ⟨h.once, List.nodup_singleton tag, ?_⟩
    rintro other hold _ hnew rfl
    rw [List.mem_singleton] at hnew
    exact hfresh (hnew ▸ hold)
  · ext other
    simp only [h.pending_eq, Finset.mem_erase, Finset.mem_sdiff, List.mem_toFinset,
      List.mem_append, List.mem_singleton]
    tauto
  · intro other hother
    rcases List.mem_append.mp hother with hold | hnew
    · exact h.acked_valid other hold
    · rw [List.mem_singleton.mp hnew]
      exact hvalid
  · intro other hother
    rcases h.due other hother with hold | hheld
    · exact Or.inl (List.mem_append_left _ hold)
    · rw [hempty] at hheld
      exact absurd hheld (Finset.notMem_empty other)
  · intro _
    dsimp only
    rw [hempty, Finset.erase_empty]

/-- A confirmation keeps the invariant. -/
theorem inv_confirmInserted (h : Inv t) (tag : ℕ) :
    Inv ((t.note (.confirmInserted tag)).record (t.service.confirmInserted {} tag)) := by
  have hpendingIff : tag ∈ t.service.pendingDeliveries ↔ tag ∈ t.valid ∧ tag ∉ t.acked := by
    rw [h.pending_eq, Finset.mem_sdiff, List.mem_toFinset]
  have hsilent : (t.note (.confirmInserted tag)).record (t.service, []) =
      t.note (.confirmInserted tag) := by simp [record, note, ackedTags, rejectedTags]
  cases confirmInserted_confirmed {} tag t.service with
  | unknown hpending result =>
    rw [result, hsilent]
    refine inv_ignored h tag fun hvalid => Or.inl ?_
    by_contra hnot
    exact hpending (hpendingIff.mpr ⟨hvalid, hnot⟩)
  | refused hrefused result =>
    rw [result]
    have hnone : t.service.channel = none := hrefused.resolve_right (by simp)
    have hsame : (t.note (.confirmInserted tag)).record
        (t.service, [.errorOccurred "Could not acknowledge the inserted message"]) =
          t.note (.confirmInserted tag) := hsilent
    rw [hsame]
    refine inv_ignored h tag fun hvalid => ?_
    have hdelivered := h.valid_delivered hvalid
    rw [h.channel hnone] at hdelivered
    exact absurd hdelivered (Finset.notMem_empty tag)
  | deferred hpending hpaused result =>
    rw [result]
    have hnoted := inv_ignored (inv_held h hpending hpaused) tag
      fun _ => Or.inr (Finset.mem_insert_self _ _)
    simpa [record, note, ackedTags, rejectedTags] using hnoted
  | acked channel hchannel hpending hpaused hack result =>
    obtain ⟨hvalid, hfresh⟩ := hpendingIff.mp hpending
    have hacked : ackedTags [.ack ⟨channel.number, tag⟩, .deliveryAcked tag] = [tag] := rfl
    have hrejected : rejectedTags [.ack ⟨channel.number, tag⟩, .deliveryAcked tag] = [] := rfl
    rw [result, record, hacked, hrejected, List.append_nil]
    exact inv_ignored (inv_acknowledged h hvalid hfresh hpaused) tag fun _ => Or.inl (by simp)

/-- What a confirmation acknowledges is its own tag, outside a pause. -/
theorem confirmInserted_ackedTags {tag other : ℕ} {s : MqService}
    (h : other ∈ ackedTags (s.confirmInserted {} tag).2) :
    other = tag ∧ (s.confirmInserted {} tag).1.paused = false := by
  cases confirmInserted_confirmed {} tag s with
  | acked channel hchannel hpending hpaused hack result =>
    rw [result] at h ⊢
    exact ⟨List.mem_singleton.mp h, hpaused⟩
  | unknown hpending result =>
    rw [result] at h
    cases h
  | deferred hpending hpaused result =>
    rw [result] at h
    cases h
  | refused hrefused result =>
    rw [result] at h
    cases h

/-! ### Deliveries -/

/-- A new tag may be delivered with an envelope. -/
theorem inv_received (h : Inv t) {tag : ℕ} (hsome : t.service.channel ≠ none)
    (hfresh : tag ∉ t.delivered) :
    Inv { t with
      service := { t.service with pendingDeliveries := insert tag t.service.pendingDeliveries }
      delivered := insert tag t.delivered
      valid := insert tag t.valid } := by
  have hunacked : tag ∉ t.acked := fun hmem => hfresh (h.valid_delivered (h.acked_valid tag hmem))
  refine ⟨h.once, ?_, h.committed_subset.trans (Finset.subset_insert _ _),
    fun hnone => absurd hnone hsome, Finset.insert_subset_insert _ h.valid_delivered, ?_, ?_,
    h.committed_confirmed, h.due, h.unpaused⟩
  · rw [h.pending_eq, Finset.insert_sdiff_of_notMem]
    rw [List.mem_toFinset]
    exact hunacked
  · intro other hother
    exact Finset.mem_insert_of_mem (h.acked_valid other hother)
  · intro other hother
    obtain ⟨hdelivered, hother⟩ := Finset.mem_sdiff.mp (h.rejected_invalid other hother)
    refine Finset.mem_sdiff.mpr ⟨Finset.mem_insert_of_mem hdelivered, fun hmem => ?_⟩
    rcases Finset.mem_insert.mp hmem with rfl | hvalid
    · exact hfresh hdelivered
    · exact hother hvalid

/-- A new tag may be delivered and rejected. -/
theorem inv_rejected (h : Inv t) {tag : ℕ} (hsome : t.service.channel ≠ none)
    (hinvalid : tag ∉ t.valid) :
    Inv { t with
      delivered := insert tag t.delivered
      rejected := t.rejected ++ [tag] } := by
  refine ⟨h.once, h.pending_eq, h.committed_subset, fun hnone => absurd hnone hsome,
    h.valid_delivered.trans (Finset.subset_insert _ _), h.acked_valid, ?_,
    h.committed_confirmed, h.due, h.unpaused⟩
  intro other hother
  rcases List.mem_append.mp hother with hold | hnew
  · obtain ⟨hdelivered, hother⟩ := Finset.mem_sdiff.mp (h.rejected_invalid other hold)
    exact Finset.mem_sdiff.mpr ⟨Finset.mem_insert_of_mem hdelivered, hother⟩
  · rw [List.mem_singleton.mp hnew]
    exact Finset.mem_sdiff.mpr ⟨Finset.mem_insert_self _ _, hinvalid⟩

/-- The rejection of a tag that is not pending only tells the channel. -/
theorem rejectDelivery_unknown (h : Inv t) {tag : ℕ} {channel : Channel}
    (hchannel : t.service.channel = some channel) (hinvalid : tag ∉ t.valid) (reason : QString) :
    t.service.rejectDelivery {} tag reason =
      (t.service, [.reject ⟨channel.number, tag⟩, .messageRejected reason]) := by
  have hpending : tag ∉ t.service.pendingDeliveries := by
    rw [h.pending_eq]
    exact fun hmem => hinvalid (Finset.mem_sdiff.mp hmem).1
  have hcommitted : tag ∉ t.service.committedDeliveries :=
    fun hmem => hpending (h.committed_subset hmem)
  unfold rejectDelivery
  split
  · next hnone => cases hnone.symm.trans hchannel
  · next other hother =>
    obtain rfl : channel = other := Option.some.inj (hchannel.symm.trans hother)
    rw [if_pos rfl, Finset.erase_eq_of_notMem hpending, Finset.erase_eq_of_notMem hcommitted]

/-- A delivery keeps the invariant. -/
theorem inv_delivered (h : Inv t) {message : Message} {tag : ℕ} {channel : Channel}
    (hchannel : t.service.channel = some channel) (hfresh : tag ∉ t.delivered) :
    Inv ((t.note (.delivered message tag)).record
      (t.service.onReceived {} message ⟨channel.number, tag⟩)) := by
  have hsome : t.service.channel ≠ none := by simp [hchannel]
  have hinvalid : tag ∉ t.valid := fun hmem => hfresh (h.valid_delivered hmem)
  cases henvelope : message.envelope? with
  | some envelope =>
    have hrecord : (t.note (.delivered message tag)).record
        ({ t.service with pendingDeliveries := insert tag t.service.pendingDeliveries },
          [.messageReceived envelope message.redelivered ⟨channel.number, tag⟩]) =
        { t with
          service := { t.service with
            pendingDeliveries := insert tag t.service.pendingDeliveries }
          delivered := insert tag t.delivered
          valid := insert tag t.valid } := by
      simp [record, note, henvelope, ackedTags, rejectedTags, ServiceEffect.acked?,
        ServiceEffect.rejected?]
    rw [onReceived_valid henvelope, hrecord]
    exact inv_received h hsome hfresh
  | none =>
    obtain ⟨reason, hrejects⟩ :=
      onReceived_invalid henvelope {} ⟨channel.number, tag⟩ t.service
    have hrecord : (t.note (.delivered message tag)).record
        (t.service, [.reject ⟨channel.number, tag⟩, .messageRejected reason]) =
        { t with
          delivered := insert tag t.delivered
          rejected := t.rejected ++ [tag] } := by
      simp [record, note, henvelope, ackedTags, rejectedTags, ServiceEffect.acked?,
        ServiceEffect.rejected?]
    rw [hrejects, rejectDelivery_unknown h hchannel hinvalid, hrecord]
    exact inv_rejected h hsome hinvalid

/-- A delivery acknowledges nothing. -/
theorem onReceived_ackedTags (message : Message) (delivery : Delivery) (s : MqService) :
    ackedTags (s.onReceived {} message delivery).2 = [] := by
  cases henvelope : message.envelope? with
  | some envelope =>
    rw [onReceived_valid henvelope]
    rfl
  | none =>
    obtain ⟨reason, hrejects⟩ := onReceived_invalid henvelope {} delivery s
    rw [hrejects, ackedTags, (rejectDelivery_quiet {} delivery.tag reason s).acked]
    rfl

/-! ### Every run -/

/-- Every event keeps the invariant. -/
theorem inv_next (h : Inv t) {e : ChannelEvent} (henabled : t.Enabled e) :
    Inv ((machine order).next t e) := by
  cases e with
  | startConsuming => exact inv_leaves h (startConsuming_leaves _ _)
  | pauseConsuming paused =>
    cases paused with
    | true => exact inv_pause order h
    | false => exact inv_resume h
  | confirmInserted deliveryTag => exact inv_confirmInserted h deliveryTag
  | delivered message deliveryTag =>
    obtain ⟨channel, hchannel⟩ := Option.isSome_iff_exists.mp henabled.1
    have hhandle : t.service.handle order (.delivered message deliveryTag) =
        t.service.onReceived {} message ⟨channel.number, deliveryTag⟩ := by
      rw [handle, hchannel]
    change Inv ((t.note _).record (t.service.handle order (.delivered message deliveryTag)))
    rw [hhandle]
    exact inv_delivered h hchannel henabled.2
  | consumeOk consumerTag => exact inv_leaves h (onConsumeSuccess_leaves _ _)
  | cancelOk => exact inv_leaves h (onCancelSuccess_leaves _ _)
  | consumerCancelled => exact inv_leaves h (onConsumerCancelled_leaves _ _)

/-- What an event acknowledges is confirmed, and there is no pause. -/
theorem Inv.acks (h : Inv t) (e : ChannelEvent) :
    ∀ tag ∈ ackedTags (t.service.handle order e).2,
      tag ∈ ((machine order).next t e).confirmed ∧
        ((machine order).next t e).service.paused = false := by
  intro tag htag
  have hnothing : ∀ effects, ackedTags effects = [] → tag ∉ ackedTags effects :=
    fun effects hnil hmem => by simp [hnil] at hmem
  cases e with
  | startConsuming => exact absurd htag (hnothing _ (startConsuming_leaves _ _).acked)
  | pauseConsuming paused =>
    cases paused with
    | true => exact absurd htag (hnothing _ (cancelConsumer_leaves _).acked)
    | false =>
      obtain ⟨hacked, hpaused⟩ := h.resume_acked order
      refine ⟨?_, hpaused⟩
      change tag ∈ ackedTags (t.service.pauseConsuming order {} false).2 at htag
      rw [hacked, order.mem_toList] at htag
      exact h.committed_confirmed htag
  | confirmInserted deliveryTag =>
    obtain ⟨rfl, hpaused⟩ := confirmInserted_ackedTags htag
    exact ⟨Finset.mem_insert_self _ _, hpaused⟩
  | delivered message deliveryTag =>
    refine absurd htag (hnothing _ ?_)
    rw [handle]
    split
    · rfl
    · exact onReceived_ackedTags _ _ _
  | consumeOk consumerTag => exact absurd htag (hnothing _ (onConsumeSuccess_leaves _ _).acked)
  | cancelOk => exact absurd htag (hnothing _ (onCancelSuccess_leaves _ _).acked)
  | consumerCancelled => exact absurd htag (hnothing _ (onConsumerCancelled_leaves _ _).acked)

/-- Where the invariant holds, a step settles the confirmations that came after a valid delivery. -/
theorem Inv.settles (h : Inv t) {e : ChannelEvent} (henabled : t.Enabled e) :
    Settles Tally.due order t e := by
  have hnext : Inv ((machine order).next t e) := inv_next h henabled
  refine ⟨hnext.inOrder, h.acks e, ?_⟩
  rintro rfl tag htag
  have hpaused : ((machine order).next t (.pauseConsuming false)).service.paused = false :=
    (h.resume_acked order).2
  refine (hnext.due tag htag).resolve_right ?_
  rw [hnext.unpaused hpaused]
  exact Finset.notMem_empty tag

/-- **Every delivery is accounted for.** In every run on one channel what is committed is
pending, no tag is acknowledged twice or acknowledged and rejected, pending is what
was validly delivered and not acknowledged, nothing is acknowledged that was not
confirmed or during a pause, and after a pause every tag that was confirmed since
its valid delivery is acknowledged. -/
theorem settles_due (order : IterationOrder) (events : List ChannelEvent)
    (henabled : (machine order).EachStep Enabled {} events) :
    (machine order).EachStep (Settles due order) {} events :=
  Mealy.eachStep_of_invariant (fun _ _ h hA => inv_next h hA) (fun _ _ h hA => h.settles hA)
    inv_init henabled

/-- A message with an envelope. -/
def cardIssued (id : QString) : Message :=
  ⟨10, some ⟨id, "2026-01-01T00:00:00.000Z", "card.issued", "{}"⟩, false⟩

/-- A run with a pause: one delivery is confirmed before it, one during it, one never,
and one is undecodable. -/
theorem pausedRun_settles :
    (machine .increasing).EachStep (Settles due .increasing) {}
      [.startConsuming, .consumeOk "consumer-1", .delivered (cardIssued "a") 1,
        .delivered (cardIssued "b") 2, .confirmInserted 1, .pauseConsuming true,
        .delivered ⟨10, none, false⟩ 3, .delivered (cardIssued "c") 4,
        .confirmInserted 2, .cancelOk, .pauseConsuming false] :=
  settles_due .increasing _ (by decide +kernel)

/-- A tag is confirmed before it is delivered. -/
def earlyConfirmationRun : List ChannelEvent :=
  [.startConsuming, .confirmInserted 1, .delivered (cardIssued "a") 1,
    .pauseConsuming false]

/-- The confirmation was ignored, so the tag is left. -/
theorem earlyConfirmationRun_unsettled :
    ¬ ∀ order events, (machine order).EachStep Enabled {} events →
      (machine order).EachStep (Settles confirmed order) {} events := by
  intro h
  obtain ⟨_, _, _, hlast, _⟩ := h .increasing earlyConfirmationRun (by decide +kernel)
  exact absurd (hlast.resumed rfl 1 (by decide +kernel)) (by decide +kernel)

end Tally

end QtAppBase.Mq
