import QtAppBase.Mq.Deliveries

/-!
# The consumer of a channel

`MqService` follows its consumer with four members: two flags for requests under
way, a flag for the consumer, and its tag. The first part of this file says what
they amount to, an automaton with four states, and shows that the service follows
it. The second part connects the service with a broker that handles its requests
in their order and cancels consumers when it likes.
-/

namespace QtAppBase.Mq

open Library Qt

/-- What the service asks of the broker about its consumer. -/
inductive Request where
  | consume
  | cancel (consumerTag : QString)
  deriving DecidableEq, Repr

/-- What the broker tells: a reply, or that it cancelled the consumer. -/
inductive Notice where
  | consumeOk (consumerTag : QString)
  | cancelOk
  | cancelled
  deriving DecidableEq, Repr

/-- The broker's reply to a request; a new consumer gets the tag. -/
def Request.reply (consumerTag : QString) : Request → Notice
  | .consume => .consumeOk consumerTag
  | .cancel _ => .cancelOk

/-- The consumers after a request. A consumer that is gone is cancelled all the same. -/
def Request.served (consumerTag : QString) (consumers : List QString) : Request → List QString
  | .consume => consumers ++ [consumerTag]
  | .cancel cancelled => consumers.erase cancelled

/-- A notice is the reply to a request. -/
def Notice.isReply : Notice → Bool
  | .consumeOk _ | .cancelOk => true
  | .cancelled => false

/-- A notice is the reply to a request for a consumer. -/
def Notice.isConsumeOk : Notice → Bool
  | .consumeOk _ => true
  | _ => false

/-- The callback for a notice. -/
def Notice.event : Notice → ChannelEvent
  | .consumeOk consumerTag => .consumeOk consumerTag
  | .cancelOk => .cancelOk
  | .cancelled => .consumerCancelled

/-- The request that an effect makes. -/
def ServiceEffect.request? : ServiceEffect → Option Request
  | .consume .. => some .consume
  | .cancel _ consumerTag => some (.cancel consumerTag)
  | _ => none

/-- The requests among the effects. -/
def requestsOf (effects : List ServiceEffect) : List Request :=
  effects.filterMap ServiceEffect.request?

theorem requestsOf_append (effects effects' : List ServiceEffect) :
    requestsOf (effects ++ effects') = requestsOf effects ++ requestsOf effects' :=
  List.filterMap_append ..

/-! ### The automaton -/

/-- What the service knows about its consumer. -/
inductive View where
  | idle
  | starting
  | active (consumerTag : QString)
  | cancelling (consumerTag : QString)
  deriving DecidableEq, Repr

/-- The members that say so. -/
structure ConsumerMembers where
  consumerStarting : Bool := false
  consuming : Bool := false
  cancelPending : Bool := false
  consumerTag : QString := ""

namespace View

/-- How the members say it. -/
def members : View → ConsumerMembers
  | .idle => {}
  | .starting => { consumerStarting := true }
  | .active consumerTag => { consuming := true, consumerTag := consumerTag }
  | .cancelling consumerTag =>
    { consuming := true, cancelPending := true, consumerTag := consumerTag }

/-- The broker gives tags that are not empty. -/
def Named : View → Prop
  | .active consumerTag | .cancelling consumerTag => consumerTag ≠ ""
  | _ => True

/-- Outside a pause an idle service asks for a consumer. -/
def wake (paused : Bool) : View → View × List Request
  | .idle => if paused then (.idle, []) else (.starting, [.consume])
  | v => (v, [])

/-- An active consumer is cancelled. -/
def halt : View → View × List Request
  | .active consumerTag => (.cancelling consumerTag, [.cancel consumerTag])
  | v => (v, [])

/-- What a notice leads to. A consumer that starts in a pause is cancelled, and after
the end of one a new consumer is asked for, unless one is starting already. -/
def react (paused : Bool) : Notice → View → View × List Request
  | .consumeOk consumerTag, _ =>
    if paused then halt (.active consumerTag) else (.active consumerTag, [])
  | .cancelOk, .starting => (.starting, [])
  | .cancelOk, _ => wake paused .idle
  | .cancelled, _ => wake paused .idle

end View

namespace MqService

variable {s d : MqService} {v : View}

def consumerMembers (s : MqService) : ConsumerMembers where
  consumerStarting := s.consumerStarting
  consuming := s.consuming
  cancelPending := s.cancelPending
  consumerTag := s.consumerTag

/-- The service is in a state of the automaton, and unless it is idle it has a channel. -/
structure Shows (s : MqService) (v : View) : Prop where
  members : s.consumerMembers = v.members
  named : v.Named
  channel : v ≠ .idle → s.channel.isSome = true

/-- An operation does what the automaton says. -/
structure Follows (paused : Bool) (r : Reaction MqService ServiceEffect)
    (w : View × List Request) : Prop where
  shows : Shows r.1 w.1
  paused : r.1.paused = paused
  requests : requestsOf r.2 = w.2

/-- Nothing happens. -/
theorem Shows.stays (h : Shows s v) : Follows s.paused (s, []) (v, []) := ⟨h, rfl, rfl⟩

/-- Members of the consumer decide, and the channel. -/
theorem Shows.of_same (h : Shows s v) (hmembers : d.consumerMembers = s.consumerMembers)
    (hchannel : d.channel = s.channel) : Shows d v := by
  refine ⟨hmembers.trans h.members, h.named, ?_⟩
  rw [hchannel]
  exact h.channel

/-- While there is a connection there is a channel to use. -/
theorem ensureChannel_ok (s : MqService) : ∃ channel d, s.ensureChannel {} = .ok (channel, d) ∧
    d.channel.isSome = true ∧ d.paused = s.paused ∧ d.consumerMembers = s.consumerMembers := by
  unfold ensureChannel
  split
  · next channel hchannel => exact ⟨channel, s, rfl, by rw [hchannel]; rfl, rfl, rfl⟩
  · exact ⟨_, _, if_pos rfl, rfl, rfl, rfl⟩

theorem startConsuming_follows (h : Shows s v) :
    Follows s.paused (s.startConsuming {}).2 (v.wake s.paused) := by
  have hstarting := congrArg ConsumerMembers.consumerStarting h.members
  have hconsuming := congrArg ConsumerMembers.consuming h.members
  change s.consumerStarting = _ at hstarting
  change s.consuming = _ at hconsuming
  have hskipped : s.paused = true ∨ v ≠ .idle →
      (s.startConsuming {}).2 = (s, []) ∧ v.wake s.paused = (v, []) := by
    intro hidle
    unfold startConsuming
    rw [hstarting, hconsuming]
    cases v <;> cases hpaused : s.paused <;> simp_all [View.members, View.wake]
  by_cases hidle : s.paused = true ∨ v ≠ .idle
  · rw [(hskipped hidle).1, (hskipped hidle).2]
    exact h.stays
  · obtain ⟨hpaused, rfl⟩ : s.paused = false ∧ v = .idle := by simpa using hidle
    obtain ⟨channel, d, hensured, hchannel, hsame, hmembers⟩ := ensureChannel_ok s
    have hstarted : (s.startConsuming {}).2 =
        ({ d with consumerStarting := true },
          [.setQos channel.number 10, .consume channel.number kQueue]) := by
      unfold startConsuming
      rw [hpaused, hstarting, hconsuming, hensured]
      rfl
    rw [hstarted, hpaused]
    have hview := hmembers.trans h.members
    simp only [consumerMembers, View.members, ConsumerMembers.mk.injEq] at hview
    obtain ⟨_, hconsuming, hpending, htag⟩ := hview
    refine ⟨⟨?_, trivial, fun _ => hchannel⟩, hsame.trans hpaused, rfl⟩
    simp [consumerMembers, View.members, View.wake, hconsuming, hpending, htag]

theorem cancelConsumer_follows (h : Shows s v) :
    Follows s.paused s.cancelConsumer v.halt := by
  have hmembers := h.members
  simp only [consumerMembers] at hmembers
  cases v with
  | active consumerTag =>
    obtain ⟨channel, hchannel⟩ := Option.isSome_iff_exists.mp (h.channel (by simp))
    simp only [View.members, ConsumerMembers.mk.injEq] at hmembers
    obtain ⟨hstarting, hconsuming, hpending, htag⟩ := hmembers
    have hcancelled : s.cancelConsumer =
        ({ s with cancelPending := true }, [.cancel channel.number consumerTag]) := by
      have hnonempty : consumerTag ≠ "" := h.named
      have hnamed : ¬ (consumerTag = "" ∨ false = true) := by simpa using hnonempty
      unfold cancelConsumer
      split
      · next hnone => exact absurd (hnone.symm.trans hchannel) (by simp)
      · next other hother =>
        obtain rfl : channel = other := Option.some.inj (hchannel.symm.trans hother)
        rw [htag, hpending, if_neg hnamed]
    rw [hcancelled]
    refine ⟨⟨?_, h.named, fun _ => h.channel (by simp)⟩, rfl, rfl⟩
    simp [consumerMembers, View.members, View.halt, hstarting, hconsuming, htag]
  | idle | starting | cancelling consumerTag =>
    have hskipped : s.cancelConsumer = (s, []) := by
      simp only [View.members, ConsumerMembers.mk.injEq] at hmembers
      unfold cancelConsumer
      split
      · rfl
      · rw [if_pos (by simp [hmembers])]
    rw [hskipped]
    exact h.stays

/-- A pause cancels the consumer. -/
theorem pauseConsuming_true_follows (order : IterationOrder) (h : Shows s v) :
    Follows true (s.pauseConsuming order {} true) v.halt :=
  cancelConsumer_follows (s := { s with paused := true }) (h.of_same rfl rfl)

/-- Confirmations do not touch the consumer. -/
theorem confirmInserted_stays (amqp : AmqpAnswers) (tag : ℕ) (s : MqService) :
    (s.confirmInserted amqp tag).1.consumerMembers = s.consumerMembers ∧
      (s.confirmInserted amqp tag).1.channel = s.channel ∧
      (s.confirmInserted amqp tag).1.paused = s.paused ∧
      requestsOf (s.confirmInserted amqp tag).2 = [] := by
  cases confirmInserted_confirmed amqp tag s with
  | unknown hpending result | deferred hpending hpaused result
  | acked channel hchannel hpending hpaused hack result | refused hrefused result =>
    rw [result]
    exact ⟨rfl, rfl, rfl, rfl⟩

theorem confirmAll_stays (amqp : AmqpAnswers) (tags : List ℕ) (s : MqService) :
    (s.confirmAll amqp tags).1.consumerMembers = s.consumerMembers ∧
      (s.confirmAll amqp tags).1.channel = s.channel ∧
      (s.confirmAll amqp tags).1.paused = s.paused ∧
      requestsOf (s.confirmAll amqp tags).2 = [] := by
  induction tags generalizing s with
  | nil => exact ⟨rfl, rfl, rfl, rfl⟩
  | cons tag rest ih =>
    obtain ⟨hmembers, hchannel, hpaused, hrequests⟩ := confirmInserted_stays amqp tag s
    obtain ⟨hmembers', hchannel', hpaused', hrequests'⟩ := ih (s.confirmInserted amqp tag).1
    refine ⟨hmembers'.trans hmembers, hchannel'.trans hchannel, hpaused'.trans hpaused, ?_⟩
    rw [confirmAll, Reaction.andThen_snd, requestsOf_append, hrequests, hrequests', List.append_nil]

/-- The end of a pause asks for a consumer. -/
theorem pauseConsuming_false_follows (order : IterationOrder) (h : Shows s v) :
    Follows false (s.pauseConsuming order {} false) (v.wake false) := by
  obtain ⟨hmembers, hchannel, hpaused, hrequests⟩ :=
    confirmAll_stays {} (order.toList s.committedDeliveries) { s with paused := false }
  rw [pauseConsuming_false]
  generalize confirmAll {} (order.toList s.committedDeliveries) { s with paused := false } = r at *
  have hshows : Shows r.1 v := h.of_same hmembers hchannel
  have hstart := startConsuming_follows hshows
  rw [hpaused] at hstart
  -- the guard of the call repeats what `startConsuming` checks, but for a pending cancellation
  have hguard : (if !r.1.consuming && !r.1.cancelPending then (r.1.startConsuming {}).2
      else (r.1, [])) = (r.1.startConsuming {}).2 := by
    split_ifs with hidle
    · rfl
    · have hconsuming := congrArg ConsumerMembers.consuming hshows.members
      have hpending := congrArg ConsumerMembers.cancelPending hshows.members
      change r.1.consuming = _ at hconsuming
      change r.1.cancelPending = _ at hpending
      have hbusy : r.1.consuming = true := by
        rw [hconsuming, hpending] at hidle
        rw [hconsuming]
        cases v <;> simp_all [View.members]
      simp [startConsuming, hbusy]
  refine ⟨?_, ?_, ?_⟩
  · rw [Reaction.andThen_fst, hguard]
    exact hstart.shows
  · rw [Reaction.andThen_fst, hguard]
    exact hstart.paused
  · rw [Reaction.andThen_snd, requestsOf_append, hrequests, hguard]
    exact hstart.requests

/-- The notice that the consumer is there. -/
theorem onConsumeSuccess_follows {consumerTag : QString} (htag : consumerTag ≠ "")
    (h : Shows s .starting) :
    Follows s.paused (s.onConsumeSuccess consumerTag)
      (View.react s.paused (.consumeOk consumerTag) .starting) := by
  have hpending := congrArg ConsumerMembers.cancelPending h.members
  change s.cancelPending = false at hpending
  have hactive : Shows { s with
      consumerStarting := false
      consuming := true
      consumerTag := consumerTag } (.active consumerTag) := by
    refine ⟨?_, htag, fun _ => h.channel (by simp)⟩
    simp [consumerMembers, View.members, hpending]
  unfold onConsumeSuccess View.react
  dsimp only
  split_ifs with hpaused
  · exact cancelConsumer_follows hactive
  · exact hactive.stays

/-- The restart behind a notice. -/
theorem restart_follows (h : Shows s v) :
    Follows s.paused (if !s.paused then (s.startConsuming {}).2 else (s, []))
      (v.wake s.paused) := by
  cases hpaused : s.paused with
  | false =>
    have hstart := startConsuming_follows h
    rw [hpaused] at hstart
    exact hstart
  | true =>
    have hstays := h.stays
    rw [hpaused] at hstays
    cases v <;> exact hstays

/-- The reply to a cancellation. -/
theorem onCancelSuccess_follows (h : Shows s v) :
    Follows s.paused (s.onCancelSuccess {}) (View.react s.paused .cancelOk v) := by
  let d : MqService := { s with cancelPending := false, consuming := false, consumerTag := "" }
  have hstarting := congrArg ConsumerMembers.consumerStarting h.members
  change s.consumerStarting = _ at hstarting
  cases v with
  | starting =>
    have hshows : Shows d .starting := by
      refine ⟨?_, trivial, fun _ => h.channel (by simp)⟩
      simp [d, consumerMembers, View.members, hstarting]
    exact restart_follows hshows
  | idle | active _ | cancelling _ =>
    have hshows : Shows d .idle := by
      refine ⟨?_, trivial, fun hne => absurd rfl hne⟩
      simp [d, consumerMembers, View.members, hstarting]
    exact restart_follows hshows

/-- The broker cancelled the consumer. -/
theorem onConsumerCancelled_follows (s : MqService) (v : View) :
    Follows s.paused (s.onConsumerCancelled {}) (View.react s.paused .cancelled v) := by
  let d : MqService :=
    { s with
      consumerStarting := false
      consuming := false
      cancelPending := false
      consumerTag := "" }
  have hshows : Shows d .idle := ⟨rfl, trivial, fun hne => absurd rfl hne⟩
  exact restart_follows hshows

/-- A delivery does not touch the consumer. -/
theorem delivered_stays (order : IterationOrder) (message : Message) (deliveryTag : ℕ)
    (s : MqService) :
    (s.handle order (.delivered message deliveryTag)).1.consumerMembers = s.consumerMembers ∧
      (s.handle order (.delivered message deliveryTag)).1.channel = s.channel ∧
      (s.handle order (.delivered message deliveryTag)).1.paused = s.paused ∧
      requestsOf (s.handle order (.delivered message deliveryTag)).2 = [] := by
  rw [handle]
  split
  · exact ⟨rfl, rfl, rfl, rfl⟩
  · next channel hchannel =>
    cases henvelope : message.envelope? with
    | some envelope =>
      rw [onReceived_valid henvelope]
      exact ⟨rfl, rfl, rfl, rfl⟩
    | none =>
      obtain ⟨reason, hrejects⟩ := onReceived_invalid henvelope {} ⟨channel.number, deliveryTag⟩ s
      rw [hrejects]
      unfold rejectDelivery
      split
      · exact ⟨rfl, rfl, rfl, rfl⟩
      · exact ⟨rfl, rfl, rfl, rfl⟩

end MqService

/-! ### The service and its broker -/

/-- The service with the broker at the other end of its channel. -/
structure Session where
  service : MqService := {}
  /-- Requests that the broker has not handled, oldest first. -/
  requests : List Request := []
  /-- The consumers of the channel. -/
  consumers : List QString := []
  /-- What the broker said and the service has not seen, oldest first. -/
  notices : List Notice := []
  /-- `startConsuming` was called. -/
  started : Bool := false

/-- What happens: a call or a delivery, the broker handles a request or cancels a
consumer, and the service sees a notice. A new consumer gets the tag that comes
with its event. -/
inductive SessionEvent where
  | call (e : ChannelEvent)
  | serve (consumerTag : QString)
  | serverCancel (consumerTag : QString)
  | receive
  deriving DecidableEq

namespace Session

open MqService

/-- The service does something. -/
def act (t : Session) (r : Reaction MqService ServiceEffect) : Session :=
  { t with service := r.1, requests := t.requests ++ requestsOf r.2 }

/-- The broker handles its oldest request. -/
def serve (consumerTag : QString) (t : Session) : Session :=
  match t.requests with
  | [] => t
  | request :: rest =>
    { t with
      requests := rest
      consumers := request.served consumerTag t.consumers
      notices := t.notices ++ [request.reply consumerTag] }

/-- One event. -/
def next (order : IterationOrder) (t : Session) : SessionEvent → Session
  | .call e =>
    { t.act (t.service.handle order e) with started := t.started || e = .startConsuming }
  | .serve consumerTag => t.serve consumerTag
  | .serverCancel consumerTag =>
    { t with
      consumers := t.consumers.erase consumerTag
      notices := t.notices ++ [.cancelled] }
  | .receive =>
    match t.notices with
    | [] => t
    | notice :: rest => act { t with notices := rest } (t.service.handle order notice.event)

/-- The machine of both. -/
def machine (order : IterationOrder) : Mealy Session SessionEvent ServiceEffect :=
  ⟨fun t e => .silently (t.next order e)⟩

/-- Notices come from the broker only; consumers have tags that are not empty; the
broker cancels consumers there are. -/
def Enabled (t : Session) : SessionEvent → Prop
  | .call (.consumeOk _) | .call .cancelOk | .call .consumerCancelled => False
  | .call _ => True
  | .serve consumerTag => t.requests ≠ [] ∧ consumerTag ≠ ""
  | .serverCancel consumerTag => consumerTag ∈ t.consumers
  | .receive => t.notices ≠ []

instance (t : Session) (e : SessionEvent) : Decidable (t.Enabled e) := by
  unfold Enabled
  split <;> infer_instance

/-- No reply is outstanding. -/
def Replied (t : Session) : Prop := t.requests = [] ∧ ∀ notice ∈ t.notices, notice.isReply = false

/-- There is one consumer at most, and in the end there is one unless there is a pause. -/
structure OneConsumer (t : Session) : Prop where
  /-- A request for a consumer is under way, or there is a consumer, but not two of these. -/
  atMostOne : t.requests.count .consume + t.consumers.length ≤ 1
  /-- At most one request for a consumer is unanswered. -/
  unanswered : t.requests.count .consume + t.notices.countP Notice.isConsumeOk ≤ 1
  /-- Once started, and with no reply outstanding, the service consumes unless it is paused. -/
  converged : t.started = true → t.Replied →
    (t.service.consuming = true ↔ t.service.paused = false)

/-- A cancellation that the service no longer waits for: its consumer was cancelled by
the broker before. -/
inductive Stale : List Request → List Notice → Prop
  | nothing : Stale [] []
  | requested (consumerTag : QString) : Stale [.cancel consumerTag] []
  | answered : Stale [] [.cancelOk]

/-- A consumer is there, or the broker cancelled it and said so. -/
inductive Fate (consumerTag : QString) : List QString → List Notice → Prop
  | alive : Fate consumerTag [consumerTag] []
  | cancelled : Fate consumerTag [] [.cancelled]

/-- What is under way between the service and the broker, for each state of the automaton. -/
inductive Phase : View → List Request → List QString → List Notice → Prop
  | idle {requests notices} (hstale : Stale requests notices) : Phase .idle requests [] notices
  | requested {requests notices} (hstale : Stale requests notices) :
    Phase .starting (requests ++ [.consume]) [] notices
  | answered {stale consumers notices} {consumerTag : QString} (htag : consumerTag ≠ "")
    (hstale : Stale [] stale) (hfate : Fate consumerTag consumers notices) :
    Phase .starting [] consumers (stale ++ .consumeOk consumerTag :: notices)
  | active {consumerTag consumers notices} (hfate : Fate consumerTag consumers notices) :
    Phase (.active consumerTag) [] consumers notices
  | cancelling {consumerTag consumers notices} (hfate : Fate consumerTag consumers notices) :
    Phase (.cancelling consumerTag) [.cancel consumerTag] consumers notices
  | released {consumerTag notices} (hcancelled : notices = [] ∨ notices = [.cancelled]) :
    Phase (.cancelling consumerTag) [] [] (notices ++ [.cancelOk])

/-- The invariant. -/
structure Inv (t : Session) (v : View) : Prop where
  shows : Shows t.service v
  phase : Phase v t.requests t.consumers t.notices
  /-- The service is idle in a pause, or was never started. -/
  idle : v = .idle → t.service.paused = true ∨ t.started = false
  /-- A consumer is not left active in a pause. -/
  active : ∀ consumerTag, v = .active consumerTag → t.service.paused = false

variable {t : Session} {v w : View} {requests sent : List Request} {consumers : List QString}
  {notices : List Notice} {order : IterationOrder}

/-- A fresh service and its broker. -/
theorem inv_init : Inv {} .idle :=
  ⟨⟨rfl, trivial, fun hne => absurd rfl hne⟩, .idle .nothing, fun _ => Or.inr rfl,
    fun _ h => View.noConfusion h⟩

/-! ### The automaton and the broker -/

/-- Asking for a consumer. -/
theorem Phase.wake (h : Phase v requests consumers notices) (paused : Bool) :
    Phase (v.wake paused).1 (requests ++ (v.wake paused).2) consumers notices := by
  have hstays : v.wake paused = (v, []) →
      Phase (v.wake paused).1 (requests ++ (v.wake paused).2) consumers notices := by
    intro hsame
    rw [hsame, List.append_nil]
    exact h
  cases h with
  | idle hstale =>
    cases paused with
    | true => exact hstays rfl
    | false => exact .requested hstale
  | requested hstale => exact hstays rfl
  | answered htag hstale hfate => exact hstays rfl
  | active hfate => exact hstays rfl
  | cancelling hfate => exact hstays rfl
  | released hcancelled => exact hstays rfl

/-- Cancelling a consumer. -/
theorem Phase.halt (h : Phase v requests consumers notices) :
    Phase v.halt.1 (requests ++ v.halt.2) consumers notices := by
  have hstays : v.halt = (v, []) → Phase v.halt.1 (requests ++ v.halt.2) consumers notices := by
    intro hsame
    rw [hsame, List.append_nil]
    exact h
  cases h with
  | active hfate => exact .cancelling hfate
  | idle hstale => exact hstays rfl
  | requested hstale => exact hstays rfl
  | answered htag hstale hfate => exact hstays rfl
  | cancelling hfate => exact hstays rfl
  | released hcancelled => exact hstays rfl

/-- The broker handles a request. -/
theorem Phase.serve {request : Request} {rest : List Request} {consumerTag : QString}
    (h : Phase v (request :: rest) consumers notices) (htag : consumerTag ≠ "") :
    Phase v rest (request.served consumerTag consumers)
      (notices ++ [request.reply consumerTag]) := by
  generalize hrequests : request :: rest = requests at h
  cases h with
  | idle hstale =>
    cases hstale with
    | requested cancelled =>
      cases hrequests
      exact .idle .answered
    | nothing | answered => cases hrequests
  | requested hstale =>
    cases hstale with
    | nothing =>
      cases hrequests
      exact .answered htag .nothing .alive
    | requested cancelled =>
      cases hrequests
      change Phase .starting ([] ++ [.consume]) [] [.cancelOk]
      exact .requested .answered
    | answered =>
      cases hrequests
      exact .answered htag .answered .alive
  | answered htag hstale hfate => cases hrequests
  | active hfate => cases hrequests
  | cancelling hfate =>
    cases hrequests
    cases hfate with
    | alive => simpa [Request.served, Request.reply] using Phase.released (Or.inl rfl)
    | cancelled => exact .released (Or.inr rfl)
  | released hcancelled => cases hrequests

/-- The broker cancels a consumer. -/
theorem Phase.serverCancel {consumerTag : QString} (h : Phase v requests consumers notices)
    (hmem : consumerTag ∈ consumers) :
    Phase v requests (consumers.erase consumerTag) (notices ++ [.cancelled]) := by
  have hfate : ∀ {tag : QString} {notices : List Notice}, Fate tag consumers notices →
      Fate tag (consumers.erase consumerTag) (notices ++ [.cancelled]) := by
    intro tag notices hfate
    cases hfate with
    | alive =>
      obtain rfl := List.mem_singleton.mp hmem
      simpa using Fate.cancelled
    | cancelled => cases hmem
  cases h with
  | answered htag hstale hbefore => simpa using Phase.answered htag hstale (hfate hbefore)
  | active hbefore => exact .active (hfate hbefore)
  | cancelling hbefore => exact .cancelling (hfate hbefore)
  | idle hstale => cases hmem
  | requested hstale => cases hmem
  | released hcancelled => cases hmem

/-- Waking up an idle service after a notice. -/
theorem Phase.woken (hstale : Stale requests notices) (paused : Bool) :
    Phase (View.wake paused .idle).1 (requests ++ (View.wake paused .idle).2) [] notices :=
  (Phase.idle hstale).wake paused

/-- The service sees a notice. -/
theorem Phase.receive {notice : Notice} {rest : List Notice}
    (h : Phase v requests consumers (notice :: rest)) (paused : Bool) :
    Phase (v.react paused notice).1 (requests ++ (v.react paused notice).2) consumers rest := by
  generalize hnotices : notice :: rest = notices at h
  cases h with
  | idle hstale =>
    cases hstale with
    | answered =>
      cases hnotices
      exact Phase.woken .nothing paused
    | nothing | requested _ => cases hnotices
  | requested hstale =>
    cases hstale with
    | answered =>
      cases hnotices
      change Phase .starting (([] ++ [.consume]) ++ []) [] []
      rw [List.append_nil]
      exact .requested .nothing
    | nothing | requested _ => cases hnotices
  | answered htag hstale hfate =>
    cases hstale with
    | nothing =>
      cases hnotices
      have hactive := Phase.active hfate
      cases paused with
      | true => exact hactive.halt
      | false => exact hactive
    | answered =>
      cases hnotices
      exact .answered htag .nothing hfate
  | active hfate =>
    cases hfate with
    | cancelled =>
      cases hnotices
      exact Phase.woken .nothing paused
    | alive => cases hnotices
  | cancelling hfate =>
    cases hfate with
    | cancelled =>
      cases hnotices
      exact Phase.woken (.requested _) paused
    | alive => cases hnotices
  | released hcancelled =>
    rcases hcancelled with rfl | rfl
    · cases hnotices
      exact Phase.woken .nothing paused
    · cases hnotices
      exact Phase.woken .answered paused

/-! ### Every run -/

/-- A call of the service, or a callback, is a step of the automaton. -/
theorem inv_act {r : Reaction MqService ServiceEffect} {paused : Bool} {w : View × List Request}
    (hphase : Phase w.1 (t.requests ++ w.2) t.consumers t.notices) (hfollows : Follows paused r w)
    (hidle : w.1 = .idle → paused = true ∨ t.started = false)
    (hactive : ∀ consumerTag, w.1 = .active consumerTag → paused = false) : Inv (t.act r) w.1 := by
  refine ⟨hfollows.shows, ?_, ?_, ?_⟩
  · rw [← hfollows.requests] at hphase
    exact hphase
  · intro hview
    exact (hidle hview).imp_left hfollows.paused.trans
  · intro consumerTag hview
    exact hfollows.paused.trans (hactive consumerTag hview)

/-- What is idle after waking up is paused. -/
theorem wake_idle {paused : Bool} (h : (v.wake paused).1 = .idle) : paused = true := by
  cases v with
  | idle =>
    cases paused with
    | true => rfl
    | false => cases h
  | starting | active _ | cancelling _ => cases h

/-- Waking up makes nothing active. -/
theorem wake_active {paused : Bool} {consumerTag : QString}
    (h : (v.wake paused).1 = .active consumerTag) : v = .active consumerTag := by
  cases v with
  | idle => cases paused <;> cases h
  | starting | active _ | cancelling _ => exact h

theorem halt_active {consumerTag : QString} : v.halt.1 ≠ .active consumerTag := by
  cases v <;> exact View.noConfusion

/-- After a notice, too, what is idle is paused and what is active is not. -/
theorem react_idle {paused : Bool} {notice : Notice} (h : (v.react paused notice).1 = .idle) :
    paused = true := by
  cases notice with
  | consumeOk consumerTag => cases paused <;> cases h
  | cancelOk =>
    cases v with
    | starting => cases h
    | idle | active _ | cancelling _ => exact wake_idle h
  | cancelled => exact wake_idle h

theorem react_active {paused : Bool} {notice : Notice} {consumerTag : QString}
    (h : (v.react paused notice).1 = .active consumerTag) : paused = false := by
  cases notice with
  | consumeOk tag =>
    cases paused with
    | true => cases h
    | false => rfl
  | cancelOk =>
    cases v with
    | starting => cases h
    | idle | active _ | cancelling _ => cases wake_active h
  | cancelled => cases wake_active h

/-- The service sees a notice as the automaton does. -/
theorem Inv.notice_follows {notice : Notice} {rest : List Notice} (h : Inv t v)
    (hnotices : t.notices = notice :: rest) :
    Follows t.service.paused (t.service.handle order notice.event)
      (v.react t.service.paused notice) := by
  cases notice with
  | consumeOk consumerTag =>
    -- only a starting service is told of its consumer
    obtain ⟨rfl, htag⟩ : v = .starting ∧ consumerTag ≠ "" := by
      have hphase := h.phase
      rw [hnotices] at hphase
      generalize hlist : Notice.consumeOk consumerTag :: rest = notices at hphase
      generalize t.requests = requests at hphase
      generalize t.consumers = consumers at hphase
      cases hphase with
      | answered htag hstale hfate =>
        cases hstale with
        | nothing =>
          cases hlist
          exact ⟨rfl, htag⟩
        | answered => cases hlist
      | idle hstale => cases hstale <;> cases hlist
      | requested hstale => cases hstale <;> cases hlist
      | active hfate => cases hfate <;> cases hlist
      | cancelling hfate => cases hfate <;> cases hlist
      | released hcancelled => rcases hcancelled with rfl | rfl <;> cases hlist
    exact onConsumeSuccess_follows htag h.shows
  | cancelOk => exact onCancelSuccess_follows h.shows
  | cancelled => exact onConsumerCancelled_follows _ _

/-- What does not touch the consumer keeps the invariant. -/
theorem inv_stays {r : Reaction MqService ServiceEffect} (h : Inv t v)
    (hstays : r.1.consumerMembers = t.service.consumerMembers ∧
      r.1.channel = t.service.channel ∧ r.1.paused = t.service.paused ∧ requestsOf r.2 = []) :
    Inv (t.act r) v := by
  obtain ⟨hmembers, hchannel, hpaused, hrequests⟩ := hstays
  have hphase := h.phase
  rw [← List.append_nil t.requests] at hphase
  exact inv_act (w := (v, [])) hphase ⟨h.shows.of_same hmembers hchannel, hpaused, hrequests⟩
    h.idle h.active

/-- Only a call of `startConsuming` starts the service. -/
theorem next_call {e : ChannelEvent} (he : e ≠ .startConsuming) :
    (machine order).next t (.call e) = t.act (t.service.handle order e) := by
  simp [Mealy.next, machine, next, act, he]

/-- Every event keeps the invariant. -/
theorem inv_next (h : Inv t v) {e : SessionEvent} (henabled : t.Enabled e) :
    ∃ w, Inv ((machine order).next t e) w := by
  cases e with
  | call e =>
    cases e with
    | startConsuming =>
      exact ⟨_, inv_act (t := { t with started := t.started || true }) (h.phase.wake _)
        (startConsuming_follows h.shows) (fun hview => Or.inl (wake_idle hview))
        (fun consumerTag hview => h.active consumerTag (wake_active hview))⟩
    | pauseConsuming paused =>
      rw [next_call (by simp)]
      cases paused with
      | true =>
        exact ⟨_, inv_act h.phase.halt (pauseConsuming_true_follows order h.shows)
          (fun _ => Or.inl rfl) (fun consumerTag hview => absurd hview halt_active)⟩
      | false =>
        exact ⟨_, inv_act (h.phase.wake false) (pauseConsuming_false_follows order h.shows)
          (fun hview => Or.inl (wake_idle hview)) (fun _ _ => rfl)⟩
    | confirmInserted deliveryTag =>
      rw [next_call (by simp)]
      exact ⟨v, inv_stays h (confirmInserted_stays {} deliveryTag t.service)⟩
    | delivered message deliveryTag =>
      rw [next_call (by simp)]
      exact ⟨v, inv_stays h (delivered_stays order message deliveryTag t.service)⟩
    | consumeOk _ | cancelOk | consumerCancelled => exact henabled.elim
  | serve consumerTag =>
    obtain ⟨hrequests, htag⟩ := henabled
    obtain ⟨request, rest, hlist⟩ := List.exists_cons_of_ne_nil hrequests
    have hphase := h.phase
    rw [hlist] at hphase
    have hserved : (machine order).next t (.serve consumerTag) =
        { t with
          requests := rest
          consumers := request.served consumerTag t.consumers
          notices := t.notices ++ [request.reply consumerTag] } := by
      change t.serve consumerTag = _
      unfold serve
      rw [hlist]
    rw [hserved]
    exact ⟨v, h.shows, hphase.serve htag, h.idle, h.active⟩
  | serverCancel consumerTag =>
    exact ⟨v, h.shows, h.phase.serverCancel henabled, h.idle, h.active⟩
  | receive =>
    obtain ⟨notice, rest, hlist⟩ := List.exists_cons_of_ne_nil henabled
    have hphase := h.phase
    rw [hlist] at hphase
    have hreceived : (machine order).next t .receive =
        act { t with notices := rest } (t.service.handle order notice.event) := by
      change t.next order .receive = _
      unfold next
      rw [hlist]
    rw [hreceived]
    exact ⟨_, inv_act (t := { t with notices := rest }) (hphase.receive _) (h.notice_follows hlist)
      (fun hview => Or.inl (react_idle hview)) (fun _ hview => react_active hview)⟩

/-- What is under way at most: one request for a consumer, or one consumer. -/
theorem Phase.count_le (h : Phase v requests consumers notices) :
    requests.count .consume + consumers.length ≤ 1 ∧
      requests.count .consume + notices.countP Notice.isConsumeOk ≤ 1 := by
  have hfate : ∀ {tag : QString} {consumers : List QString} {notices : List Notice},
      Fate tag consumers notices →
        consumers.length ≤ 1 ∧ notices.countP Notice.isConsumeOk = 0 := by
    intro tag consumers notices hfate
    cases hfate <;> exact ⟨by simp, rfl⟩
  have hstale : ∀ {requests : List Request} {notices : List Notice}, Stale requests notices →
      requests.count .consume = 0 ∧ notices.countP Notice.isConsumeOk = 0 := by
    intro requests notices hstale
    cases hstale <;> exact ⟨rfl, rfl⟩
  cases h with
  | idle h => simp [hstale h]
  | requested h => simp [hstale h]
  | answered htag h hconsumer =>
    obtain ⟨hlength, hnone⟩ := hfate hconsumer
    simp [List.countP_cons, hstale h, hlength, hnone, Notice.isConsumeOk]
  | active hconsumer => simp [hfate hconsumer]
  | cancelling hconsumer =>
    obtain ⟨hlength, hnone⟩ := hfate hconsumer
    simp [hlength, hnone]
  | released hcancelled => rcases hcancelled with rfl | rfl <;> simp [Notice.isConsumeOk]

/-- With no reply outstanding the service is idle or has its consumer. -/
theorem Phase.replied (h : Phase v [] consumers notices)
    (hnotices : ∀ notice ∈ notices, notice.isReply = false) :
    v = .idle ∨ ∃ consumerTag, v = .active consumerTag := by
  generalize hrequests : ([] : List Request) = requests at h
  cases h with
  | idle hstale => exact Or.inl rfl
  | active hfate => exact Or.inr ⟨_, rfl⟩
  | requested hstale => simp at hrequests
  | answered htag hstale hfate =>
    have hreply := hnotices _ (List.mem_append_right _ List.mem_cons_self)
    cases hreply
  | cancelling hfate => cases hrequests
  | released hcancelled => exact absurd (hnotices .cancelOk (by simp)) (by decide)

/-- Where the invariant holds there is one consumer at most. -/
theorem Inv.oneConsumer (h : Inv t v) : OneConsumer t := by
  obtain ⟨hcount, hanswers⟩ := h.phase.count_le
  refine ⟨hcount, hanswers, ?_⟩
  rintro hstarted ⟨hrequests, hnotices⟩
  have hphase := h.phase
  rw [hrequests] at hphase
  have hconsuming := congrArg ConsumerMembers.consuming h.shows.members
  change t.service.consuming = _ at hconsuming
  rcases hphase.replied hnotices with rfl | ⟨consumerTag, rfl⟩
  · have hpaused := (h.idle rfl).resolve_right (by simp [hstarted])
    simp [hconsuming, hpaused, View.members]
  · simp [hconsuming, h.active consumerTag rfl, View.members]

/-- **One consumer at most, and one in the end.** In every run, whatever the order of
calls, replies and cancellations, there is at most one request for a consumer or one
consumer, and with no reply outstanding a started service consumes unless it is paused. -/
theorem oneConsumer_always (order : IterationOrder) (events : List SessionEvent)
    (henabled : (machine order).EachStep Enabled {} events) :
    (machine order).EachState OneConsumer {} events :=
  Mealy.eachState_of_invariant (I := fun t => ∃ v, Inv t v) (fun _ _ ⟨_, h⟩ hA => inv_next h hA)
    (fun _ ⟨_, h⟩ => h.oneConsumer) ⟨.idle, inv_init⟩ henabled

/-- A cancellation by the broker crosses one by the service, and the pause ends before
the reply. -/
theorem crossedCancellations_oneConsumer :
    (machine .increasing).EachState OneConsumer {}
      [.call .startConsuming, .call (.pauseConsuming true), .serve "consumer-1", .receive,
        .serverCancel "consumer-1", .receive, .call (.pauseConsuming false), .serve "consumer-2",
        .receive, .serve "consumer-2", .receive] :=
  oneConsumer_always .increasing _ (by decide +kernel)

end Session

end QtAppBase.Mq
