import QtAppBase.Mq.Search
import QtAppBase.Mq.StoredTexts

/-!
# Received messages in the store

A message that the application published and then consumes reaches the store
twice under one id, as sent and as received. The machine here adds to the store
the ids inserted so far, and what the tab makes of the result of an insert: a
fresh received message is counted as received, any other one as a duplicate.
-/

namespace QtAppBase.Mq

open Library Qt

/-- The direction of a received message. -/
def received : Units := utf16 "received"

/-- The direction of a published message. -/
def sent : Units := utf16 "sent"

/-- What the tab counts when an insert is done. -/
inductive Count where
  | received
  | duplicate
  deriving DecidableEq, Repr

/-- `onDone` of the insert of a message: only received ones are counted by its result. -/
def countInserted (i : Insertion) (freshlyInserted : Bool) : List Count :=
  if i.direction = received then [if freshlyInserted then .received else .duplicate] else []

/-- The calls between two purges. -/
inductive InboxCall where
  | insert (insertion : Insertion)
  | markAcked (envelopeId : Units)
  deriving DecidableEq, Repr

/-- The store, with the ids inserted so far and those inserted as received. -/
structure Inbox where
  store : MqStore := {}
  inserted : List Units := []
  receivedIds : List Units := []
  deriving DecidableEq, Repr

namespace Inbox

/-- One call, and what the tab counts. -/
def step (b : Inbox) : InboxCall → Reaction Inbox Count
  | .insert i =>
    ({ store := (b.store.insertRaw i).2
       inserted := i.envelope.id :: b.inserted
       receivedIds :=
        if i.direction = received then i.envelope.id :: b.receivedIds else b.receivedIds },
      countInserted i (b.store.insertRaw i).1)
  | .markAcked envelopeId => ({ b with store := b.store.markAcked (toUtf8 envelopeId) }, [])

/-- The store as the tab uses it. -/
def machine : Mealy Inbox InboxCall Count := ⟨step⟩

/-- The id of an envelope as the table has it. -/
def storedId (id : Units) : QString := bindText (toUtf8 id)

/-- A search for received messages only, without any other condition. -/
def searchReceived (b : Inbox) : List StoredMessage :=
  (b.store.searchStatement { receivedOnly := true }).getD []

/-- The call is the first insert of its envelope as a received one. -/
def FirstReceived (b : Inbox) (call : InboxCall) (i : Insertion) : Prop :=
  call = .insert i ∧ i.direction = received ∧ i.envelope.id ∉ b.receivedIds

/-- The first received insert of an envelope is fresh and counted as received, and
every envelope received so far is found among the received ones. -/
def ListsReceived (b : Inbox) (call : InboxCall) : Prop :=
  (∀ i, FirstReceived b call i →
    (b.store.insertRaw i).1 = true ∧ (machine.step b call).2 = [.received]) ∧
  ∀ id ∈ (machine.next b call).receivedIds,
    ∃ row ∈ (machine.next b call).searchReceived, row.envelopeId = storedId id

/-- When an envelope is first received, nothing has been inserted under its id. -/
def ReceivedFirst (b : Inbox) (call : InboxCall) : Prop :=
  ∀ i, FirstReceived b call i → ∀ id ∈ b.inserted, storedId id ≠ storedId i.envelope.id

variable {b : Inbox} {i : Insertion}

/-- The search selects the rows of received messages. -/
theorem mem_searchReceived {row : StoredMessage} :
    row ∈ b.searchReceived ↔ row ∈ b.store.rows ∧ row.direction = "received" := by
  have hshort : ¬ Filters.TooLong { receivedOnly := true } := fun h => h.1 rfl
  rw [searchReceived, Filters.searchStatement_eq_search hshort, Option.getD_some,
    MqStore.mem_search, MqStore.selects]
  simp [toUtf8, utf8Chars]

/-- The stored direction of a received message. -/
theorem bindText_received : bindText (toUtf8 received) = "received" := by
  rw [received, toUtf8_utf16]
  exact bindText_eq_self_iff.mpr (by decide)

/-- What the ids of the run say about the table. -/
structure Inv (b : Inbox) : Prop where
  /-- The stored ids are those of the envelopes inserted. -/
  ids : ∀ stored, (∃ row ∈ b.store.rows, row.envelopeId = stored) ↔
    ∃ id ∈ b.inserted, storedId id = stored
  /-- A received envelope has a row that says so. -/
  listed : ∀ id ∈ b.receivedIds,
    ∃ row ∈ b.store.rows, row.envelopeId = storedId id ∧ row.direction = "received"

/-- Nothing has been inserted into an empty store. -/
theorem init_inv : Inv {} := ⟨fun _ => iff_of_false nofun nofun, nofun⟩

/-- The store holds an envelope when something was inserted under its id. -/
theorem Inv.holds_iff (h : Inv b) :
    b.store.Holds i.envelope.converted ↔ ∃ id ∈ b.inserted, storedId id = storedId i.envelope.id :=
  h.ids _

/-- Marking a row keeps its id and its direction. -/
theorem markAcked_inv (h : Inv b) (envelopeId : Units) :
    Inv (machine.next b (.markAcked envelopeId)) := by
  have hmarked : ∀ stored direction,
      (∃ row ∈ (b.store.markAcked (toUtf8 envelopeId)).rows,
        row.envelopeId = stored ∧ row.direction = direction) ↔
      ∃ row ∈ b.store.rows, row.envelopeId = stored ∧ row.direction = direction := by
    intro stored direction
    unfold MqStore.markAcked
    simp only [List.mem_map, exists_exists_and_eq_and]
    constructor
    · rintro ⟨row, hrow, hid, hdirection⟩
      refine ⟨row, hrow, ?_⟩
      split_ifs at hid hdirection <;> exact ⟨hid, hdirection⟩
    · rintro ⟨row, hrow, hid, hdirection⟩
      refine ⟨row, hrow, ?_⟩
      split_ifs <;> exact ⟨hid, hdirection⟩
  constructor
  · intro stored
    refine Iff.trans ?_ (h.ids stored)
    constructor
    · rintro ⟨row, hrow, hid⟩
      obtain ⟨old, hold, hold', _⟩ := (hmarked stored row.direction).mp ⟨row, hrow, hid, rfl⟩
      exact ⟨old, hold, hold'⟩
    · rintro ⟨row, hrow, hid⟩
      obtain ⟨new, hnew, hnew', _⟩ := (hmarked stored row.direction).mpr ⟨row, hrow, hid, rfl⟩
      exact ⟨new, hnew, hnew'⟩
  · intro id hid
    exact (hmarked _ _).mpr (h.listed id hid)

/-- The store after an insert holds its envelope and what it held before. -/
theorem insertRaw_rows (b : Inbox) (i : Insertion) :
    ((b.store.insertRaw i).1 = false ∧ b.store.Holds i.envelope.converted ∧
      (b.store.insertRaw i).2.rows = b.store.rows) ∨
    ((b.store.insertRaw i).1 = true ∧ ¬ b.store.Holds i.envelope.converted ∧
      ∃ row, row.envelopeId = storedId i.envelope.id ∧
        row.direction = bindText (toUtf8 i.direction) ∧
        (b.store.insertRaw i).2.rows = b.store.rows ++ [row]) := by
  unfold MqStore.insertRaw MqStore.insert
  split_ifs with hholds
  · exact Or.inl ⟨rfl, hholds, rfl⟩
  · exact Or.inr ⟨rfl, hholds, _, rfl, rfl, rfl⟩

/-- An insert adds its id to the stored ones. -/
theorem insert_ids (h : Inv b) (i : Insertion) (stored : QString) :
    (∃ row ∈ (b.store.insertRaw i).2.rows, row.envelopeId = stored) ↔
      ∃ id ∈ i.envelope.id :: b.inserted, storedId id = stored := by
  have hids := h.ids stored
  rw [List.exists_mem_cons_iff]
  rcases insertRaw_rows b i with ⟨_, ⟨old, hold, hsame⟩, hrows⟩ | ⟨_, _, row, hid, _, hrows⟩
  · rw [hrows, ← hids]
    constructor
    · exact Or.inr
    · rintro (hnew | hmem)
      · exact ⟨old, hold, hsame.trans hnew⟩
      · exact hmem
  · rw [hrows, ← hids, ← hid]
    constructor
    · rintro ⟨found, hfound, hstored⟩
      rcases List.mem_append.mp hfound with hold | hnew
      · exact Or.inr ⟨found, hold, hstored⟩
      · exact Or.inl (by rw [← hstored, List.mem_singleton.mp hnew])
    · rintro (hnew | ⟨found, hold, hstored⟩)
      · exact ⟨row, List.mem_append_right _ List.mem_cons_self, hnew⟩
      · exact ⟨found, List.mem_append_left _ hold, hstored⟩

/-- An insert keeps the rows of the table. -/
theorem mem_insertRaw {row : StoredMessage} (h : row ∈ b.store.rows) :
    row ∈ (b.store.insertRaw i).2.rows := by
  rcases insertRaw_rows b i with ⟨_, _, hrows⟩ | ⟨_, _, new, _, _, hrows⟩
  · rwa [hrows]
  · rw [hrows]
    exact List.mem_append_left _ h

/-- A fresh insert of a received message lists it. -/
theorem insertRaw_lists (hreceived : i.direction = received)
    (hfresh : (b.store.insertRaw i).1 = true) :
    ∃ row ∈ (b.store.insertRaw i).2.rows,
      row.envelopeId = storedId i.envelope.id ∧ row.direction = "received" := by
  rcases insertRaw_rows b i with ⟨hignored, _⟩ | ⟨_, _, row, hid, hdirection, hrows⟩
  · rw [hfresh] at hignored
    cases hignored
  · refine ⟨row, ?_, hid, ?_⟩
    · rw [hrows]
      exact List.mem_append_right _ List.mem_cons_self
    · rw [hdirection, hreceived, bindText_received]

/-- The first received insert of an envelope is fresh exactly when nothing was
inserted under its id. -/
theorem insertRaw_fresh_iff (h : Inv b) :
    (b.store.insertRaw i).1 = true ↔
      ∀ id ∈ b.inserted, storedId id ≠ storedId i.envelope.id := by
  have hholds : b.store.Holds i.envelope.converted ↔ _ := h.holds_iff
  rw [MqStore.insertRaw, MqStore.insert_fresh_iff, hholds]
  push Not
  exact Iff.rfl

/-- A call that lists what is received keeps the invariant. -/
theorem inv_next (h : Inv b) {call : InboxCall} (hfirst : ReceivedFirst b call) :
    Inv (machine.next b call) := by
  cases call with
  | markAcked envelopeId => exact markAcked_inv h envelopeId
  | insert i =>
    refine ⟨insert_ids h i, ?_⟩
    have hold : ∀ id ∈ b.receivedIds, ∃ row ∈ (b.store.insertRaw i).2.rows,
        row.envelopeId = storedId id ∧ row.direction = "received" := by
      intro id hid
      obtain ⟨row, hrow, hfields⟩ := h.listed id hid
      exact ⟨row, mem_insertRaw hrow, hfields⟩
    intro id hid
    by_cases hreceived : i.direction = received
    · have hid : id ∈ i.envelope.id :: b.receivedIds := by
        simpa only [Mealy.next, machine, step, if_pos hreceived] using hid
      by_cases hknown : id ∈ b.receivedIds
      · exact hold id hknown
      · obtain rfl := (List.mem_cons.mp hid).resolve_right hknown
        exact insertRaw_lists hreceived
          ((insertRaw_fresh_iff h).mpr (hfirst i ⟨rfl, hreceived, hknown⟩))
    · have hid : id ∈ b.receivedIds := by
        simpa only [Mealy.next, machine, step, if_neg hreceived] using hid
      exact hold id hid

/-- Under the invariant, received messages are listed exactly by the calls that insert
them before anything else under their id. -/
theorem listsReceived_iff (h : Inv b) (call : InboxCall) :
    ListsReceived b call ↔ ReceivedFirst b call := by
  constructor
  · rintro ⟨hcall, _⟩ i hi
    exact (insertRaw_fresh_iff h).mp (hcall i hi).1
  · intro hfirst
    refine ⟨fun i hi => ?_, fun id hid => ?_⟩
    · have hfresh := (insertRaw_fresh_iff h).mpr (hfirst i hi)
      obtain ⟨rfl, hreceived, _⟩ := hi
      refine ⟨hfresh, ?_⟩
      change countInserted i (b.store.insertRaw i).1 = _
      rw [countInserted, if_pos hreceived, hfresh]
      rfl
    · obtain ⟨row, hrow, hrowId, hdirection⟩ := (inv_next h hfirst).listed id hid
      exact ⟨row, mem_searchReceived.mpr ⟨hrow, hdirection⟩, hrowId⟩

/-- **Received messages are found unless their id was taken.** In every sequence of
inserts and acknowledgements, the first received insert of every envelope is fresh
and counted as received, and the envelope is found among the received ones from then
on, if and only if nothing is inserted under its id before. -/
theorem listsReceived_iff_receivedFirst (calls : List InboxCall) :
    machine.EachStep ListsReceived {} calls ↔ machine.EachStep ReceivedFirst {} calls :=
  Mealy.eachStep_iff_eachStep (I := Inv) (A := fun _ _ => True) (fun _ _ h _ hP => inv_next h hP)
    (fun _ call h _ => listsReceived_iff h call) init_inv (Mealy.eachStep_trivial _ calls)

/-- A message that the application published and then consumes. -/
def ownMessage (direction : Units) : Insertion where
  envelope := { id := [97], timestamp := [50], type := [116], payload := [123, 125] }
  direction := direction
  displayTitle := []
  searchText := []
  now := [50]

/-- Its received copy is counted as a duplicate. -/
theorem ownMessage_duplicate : ¬ ∀ calls, machine.EachStep ListsReceived {} calls := by
  intro h
  have hrun := h [.insert (ownMessage sent), .insert (ownMessage received)]
  have hfresh := (hrun.2.1.1 (ownMessage received) ⟨rfl, rfl, by decide +kernel⟩).1
  exact absurd hfresh (by decide +kernel)

end Inbox

end QtAppBase.Mq
