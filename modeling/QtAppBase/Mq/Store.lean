import QtAppBase.Qt.CodeUnits

/-!
# The message store

`MqStore` keeps messages in one SQLite table whose `envelope_id` column is
unique. Rows are the table, in the order of insertion. Times are the ISO texts
that the store binds, and a payload is its compact JSON text.
-/

namespace QtAppBase.Mq

open Qt

/-- `MqCodec::Envelope`, as far as the store reads it. -/
structure Envelope where
  id : QString
  timestamp : QString
  type : QString
  payload : QString
  deriving DecidableEq, Repr

/-- A row of the table `messages`. -/
structure StoredMessage where
  id : ℕ
  envelopeId : QString
  envelopeTimestamp : QString
  envelopeType : QString
  direction : QString
  payload : QString
  redelivered : Bool
  acked : Bool
  displayTitle : QString
  searchText : QString
  createdAt : QString
  deriving DecidableEq, Repr

/-- `Statement::bind` of a text: its length is not given, so it ends at the first NUL. -/
def bindText (value : QString) : QString :=
  String.ofList (value.toList.takeWhile fun c => c ≠ Char.ofNat 0)

/-- `Statement::getText` of a text in the table. -/
def getText (stored : QString) : QString := fromUtf8 stored

/-- `readStoredMessage`: a row as it is read from the table. -/
def readStoredMessage (row : StoredMessage) : StoredMessage :=
  { row with
    envelopeId := getText row.envelopeId
    envelopeTimestamp := getText row.envelopeTimestamp
    envelopeType := getText row.envelopeType
    direction := getText row.direction
    payload := getText row.payload
    displayTitle := getText row.displayTitle
    searchText := getText row.searchText
    createdAt := getText row.createdAt }

/-- The table. -/
structure MqStore where
  rows : List StoredMessage := []
  deriving DecidableEq, Repr

namespace MqStore

/-- Some row has the id of the envelope. -/
def Holds (store : MqStore) (envelope : Envelope) : Prop :=
  ∃ row ∈ store.rows, row.envelopeId = bindText envelope.id

instance (store : MqStore) (envelope : Envelope) : Decidable (store.Holds envelope) :=
  inferInstanceAs (Decidable (∃ row ∈ store.rows, _))

/-- The key SQLite gives to the next row. -/
def nextId (store : MqStore) : ℕ := (store.rows.map StoredMessage.id).foldl max 0 + 1

/-- The row inserted for an envelope. -/
def rowOf (now direction displayTitle searchText : QString) (envelope : Envelope)
    (store : MqStore) : StoredMessage :=
  { id := store.nextId
    envelopeId := bindText envelope.id
    envelopeTimestamp := bindText envelope.timestamp
    envelopeType := bindText envelope.type
    direction := bindText direction
    payload := bindText envelope.payload
    redelivered := false
    acked := false
    displayTitle := bindText displayTitle
    searchText := bindText searchText
    createdAt := bindText now }

/-- `MqStore::insert`: insert, or ignore when the id is taken; whether a row was added. -/
def insert (now direction displayTitle searchText : QString) (envelope : Envelope)
    (store : MqStore) : Bool × MqStore :=
  if store.Holds envelope then (false, store)
  else (true, ⟨store.rows ++ [store.rowOf now direction displayTitle searchText envelope]⟩)

/-- `MqStore::markAcked`. -/
def markAcked (envelopeId : QString) (store : MqStore) : MqStore :=
  ⟨store.rows.map fun row =>
    if row.envelopeId = bindText envelopeId then { row with acked := true } else row⟩

/-- `MqStore::purge`: delete the rows of a period; whether there were any. Times are
compared as texts. -/
def purge (fromTime toTime : QString) (store : MqStore) : Bool × MqStore :=
  let purged := fun row : StoredMessage =>
    bindText fromTime ≤ row.createdAt && row.createdAt ≤ bindText toTime
  (store.rows.any purged, ⟨store.rows.filter fun row => !purged row⟩)

/-- `LIKE` of SQLite: `%` is any text, `_` any character, and ASCII letters have no case. -/
def likeMatch : List Char → List Char → Bool
  | [], text => text.isEmpty
  | p :: pattern, text =>
    if p = '%' then text.tails.any (likeMatch pattern)
    else
      match text with
      | [] => false
      | c :: rest => (p = '_' || p.toLower = c.toLower) && likeMatch pattern rest

/-- The conditions of a search. An empty text and an invalid time select nothing. -/
def selects (type : QString) (fromTime toTime : Option QString) (searchText : QString)
    (receivedOnly : Bool) (row : StoredMessage) : Bool :=
  (type.isEmpty || row.envelopeType = bindText type) &&
    fromTime.all (fun time => bindText time ≤ row.createdAt) &&
    toTime.all (fun time => row.createdAt ≤ bindText time) &&
    (searchText.isEmpty ||
      likeMatch (bindText ("%" ++ searchText ++ "%")).toList row.searchText.toList) &&
    (!receivedOnly || row.direction = "received")

/-- `ORDER BY created_at DESC, id DESC`. -/
def newerFirst (a b : StoredMessage) : Bool :=
  b.createdAt < a.createdAt || (a.createdAt = b.createdAt && b.id ≤ a.id)

/-- `MqStore::search`. -/
def search (type : QString) (fromTime toTime : Option QString) (searchText : QString)
    (receivedOnly : Bool) (store : MqStore) : List StoredMessage :=
  (store.rows.filter (selects type fromTime toTime searchText receivedOnly)).mergeSort newerFirst

/-- `MqStore::recent`. -/
def recent (limit : ℕ) (store : MqStore) : List StoredMessage :=
  (store.rows.mergeSort newerFirst).take limit

variable {store : MqStore} {envelope : Envelope} {now direction displayTitle searchText : QString}

/-- After an insert the store holds the envelope. -/
theorem insert_holds :
    (store.insert now direction displayTitle searchText envelope).2.Holds envelope := by
  unfold insert
  split_ifs with hholds
  · exact hholds
  · exact ⟨_, List.mem_append_right _ List.mem_cons_self, rfl⟩

/-- An insert is fresh exactly when the store did not hold the envelope. -/
theorem insert_fresh_iff :
    (store.insert now direction displayTitle searchText envelope).1 = true ↔
      ¬ store.Holds envelope := by
  unfold insert
  split_ifs with hholds
  · simp [hholds]
  · simp [hholds]

/-- A fresh insert adds the row of the envelope. -/
theorem insert_mem_of_fresh
    (hfresh : (store.insert now direction displayTitle searchText envelope).1 = true) :
    store.rowOf now direction displayTitle searchText envelope ∈
      (store.insert now direction displayTitle searchText envelope).2.rows := by
  unfold insert
  rw [if_neg (insert_fresh_iff.mp hfresh)]
  exact List.mem_append_right _ List.mem_cons_self

/-- The next key is larger than all keys in the table. -/
theorem id_lt_nextId {row : StoredMessage} (h : row ∈ store.rows) : row.id < store.nextId := by
  have hmax : ∀ (ids : List ℕ) (start id : ℕ), id ≤ start ∨ id ∈ ids →
      id ≤ ids.foldl max start := by
    intro ids
    induction ids with
    | nil => intro start id hid; simpa using hid
    | cons first ids ih =>
      intro start id hid
      rcases hid with hle | hmem
      · exact ih _ _ (Or.inl (hle.trans (Nat.le_max_left _ _)))
      · rcases List.mem_cons.mp hmem with rfl | hmem
        · exact ih _ _ (Or.inl (Nat.le_max_right _ _))
        · exact ih _ _ (Or.inr hmem)
  exact Nat.lt_succ_of_le (hmax _ _ _ (Or.inr (List.mem_map_of_mem h)))

/-- A search finds the selected rows. -/
theorem mem_search {type searchText : QString} {fromTime toTime : Option QString}
    {receivedOnly : Bool} {row : StoredMessage} :
    row ∈ store.search type fromTime toTime searchText receivedOnly ↔
      row ∈ store.rows ∧ selects type fromTime toTime searchText receivedOnly row = true := by
  rw [search, List.mem_mergeSort, List.mem_filter]

end MqStore

end QtAppBase.Mq
