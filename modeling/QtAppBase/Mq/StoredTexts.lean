import QtAppBase.Library.Mealy
import QtAppBase.Qt.CodeUnits
import QtAppBase.Mq.Store
import Mathlib.Data.List.Infix
import Mathlib.Data.List.TakeWhile
import Mathlib.Data.Rat.Defs

/-!
# What the store keeps of a text

The store decides by the id alone whether it has seen an envelope, and compares
ids as SQLite stored them: converted to UTF-8 and cut at the first NUL. Reading
back skips a byte order mark in front as well. The machine here runs the store on
calls with strings as the application holds them, and remembers for each row the
call that inserted it.
-/

namespace QtAppBase.Mq

open Library Qt

/-! ### Decoding an envelope -/

/-- `QJsonValue`. Arrays and objects are known by their compact texts. -/
inductive QJsonValue where
  | undefined
  | null
  | bool (value : Bool)
  | double (value : ℚ)
  | string (value : Units)
  | array (compact : Units)
  | object (compact : Units)
  deriving DecidableEq

/-- `QJsonObject`, by the values of its keys. -/
abbrev QJsonObject := QString → QJsonValue

/-- `MqCodec::Envelope`, as far as the store reads it. -/
structure RawEnvelope where
  id : Units
  timestamp : Units
  type : Units
  payload : Units
  deriving DecidableEq, Repr

/-- `MqCodec::decode` of what `QJsonDocument::fromJson` makes of the data. A time
stamp is `none` unless it is valid and in UTC. -/
def decode (utcTimestamp : Units → Option Units) : Option QJsonObject → Option RawEnvelope
  | none => none
  | some object =>
    match object "id", object "ts", object "v", object "src", object "type", object "payload" with
    | .string id, .string timestamp, .double version, .string _, .string type, .object payload =>
      if id = [] ∨ version ≠ 1 then none
      else (utcTimestamp timestamp).map fun timestamp =>
        { id := id, timestamp := timestamp, type := type, payload := payload }
    | _, _, _, _, _, _ => none

/-- The codec accepts the envelope of some document. -/
def Accepted (envelope : RawEnvelope) : Prop :=
  ∃ utcTimestamp document, decode utcTimestamp document = some envelope

/-- All that is asked of the strings of an accepted envelope is that the id is not empty. -/
theorem accepted_iff {envelope : RawEnvelope} : Accepted envelope ↔ envelope.id ≠ [] := by
  constructor
  · rintro ⟨utcTimestamp, document, h⟩
    unfold decode at h
    split at h
    · cases h
    · split at h
      · split_ifs at h with hbad
        obtain ⟨timestamp, _, rfl⟩ := Option.map_eq_some_iff.mp h
        exact fun hnil => hbad (Or.inl hnil)
      · cases h
  · intro hid
    refine ⟨fun _ => some envelope.timestamp, some fun key =>
      if key = "id" then .string envelope.id
      else if key = "ts" ∨ key = "src" then .string []
      else if key = "v" then .double 1
      else if key = "type" then .string envelope.type
      else .object envelope.payload, ?_⟩
    simp [decode, hid]

/-! ### Texts in the table -/

/-- A text that SQLite stores as it is: its surrogates are paired, and it has no NUL. -/
def Storable (text : Units) : Prop := Paired text ∧ 0 ∉ text

instance (text : Units) : Decidable (Storable text) := inferInstanceAs (Decidable (_ ∧ _))

/-- A text that also comes back as it is: no byte order mark in front of it is skipped. -/
def Readable (text : Units) : Prop := Storable text ∧ text.head? ≠ some 0xFEFF

instance (text : Units) : Decidable (Readable text) := inferInstanceAs (Decidable (_ ∧ _))

/-- A NUL is a code unit of its own. -/
theorem zero_mem_utf16 {text : QString} : 0 ∈ utf16 text ↔ Char.ofNat 0 ∈ text.toList := by
  have hnul : (Char.ofNat 0).toNat < 0xD800 := by decide
  exact mem_utf16_iff hnul

/-- A text without NUL is bound whole. -/
theorem bindText_eq_self_iff {text : QString} :
    bindText text = text ↔ Char.ofNat 0 ∉ text.toList := by
  rw [bindText, ← String.toList_inj, String.toList_ofList, List.takeWhile_eq_self_iff]
  constructor
  · intro h hmem
    exact absurd (h _ hmem) (by decide)
  · intro h c hc
    simp only [ne_eq, decide_not, Bool.not_eq_eq_eq_not, Bool.not_true, decide_eq_false_iff_not]
    rintro rfl
    exact h hc

/-- A text is bound as it is exactly when it is storable. -/
theorem utf16_bindText_iff {text : Units} :
    utf16 (bindText (toUtf8 text)) = text ↔ Storable text := by
  constructor
  · intro h
    have hbound : bindText (toUtf8 text) = toUtf8 text := by
      rw [← toUtf8_utf16 (bindText (toUtf8 text)), h]
    rw [hbound] at h
    refine ⟨utf16_toUtf8_iff.mp h, ?_⟩
    rw [← h, zero_mem_utf16]
    exact bindText_eq_self_iff.mp hbound
  · rintro ⟨hpaired, hnul⟩
    have hback : utf16 (toUtf8 text) = text := utf16_toUtf8_iff.mpr hpaired
    rw [← hback, zero_mem_utf16] at hnul
    rw [bindText_eq_self_iff.mpr hnul, hback]

/-- A text that is cut is not longer. -/
theorem length_utf16_bindText (text : QString) :
    (utf16 (bindText text)).length ≤ (utf16 text).length := by
  have hfront : (bindText text).toList <+: text.toList := by
    rw [bindText, String.toList_ofList]
    exact List.takeWhile_prefix _
  exact (hfront.flatMap utf16Units).length_le

/-- **A text reads back exactly when it is readable.** -/
theorem utf16_getText_iff {text : Units} :
    utf16 (getText (bindText (toUtf8 text))) = text ↔ Readable text := by
  rw [Readable, ← utf16_bindText_iff, getText]
  constructor
  · intro h
    -- what lost its byte order mark is too short
    have hsame : fromUtf8 (bindText (toUtf8 text)) = bindText (toUtf8 text) := by
      by_contra hskipped
      have hshort := length_utf16_fromUtf8_lt hskipped
      have hcut := length_utf16_bindText (toUtf8 text)
      rw [length_utf16_toUtf8] at hcut
      rw [h] at hshort
      omega
    rw [hsame] at h
    refine ⟨h, ?_⟩
    rw [← h]
    exact fromUtf8_eq_self_iff.mp hsame
  · rintro ⟨hkept, hmark⟩
    rw [fromUtf8_eq_self_iff.mpr (by rwa [hkept]), hkept]

/-! ### Runs of the store -/

/-- A call of `MqStore::insert`, and the time at which it is made. -/
structure Insertion where
  envelope : RawEnvelope
  direction : Units
  displayTitle : Units
  searchText : Units
  now : Units
  deriving DecidableEq, Repr

/-- The calls that change the store. -/
inductive StoreCall where
  | insert (insertion : Insertion)
  | markAcked (envelopeId : Units)
  | purge (fromTime toTime : Units)
  deriving DecidableEq, Repr

/-- The envelope as `bind` converts it. -/
def RawEnvelope.converted (envelope : RawEnvelope) : Envelope where
  id := toUtf8 envelope.id
  timestamp := toUtf8 envelope.timestamp
  type := toUtf8 envelope.type
  payload := toUtf8 envelope.payload

/-- `MqStore::insert` on strings as the application holds them. -/
def MqStore.insertRaw (i : Insertion) (store : MqStore) : Bool × MqStore :=
  store.insert (toUtf8 i.now) (toUtf8 i.direction) (toUtf8 i.displayTitle) (toUtf8 i.searchText)
    i.envelope.converted

/-- The store, and for each key the call that inserted its row. -/
structure Archive where
  store : MqStore := {}
  origin : ℕ → Option Insertion := fun _ => none

namespace Archive

/-- One call, and what it returns. -/
def step (a : Archive) : StoreCall → Reaction Archive Bool
  | .insert i =>
    let inserted := a.store.insertRaw i
    ({ store := inserted.2
       origin :=
        if inserted.1 then Function.update a.origin a.store.nextId (some i) else a.origin },
      [inserted.1])
  | .markAcked envelopeId => ({ a with store := a.store.markAcked (toUtf8 envelopeId) }, [])
  | .purge fromTime toTime =>
    let purged := a.store.purge (toUtf8 fromTime) (toUtf8 toTime)
    ({ a with store := purged.2 }, [purged.1])

/-- The store with its origins. -/
def machine : Mealy Archive StoreCall Bool := ⟨step⟩

/-- A surviving row was inserted for an envelope with this id. -/
def SurvivesFor (a : Archive) (id : Units) : Prop :=
  ∃ row ∈ a.store.rows, (a.origin row.id).map (fun i => i.envelope.id) = some id

instance (a : Archive) (id : Units) : Decidable (a.SurvivesFor id) :=
  inferInstanceAs (Decidable (∃ row ∈ a.store.rows, _))

/-- The row reads back as it was inserted. -/
structure ReadsBack (row : StoredMessage) (i : Insertion) : Prop where
  id : utf16 (readStoredMessage row).envelopeId = i.envelope.id
  type : utf16 (readStoredMessage row).envelopeType = i.envelope.type
  direction : utf16 (readStoredMessage row).direction = i.direction
  displayTitle : utf16 (readStoredMessage row).displayTitle = i.displayTitle
  searchText : utf16 (readStoredMessage row).searchText = i.searchText

/-- Every surviving row reads back. -/
def Faithful (a : Archive) : Prop :=
  ∀ row ∈ a.store.rows, ∃ i, a.origin row.id = some i ∧ ReadsBack row i

/-- An insert adds one row, and says so, exactly when no row of the same id
survives; otherwise it changes nothing. Afterwards every row reads back. -/
def Deduplicates (a : Archive) (call : StoreCall) : Prop :=
  (∀ i, call = .insert i →
    ((a.store.insertRaw i).1 = true ↔ ¬ a.SurvivesFor i.envelope.id) ∧
    ((a.store.insertRaw i).1 = true →
      ∃ row, (a.store.insertRaw i).2.rows = a.store.rows ++ [row]) ∧
    ((a.store.insertRaw i).1 = false → (a.store.insertRaw i).2 = a.store)) ∧
  Faithful (machine.next a call)

/-- The strings of an insertion that the application reads back are readable. -/
structure Kept (i : Insertion) : Prop where
  id : Readable i.envelope.id
  type : Readable i.envelope.type
  direction : Readable i.direction
  displayTitle : Readable i.displayTitle
  searchText : Readable i.searchText

instance (i : Insertion) : Decidable (Kept i) :=
  decidable_of_iff (Readable i.envelope.id ∧ Readable i.envelope.type ∧ Readable i.direction ∧
    Readable i.displayTitle ∧ Readable i.searchText)
    ⟨fun ⟨h1, h2, h3, h4, h5⟩ => ⟨h1, h2, h3, h4, h5⟩,
      fun h => ⟨h.id, h.type, h.direction, h.displayTitle, h.searchText⟩⟩

/-- What is inserted for a new id is readable. -/
def Storing (a : Archive) : StoreCall → Prop
  | .insert i => a.SurvivesFor i.envelope.id ∨ Kept i
  | _ => True

variable {a : Archive} {i : Insertion}

/-- The row of an insertion reads back exactly when its strings are readable. -/
theorem readsBack_iff {row : StoredMessage}
    (hrow : row = a.store.rowOf (toUtf8 i.now) (toUtf8 i.direction) (toUtf8 i.displayTitle)
      (toUtf8 i.searchText) i.envelope.converted) : ReadsBack row i ↔ Kept i := by
  constructor
  · rintro ⟨hid, htype, hdirection, htitle, hsearch⟩
    simp only [hrow, readStoredMessage, MqStore.rowOf, RawEnvelope.converted,
      utf16_getText_iff] at hid htype hdirection htitle hsearch
    exact ⟨hid, htype, hdirection, htitle, hsearch⟩
  · rintro ⟨hid, htype, hdirection, htitle, hsearch⟩
    constructor <;> simp only [hrow, readStoredMessage, MqStore.rowOf, RawEnvelope.converted,
      utf16_getText_iff]
    · exact hid
    · exact htype
    · exact hdirection
    · exact htitle
    · exact hsearch

/-- The invariant: rows read back, and their ids are texts as SQLite keeps and returns them. -/
structure Inv (a : Archive) : Prop where
  faithful : Faithful a
  bound : ∀ row ∈ a.store.rows, bindText row.envelopeId = row.envelopeId
  read : ∀ row ∈ a.store.rows, getText row.envelopeId = row.envelopeId

/-- An empty store. -/
theorem init_inv : Inv {} := ⟨nofun, nofun, nofun⟩

/-- A row of the store has the id of its envelope. -/
theorem Inv.stored (h : Inv a) {row : StoredMessage} (hrow : row ∈ a.store.rows) :
    ∃ i, a.origin row.id = some i ∧ utf16 row.envelopeId = i.envelope.id := by
  obtain ⟨j, horigin, hreads⟩ := h.faithful row hrow
  have hread := hreads.id
  rw [readStoredMessage, h.read row hrow] at hread
  exact ⟨j, horigin, hread⟩

/-- The stored ids decide about a readable id. -/
theorem holds_iff (h : Inv a) (hid : Readable i.envelope.id) :
    a.store.Holds i.envelope.converted ↔ a.SurvivesFor i.envelope.id := by
  have hbound : utf16 (bindText (toUtf8 i.envelope.id)) = i.envelope.id :=
    utf16_bindText_iff.mpr hid.1
  constructor
  · rintro ⟨row, hrow, hsame⟩
    obtain ⟨j, horigin, hstored⟩ := h.stored hrow
    refine ⟨row, hrow, ?_⟩
    rw [horigin, Option.map_some, ← hstored, hsame]
    exact congrArg some hbound
  · rintro ⟨row, hrow, hsame⟩
    obtain ⟨j, horigin, hstored⟩ := h.stored hrow
    rw [horigin, Option.map_some, Option.some.injEq, ← hstored] at hsame
    exact ⟨row, hrow, utf16_injective (hsame.trans hbound.symm)⟩

/-- The id of a surviving row is readable. -/
theorem Inv.readable (h : Inv a) {id : Units} (hid : a.SurvivesFor id) : Readable id := by
  obtain ⟨row, hrow, hsame⟩ := hid
  obtain ⟨j, horigin, hstored⟩ := h.stored hrow
  rw [horigin, Option.map_some, Option.some.injEq, ← hstored] at hsame
  rw [← utf16_getText_iff, ← hsame, toUtf8_utf16, h.bound row hrow, h.read row hrow]

/-- An ignored insert changes nothing. -/
theorem insertRaw_ignored (hholds : a.store.Holds i.envelope.converted) :
    a.store.insertRaw i = (false, a.store) ∧ machine.next a (.insert i) = a := by
  have hinsert : a.store.insertRaw i = (false, a.store) := if_pos hholds
  refine ⟨hinsert, ?_⟩
  simp only [Mealy.next, machine, step, hinsert]
  rfl

/-- A fresh insert appends the row of its call. -/
theorem insertRaw_fresh (hholds : ¬ a.store.Holds i.envelope.converted) :
    ∃ row, row = a.store.rowOf (toUtf8 i.now) (toUtf8 i.direction) (toUtf8 i.displayTitle)
        (toUtf8 i.searchText) i.envelope.converted ∧
      a.store.insertRaw i = (true, ⟨a.store.rows ++ [row]⟩) ∧
      machine.next a (.insert i) =
        { store := ⟨a.store.rows ++ [row]⟩
          origin := Function.update a.origin row.id (some i) } := by
  have hinsert : a.store.insertRaw i = (true, _) := if_neg hholds
  refine ⟨_, rfl, hinsert, ?_⟩
  simp only [Mealy.next, machine, step, hinsert]
  rfl

/-- After a fresh insert, every row reads back exactly when the new one is readable. -/
theorem insert_faithful (h : Inv a) (hholds : ¬ a.store.Holds i.envelope.converted) :
    Faithful (machine.next a (.insert i)) ↔ Kept i := by
  obtain ⟨row, hrow, _, hnext⟩ := insertRaw_fresh hholds
  rw [hnext, ← readsBack_iff hrow]
  constructor
  · intro hfaithful
    obtain ⟨j, horigin, hreads⟩ := hfaithful row (List.mem_append_right _ List.mem_cons_self)
    dsimp only at horigin
    rw [Function.update_self, Option.some.injEq] at horigin
    rwa [horigin]
  · intro hreads old hold
    dsimp only
    rcases List.mem_append.mp hold with hold | hnew
    · -- the new key is larger than those in the table
      have hkey : old.id ≠ row.id := by
        rw [hrow]
        exact Nat.ne_of_lt (MqStore.id_lt_nextId hold)
      rw [Function.update_of_ne hkey]
      exact h.faithful old hold
    · rw [List.mem_singleton.mp hnew, Function.update_self]
      exact ⟨i, rfl, hreads⟩

/-- Marking and purging keep the rows that remain readable. -/
theorem markAcked_inv (h : Inv a) (envelopeId : Units) :
    Inv (machine.next a (.markAcked envelopeId)) := by
  have hrows : ∀ row ∈ (a.store.markAcked (toUtf8 envelopeId)).rows, ∃ old ∈ a.store.rows,
      row = old ∨ row = { old with acked := true } := by
    intro row hrow
    obtain ⟨old, hold, hmark⟩ := List.mem_map.mp hrow
    refine ⟨old, hold, ?_⟩
    split_ifs at hmark
    · exact Or.inr hmark.symm
    · exact Or.inl hmark.symm
  constructor
  · intro row hrow
    obtain ⟨old, hold, rfl | rfl⟩ := hrows row hrow
    · exact h.faithful _ hold
    · obtain ⟨j, horigin, hreads⟩ := h.faithful old hold
      exact ⟨j, horigin, hreads.1, hreads.2, hreads.3, hreads.4, hreads.5⟩
  · intro row hrow
    obtain ⟨old, hold, rfl | rfl⟩ := hrows row hrow
    · exact h.bound _ hold
    · exact h.bound old hold
  · intro row hrow
    obtain ⟨old, hold, rfl | rfl⟩ := hrows row hrow
    · exact h.read _ hold
    · exact h.read old hold

theorem purge_inv (h : Inv a) (fromTime toTime : Units) :
    Inv (machine.next a (.purge fromTime toTime)) :=
  ⟨fun row hrow => h.faithful row (List.mem_of_mem_filter hrow),
    fun row hrow => h.bound row (List.mem_of_mem_filter hrow),
    fun row hrow => h.read row (List.mem_of_mem_filter hrow)⟩

/-- Binding a text twice cuts it once. -/
theorem bindText_bindText (text : QString) : bindText (bindText text) = bindText text := by
  rw [bindText_eq_self_iff, bindText, String.toList_ofList]
  intro hmem
  exact absurd (List.mem_takeWhile_imp hmem) (by decide)

/-- An insert of readable strings keeps the invariant. -/
theorem insert_inv (h : Inv a) (hstoring : Storing a (.insert i)) :
    Inv (machine.next a (.insert i)) := by
  by_cases hholds : a.store.Holds i.envelope.converted
  · rw [(insertRaw_ignored hholds).2]
    exact h
  · have hkept : Kept i := by
      rcases hstoring with hsurvives | hkept
      · exact absurd ((holds_iff h (h.readable hsurvives)).mpr hsurvives) hholds
      · exact hkept
    have hfaithful := (insert_faithful h hholds).mpr hkept
    obtain ⟨row, hrow, _, hnext⟩ := insertRaw_fresh hholds
    have hid : row.envelopeId = bindText (toUtf8 i.envelope.id) := congrArg _ hrow
    refine ⟨hfaithful, ?_, ?_⟩
    · rw [hnext]
      intro old hold
      rcases List.mem_append.mp hold with hold | hnew
      · exact h.bound old hold
      · rw [List.mem_singleton.mp hnew, hid]
        exact bindText_bindText _
    · rw [hnext]
      intro old hold
      rcases List.mem_append.mp hold with hold | hnew
      · exact h.read old hold
      · rw [List.mem_singleton.mp hnew, hid]
        have hback := utf16_bindText_iff.mpr hkept.id.1
        exact fromUtf8_eq_self_iff.mpr (by rw [hback]; exact hkept.id.2)

/-- A call that stores what it should keeps the invariant. -/
theorem inv_next (h : Inv a) {call : StoreCall} (hstoring : Storing a call) :
    Inv (machine.next a call) := by
  cases call with
  | insert i => exact insert_inv h hstoring
  | markAcked envelopeId => exact markAcked_inv h envelopeId
  | purge fromTime toTime => exact purge_inv h fromTime toTime

/-- Under the invariant, a call does what it should exactly when what it inserts is readable. -/
theorem deduplicates_iff (h : Inv a) (call : StoreCall) : Deduplicates a call ↔ Storing a call := by
  cases call with
  | markAcked envelopeId =>
    exact iff_of_true ⟨nofun, (markAcked_inv h envelopeId).faithful⟩ trivial
  | purge fromTime toTime =>
    exact iff_of_true ⟨nofun, (purge_inv h fromTime toTime).faithful⟩ trivial
  | insert i =>
    by_cases hholds : a.store.Holds i.envelope.converted
    · obtain ⟨hinsert, hnext⟩ := insertRaw_ignored hholds
      constructor
      · rintro ⟨hcall, _⟩
        have hfresh := (hcall i rfl).1
        rw [hinsert] at hfresh
        exact Or.inl (not_not.mp (mt hfresh.mpr Bool.false_ne_true))
      · intro hstoring
        have hsurvives : a.SurvivesFor i.envelope.id :=
          hstoring.elim id fun hkept => (holds_iff h hkept.id).mp hholds
        refine ⟨fun j hj => ?_, by rw [hnext]; exact h.faithful⟩
        obtain rfl := StoreCall.insert.inj hj
        rw [hinsert]
        exact ⟨iff_of_false Bool.false_ne_true (not_not.mpr hsurvives), nofun, fun _ => rfl⟩
    · obtain ⟨row, _, hinsert, _⟩ := insertRaw_fresh hholds
      constructor
      · rintro ⟨_, hfaithful⟩
        exact Or.inr ((insert_faithful h hholds).mp hfaithful)
      · intro hstoring
        have hsurvives : ¬ a.SurvivesFor i.envelope.id := fun hsurvives =>
          hholds ((holds_iff h (h.readable hsurvives)).mpr hsurvives)
        have hkept : Kept i := hstoring.resolve_left hsurvives
        refine ⟨fun j hj => ?_, (insert_faithful h hholds).mpr hkept⟩
        obtain rfl := StoreCall.insert.inj hj
        rw [hinsert]
        exact ⟨iff_of_true rfl hsurvives, fun _ => ⟨row, rfl⟩, nofun⟩

/-- **The store deduplicates readable strings.** In every sequence of calls, each insert
adds a row exactly when no row for the same id survives, and all rows read back, if and
only if the strings inserted for a new id have no NUL, no unpaired surrogate and no byte
order mark in front. -/
theorem deduplicates_iff_storing (calls : List StoreCall) :
    machine.EachStep Deduplicates {} calls ↔ machine.EachStep Storing {} calls :=
  Mealy.eachStep_iff_eachStep (I := Inv) (A := fun _ _ => True) (fun _ _ h _ hP => inv_next h hP)
    (fun _ call h _ => deduplicates_iff h call) init_inv
    (Mealy.eachStep_trivial _ calls)

/-- An envelope with this id, received. -/
def receivedWith (id : Units) : Insertion where
  envelope := { id := id, timestamp := [50], type := [116], payload := [123, 125] }
  direction := [114]
  displayTitle := []
  searchText := []
  now := [50]

/-- Two envelopes whose ids differ behind a NUL. -/
def nulRun : List StoreCall :=
  [.insert (receivedWith [97, 0, 98]), .insert (receivedWith [97, 0, 99])]

/-- The second one is taken for a duplicate of the first. -/
theorem nulRun_collides :
    ¬ ∀ calls, (∀ i, .insert i ∈ calls → Accepted i.envelope) →
      machine.EachStep Deduplicates {} calls := by
  intro h
  have haccepted : ∀ i, .insert i ∈ nulRun → Accepted i.envelope := by
    intro i hi
    rw [accepted_iff]
    rcases List.mem_cons.mp hi with hfirst | hsecond
    · rw [StoreCall.insert.inj hfirst]
      decide
    · rw [StoreCall.insert.inj (List.mem_singleton.mp hsecond)]
      decide
  have hrun := h nulRun haccepted
  have hsecond := (hrun.2.1.1 (receivedWith [97, 0, 99]) rfl).1
  exact absurd (hsecond.mpr (by decide +kernel)) (by decide +kernel)

end Archive

end QtAppBase.Mq
