import QtAppBase.Mq.LikePatterns
import QtAppBase.Mq.Search
import QtAppBase.Mq.StoredTexts
import QtAppBase.Qt.Containment

/-!
# What a search finds

A search should return the stored rows that satisfy every filter that is given, each
once and newest first. What satisfies a filter is said with code units and instants,
and not with what SQLite compares. The result tells for which filters every stored set
is searched so: the text is put between percent signs as it is, so its own wildcards
are taken for wildcards.
-/

namespace QtAppBase.Mq

open Library Qt

namespace Filters

/-- A row satisfies every filter that is given. -/
def Satisfies (f : Filters) (row : StoredMessage) : Prop :=
  ∃ created : QDateTime, row.createdAt = created.isoText ∧
    (f.type ≠ [] → utf16 row.envelopeType = f.type) ∧
    (∀ time ∈ f.fromTime, time.instant ≤ created.instant) ∧
    (∀ time ∈ f.toTime, created.instant ≤ time.instant) ∧
    (f.searchText ≠ [] → Contains (utf16 row.searchText) f.searchText) ∧
    (f.receivedOnly → row.direction = "received")

end Filters

/-- Newest first, and of rows of one instant the larger key first. -/
def NewestFirst (a b : StoredMessage) : Prop :=
  ∃ s t : QDateTime, a.createdAt = s.isoText ∧ b.createdAt = t.isoText ∧
    (t.instant < s.instant ∨ t.instant = s.instant ∧ b.id < a.id)

/-- A search returns the rows that satisfy every filter, each once and in order. -/
def Exact (f : Filters) (store : MqStore) : Prop :=
  ∃ found, store.searchStatement f = some found ∧
    (∀ row, row ∈ found ↔ row ∈ store.rows ∧ f.Satisfies row) ∧
    found.Nodup ∧ found.Pairwise NewestFirst

/-- The sets of messages that the calls of the store leave in it, when every insert binds
the text of a time. -/
def Stored (store : MqStore) : Prop :=
  ∃ calls : List StoreCall,
    (∀ i, .insert i ∈ calls → ∃ now : QDateTime, i.now = utf16 now.isoText) ∧
    store = (Archive.machine.after {} calls).store

namespace Filters

/-- No instant lies in the period. -/
def EmptyPeriod (f : Filters) : Prop :=
  ∃ start ∈ f.fromTime, ∃ stop ∈ f.toTime, stop.instant < start.instant

/-- The type and the text are storable, and the text has no wildcard and is not too long. -/
def Literal (f : Filters) : Prop :=
  Storable f.type ∧ (f.searchText = [] ∨ Storable f.searchText ∧ 37 ∉ f.searchText ∧
    95 ∉ f.searchText ∧ f.pattern.utf8ByteSize ≤ likePatternLimit)

end Filters

/-! ### What is stored -/

/-- The keys are distinct, and the times are ISO texts. -/
structure Dated (store : MqStore) : Prop where
  ids : store.rows.Pairwise fun a b => a.id ≠ b.id
  dated : ∀ row ∈ store.rows, ∃ created : QDateTime, row.createdAt = created.isoText

namespace Dated

/-- Times are bound whole. -/
theorem bindText_isoText (t : QDateTime) : bindText t.isoText = t.isoText :=
  bindText_eq_self_iff.mpr t.nul_notMem_isoText

/-- An insert at the time of a clock keeps both. -/
theorem insert {store : MqStore} (h : Dated store) {i : Insertion} {now : QDateTime}
    (hnow : i.now = utf16 now.isoText) : Dated (store.insertRaw i).2 := by
  unfold MqStore.insertRaw MqStore.insert
  split_ifs
  · exact h
  · constructor
    · rw [List.pairwise_append]
      refine ⟨h.ids, List.pairwise_singleton _ _, ?_⟩
      intro old hold row hrow
      rw [List.mem_singleton.mp hrow]
      exact Nat.ne_of_lt (MqStore.id_lt_nextId hold)
    · intro row hrow
      rcases List.mem_append.mp hrow with hold | hnew
      · exact h.dated row hold
      · refine ⟨now, ?_⟩
        rw [List.mem_singleton.mp hnew, hnow, toUtf8_utf16]
        exact bindText_isoText now

/-- Marking changes neither keys nor times. -/
theorem markAcked {store : MqStore} (h : Dated store) (envelopeId : QString) :
    Dated (store.markAcked envelopeId) := by
  have hkept : ∀ row : StoredMessage,
      (if row.envelopeId = bindText envelopeId then { row with acked := true } else row).id =
        row.id ∧
      (if row.envelopeId = bindText envelopeId then { row with acked := true }
        else row).createdAt = row.createdAt := by
    intro row
    split_ifs <;> exact ⟨rfl, rfl⟩
  constructor
  · apply List.pairwise_map.mpr
    apply h.ids.imp
    intro a b hne
    rw [(hkept a).1, (hkept b).1]
    exact hne
  · intro row hrow
    obtain ⟨old, hold, rfl⟩ := List.mem_map.mp hrow
    rw [(hkept old).2]
    exact h.dated old hold

/-- Purging leaves some of the rows. -/
theorem purge {store : MqStore} (h : Dated store) (fromTime toTime : QString) :
    Dated (store.purge fromTime toTime).2 :=
  ⟨h.ids.filter _, fun row hrow => h.dated row (List.mem_of_mem_filter hrow)⟩

/-- **Every set that is stored has distinct keys and dated rows.** -/
theorem of_stored {store : MqStore} (h : Stored store) : Dated store := by
  obtain ⟨calls, hclock, rfl⟩ := h
  suffices hrun : ∀ a : Archive, Dated a.store →
      Dated (Archive.machine.after a calls).store from hrun {} ⟨.nil, nofun⟩
  induction calls with
  | nil => exact fun a ha => ha
  | cons call calls ih =>
    intro a ha
    rw [Mealy.after_cons]
    apply ih (fun i hi => hclock i (List.mem_cons_of_mem _ hi))
    cases call with
    | insert i =>
      obtain ⟨now, hnow⟩ := hclock i List.mem_cons_self
      exact ha.insert hnow
    | markAcked envelopeId => exact ha.markAcked _
    | purge fromTime toTime => exact ha.purge _ _

/-- Sorting what is found keeps the keys distinct. -/
theorem ids_mergeSort {store : MqStore} (h : Dated store) (p : StoredMessage → Bool) :
    ((store.rows.filter p).mergeSort MqStore.newerFirst).Pairwise fun a b => a.id ≠ b.id := by
  have hsymm : ∀ {a b : StoredMessage}, a.id ≠ b.id → b.id ≠ a.id := Ne.symm
  rw [(List.mergeSort_perm _ _).pairwise_iff hsymm]
  exact h.ids.filter p

/-- **What is found comes newest first.** ISO texts are ordered as their instants. -/
theorem newestFirst_mergeSort {store : MqStore} (h : Dated store) (p : StoredMessage → Bool) :
    ((store.rows.filter p).mergeSort MqStore.newerFirst).Pairwise NewestFirst := by
  have hordered := (pairwise_newerFirst (store.rows.filter p)).and (h.ids_mergeSort p)
  refine hordered.imp_of_mem ?_
  rintro a b ha hb ⟨hnewer, hid⟩
  obtain ⟨s, hs⟩ := h.dated a (List.mem_of_mem_filter (List.mem_mergeSort.mp ha))
  obtain ⟨t, ht⟩ := h.dated b (List.mem_of_mem_filter (List.mem_mergeSort.mp hb))
  refine ⟨s, t, hs, ht, ?_⟩
  rw [newerFirst_iff, hs, ht, QDateTime.isoText_lt_iff, QDateTime.isoText_inj] at hnewer
  rcases hnewer with hlater | ⟨hsame, hle⟩
  · exact Or.inl hlater
  · exact Or.inr ⟨hsame.symm, by omega⟩

end Dated

/-! ### One row decides -/

/-- **A search is exact when its statement decides every row rightly**, and only then: keys
and times make the order. -/
theorem exact_iff {f : Filters} {store : MqStore} (h : Dated store) :
    Exact f store ↔
      ∀ row ∈ store.rows, ∃ b, f.evaluate row = some b ∧ (b = true ↔ f.Satisfies row) := by
  constructor
  · rintro ⟨found, hsearch, hmem, -, -⟩ row hrow
    unfold MqStore.searchStatement at hsearch
    split_ifs at hsearch with hthrows
    obtain ⟨b, hb⟩ := Option.ne_none_iff_exists'.mp fun hnone => hthrows ⟨row, hrow, hnone⟩
    refine ⟨b, hb, ?_⟩
    have hfound := hmem row
    rw [← Option.some.inj hsearch, List.mem_mergeSort, List.mem_filter, and_congr_right_iff]
      at hfound
    rw [← hfound hrow, hb, decide_eq_true_iff, Option.some.injEq]
  · intro hdecides
    have hgood : ¬ ∃ row ∈ store.rows, f.evaluate row = none := by
      rintro ⟨row, hrow, hnone⟩
      obtain ⟨b, hb, -⟩ := hdecides row hrow
      rw [hnone] at hb
      cases hb
    refine ⟨_, if_neg hgood, ?_, ?_, ?_⟩
    · intro row
      rw [List.mem_mergeSort, List.mem_filter, and_congr_right_iff, decide_eq_true_iff]
      intro hrow
      obtain ⟨b, hb, hsatisfies⟩ := hdecides row hrow
      rw [hb, Option.some.injEq, hsatisfies]
    · apply (h.ids_mergeSort _).imp
      intro a b hid hsame
      exact hid (congrArg StoredMessage.id hsame)
    · exact h.newestFirst_mergeSort _

/-! ### Filters that are searched rightly -/

namespace Filters

variable {f : Filters} {row : StoredMessage} {created : QDateTime}

/-- A row satisfies the filters by the instant that its time stands for. -/
theorem satisfies_iff (hcreated : row.createdAt = created.isoText) :
    f.Satisfies row ↔
      (f.type ≠ [] → utf16 row.envelopeType = f.type) ∧
      (∀ time ∈ f.fromTime, time.instant ≤ created.instant) ∧
      (∀ time ∈ f.toTime, created.instant ≤ time.instant) ∧
      (f.searchText ≠ [] → Contains (utf16 row.searchText) f.searchText) ∧
      (f.receivedOnly → row.direction = "received") := by
  constructor
  · rintro ⟨created', hcreated', hrest⟩
    have hsame : created'.instant = created.instant :=
      (QDateTime.isoText_inj _ _).mp (hcreated'.symm.trans hcreated)
    rwa [hsame] at hrest
  · intro hrest
    exact ⟨created, hcreated, hrest⟩

/-- Times are compared as instants. -/
theorem from_iff (hcreated : row.createdAt = created.isoText) :
    f.fromTime.all (fun time => bindText time.isoText ≤ row.createdAt) = true ↔
      ∀ time ∈ f.fromTime, time.instant ≤ created.instant := by
  rw [Option.all_eq_true]
  apply forall₂_congr
  intro time _
  rw [decide_eq_true_iff, Dated.bindText_isoText, hcreated, QDateTime.isoText_le_iff]

theorem to_iff (hcreated : row.createdAt = created.isoText) :
    f.toTime.all (fun time => row.createdAt ≤ bindText time.isoText) = true ↔
      ∀ time ∈ f.toTime, created.instant ≤ time.instant := by
  rw [Option.all_eq_true]
  apply forall₂_congr
  intro time _
  rw [decide_eq_true_iff, Dated.bindText_isoText, hcreated, QDateTime.isoText_le_iff]

/-- In an empty period there is nothing to find, and nothing is found. -/
theorem evaluate_emptyPeriod (h : f.EmptyPeriod) (hcreated : row.createdAt = created.isoText) :
    f.evaluate row = some false ∧ ¬ f.Satisfies row := by
  obtain ⟨start, hstart, stop, hstop, hempty⟩ := h
  have hnot : ¬ (start.instant ≤ created.instant ∧ created.instant ≤ stop.instant) := by
    omega
  constructor
  · have hadmits : ¬ f.admits row = true := by
      intro hadmits
      rw [admits, Bool.and_eq_true, Bool.and_eq_true, from_iff hcreated, to_iff hcreated] at hadmits
      exact hnot ⟨hadmits.1.2 start hstart, hadmits.2 stop hstop⟩
    rw [evaluate_eq, if_neg hadmits]
  · intro hsatisfies
    obtain ⟨-, hfrom, hto, -⟩ := (satisfies_iff hcreated).mp hsatisfies
    exact hnot ⟨hfrom start hstart, hto stop hstop⟩

/-- A storable type is compared as it is. -/
theorem type_iff (htype : Storable f.type) :
    (f.type.isEmpty || row.envelopeType = bindText (toUtf8 f.type)) = true ↔
      (f.type ≠ [] → utf16 row.envelopeType = f.type) := by
  have hback : utf16 (bindText (toUtf8 f.type)) = f.type := utf16_bindText_iff.mpr htype
  rw [Bool.or_eq_true, decide_eq_true_iff, List.isEmpty_iff, or_iff_not_imp_left]
  apply imp_congr_right
  intro _
  constructor
  · intro hsame
    rw [hsame, hback]
  · intro hsame
    exact utf16_injective (hsame.trans hback.symm)

/-- A storable text is converted and bound without loss. -/
theorem kept_of_storable {text : Units} (h : Storable text) :
    utf16 (toUtf8 text) = text ∧ bindText (toUtf8 text) = toUtf8 text := by
  have hback : utf16 (toUtf8 text) = text := utf16_toUtf8_iff.mpr h.1
  exact ⟨hback, utf16_injective ((utf16_bindText_iff.mpr h).trans hback.symm)⟩

/-- A text without wildcards is made of literal characters. -/
theorem literal_iff (htext : Storable f.searchText) :
    (∀ c ∈ (toUtf8 f.searchText).toList, MqStore.Literal c) ↔
      37 ∉ f.searchText ∧ 95 ∉ f.searchText := by
  have hback : utf16 (toUtf8 f.searchText) = f.searchText := (kept_of_storable htext).1
  have hpercent : 37 ∈ f.searchText ↔ '%' ∈ (toUtf8 f.searchText).toList := by
    conv_lhs => rw [← hback]
    exact mem_utf16_iff (c := '%') (by decide)
  have hunderscore : 95 ∈ f.searchText ↔ '_' ∈ (toUtf8 f.searchText).toList := by
    conv_lhs => rw [← hback]
    exact mem_utf16_iff (c := '_') (by decide)
  rw [hpercent, hunderscore]
  constructor
  · intro hall
    exact ⟨fun hmem => (hall _ hmem).1 rfl, fun hmem => (hall _ hmem).2 rfl⟩
  · rintro ⟨hp, hu⟩ c hc
    exact ⟨fun hsame => hp (hsame ▸ hc), fun hsame => hu (hsame ▸ hc)⟩

/-- A text that is taken literally is found where it is contained. -/
theorem text_iff (htext : Storable f.searchText)
    (hliteral : ∀ c ∈ (toUtf8 f.searchText).toList, MqStore.Literal c) (text : QString) :
    MqStore.likeMatch f.pattern.toList text.toList = true ↔
      Contains (utf16 text) f.searchText := by
  obtain ⟨hback, hbound⟩ := kept_of_storable htext
  have hnul : Char.ofNat 0 ∉ (toUtf8 f.searchText).toList := bindText_eq_self_iff.mp hbound
  rw [pattern_eq, MqStore.bindText_pattern, if_neg hnul, hbound,
    MqStore.likeMatch_contains hliteral, ← contains_utf16_iff, hback]

/-- Literal filters decide every dated row rightly. -/
theorem evaluate_literal (h : f.Literal) (hcreated : row.createdAt = created.isoText) :
    ∃ b, f.evaluate row = some b ∧ (b = true ↔ f.Satisfies row) := by
  obtain ⟨htype, htext⟩ := h
  have hlong : ¬ f.TooLong := by
    rintro ⟨hne, hlong⟩
    obtain ⟨-, -, -, hshort⟩ := htext.resolve_left hne
    omega
  have hcontains : (f.searchText.isEmpty ||
      MqStore.likeMatch f.pattern.toList row.searchText.toList) = true ↔
      (f.searchText ≠ [] → Contains (utf16 row.searchText) f.searchText) := by
    rw [Bool.or_eq_true, List.isEmpty_iff, or_iff_not_imp_left]
    apply imp_congr_right
    intro hne
    obtain ⟨hstorable, hpercent, hunderscore, -⟩ := htext.resolve_left hne
    exact text_iff hstorable ((literal_iff hstorable).mpr ⟨hpercent, hunderscore⟩) _
  have hreceived : (!f.receivedOnly || row.direction = "received") = true ↔
      (f.receivedOnly → row.direction = "received") := by
    cases f.receivedOnly <;> simp
  refine ⟨f.admits row && ((f.searchText.isEmpty ||
    MqStore.likeMatch f.pattern.toList row.searchText.toList) &&
    (!f.receivedOnly || row.direction = "received")), ?_, ?_⟩
  · rw [evaluate_eq, if_neg hlong]
    cases f.admits row <;> rfl
  · rw [satisfies_iff hcreated, admits, Bool.and_eq_true, Bool.and_eq_true, Bool.and_eq_true,
      Bool.and_eq_true, type_iff htype, from_iff hcreated, to_iff hcreated, hcontains, hreceived,
      and_assoc, and_assoc]

/-! ### One row that tells -/

/-- Unless the period is empty, some instant lies in it. -/
theorem exists_in_period (h : ¬ f.EmptyPeriod) :
    ∃ created : QDateTime, (∀ time ∈ f.fromTime, time.instant ≤ created.instant) ∧
      ∀ time ∈ f.toTime, created.instant ≤ time.instant := by
  cases hfrom : f.fromTime with
  | none =>
    cases hto : f.toTime with
    | none => exact ⟨.epoch, nofun, nofun⟩
    | some stop => exact ⟨stop, nofun, by simp⟩
  | some start =>
    refine ⟨start, by simp, ?_⟩
    intro stop hstop
    by_contra hlt
    exact h ⟨start, hfrom, stop, hstop, Nat.lt_of_not_le hlt⟩

/-- A received message of the type that is searched for, with a text of its own. -/
def probe (f : Filters) (created : QDateTime) (text : QString) : Insertion where
  envelope :=
    { id := [97], timestamp := utf16 created.isoText, type := f.type, payload := [123, 125] }
  direction := utf16 "received"
  displayTitle := []
  searchText := utf16 text
  now := utf16 created.isoText

theorem probe_now (f : Filters) (created : QDateTime) (text : QString) :
    (f.probe created text).now = utf16 created.isoText := by
  simp only [probe]

/-- It can be the only one in the store. -/
theorem exists_stored_probe (f : Filters) (created : QDateTime) (text : QString) :
    ∃ store, Stored store ∧ ∃ row ∈ store.rows, row.envelopeType = bindText (toUtf8 f.type) ∧
      row.direction = "received" ∧ row.searchText = bindText text ∧
      row.createdAt = created.isoText := by
  have hempty : ¬ ({} : MqStore).Holds (f.probe created text).envelope.converted := nofun
  refine ⟨(Archive.machine.after {} [.insert (f.probe created text)]).store,
    ⟨[.insert (f.probe created text)], ?_, rfl⟩, ?_⟩
  · intro i hi
    rw [StoreCall.insert.inj (List.mem_singleton.mp hi)]
    exact ⟨created, probe_now f created text⟩
  · obtain ⟨row, hrow, -, hnext⟩ := Archive.insertRaw_fresh (a := {}) hempty
    rw [Mealy.after_cons, Mealy.after_nil, hnext]
    refine ⟨row, List.mem_append_right _ List.mem_cons_self, ?_⟩
    have hdirection : (f.probe created text).direction = utf16 "received" := by simp only [probe]
    have htext : (f.probe created text).searchText = utf16 text := by simp only [probe]
    have hreceived : Char.ofNat 0 ∉ "received".toList := by decide
    rw [hdirection, htext, probe_now, toUtf8_utf16, toUtf8_utf16, toUtf8_utf16] at hrow
    rw [hrow]
    refine ⟨rfl, ?_, rfl, ?_⟩
    · exact bindText_eq_self_iff.mpr hreceived
    · exact Dated.bindText_isoText created

/-- What a search that is always exact finds is of the type and contains the text. -/
theorem found_probe (hexact : ∀ store, Stored store → Exact f store)
    (hperiod : ¬ f.EmptyPeriod) (text : QString) :
    ¬ f.TooLong ∧
      ((f.searchText.isEmpty || MqStore.likeMatch f.pattern.toList (bindText text).toList) →
        (f.type ≠ [] → utf16 (bindText (toUtf8 f.type)) = f.type) ∧
        (f.searchText ≠ [] → Contains (utf16 (bindText text)) f.searchText)) := by
  obtain ⟨created, hfrom, hto⟩ := exists_in_period hperiod
  obtain ⟨store, hstored, row, hrow, htype, hdirection, htext, hcreated⟩ :=
    exists_stored_probe f created text
  obtain ⟨b, hb, hsatisfies⟩ :=
    (exact_iff (Dated.of_stored hstored)).mp (hexact store hstored) row hrow
  have hadmits : f.admits row = true := by
    rw [admits, Bool.and_eq_true, Bool.and_eq_true]
    refine ⟨⟨?_, (from_iff hcreated).mpr hfrom⟩, (to_iff hcreated).mpr hto⟩
    rw [Bool.or_eq_true, decide_eq_true_iff]
    exact Or.inr htype
  rw [evaluate_eq, if_pos hadmits, hdirection, htext] at hb
  have hlong : ¬ f.TooLong := by
    intro hlong
    rw [if_pos hlong] at hb
    cases hb
  refine ⟨hlong, ?_⟩
  intro hmatch
  rw [if_neg hlong, hmatch, decide_eq_true rfl, Bool.or_true, Bool.true_and,
    Option.some.injEq] at hb
  obtain ⟨htype', -, -, htext', -⟩ := (satisfies_iff hcreated).mp (hsatisfies.mp hb.symm)
  rw [htype] at htype'
  rw [htext] at htext'
  exact ⟨htype', htext'⟩

/-- A text that is contained in what is stored of it is storable. -/
theorem storable_of_contains {text : Units}
    (h : Contains (utf16 (bindText (toUtf8 text))) text) : Storable text := by
  have hlength : (utf16 (bindText (toUtf8 text))).length ≤ text.length := by
    rw [← length_utf16_toUtf8 (s := text)]
    exact length_utf16_bindText _
  -- so it is all of it, up to the case
  have hsame : text.map unitLower = (utf16 (bindText (toUtf8 text))).map unitLower := by
    apply h.eq_of_length_le
    rw [List.length_map, List.length_map]
    exact hlength
  constructor
  · rw [← paired_map_unitLower, hsame, paired_map_unitLower, ← utf16_toUtf8_iff, toUtf8_utf16]
  · intro hzero
    have hlower : 0 ∈ text.map unitLower := List.mem_map.mpr ⟨0, hzero, rfl⟩
    rw [hsame] at hlower
    obtain ⟨u, hu, hfolded⟩ := List.mem_map.mp hlower
    have hnul : u = 0 := by
      apply UInt16.toNat_inj.mp
      have hnat := unitLower_toNat u
      rw [hfolded] at hnat
      change 0 = _ at hnat
      change u.toNat = 0
      split_ifs at hnat
      omega
    rw [hnul, zero_mem_utf16] at hu
    exact bindText_eq_self_iff.mp (Archive.bindText_bindText _) hu

/-- Something else in the place of a wildcard. -/
def fillWildcard (c : Char) : Char := if MqStore.Literal c then c else 'a'

theorem fillWildcard_eq {c : Char} (h : MqStore.Literal c) : fillWildcard c = c := if_pos h

/-- A text that is contained where its wildcards are filled has none. -/
theorem literal_of_contains {chars : List Char}
    (h : Contains (utf16 (String.ofList (chars.map fillWildcard))) (utf16 (String.ofList chars))) :
    ∀ c ∈ chars, MqStore.Literal c := by
  rw [contains_utf16_iff, String.toList_ofList, String.toList_ofList] at h
  have hsame := h.eq_of_length (by simp)
  rw [List.map_map, List.map_inj_left] at hsame
  intro c hc
  by_contra hwildcard
  have hfilled := hsame c hc
  rw [Function.comp_apply, fillWildcard, if_neg hwildcard] at hfilled
  rcases not_and_or.mp hwildcard with hpercent | hunderscore
  · rw [not_not.mp hpercent] at hfilled
    exact absurd hfilled (by decide)
  · rw [not_not.mp hunderscore] at hfilled
    exact absurd hfilled (by decide)

/-- The text is found as it is stored. -/
theorem likeMatch_stored (f : Filters) :
    MqStore.likeMatch f.pattern.toList (bindText (toUtf8 f.searchText)).toList = true := by
  have hfilled : MqStore.likeMatch f.pattern.toList
      ((bindText (toUtf8 f.searchText)).toList.map id) = true := by
    rw [pattern_eq]
    exact MqStore.likeMatch_pattern_filled _ fun _ _ _ => rfl
  rwa [List.map_id] at hfilled

/-- So it is storable. -/
theorem storable_of_exact (hexact : ∀ store, Stored store → Exact f store)
    (hperiod : ¬ f.EmptyPeriod) (hne : f.searchText ≠ []) : Storable f.searchText := by
  obtain ⟨-, hfound⟩ := found_probe hexact hperiod (toUtf8 f.searchText)
  rw [likeMatch_stored, Bool.or_true] at hfound
  exact storable_of_contains ((hfound rfl).2 hne)

/-- It is also found with something else in the place of its wildcards, so it has none. -/
theorem literal_chars_of_exact (hexact : ∀ store, Stored store → Exact f store)
    (hperiod : ¬ f.EmptyPeriod) (hne : f.searchText ≠ []) (htext : Storable f.searchText) :
    ∀ c ∈ (toUtf8 f.searchText).toList, MqStore.Literal c := by
  obtain ⟨hback, hbound⟩ := kept_of_storable htext
  have hmatch : MqStore.likeMatch f.pattern.toList
      ((toUtf8 f.searchText).toList.map fillWildcard) = true := by
    have hfilled := MqStore.likeMatch_pattern_filled (toUtf8 f.searchText)
      fun c _ hc => fillWildcard_eq hc
    rwa [← pattern_eq, hbound] at hfilled
  have hwhole : bindText (String.ofList ((toUtf8 f.searchText).toList.map fillWildcard)) =
      String.ofList ((toUtf8 f.searchText).toList.map fillWildcard) := by
    rw [bindText_eq_self_iff, String.toList_ofList]
    intro hmem
    obtain ⟨c, hc, hfill⟩ := List.mem_map.mp hmem
    unfold fillWildcard at hfill
    split_ifs at hfill
    · exact bindText_eq_self_iff.mp hbound (hfill ▸ hc)
    · exact absurd hfill (by decide)
  obtain ⟨-, hfound⟩ := found_probe hexact hperiod
    (String.ofList ((toUtf8 f.searchText).toList.map fillWildcard))
  rw [hwhole, String.toList_ofList, hmatch, Bool.or_true] at hfound
  have hcontains := (hfound rfl).2 hne
  conv_rhs at hcontains => rw [← hback, ← String.ofList_toList (s := toUtf8 f.searchText)]
  exact literal_of_contains hcontains

/-- The type of what is found reads back. -/
theorem storable_type_of_exact (hexact : ∀ store, Stored store → Exact f store)
    (hperiod : ¬ f.EmptyPeriod) : Storable f.type := by
  obtain ⟨-, hfound⟩ := found_probe hexact hperiod (toUtf8 f.searchText)
  rw [likeMatch_stored, Bool.or_true] at hfound
  obtain ⟨htype, -⟩ := hfound rfl
  by_cases hempty : f.type = []
  · rw [hempty]
    decide
  · exact utf16_bindText_iff.mp (htype hempty)

/-- **Filters that are always searched rightly are literal.** The row that tells has the
type that is searched for, and the text, first as it is stored and then with something
else in the place of its wildcards. -/
theorem literal_of_exact (hexact : ∀ store, Stored store → Exact f store)
    (hperiod : ¬ f.EmptyPeriod) : f.Literal := by
  refine ⟨storable_type_of_exact hexact hperiod, ?_⟩
  rw [or_iff_not_imp_left]
  intro hne
  have htext := storable_of_exact hexact hperiod hne
  obtain ⟨hpercent, hunderscore⟩ :=
    (literal_iff htext).mp (literal_chars_of_exact hexact hperiod hne htext)
  refine ⟨htext, hpercent, hunderscore, ?_⟩
  by_contra hlt
  exact (found_probe hexact hperiod "").1 ⟨hne, Nat.lt_of_not_le hlt⟩

end Filters

/-- **Filters that are searched rightly.** Every stored set is searched as it should be,
exactly when the period is empty, or the type and the text are storable and the text has
no percent sign, no underscore and no pattern that is too long. -/
theorem exact_iff_literal (f : Filters) :
    (∀ store, Stored store → Exact f store) ↔ f.EmptyPeriod ∨ f.Literal := by
  constructor
  · intro hexact
    by_cases hperiod : f.EmptyPeriod
    · exact Or.inl hperiod
    · exact Or.inr (Filters.literal_of_exact hexact hperiod)
  · intro hfilters store hstored
    have hdated := Dated.of_stored hstored
    rw [exact_iff hdated]
    intro row hrow
    obtain ⟨created, hcreated⟩ := hdated.dated row hrow
    rcases hfilters with hempty | hliteral
    · obtain ⟨hnone, hnot⟩ := Filters.evaluate_emptyPeriod hempty hcreated
      exact ⟨false, hnone, iff_of_false Bool.false_ne_true hnot⟩
    · exact Filters.evaluate_literal hliteral hcreated

/-- A search for an underscore. -/
def underscore : Filters := { searchText := [95] }

/-- A message with another text. -/
def letterRun : List StoreCall := [.insert (underscore.probe .epoch "a")]

/-- It is found. -/
theorem underscore_finds_letter : ¬ ∀ f store, Stored store → Exact f store := by
  intro h
  have hstored : Stored (Archive.machine.after {} letterRun).store := by
    refine ⟨letterRun, ?_, rfl⟩
    intro i hi
    rw [StoreCall.insert.inj (List.mem_singleton.mp hi)]
    exact ⟨.epoch, Filters.probe_now underscore .epoch "a"⟩
  obtain ⟨row, hrow, htext, hfound⟩ : ∃ row ∈ (Archive.machine.after {} letterRun).store.rows,
      row.searchText = "a" ∧ underscore.evaluate row = some true := by decide +kernel
  have hdecides := (exact_iff (Dated.of_stored hstored)).mp (h underscore _ hstored)
  obtain ⟨b, hb, hsatisfies⟩ := hdecides row hrow
  rw [hfound] at hb
  obtain ⟨_, -, -, -, -, hcontains, -⟩ := hsatisfies.mp (Option.some.inj hb).symm
  have hpart := hcontains (by decide)
  rw [htext] at hpart
  exact absurd hpart (by decide +kernel)

end QtAppBase.Mq
