import QtAppBase.Library.Draining
import QtAppBase.Mq.Buffer

/-!
# Feeding in chunks

Received bytes come in chunks that have nothing to do with the records in them.
The loop of `MqBuffer::feed` is written here with the conversions of the code and
without assuming that it ends; for a consumer that takes records from the front
it ends, and the chunks do not show.
-/

namespace QtAppBase.Mq

open Library Qt

/-- `buffer.remove(0, static_cast<int>(consumed))`. A count that is not positive
as an `int` removes nothing. -/
def removeFront (buffer : QByteArray) (consumed : ℕ) : QByteArray :=
  buffer.drop (Int32.ofNat consumed).toInt.toNat

/-- The loop of `feed`, with the records passed to consume so far; `none` if it has
not ended after so many rounds. -/
def feedRounds (consume : Consumer UInt8) :
    ℕ → List QByteArray → QByteArray → Option (List QByteArray × QByteArray)
  | 0, _, _ => none
  | rounds + 1, taken, buffer =>
    if buffer.isEmpty then some (taken, buffer)
    else
      let consumed := consume taken buffer
      if consumed = 0 then some (taken, buffer)
      else
        feedRounds consume rounds (taken ++ [buffer.take consumed]) (removeFront buffer consumed)

/-- A call of `feed` ends, with these records and this buffer. -/
def FeedReturns (consume : Consumer UInt8) (start : List QByteArray × QByteArray)
    (chunk : QByteArray) (result : List QByteArray × QByteArray) : Prop :=
  ∃ rounds, feedRounds consume rounds start.1 (start.2 ++ chunk) = some result

/-- Calls of `feed`, one chunk after the other, all end. -/
def FeedsReturn (consume : Consumer UInt8) :
    List QByteArray × QByteArray → List QByteArray → List QByteArray × QByteArray → Prop
  | start, [], result => result = start
  | start, chunk :: chunks, result =>
    ∃ between, FeedReturns consume start chunk between ∧ FeedsReturn consume between chunks result

variable {consume : Consumer UInt8}

/-- A count that fits an `int` is removed as it is. -/
theorem removeFront_eq (buffer : QByteArray) {consumed : ℕ} (hfits : consumed < 2 ^ 31) :
    removeFront buffer consumed = buffer.drop consumed := by
  rw [removeFront, Int32.toInt_ofNat_of_lt hfits, Int.toNat_natCast]

/-- More rounds change nothing. -/
theorem feedRounds_mono {rounds more : ℕ} {taken : List QByteArray} {buffer : QByteArray}
    {result : List QByteArray × QByteArray} (hle : rounds ≤ more)
    (h : feedRounds consume rounds taken buffer = some result) :
    feedRounds consume more taken buffer = some result := by
  induction rounds generalizing more taken buffer with
  | zero => cases h
  | succ rounds ih =>
    obtain ⟨more, rfl⟩ : ∃ m, more = m + 1 := ⟨more - 1, by omega⟩
    unfold feedRounds at h ⊢
    dsimp only at h ⊢
    split_ifs at h ⊢ with hempty hwaits
    · exact h
    · exact h
    · exact ih (by omega) h

/-- A call has one result. -/
theorem FeedReturns.unique {start result result' : List QByteArray × QByteArray}
    {chunk : QByteArray} (h : FeedReturns consume start chunk result)
    (h' : FeedReturns consume start chunk result') : result = result' := by
  obtain ⟨rounds, hrounds⟩ := h
  obtain ⟨rounds', hrounds'⟩ := h'
  have hfirst := feedRounds_mono (Nat.le_max_left rounds rounds') hrounds
  have hsecond := feedRounds_mono (Nat.le_max_right rounds rounds') hrounds'
  exact Option.some.inj (hfirst.symm.trans hsecond)

/-- So have several calls. -/
theorem FeedsReturn.unique {start result result' : List QByteArray × QByteArray}
    {chunks : List QByteArray} (h : FeedsReturn consume start chunks result)
    (h' : FeedsReturn consume start chunks result') : result = result' := by
  induction chunks generalizing start with
  | nil => exact Eq.trans h (Eq.symm h')
  | cons chunk chunks ih =>
    obtain ⟨between, hcall, hrest⟩ := h
    obtain ⟨between', hcall', hrest'⟩ := h'
    obtain rfl := hcall.unique hcall'
    exact ih hrest hrest'

/-- **The loop drains the buffer.** It ends after at most as many rounds as there are
bytes, as long as their number fits an `int`. -/
theorem feedRounds_of_drains (hrecords : TakesRecords consume) {taken taken' : List QByteArray}
    {buffer rest : QByteArray} (h : Drains consume taken buffer taken' rest)
    (hfits : buffer.length < 2 ^ 31) {rounds : ℕ} (hrounds : buffer.length < rounds) :
    feedRounds consume rounds taken buffer = some (taken', rest) := by
  induction h generalizing rounds with
  | @waits taken buffer hwaits =>
    obtain ⟨rounds, rfl⟩ : ∃ m, rounds = m + 1 := ⟨rounds - 1, by omega⟩
    unfold feedRounds
    dsimp only
    rw [if_pos hwaits, ite_self]
  | @takes taken taken' buffer rest htakes _ ih =>
    obtain ⟨rounds, rfl⟩ : ∃ m, rounds = m + 1 := ⟨rounds - 1, by omega⟩
    have hbounded := hrecords.bounded taken buffer
    have hnonempty := mt List.isEmpty_iff.mp (hrecords.ne_nil htakes)
    have hlength : (buffer.drop (consume taken buffer)).length < buffer.length := by
      rw [List.length_drop]
      omega
    unfold feedRounds
    dsimp only
    rw [if_neg hnonempty, if_neg htakes, removeFront_eq _ (by omega)]
    exact ih (by omega) (by omega)

/-- A call drains its buffer with the chunk appended. -/
theorem feedReturns_of_drains (hrecords : TakesRecords consume) {taken taken' : List QByteArray}
    {buffer chunk rest : QByteArray} (h : Drains consume taken (buffer ++ chunk) taken' rest)
    (hfits : (buffer ++ chunk).length < 2 ^ 31) :
    FeedReturns consume (taken, buffer) chunk (taken', rest) :=
  ⟨_, feedRounds_of_drains hrecords h hfits (Nat.lt_succ_self _)⟩

/-- Calls on chunks end as the draining of everything does. -/
theorem feedsReturn_of_drains (hrecords : TakesRecords consume) (chunks : List QByteArray)
    {taken : List QByteArray} {buffer : QByteArray} (hwaits : consume taken buffer = 0)
    (hfits : (buffer ++ chunks.flatten).length < 2 ^ 31) :
    ∃ taken' rest, FeedsReturn consume (taken, buffer) chunks (taken', rest) ∧
      Drains consume taken (buffer ++ chunks.flatten) taken' rest := by
  induction chunks generalizing taken buffer with
  | nil =>
    refine ⟨taken, buffer, rfl, ?_⟩
    rw [List.flatten_nil, List.append_nil]
    exact .waits hwaits
  | cons chunk chunks ih =>
    rw [List.flatten_cons, ← List.append_assoc] at hfits ⊢
    obtain ⟨between, left, hfirst⟩ := Drains.total hrecords taken (buffer ++ chunk)
    have hleft := hfirst.length_le
    simp only [List.length_append] at hfits hleft
    obtain ⟨taken', rest, hrest, hdrains⟩ := ih hfirst.waits_after (by
      rw [List.length_append]
      omega)
    refine ⟨taken', rest, ⟨(between, left), ?_, hrest⟩, hfirst.append hrecords hdrains⟩
    apply feedReturns_of_drains hrecords hfirst
    rw [List.length_append]
    omega

/-- **Chunks do not show.** For a consumer that takes records from the front, and chunks
whose total size fits an `int`, feeding the chunks one after the other and feeding their
concatenation both end, with the same records passed to consume and the same buffer; the
records and the buffer are the bytes fed. -/
theorem feed_chunks (hrecords : TakesRecords consume) (chunks : List QByteArray)
    (hfits : chunks.flatten.length < 2 ^ 31) :
    ∃ taken rest,
      (∀ result, FeedsReturn consume ([], []) chunks result ↔ result = (taken, rest)) ∧
      (∀ result, FeedReturns consume ([], []) chunks.flatten result ↔ result = (taken, rest)) ∧
      taken.flatten ++ rest = chunks.flatten := by
  have hwaits : consume [] [] = 0 := Nat.le_zero.mp (hrecords.bounded [] [])
  obtain ⟨taken, rest, hcalls, hdrains⟩ := feedsReturn_of_drains hrecords chunks hwaits hfits
  have hcall := feedReturns_of_drains hrecords hdrains hfits
  refine ⟨taken, rest, fun result => ⟨fun h => h.unique hcalls, ?_⟩,
    fun result => ⟨fun h => h.unique hcall, ?_⟩, hdrains.flatten_append⟩
  · rintro rfl
    exact hcalls
  · rintro rfl
    exact hcall

/-- Records of four bytes. -/
def fixedRecords : Consumer UInt8 := fun _ buffer => if buffer.length < 4 then 0 else 4

theorem fixedRecords_takesRecords : TakesRecords fixedRecords := by
  constructor
  · intro taken buffer
    unfold fixedRecords
    split_ifs <;> omega
  · intro taken buffer more htakes
    unfold fixedRecords at htakes ⊢
    rw [List.length_append]
    split_ifs at htakes ⊢ <;> omega

/-- Three records, split inside the second one and inside the third. -/
theorem fixedRecords_chunks :
    ∃ taken rest,
      (∀ result, FeedsReturn fixedRecords ([], [])
        [[97, 98, 99, 100, 101], [102, 103, 104, 105, 106], [107, 108]] result ↔
          result = (taken, rest)) ∧
      (∀ result, FeedReturns fixedRecords ([], [])
        [97, 98, 99, 100, 101, 102, 103, 104, 105, 106, 107, 108] result ↔
          result = (taken, rest)) ∧
      taken.flatten ++ rest = [97, 98, 99, 100, 101, 102, 103, 104, 105, 106, 107, 108] :=
  feed_chunks fixedRecords_takesRecords
    [[97, 98, 99, 100, 101], [102, 103, 104, 105, 106], [107, 108]] (by decide)

/-! ### The total loop

Where the loop ends by itself, it is the loop with a bound on its rounds. -/

/-- A consumer together with the records passed to it. -/
def recording (consume : Consumer UInt8) (taken : List QByteArray) (buffer : QByteArray) :
    ℕ × List QByteArray :=
  let consumed := consume taken buffer
  (consumed, if consumed = 0 then taken else taken ++ [buffer.take consumed])

/-- Draining a buffer is what the bounded loop does. -/
theorem feedLoop_of_drains (hrecords : TakesRecords consume) {taken taken' : List QByteArray}
    {buffer rest : QByteArray} (h : Drains consume taken buffer taken' rest) {fuel : ℕ}
    (hfuel : buffer.length ≤ fuel) :
    feedLoop (recording consume) fuel taken buffer = (taken', rest) := by
  induction h generalizing fuel with
  | @waits taken buffer hwaits =>
    cases fuel with
    | zero => rfl
    | succ fuel =>
      unfold feedLoop recording
      simp [hwaits]
  | @takes taken taken' buffer rest htakes _ ih =>
    have hbounded := hrecords.bounded taken buffer
    obtain ⟨fuel, rfl⟩ : ∃ m, fuel = m + 1 := ⟨fuel - 1, by omega⟩
    have hnonempty := mt List.isEmpty_iff.mp (hrecords.ne_nil htakes)
    unfold feedLoop recording
    rw [if_neg hnonempty]
    dsimp only
    rw [if_neg htakes, if_neg htakes]
    apply ih
    rw [List.length_drop]
    omega

/-- A call of `feed` as the connection makes it ends with what the total function gives. -/
theorem feedReturns_feed (hrecords : TakesRecords consume) (taken : List QByteArray)
    (buffer chunk : QByteArray) (hfits : (buffer ++ chunk).length < 2 ^ 31) :
    FeedReturns consume (taken, buffer) chunk (feed (recording consume) taken buffer chunk) := by
  obtain ⟨taken', rest, hdrains⟩ := Drains.total hrecords taken (buffer ++ chunk)
  rw [feed, feedLoop_of_drains hrecords hdrains (Nat.le_refl _)]
  exact feedReturns_of_drains hrecords hdrains hfits

end QtAppBase.Mq
