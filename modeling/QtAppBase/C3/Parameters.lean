import QtAppBase.C3.KeyValues

/-!
# Parameters there and back

Setting parameters joins names and values as they are, and getting them searches
the text for pairs. A set of parameters survives the way to the device and back
if and only if its values are values of the pattern.
-/

namespace QtAppBase.C3

open Library Qt

variable {values : QVariantMap} {b : Bool}

/-- A parameter has a name of key characters, and a value of Latin-1 characters
other than zero. -/
def IsParameter (entry : QString × QVariant) : Prop :=
  IsKey entry.1 ∧
    match entry.2 with
    | .string value => IsLatin1 value.toList ∧ Char.ofNat 0 ∉ value.toList
    | .longlong _ => False

/-- The parameters as pairs. -/
def paramPairs (values : QVariantMap) : List (QString × QString) :=
  values.entries.map fun entry => (entry.1, entry.2.toString)

/-- A request that sets parameters carries them as joined pairs. -/
theorem encodeSetParamRequest_joinPairs (values : QVariantMap) (b : Bool) (sessionId : UInt16)
    (requestNr : Int32) :
    encodeSetParamRequest values b sessionId requestNr =
      encodeFrame kCommandGetParam sessionId requestNr (toLatin1 (joinPairs (paramPairs values)))
        b := by
  rw [encodeSetParamRequest, joinPairs, paramPairs, List.map_map]
  rfl

/-- A parameter is its text. -/
theorem IsParameter.eq_string {entry : QString × QVariant} (h : IsParameter entry) :
    entry.2 = .string entry.2.toString := by
  obtain ⟨key, value⟩ := entry
  cases value with
  | string value => rfl
  | longlong value => exact absurd h.2 id

/-- The text of a parameter survives in a line. -/
theorem IsParameter.lineChars {entry : QString × QVariant} (h : IsParameter entry) :
    ∀ c ∈ entry.2.toString.toList, IsLineChar c := by
  obtain ⟨key, value⟩ := entry
  cases value with
  | string value =>
    intro c hc
    refine ⟨h.2.1 c hc, ?_⟩
    rintro rfl
    exact h.2.2 hc
  | longlong value => exact absurd h.2 id

/-- So does the text of all parameters. -/
theorem joinPairs_lineChars (hvalues : ∀ entry ∈ values.entries, IsParameter entry) :
    ∀ c ∈ (joinPairs (paramPairs values)).toList, IsLineChar c := by
  refine forall_mem_joinPairs ⟨by decide, by decide⟩ ⟨by decide, by decide⟩ fun pair hpair => ?_
  obtain ⟨entry, hentry, rfl⟩ := List.mem_map.mp hpair
  have hparameter := hvalues entry hentry
  exact ⟨fun c hc => isKeyChar_lineChar (hparameter.1.2 c hc), hparameter.lineChars⟩

/-- The map of some pairs holds nothing but pairs. -/
theorem mem_pairsMap {pairs : List (QString × QString)} {entry : QString × QVariant}
    (h : entry ∈ (pairsMap pairs).entries) : ∃ pair ∈ pairs, entry = (pair.1, .string pair.2) := by
  have hfold : ∀ (pairs : List (QString × QString)) (map : QVariantMap),
      entry ∈ (pairs.foldl (fun map pair => map.insert pair.1 (.string pair.2)) map).entries →
      entry ∈ map.entries ∨ ∃ pair ∈ pairs, entry = (pair.1, .string pair.2) := by
    intro pairs
    induction pairs with
    | nil => exact fun map h => Or.inl h
    | cons pair pairs ih =>
      intro map h
      rcases ih _ h with h | ⟨later, hlater, heq⟩
      · rcases eq_or_mem_of_mem_insertEntry h with rfl | h
        · exact Or.inr ⟨pair, List.mem_cons_self, rfl⟩
        · exact Or.inl h
      · exact Or.inr ⟨later, List.mem_cons_of_mem _ hlater, heq⟩
  exact (hfold pairs QVariantMap.empty h).resolve_left (by simp [QVariantMap.empty])

/-- The map of the parameters as pairs is the parameters. -/
theorem pairsMap_paramPairs (hvalues : ∀ entry ∈ values.entries, IsParameter entry) :
    pairsMap (paramPairs values) = values := by
  have hinsert : pairsMap (paramPairs values) =
      values.entries.foldl (fun map entry => map.insert entry.1 entry.2) QVariantMap.empty := by
    rw [pairsMap, paramPairs, List.foldl_map]
    refine List.foldl_ext _ _ _ fun map entry hentry => ?_
    rw [← (hvalues entry hentry).eq_string]
  have hentries : (pairsMap (paramPairs values)).entries = values.entries := by
    rw [hinsert, QVariantMap.entries_foldl_insert values.entries QVariantMap.empty values.ascending]
    rfl
  cases hmap : pairsMap (paramPairs values)
  cases hvaluesEq : values
  simp_all

/-- What the device would send back of a request that sets parameters. -/
theorem decodeGetParamResponse_encodeSetParam
    (hlength : (if b then 4 else 0) + (toLatin1 (joinPairs (paramPairs values))).length < 2 ^ 16)
    (sessionId : UInt16) (requestNr : Int32) :
    decodeGetParamResponse (encodeSetParamRequest values b sessionId requestNr) b =
      { status := .ok
        values := pairsMap (parseKeyValuePairs (toLatin1 (joinPairs (paramPairs values)))) } := by
  have hframe : decodeFrameGeneric (encodeSetParamRequest values b sessionId requestNr) b =
      { status := .ok
        payload := toLatin1 (joinPairs (paramPairs values))
        command := kCommandGetParam } := by
    rw [encodeSetParamRequest_joinPairs]
    exact (decodeFrameGeneric_encodeFrame hlength (by decide)).2
  rw [decodeGetParamResponse, hframe]
  rfl

/-- **Parameters survive** being set and read back if and only if every value is
not empty and has no comma and no tab. -/
theorem decodeGetParam_encodeSetParam_iff
    (hvalues : ∀ entry ∈ values.entries, IsParameter entry)
    (hlength : (if b then 4 else 0) + (toLatin1 (joinPairs (paramPairs values))).length < 2 ^ 16)
    (sessionId : UInt16) (requestNr : Int32) :
    decodeGetParamResponse (encodeSetParamRequest values b sessionId requestNr) b =
        { status := .ok, values := values } ↔
      ∀ entry ∈ values.entries, entry.2.toString ≠ "" ∧ ',' ∉ entry.2.toString.toList ∧
        '\t' ∉ entry.2.toString.toList := by
  rw [decodeGetParamResponse_encodeSetParam hlength]
  constructor
  · intro h entry hentry
    have hmap : pairsMap (parseKeyValuePairs (toLatin1 (joinPairs (paramPairs values)))) = values :=
      congrArg GetParamResponse.values h
    rw [← hmap] at hentry
    obtain ⟨pair, hpair, rfl⟩ := mem_pairsMap hentry
    exact (isValue_iff pair.2).mp (globalMatch_sound hpair).2
  · intro h
    have hpairs : ∀ pair ∈ paramPairs values, IsKey pair.1 ∧ IsValue pair.2 := by
      intro pair hpair
      obtain ⟨entry, hentry, rfl⟩ := List.mem_map.mp hpair
      exact ⟨(hvalues entry hentry).1, (isValue_iff _).mpr (h entry hentry)⟩
    rw [parseKeyValuePairs_joinPairs hpairs (joinPairs_lineChars hvalues),
      pairsMap_paramPairs hvalues]

/-- Two parameters, one with an equals sign and a line break in its value. -/
def twoParameters : QVariantMap :=
  (QVariantMap.empty.insert "DoorName" (.string "a=b\nc")).insert "~Lock_1" (.string "5")

theorem twoParameters_survive :
    decodeGetParamResponse (encodeSetParamRequest twoParameters true 7 (-3)) true =
        { status := .ok, values := twoParameters } ↔
      ∀ entry ∈ twoParameters.entries, entry.2.toString ≠ "" ∧
        ',' ∉ entry.2.toString.toList ∧ '\t' ∉ entry.2.toString.toList := by
  have hentries : twoParameters.entries =
      [("DoorName", .string "a=b\nc"), ("~Lock_1", .string "5")] := by decide +kernel
  refine decodeGetParam_encodeSetParam_iff ?_ (by decide +kernel) 7 (-3)
  intro entry hentry
  rw [hentries] at hentry
  rcases List.mem_cons.mp hentry with rfl | hentry
  · exact ⟨by decide +kernel, by decide +kernel, by decide +kernel⟩
  · obtain rfl := List.mem_singleton.mp hentry
    exact ⟨by decide +kernel, by decide +kernel, by decide +kernel⟩

end QtAppBase.C3
