import QtAppBase.Mq.Store
import QtAppBase.Qt.CodeUnits
import QtAppBase.Qt.DateTime

/-!
# Searching the store

`MqStore::search` builds a statement from the filters that are given, and binds their
values by position in a second pass. SQLite evaluates the conditions in their order, as
far as they hold, and stops with an error at a pattern of LIKE that is too long. With any
other pattern the parameters line up, and the statement is the search of the store.
-/

namespace QtAppBase.Mq

open Library Qt

/-- `SQLITE_MAX_LIKE_PATTERN_LENGTH`, in bytes. -/
def likePatternLimit : ℕ := 50000

/-- The arguments of `search`. A time that is not valid selects nothing. -/
structure Filters where
  type : Units := []
  fromTime : Option QDateTime := none
  toTime : Option QDateTime := none
  searchText : Units := []
  receivedOnly : Bool := false

/-- A condition of the statement. All but the last have a parameter. -/
inductive Condition where
  /-- `envelope_type = ?` -/
  | envelopeType
  /-- `created_at >= ?` -/
  | createdFrom
  /-- `created_at <= ?` -/
  | createdTo
  /-- `search_text LIKE ?` -/
  | searchText
  /-- `direction = 'received'` -/
  | directionReceived
  deriving DecidableEq, Repr

namespace Condition

/-- What the condition says of a row with the value that is bound to its parameter;
`none` is an error. -/
def test (row : StoredMessage) (parameter : QString) : Condition → Option Bool
  | envelopeType => some (row.envelopeType = parameter)
  | createdFrom => some (parameter ≤ row.createdAt)
  | createdTo => some (row.createdAt ≤ parameter)
  | searchText =>
    if parameter.utf8ByteSize > likePatternLimit then none
    else some (MqStore.likeMatch parameter.toList row.searchText.toList)
  | directionReceived => some (row.direction = "received")

/-- Evaluate the conditions in their order, as far as they hold. A parameter without a
value is NULL, and so is what it is compared with. -/
def evaluate (row : StoredMessage) : List Condition → List QString → Option Bool
  | [], _ => some true
  | directionReceived :: conditions, parameters =>
    if row.direction = "received" then evaluate row conditions parameters else some false
  | _ :: _, [] => some false
  | condition :: conditions, parameter :: parameters =>
    match condition.test row parameter with
    | some true => evaluate row conditions parameters
    | other => other

end Condition

namespace Filters

/-- The first pass: the conditions. -/
def conditions (f : Filters) : List Condition :=
  (if !f.type.isEmpty then [.envelopeType] else []) ++
  (if f.fromTime.isSome then [.createdFrom] else []) ++
  (if f.toTime.isSome then [.createdTo] else []) ++
  (if !f.searchText.isEmpty then [.searchText] else []) ++
  (if f.receivedOnly then [.directionReceived] else [])

/-- The pattern of LIKE, as it is bound. -/
def pattern (f : Filters) : QString := bindText (toUtf8 ([37] ++ f.searchText ++ [37]))

/-- The second pass: the values, bound to the parameters 1, 2 and so on. -/
def parameters (f : Filters) : List QString :=
  (if !f.type.isEmpty then [bindText (toUtf8 f.type)] else []) ++
  (f.fromTime.map fun time => bindText time.isoText).toList ++
  (f.toTime.map fun time => bindText time.isoText).toList ++
  (if !f.searchText.isEmpty then [f.pattern] else [])

/-- What the statement says of a row. -/
def evaluate (f : Filters) (row : StoredMessage) : Option Bool :=
  Condition.evaluate row f.conditions f.parameters

end Filters

/-- `MqStore::search` with the statement it prepares; `none` where `step` throws. -/
def MqStore.searchStatement (f : Filters) (store : MqStore) : Option (List StoredMessage) :=
  if ∃ row ∈ store.rows, f.evaluate row = none then none
  else some ((store.rows.filter fun row => f.evaluate row = some true).mergeSort newerFirst)

/-! ### The parameters line up -/

section Evaluate

variable {row : StoredMessage} {condition : Condition} (conditions : List Condition)
  (parameters : List QString)

/-- A condition with its parameter, if it is given. -/
theorem evaluate_given (hcondition : condition ≠ .directionReceived) (given : Bool)
    (parameter : QString) :
    Condition.evaluate row ((if given then [condition] else []) ++ conditions)
        ((if given then [parameter] else []) ++ parameters) =
      if given then
        match condition.test row parameter with
        | some true => Condition.evaluate row conditions parameters
        | other => other
      else Condition.evaluate row conditions parameters := by
  cases given with
  | false => rfl
  | true =>
    cases condition with
    | directionReceived => exact absurd rfl hcondition
    | _ => rfl

/-- A comparison that cannot fail only says whether to go on. -/
theorem evaluate_compared (hcondition : condition ≠ .directionReceived) {holds : QString → Bool}
    (htest : ∀ parameter, condition.test row parameter = some (holds parameter)) (given : Bool)
    (parameter : QString) :
    Condition.evaluate row ((if given then [condition] else []) ++ conditions)
        ((if given then [parameter] else []) ++ parameters) =
      if !given || holds parameter then Condition.evaluate row conditions parameters
      else some false := by
  rw [evaluate_given _ _ hcondition, htest]
  cases given with
  | false => rfl
  | true => cases holds parameter <;> rfl

/-- A time is compared if it is valid. -/
theorem evaluate_time (hcondition : condition ≠ .directionReceived) {holds : QString → Bool}
    (htest : ∀ parameter, condition.test row parameter = some (holds parameter))
    (time : Option QDateTime) :
    Condition.evaluate row ((if time.isSome then [condition] else []) ++ conditions)
        ((time.map fun time => bindText time.isoText).toList ++ parameters) =
      if time.all (fun time => holds (bindText time.isoText)) then
        Condition.evaluate row conditions parameters
      else some false := by
  cases time with
  | none => rfl
  | some time =>
    exact evaluate_compared conditions parameters hcondition htest true (bindText time.isoText)

end Evaluate

namespace Filters

/-- The conditions before the text. -/
def admits (f : Filters) (row : StoredMessage) : Bool :=
  (f.type.isEmpty || row.envelopeType = bindText (toUtf8 f.type)) &&
    f.fromTime.all (fun time => bindText time.isoText ≤ row.createdAt) &&
    f.toTime.all (fun time => row.createdAt ≤ bindText time.isoText)

/-- The pattern is used and is too long. -/
def TooLong (f : Filters) : Prop :=
  f.searchText ≠ [] ∧ likePatternLimit < f.pattern.utf8ByteSize

instance (f : Filters) : Decidable f.TooLong := inferInstanceAs (Decidable (_ ∧ _))

/-- The last two conditions. -/
theorem evaluate_text (f : Filters) (row : StoredMessage) :
    Condition.evaluate row
        ((if !f.searchText.isEmpty then [.searchText] else []) ++
          (if f.receivedOnly then [.directionReceived] else []))
        (if !f.searchText.isEmpty then [f.pattern] else []) =
      if f.TooLong then none
      else some ((f.searchText.isEmpty ||
        MqStore.likeMatch f.pattern.toList row.searchText.toList) &&
        (!f.receivedOnly || row.direction = "received")) := by
  have hlast : Condition.evaluate row (if f.receivedOnly then [.directionReceived] else []) [] =
      some (!f.receivedOnly || row.direction = "received") := by
    cases f.receivedOnly with
    | false => rfl
    | true => by_cases hdirection : row.direction = "received" <;>
        simp [Condition.evaluate, hdirection]
  have htext : Condition.searchText ≠ .directionReceived := by decide
  rw [← List.append_nil (if !f.searchText.isEmpty then [f.pattern] else []),
    evaluate_given _ _ htext, hlast]
  unfold TooLong
  by_cases hempty : f.searchText = []
  · simp [hempty]
  · by_cases hlong : likePatternLimit < f.pattern.utf8ByteSize
    · simp [hempty, hlong, Condition.test]
    · cases hmatch : MqStore.likeMatch f.pattern.toList row.searchText.toList <;>
        simp [hempty, hlong, hmatch, Condition.test]

/-- **What the statement says of a row.** The conditions before the text come first, and
only where they hold a pattern that is too long does harm. -/
theorem evaluate_eq (f : Filters) (row : StoredMessage) :
    f.evaluate row =
      if f.admits row then
        if f.TooLong then none
        else some ((f.searchText.isEmpty ||
          MqStore.likeMatch f.pattern.toList row.searchText.toList) &&
          (!f.receivedOnly || row.direction = "received"))
      else some false := by
  unfold evaluate conditions parameters admits
  simp only [List.append_assoc]
  rw [evaluate_compared _ _ (by decide) (fun _ => rfl),
    evaluate_time _ _ (by decide) (fun _ => rfl), evaluate_time _ _ (by decide) (fun _ => rfl),
    evaluate_text]
  rw [Bool.not_not]
  cases f.type.isEmpty || row.envelopeType = bindText (toUtf8 f.type) with
  | false => rfl
  | true =>
    cases f.fromTime.all fun time => bindText time.isoText ≤ row.createdAt with
    | false => rfl
    | true =>
      rw [Bool.true_and, Bool.true_and]
      rfl

/-- The pattern is made from the text as it is stored. -/
theorem pattern_eq (f : Filters) : f.pattern = bindText ("%" ++ toUtf8 f.searchText ++ "%") := by
  have hchars : utf8Chars ([37] ++ f.searchText ++ [37]) =
      '%' :: (utf8Chars f.searchText ++ ['%']) := by
    rw [List.append_assoc, List.singleton_append, utf8Chars_cons (by decide),
      utf8Chars_append_singleton (by decide)]
    rfl
  have htext : toUtf8 ([37] ++ f.searchText ++ [37]) = "%" ++ toUtf8 f.searchText ++ "%" := by
    rw [← String.toList_inj, toUtf8, toUtf8, String.toList_ofList, hchars]
    simp
  rw [pattern, htext]

/-- Unless the pattern is too long, a row is selected as `selects` says. -/
theorem evaluate_eq_selects {f : Filters} (hlong : ¬ f.TooLong) (row : StoredMessage) :
    f.evaluate row = some (MqStore.selects (toUtf8 f.type) (f.fromTime.map QDateTime.isoText)
      (f.toTime.map QDateTime.isoText) (toUtf8 f.searchText) f.receivedOnly row) := by
  have hselects : MqStore.selects (toUtf8 f.type) (f.fromTime.map QDateTime.isoText)
      (f.toTime.map QDateTime.isoText) (toUtf8 f.searchText) f.receivedOnly row =
      (f.admits row && ((f.searchText.isEmpty ||
        MqStore.likeMatch f.pattern.toList row.searchText.toList) &&
        (!f.receivedOnly || row.direction = "received"))) := by
    rw [MqStore.selects, admits, pattern_eq, toUtf8_isEmpty, toUtf8_isEmpty, Option.all_map,
      Option.all_map, Bool.and_assoc]
  rw [evaluate_eq, hselects]
  cases f.admits row with
  | false => rfl
  | true => rw [if_pos rfl, if_neg hlong, Bool.true_and]

/-- And the search is `search`. -/
theorem searchStatement_eq_search {f : Filters} (hlong : ¬ f.TooLong) (store : MqStore) :
    store.searchStatement f = some (store.search (toUtf8 f.type) (f.fromTime.map QDateTime.isoText)
      (f.toTime.map QDateTime.isoText) (toUtf8 f.searchText) f.receivedOnly) := by
  have hgood : ¬ ∃ row ∈ store.rows, f.evaluate row = none := by
    rintro ⟨row, -, hrow⟩
    rw [evaluate_eq_selects hlong] at hrow
    cases hrow
  rw [MqStore.searchStatement, if_neg hgood, MqStore.search]
  simp only [evaluate_eq_selects hlong, Option.some.injEq, Bool.decide_eq_true]

end Filters

/-! ### The order -/

theorem newerFirst_iff {a b : StoredMessage} :
    MqStore.newerFirst a b = true ↔
      b.createdAt < a.createdAt ∨ a.createdAt = b.createdAt ∧ b.id ≤ a.id := by
  simp [MqStore.newerFirst]

/-- The results of a search are sorted. -/
theorem pairwise_newerFirst (rows : List StoredMessage) :
    (rows.mergeSort MqStore.newerFirst).Pairwise fun a b => MqStore.newerFirst a b = true := by
  apply List.pairwise_mergeSort
  · intro a b c hab hbc
    rw [newerFirst_iff] at hab hbc ⊢
    rcases hab with hab | ⟨hab, hid⟩
    · rcases hbc with hbc | ⟨hbc, -⟩
      · exact Or.inl (hbc.trans hab)
      · exact Or.inl (hbc ▸ hab)
    · rcases hbc with hbc | ⟨hbc, hid'⟩
      · exact Or.inl (hab ▸ hbc)
      · exact Or.inr ⟨hab.trans hbc, hid'.trans hid⟩
  · intro a b
    rw [Bool.or_eq_true, newerFirst_iff, newerFirst_iff]
    rcases lt_trichotomy a.createdAt b.createdAt with hlt | heq | hgt
    · exact Or.inr (Or.inl hlt)
    · rcases Nat.le_total a.id b.id with hid | hid
      · exact Or.inr (Or.inr ⟨heq.symm, hid⟩)
      · exact Or.inl (Or.inr ⟨heq, hid⟩)
    · exact Or.inl (Or.inl hgt)

end QtAppBase.Mq
