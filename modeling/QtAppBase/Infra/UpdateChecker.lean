import QtAppBase.Qt.Decimals
import QtAppBase.Library.Padded
import Mathlib.Algebra.Ring.Int.Defs

/-!
# Comparing versions

The update checker splits a version at its dots and reads each part by its leading
digits, so that a part may end in something else. Versions are compared part by
part, and a version that has ended counts as zero.
-/

namespace QtAppBase.Infra

open Library Qt

/-- `match.captured(1).toInt(&ok)` for the expression `^(\d+)`: the number a part
begins with. -/
def leadingInteger (part : List Char) : Option ℤ :=
  let captured := part.takeWhile Char.isDigit
  if captured.isEmpty then none else toInt? (String.ofList captured)

/-- The loop of `parseVersion`. -/
def parseParts : List (List Char) → Option (List ℤ)
  | [] => some []
  | part :: parts =>
    match leadingInteger part with
    | none => none
    | some value => (parseParts parts).map (value :: ·)

/-- `parseVersion`: the components, if the version is accepted. -/
def parseVersion (version : QString) : Option (List ℤ) :=
  let parts := version.toList.splitOn '.'
  if parts.isEmpty then none else parseParts parts

/-- The loop of `isNewerVersion`, with so many components to go from the given one on. -/
def newerFrom (remote local' : List ℤ) : ℕ → ℕ → Bool
  | 0, _ => false
  | count + 1, i =>
    let remotePart := if i < remote.length then remote.getD i 0 else 0
    let localPart := if i < local'.length then local'.getD i 0 else 0
    if remotePart ≠ localPart then remotePart > localPart else newerFrom remote local' count (i + 1)

/-- What `isNewerVersion` returns, and what it sets `valid` to. -/
structure VersionComparison where
  newer : Bool
  valid : Bool
  deriving DecidableEq, Repr

/-- `isNewerVersion`. -/
def isNewerVersion (remoteVersion localVersion : QString) : VersionComparison :=
  match parseVersion remoteVersion, parseVersion localVersion with
  | some remote, some local' =>
    { newer := newerFrom remote local' (max remote.length local'.length) 0, valid := true }
  | _, _ => { newer := false, valid := false }

/-! ### Reading a version -/

/-- A part has a number if it begins with digits whose value fits an integer. -/
theorem leadingInteger_eq (part : List Char) :
    leadingInteger part =
      if part.takeWhile Char.isDigit ≠ [] ∧ digitsNat (part.takeWhile Char.isDigit) < 2 ^ 31 then
        some (digitsNat (part.takeWhile Char.isDigit) : ℤ)
      else none := by
  have hdigits : ∀ c ∈ part.takeWhile Char.isDigit, c.isDigit = true := fun c hc =>
    List.mem_takeWhile_imp hc
  unfold leadingInteger
  dsimp only
  by_cases hnone : part.takeWhile Char.isDigit = []
  · rw [if_pos (List.isEmpty_iff.mpr hnone), if_neg fun h => h.1 hnone]
  · rw [if_neg (mt List.isEmpty_iff.mp hnone), toInt?_digits hnone hdigits]
    apply if_congr _ rfl rfl
    exact (and_iff_right hnone).symm

/-- No component is negative. -/
theorem leadingInteger_nonneg {part : List Char} {value : ℤ}
    (h : leadingInteger part = some value) : 0 ≤ value := by
  rw [leadingInteger_eq] at h
  split_ifs at h
  obtain rfl := Option.some.inj h
  omega

/-- A number is zero if all its digits are. -/
theorem leadingInteger_eq_zero_iff {part : List Char} {value : ℤ}
    (h : leadingInteger part = some value) :
    value = 0 ↔ ∀ c ∈ part.takeWhile Char.isDigit, c = '0' := by
  rw [← digitsNat_eq_zero_iff fun c hc => List.mem_takeWhile_imp hc]
  rw [leadingInteger_eq] at h
  split_ifs at h
  obtain rfl := Option.some.inj h
  omega

/-- The components are the numbers of the parts. -/
theorem parseParts_eq_some_iff {parts : List (List Char)} {components : List ℤ} :
    parseParts parts = some components ↔
      List.Forall₂ (fun part value => leadingInteger part = some value) parts components := by
  induction parts generalizing components with
  | nil =>
    constructor
    · intro h
      obtain rfl := Option.some.inj h
      exact .nil
    · intro h
      cases h
      rfl
  | cons part parts ih =>
    unfold parseParts
    constructor
    · intro h
      split at h
      · cases h
      · rename_i value hvalue
        obtain ⟨rest, hrest, rfl⟩ := Option.map_eq_some_iff.mp h
        exact .cons hvalue (ih.mp hrest)
    · intro h
      cases h with
      | cons hvalue hrest =>
        rw [hvalue, ih.mpr hrest]
        rfl

/-- A version is accepted if every part has a number. -/
theorem parseVersion_eq_some_iff {version : QString} {components : List ℤ} :
    parseVersion version = some components ↔
      List.Forall₂ (fun part value => leadingInteger part = some value)
        (version.toList.splitOn '.') components := by
  rw [parseVersion, if_neg (mt List.isEmpty_iff.mp (List.splitOn_ne_nil _ _)),
    parseParts_eq_some_iff]

/-! ### Comparing components -/

/-- The loop finds the first difference. -/
theorem newerFrom_iff (remote local' : List ℤ) (count i : ℕ) :
    newerFrom remote local' count i = true ↔
      ∃ j, i ≤ j ∧ j < i + count ∧
        (∀ k, i ≤ k → k < j → local'.getD k 0 = remote.getD k 0) ∧
        local'.getD j 0 < remote.getD j 0 := by
  have hpart : ∀ (components : List ℤ) (i : ℕ),
      (if i < components.length then components.getD i 0 else 0) = components.getD i 0 := by
    intro components i
    split_ifs with hi
    · rfl
    · exact (List.getD_eq_default _ _ (by omega)).symm
  induction count generalizing i with
  | zero =>
    constructor
    · intro h
      cases h
    · rintro ⟨j, hij, hj, -⟩
      omega
  | succ count ih =>
    unfold newerFrom
    rw [hpart, hpart]
    dsimp only
    split_ifs with hdiffers
    · rw [decide_eq_true_iff]
      constructor
      · intro hnewer
        exact ⟨i, Nat.le_refl i, by omega, fun k hik hki => absurd hki (by omega), hnewer⟩
      · rintro ⟨j, hij, -, hsame, hnewer⟩
        rcases Nat.eq_or_lt_of_le hij with rfl | hlt
        · exact hnewer
        · exact absurd (hsame i (Nat.le_refl i) hlt).symm hdiffers
    · have hequal : remote.getD i 0 = local'.getD i 0 := not_not.mp hdiffers
      refine (ih (i + 1)).trans ?_
      constructor
      · rintro ⟨j, hij, hj, hsame, hnewer⟩
        refine ⟨j, by omega, by omega, fun k hik hkj => ?_, hnewer⟩
        rcases Nat.eq_or_lt_of_le hik with rfl | hlt
        · exact hequal.symm
        · exact hsame k hlt hkj
      · rintro ⟨j, hij, hj, hsame, hnewer⟩
        have hne : i ≠ j := by
          rintro rfl
          omega
        exact ⟨j, by omega, by omega, fun k hik hkj => hsame k (by omega) hkj, hnewer⟩

/-- **The comparison is the order of padded components.** -/
theorem newerFrom_iff_padded (remote local' : List ℤ) :
    newerFrom remote local' (max remote.length local'.length) 0 = true ↔
      padded local' < padded remote := by
  rw [newerFrom_iff, padded_lt_iff]
  constructor
  · rintro ⟨j, -, -, hsame, hnewer⟩
    exact ⟨j, fun k hk => hsame k (Nat.zero_le k) hk, hnewer⟩
  · rintro ⟨j, hsame, hnewer⟩
    refine ⟨j, Nat.zero_le j, ?_, fun k _ hk => hsame k hk, hnewer⟩
    by_contra hbehind
    rw [List.getD_eq_default local' _ (by omega), List.getD_eq_default remote _ (by omega)]
      at hnewer
    omega

/-- Accepted versions are compared by their components. -/
theorem isNewerVersion_newer_iff {remoteVersion localVersion : QString} {remote local' : List ℤ}
    (hremote : parseVersion remoteVersion = some remote)
    (hlocal : parseVersion localVersion = some local') :
    (isNewerVersion remoteVersion localVersion).newer = true ↔ padded local' < padded remote := by
  rw [isNewerVersion, hremote, hlocal]
  exact newerFrom_iff_padded remote local'

end QtAppBase.Infra
