import QtAppBase.Infra.UpdateChecker
import Mathlib.Data.List.Chain

/-!
# The order of versions

Being newer is a strict weak order on the accepted versions, so that updates never
lead back. Two versions are alike when they differ in trailing zeros only. A suffix
behind a hyphen adds no component as long as it has no dot; every part behind a dot
of the suffix is a component like the others.
-/

namespace QtAppBase.Infra

open Library Qt

/-- A version string that `parseVersion` accepts, with its components. -/
structure AcceptedVersion where
  text : QString
  components : List ℤ
  /-- The components are read from the text. -/
  parsed : parseVersion text = some components

namespace AcceptedVersion

/-- The first version is newer than the second. -/
def Newer (remote installed : AcceptedVersion) : Prop :=
  (isNewerVersion remote.text installed.text).newer = true

/-- Neither version is newer. -/
def Alike (v w : AcceptedVersion) : Prop := ¬ Newer v w ∧ ¬ Newer w v

/-- The components without trailing zeros. -/
def stripped (v : AcceptedVersion) : List ℤ := v.components.rdropWhile (· = 0)

variable {u v w : AcceptedVersion}

theorem newer_iff : Newer v w ↔ padded w.components < padded v.components :=
  isNewerVersion_newer_iff v.parsed w.parsed

/-- Versions are alike when their components have the same sequence. -/
theorem alike_iff : Alike v w ↔ padded v.components = padded w.components := by
  rw [Alike, newer_iff, newer_iff]
  constructor
  · rintro ⟨hnot, hnot'⟩
    exact le_antisymm (not_lt.mp hnot) (not_lt.mp hnot')
  · intro h
    exact ⟨h.not_gt, h.not_lt⟩

theorem Newer.trans (huv : Newer u v) (hvw : Newer v w) : Newer u w := by
  rw [newer_iff] at huv hvw ⊢
  exact hvw.trans huv

theorem Newer.asymm (h : Newer v w) : ¬ Newer w v := by
  rw [newer_iff] at h ⊢
  exact h.asymm

/-- Being alike is an equivalence. -/
theorem alike_equivalence : Equivalence Alike := by
  constructor
  · intro v
    exact alike_iff.mpr rfl
  · intro v w h
    exact alike_iff.mpr (alike_iff.mp h).symm
  · intro u v w huv hvw
    exact alike_iff.mpr ((alike_iff.mp huv).trans (alike_iff.mp hvw))

/-- **Updates never lead back.** If every update is newer than the version installed
before it, each is newer than all versions installed before it. -/
theorem updates_pairwise {versions : List AcceptedVersion}
    (h : versions.IsChain fun installed update => Newer update installed) :
    versions.Pairwise fun installed update => Newer update installed := by
  have htrans : Trans (fun installed update : AcceptedVersion => Newer update installed)
      (fun installed update => Newer update installed)
      (fun installed update => Newer update installed) := ⟨fun h h' => h'.trans h⟩
  exact List.isChain_iff_pairwise.mp h

/-- **Versions are weakly ordered.** On accepted versions, being newer is irreflexive,
asymmetric and transitive; that neither of two versions is newer is an equivalence, and
means that their components agree without trailing zeros. In a sequence of updates, none
is older than a version installed before it, or like it. -/
theorem isNewerVersion_strictWeakOrder :
    (∀ v, ¬ Newer v v) ∧ (∀ v w, Newer v w → ¬ Newer w v) ∧
    (∀ u v w, Newer u v → Newer v w → Newer u w) ∧
    Equivalence Alike ∧ (∀ v w, Alike v w ↔ v.stripped = w.stripped) ∧
    ∀ versions : List AcceptedVersion,
      versions.IsChain (fun installed update => Newer update installed) →
      versions.Pairwise fun installed update =>
        ¬ Newer installed update ∧ ¬ Alike update installed := by
  refine ⟨fun v h => h.asymm h, fun v w h => h.asymm, fun u v w huv hvw => huv.trans hvw,
    alike_equivalence, fun v w => alike_iff.trans padded_eq_iff, fun versions h => ?_⟩
  apply (updates_pairwise h).imp
  intro installed update hnewer
  exact ⟨hnewer.asymm, fun halike => halike.1 hnewer⟩

end AcceptedVersion

/-! ### Suffixes -/

/-- A text behind another goes on with its last part, and adds parts. -/
theorem splitOn_append (separator : Char) (front : List Char) {back piece : List Char}
    {pieces : List (List Char)} (hback : back.splitOn separator = piece :: pieces) :
    ∃ init last, front.splitOn separator = init ++ [last] ∧
      (front ++ back).splitOn separator = init ++ (last ++ piece) :: pieces := by
  induction front with
  | nil => exact ⟨[], [], rfl, hback⟩
  | cons c front ih =>
    obtain ⟨init, last, hfront, hwhole⟩ := ih
    rw [List.cons_append, List.splitOn_cons_eq_if_modifyHead, List.splitOn_cons_eq_if_modifyHead,
      hfront, hwhole]
    by_cases hc : (c == separator) = true
    · exact ⟨[] :: init, last, by rw [if_pos hc]; rfl, by rw [if_pos hc]; rfl⟩
    · rw [if_neg hc, if_neg hc]
      cases init with
      | nil => exact ⟨[], c :: last, rfl, rfl⟩
      | cons first init => exact ⟨(c :: first) :: init, last, rfl, rfl⟩

/-- The leading digits of a part do not go on behind a hyphen. -/
theorem takeWhile_isDigit_hyphen (part rest : List Char) :
    (part ++ '-' :: rest).takeWhile Char.isDigit = part.takeWhile Char.isDigit := by
  induction part with
  | nil => rfl
  | cons c part ih =>
    rw [List.cons_append, List.takeWhile_cons, List.takeWhile_cons, ih]

/-- So a part has the same number with a suffix. -/
theorem leadingInteger_hyphen (part rest : List Char) :
    leadingInteger (part ++ '-' :: rest) = leadingInteger part := by
  rw [leadingInteger, takeWhile_isDigit_hyphen]
  rfl

/-- A suffix behind a hyphen keeps the components and adds one for each of its dots. -/
theorem parseVersion_append {version suffix : QString} (hhyphen : suffix.toList.head? = some '-')
    {components : List ℤ} (haccepted : parseVersion (version ++ suffix) = some components) :
    ∃ front more, components = front ++ more ∧ parseVersion version = some front ∧
      List.Forall₂ (fun part value => leadingInteger part = some value)
        (suffix.toList.splitOn '.').tail more := by
  obtain ⟨rest, hsuffix⟩ := List.head?_eq_some_iff.mp hhyphen
  obtain ⟨piece, pieces, hrest⟩ := List.exists_cons_of_ne_nil (List.splitOn_ne_nil '.' rest)
  have hback : suffix.toList.splitOn '.' = ('-' :: piece) :: pieces := by
    rw [hsuffix, List.splitOn_cons_eq_if_modifyHead, if_neg (by decide), hrest]
    rfl
  obtain ⟨init, last, hversion, hwhole⟩ := splitOn_append '.' version.toList hback
  rw [parseVersion_eq_some_iff, String.toList_append, hwhole] at haccepted
  have hinit := (List.forall₂_take_append components init _ haccepted.flip).flip
  have hrest' := (List.forall₂_drop_append components init _ haccepted.flip).flip
  cases hcut : components.drop init.length with
  | nil =>
    rw [hcut] at hrest'
    cases hrest'
  | cons value more =>
    rw [hcut] at hrest'
    obtain ⟨hvalue, hmore⟩ := List.forall₂_cons.mp hrest'
    refine ⟨components.take init.length ++ [value], more, ?_, ?_, ?_⟩
    · rw [List.append_assoc, List.singleton_append, ← hcut, List.take_append_drop]
    · rw [parseVersion_eq_some_iff, hversion]
      rw [leadingInteger_hyphen] at hvalue
      exact List.rel_append hinit (.cons hvalue .nil)
    · rw [hback]
      exact hmore

/-- Components are not negative. -/
theorem components_nonneg {parts : List (List Char)} {components : List ℤ}
    (h : List.Forall₂ (fun part value => leadingInteger part = some value) parts components) :
    ∀ value ∈ components, 0 ≤ value := by
  induction h with
  | nil => simp
  | cons hvalue _ ih => exact List.forall_mem_cons.mpr ⟨leadingInteger_nonneg hvalue, ih⟩

/-- They are all zero if all parts begin with zeros only. -/
theorem components_zero_iff {parts : List (List Char)} {components : List ℤ}
    (h : List.Forall₂ (fun part value => leadingInteger part = some value) parts components) :
    (∀ value ∈ components, value = 0) ↔
      ∀ part ∈ parts, ∀ c ∈ part.takeWhile Char.isDigit, c = '0' := by
  induction h with
  | nil => simp
  | cons hvalue _ ih =>
    rw [List.forall_mem_cons, List.forall_mem_cons, ih, leadingInteger_eq_zero_iff hvalue]

/-- **When a suffix does not make a version newer.** Appended to a version behind a hyphen,
an accepted suffix leaves it as it is if and only if every part of the suffix behind a dot
begins with zeros only. -/
theorem suffix_not_newer_iff {version suffix : QString} (hhyphen : suffix.toList.head? = some '-')
    (haccepted : (parseVersion (version ++ suffix)).isSome) :
    (isNewerVersion (version ++ suffix) version).newer = false ↔
      ∀ part ∈ (suffix.toList.splitOn '.').tail, ∀ c ∈ part.takeWhile Char.isDigit, c = '0' := by
  obtain ⟨components, hcomponents⟩ := Option.isSome_iff_exists.mp haccepted
  obtain ⟨front, more, rfl, hversion, hmore⟩ := parseVersion_append hhyphen hcomponents
  rw [← components_zero_iff hmore, ← Bool.not_eq_true,
    isNewerVersion_newer_iff hcomponents hversion, padded_lt_append_iff (components_nonneg hmore)]
  push Not
  exact Iff.rfl

/-- A release candidate with the number zero. -/
theorem zeroCandidate_not_newer :
    (isNewerVersion ("1.2.3" ++ "-rc.0") "1.2.3").newer = false := by
  have hparts : ("-rc.0".toList.splitOn '.').tail = [['0']] := by decide +kernel
  refine (suffix_not_newer_iff (by decide) (by decide +kernel)).mpr ?_
  rw [hparts]
  simp

/-- A numbered release candidate is newer than its release. -/
theorem candidate_newer :
    ¬ ∀ version suffix : QString,
      (∀ part ∈ version.toList.splitOn '.', part ≠ [] ∧ part.all Char.isDigit) →
      (parseVersion version).isSome → suffix.toList.head? = some '-' →
      (parseVersion (version ++ suffix)).isSome →
      (isNewerVersion (version ++ suffix) version).newer = false := by
  intro h
  have hcandidate := h "1.2.3" "-rc.1" (by decide +kernel) (by decide +kernel) (by decide)
    (by decide +kernel)
  exact absurd hcandidate (by decide +kernel)

end QtAppBase.Infra
