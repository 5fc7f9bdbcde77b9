import QtAppBase.Library.Interrupted
import Mathlib.Logic.Function.Basic

/-!
# Files that are removed, copied and renamed

Files by their path. Copying takes a while, and others can find half of a file at
the destination; removing, changing permissions and renaming are done at once. What
the operating system answers is given with each operation.
-/

namespace QtAppBase.Library

variable {π κ : Type*}

/-- A file: its contents, and whether it can be executed. -/
structure File (κ : Type*) where
  contents : κ
  executable : Bool := false
  deriving DecidableEq, Repr

/-- The files there are. -/
abbrev Files (π κ : Type*) := π → Option (File κ)

/-- How a copy goes: what others find at the destination meanwhile, and whether it is
done; if not, something may be left there. -/
structure CopyAnswer (κ : Type*) where
  meantime : List (File κ) := []
  succeeds : Bool := true
  left : Option (File κ) := none

namespace Files

variable {s t : Files π κ} {touched : List π} {path other source destination old new : π}

/-- At these paths, the files are the same. -/
def SameBut (touched : List π) (s t : Files π κ) : Prop :=
  ∀ path, path ∉ touched → t path = s path

theorem SameBut.refl (touched : List π) (s : Files π κ) : SameBut touched s s := fun _ _ => rfl

variable [DecidableEq π]

/-- What is at the path now. -/
def put (path : π) (file : Option (File κ)) (s : Files π κ) : Files π κ :=
  Function.update s path file

@[simp] theorem put_self (path : π) (file : Option (File κ)) (s : Files π κ) :
    s.put path file path = file := Function.update_self ..

theorem put_other (h : other ≠ path) (file : Option (File κ)) (s : Files π κ) :
    s.put path file other = s other := Function.update_of_ne h ..

/-- A file is put at a path that may be touched. -/
theorem SameBut.put (h : SameBut touched s t) (hpath : path ∈ touched) (file : Option (File κ)) :
    SameBut touched s (t.put path file) := by
  intro other hother
  have hne : other ≠ path := by
    rintro rfl
    exact hother hpath
  rw [put_other hne]
  exact h other hother

/-! ### Operations -/

/-- Remove a file, if there is one. -/
def remove (permitted : Bool) (path : π) : Program (Files π κ) Bool :=
  Program.atomic fun s =>
    if permitted && (s path).isSome then (true, s.put path none) else (false, s)

/-- Copy a file to a path where there is none. -/
def copy (answer : CopyAnswer κ) (source destination : π) : Program (Files π κ) Bool :=
  Program.slowly
    (fun s =>
      if (s source).isNone || (s destination).isSome then []
      else answer.meantime.map fun half => s.put destination (some half))
    fun s =>
      if (s source).isNone || (s destination).isSome then (false, s)
      else if answer.succeeds then (true, s.put destination (s source))
      else (false, s.put destination answer.left)

/-- Make a file executable. -/
def makeExecutable (permitted : Bool) (path : π) : Program (Files π κ) Bool :=
  Program.atomic fun s =>
    match s path with
    | some file =>
      if permitted then (true, s.put path (some { file with executable := true })) else (false, s)
    | none => (false, s)

/-- Rename a file, over whatever is at the new path. -/
def rename (permitted : Bool) (old new : π) : Program (Files π κ) Bool :=
  Program.atomic fun s =>
    if permitted && (s old).isSome then (true, (s.put new (s old)).put old none) else (false, s)

/-! ### What an operation touches -/

theorem remove_safe (permitted : Bool) (hpath : path ∈ touched) :
    Program.Safe (SameBut touched s) (SameBut touched s) (remove permitted path)
      fun _ => SameBut touched s := by
  have hstep : ∀ t, SameBut touched s t → SameBut touched s
      (if permitted && (t path).isSome then (true, t.put path none) else (false, t)).2 := by
    intro t ht
    split_ifs
    · exact ht.put hpath none
    · exact ht
  exact Program.safe_atomic hstep hstep

/-- A copy that is done is the file that was copied. -/
theorem copy_safe (answer : CopyAnswer κ) (source destination : π) :
    Program.Safe (SameBut [destination] s) (SameBut [destination] s)
      (copy answer source destination) fun done t => SameBut [destination] s t ∧
        (done = true → ∃ file, s source = some file ∧ t destination = some file) := by
  have hmem : destination ∈ [destination] := List.mem_singleton_self _
  refine Program.safe_slowly (fun t ht u hu => ?_) (fun t ht => ?_) fun t ht => ?_
  · split_ifs at hu
    · cases hu
    · obtain ⟨half, -, rfl⟩ := List.mem_map.mp hu
      exact ht.put hmem _
  · split_ifs
    · exact ht
    · exact ht.put hmem _
    · exact ht.put hmem _
  · split_ifs with hrefused hsucceeds
    · exact ⟨ht, nofun⟩
    · refine ⟨ht.put hmem _, fun _ => ?_⟩
      obtain ⟨hsource, hfree⟩ : t source ≠ none ∧ t destination = none := by
        simpa using hrefused
      obtain ⟨file, hfile⟩ := Option.ne_none_iff_exists'.mp hsource
      have hne : source ∉ [destination] := fun heq =>
        hsource (List.mem_singleton.mp heq ▸ hfree)
      exact ⟨file, (ht source hne).symm.trans hfile, (put_self ..).trans hfile⟩
    · exact ⟨ht.put hmem _, nofun⟩

theorem makeExecutable_safe {file : File κ} (permitted : Bool) (path : π) :
    Program.Safe (SameBut [path] s) (fun t => SameBut [path] s t ∧ t path = some file)
      (makeExecutable permitted path) fun done t => SameBut [path] s t ∧
        (done = true → t path = some { file with executable := true }) := by
  have hmem : path ∈ [path] := List.mem_singleton_self _
  refine Program.safe_atomic ?_ ?_
  · rintro t ⟨ht, hfile⟩
    rw [hfile]
    dsimp only
    split_ifs
    · exact ht.put hmem _
    · exact ht
  · rintro t ⟨ht, hfile⟩
    rw [hfile]
    dsimp only
    split_ifs
    · exact ⟨ht.put hmem _, fun _ => put_self ..⟩
    · exact ⟨ht, nofun⟩

/-- **Renaming is seen before or after.** The new path has either what it had, or the file
that was renamed. -/
theorem rename_safe {file : File κ} (permitted : Bool) (hne : old ≠ new) :
    Program.Safe
      (fun t => SameBut [old, new] s t ∧ (t new = s new ∨ t new = some file))
      (fun t => SameBut [old] s t ∧ t old = some file) (rename permitted old new)
      fun done t => if done then SameBut [old, new] s t ∧ t new = some file
        else SameBut [old] s t := by
  have hwider : ∀ t, SameBut [old] s t → SameBut [old, new] s t := fun t ht path hpath =>
    ht path fun hold => hpath (List.mem_cons.mpr (Or.inl (List.mem_singleton.mp hold)))
  have hrenamed : ∀ t, SameBut [old] s t → t old = some file →
      SameBut [old, new] s ((t.put new (t old)).put old none) ∧
        (t.put new (t old)).put old none new = some file := by
    intro t ht hfile
    refine ⟨((hwider t ht).put (by simp) _).put (by simp) _, ?_⟩
    rw [put_other hne.symm, put_self, hfile]
  refine Program.safe_atomic ?_ ?_
  · rintro t ⟨ht, hfile⟩
    split_ifs
    · exact ⟨(hrenamed t ht hfile).1, Or.inr (hrenamed t ht hfile).2⟩
    · exact ⟨hwider t ht, Or.inl (ht new (by simpa using hne.symm))⟩
  · rintro t ⟨ht, hfile⟩
    by_cases hdone : (permitted && (t old).isSome) = true
    · rw [if_pos hdone]
      exact hrenamed t ht hfile
    · rw [if_neg hdone]
      exact ht

end Files

end QtAppBase.Library
