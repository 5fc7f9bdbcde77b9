import QtAppBase.Infra.VerifiedInstall
import QtAppBase.Library.Files

/-!
# Replacing the running binary

On Unix an update is installed by copying the verified file next to the running
binary, making it executable and renaming it over the binary. The process can die
between any two of these, or in the middle of the copy; the binary is the old one
or the new one, whole, whenever that happens.
-/

namespace QtAppBase.Infra

open Library Qt

/-- What the operating system answers during an install. -/
structure InstallAnswers where
  removesStale : Bool := true
  copy : CopyAnswer QByteArray := {}
  permits : Bool := true
  renames : Bool := true
  /-- The text of the error number, when it does not rename. -/
  reason : QString := ""
  removesStaged : Bool := true
  relaunches : Bool := true

/-- Where the new binary is staged. -/
def stagedPath (currentExecutablePath : QString) : QString := currentExecutablePath ++ ".new"

/-- The error of an update that is installed all the same. -/
def notRelaunched : QString := "new binary installed but could not be relaunched"

/-- The steps of `startSelfInstall` once the new binary is staged. -/
def installStaged (a : InstallAnswers) (currentExecutablePath : QString) :
    Program (Files QString QByteArray) (Except QString Unit) :=
  let staged := stagedPath currentExecutablePath
  (Files.makeExecutable a.permits staged).andThen fun permitted =>
  if permitted = false then
    (Files.remove a.removesStaged staged).andThen fun _ =>
    .ret (.error "could not make the staged binary executable")
  else
    (Files.rename a.renames staged currentExecutablePath).andThen fun renamed =>
    if renamed = false then
      (Files.remove a.removesStaged staged).andThen fun _ =>
      .ret (.error ("could not replace " ++ currentExecutablePath ++ ": " ++ a.reason))
    else if a.relaunches = false then .ret (.error notRelaunched)
    else .ret (.ok ())

/-- `Platform::startSelfInstall`, with the text left in `errorOut`. -/
def startSelfInstall (a : InstallAnswers) (downloadedPath currentExecutablePath : QString) :
    Program (Files QString QByteArray) (Except QString Unit) :=
  let staged := stagedPath currentExecutablePath
  (Files.remove a.removesStale staged).andThen fun _ =>
  (Files.copy a.copy downloadedPath staged).andThen fun copied =>
  if copied = false then
    .ret (.error ("could not stage the new binary next to " ++ currentExecutablePath))
  else installStaged a currentExecutablePath

/-! ### The binary at any moment -/

section Install

variable {downloadedPath currentExecutablePath : QString} {s t : Files QString QByteArray}

/-- Nothing but the staged file has changed. -/
def Untouched (currentExecutablePath : QString) (s t : Files QString QByteArray) : Prop :=
  Files.SameBut [stagedPath currentExecutablePath] s t

/-- The binary is the downloaded file, which can be executed, and nothing else has changed. -/
structure Replaced (downloadedPath currentExecutablePath : QString)
    (s t : Files QString QByteArray) : Prop where
  others : Files.SameBut [stagedPath currentExecutablePath, currentExecutablePath] s t
  binary : ∃ file, s downloadedPath = some file ∧
    t currentExecutablePath = some { file with executable := true }

/-- What can be found when the install is cut short. -/
def OldOrNew (downloadedPath currentExecutablePath : QString)
    (s t : Files QString QByteArray) : Prop :=
  Untouched currentExecutablePath s t ∨ Replaced downloadedPath currentExecutablePath s t

/-- The binary is not the staged one. -/
theorem stagedPath_ne (currentExecutablePath : QString) :
    stagedPath currentExecutablePath ≠ currentExecutablePath := by
  intro h
  have hlength := congrArg (fun path : QString => path.toList.length) h
  simp [stagedPath] at hlength

/-- As long as nothing has changed, the binary is the old one. -/
theorem Untouched.binary (h : Untouched currentExecutablePath s t) :
    t currentExecutablePath = s currentExecutablePath :=
  h _ (by simpa using (stagedPath_ne currentExecutablePath).symm)

/-- The result says which of the two it is. -/
def Outcome (downloadedPath currentExecutablePath : QString) (s : Files QString QByteArray)
    (result : Except QString Unit) (t : Files QString QByteArray) : Prop :=
  match result with
  | .ok () => Replaced downloadedPath currentExecutablePath s t
  | .error text =>
    Untouched currentExecutablePath s t ∨
      text = notRelaunched ∧ Replaced downloadedPath currentExecutablePath s t

/-- Removing the staged file and giving up. -/
theorem giveUp_safe (removes : Bool) (text : QString) :
    Program.Safe (OldOrNew downloadedPath currentExecutablePath s)
      (Untouched currentExecutablePath s)
      ((Files.remove removes (stagedPath currentExecutablePath)).andThen fun _ =>
        .ret (.error text))
      (Outcome downloadedPath currentExecutablePath s) := by
  have hremove := Files.remove_safe (s := s) removes
    (List.mem_singleton_self (stagedPath currentExecutablePath))
  refine Program.Safe.andThen (hremove.imp (fun _ => Or.inl) (fun _ h => h) fun _ _ h => h)
    fun _ => ?_
  exact Program.safe_ret fun t ht => Or.inl ht

/-- The staged file takes the place of the binary in one step. -/
theorem rename_replaces {file : File QByteArray} (renames : Bool)
    (hfile : s downloadedPath = some file) :
    Program.Safe (OldOrNew downloadedPath currentExecutablePath s)
      (fun t => Untouched currentExecutablePath s t ∧
        t (stagedPath currentExecutablePath) = some { file with executable := true })
      (Files.rename renames (stagedPath currentExecutablePath) currentExecutablePath)
      fun renamed t => if renamed then Replaced downloadedPath currentExecutablePath s t
        else Untouched currentExecutablePath s t := by
  refine (Files.rename_safe (s := s) renames (stagedPath_ne currentExecutablePath)).imp ?_
    (fun _ h => h) ?_
  · rintro t ⟨hothers, hold | hnew⟩
    · refine Or.inl fun path hpath => ?_
      by_cases hcurrent : path = currentExecutablePath
      · rw [hcurrent, hold]
      · exact hothers path (by simp_all)
    · exact Or.inr ⟨hothers, file, hfile, hnew⟩
  · intro renamed t ht
    cases renamed with
    | false => exact ht
    | true => exact ⟨ht.1, file, hfile, ht.2⟩

/-- From a staged file on. -/
theorem installStaged_safe {file : File QByteArray} (a : InstallAnswers)
    (hfile : s downloadedPath = some file) :
    Program.Safe (OldOrNew downloadedPath currentExecutablePath s)
      (fun t => Untouched currentExecutablePath s t ∧
        t (stagedPath currentExecutablePath) = some file)
      (installStaged a currentExecutablePath)
      (Outcome downloadedPath currentExecutablePath s) := by
  refine Program.Safe.andThen ((Files.makeExecutable_safe a.permits _).imp (fun _ => Or.inl)
    (fun _ h => h) fun _ _ h => h) fun permitted => ?_
  refine Program.safe_ite (fun _ => ?_) fun hpermitted => ?_
  · exact (giveUp_safe _ _).imp (fun _ h => h) (fun _ h => h.1) fun _ _ h => h
  · refine Program.Safe.andThen ((rename_replaces a.renames hfile).imp (fun _ h => h)
      (fun t ht => ⟨ht.1, ht.2 (by simpa using hpermitted)⟩) fun _ _ h => h) fun renamed => ?_
    cases renamed with
    | false => exact giveUp_safe _ _
    | true =>
      simp only [Bool.true_eq_false, if_true, if_false]
      refine Program.safe_ite (fun _ => ?_) fun _ => ?_
      · exact Program.safe_ret fun t ht => Or.inr ⟨rfl, ht⟩
      · exact Program.safe_ret fun t ht => ht

/-- Every step of the install is safe. -/
theorem startSelfInstall_safe (a : InstallAnswers)
    (downloadedPath currentExecutablePath : QString) (s : Files QString QByteArray) :
    Program.Safe (OldOrNew downloadedPath currentExecutablePath s)
      (Untouched currentExecutablePath s) (startSelfInstall a downloadedPath currentExecutablePath)
      (Outcome downloadedPath currentExecutablePath s) := by
  refine Program.Safe.andThen ((Files.remove_safe a.removesStale
    (List.mem_singleton_self _)).imp (fun _ => Or.inl) (fun _ h => h) fun _ _ h => h) fun _ => ?_
  refine Program.Safe.andThen ((Files.copy_safe a.copy downloadedPath _).imp (fun _ => Or.inl)
    (fun _ h => h) fun _ _ h => h) fun copied => ?_
  refine Program.safe_ite (fun _ => Program.safe_ret fun t ht => Or.inl ht.1) fun hcopied => ?_
  rintro t ⟨huntouched, hstaged⟩
  obtain ⟨file, hfile, hstaged⟩ := hstaged (by simpa using hcopied)
  exact installStaged_safe a hfile t ⟨huntouched, hstaged⟩

/-- **The binary is old or new at any moment.** However the system answers and wherever the
install is cut short, the binary is what it was, or the downloaded file, whole and executable,
and no other file but the staged one has changed. If the install is not cut short, its result
says which: an error means the old binary, but for the one that says otherwise. -/
theorem startSelfInstall_atomic (a : InstallAnswers)
    (downloadedPath currentExecutablePath : QString) (s : Files QString QByteArray) :
    (∀ t ∈ (startSelfInstall a downloadedPath currentExecutablePath s).passed,
      OldOrNew downloadedPath currentExecutablePath s t) ∧
    Outcome downloadedPath currentExecutablePath s
      (startSelfInstall a downloadedPath currentExecutablePath s).result
      (startSelfInstall a downloadedPath currentExecutablePath s).final :=
  startSelfInstall_safe a downloadedPath currentExecutablePath s s (Files.SameBut.refl _ s)

end Install

/-! ### The binary over a whole run -/

/-- The binary is the old one, or one with the expected digest that can be executed. -/
def OldOrVerified (sha256Hex : QByteArray → QString) (digest currentExecutablePath : QString)
    (s t : Files QString QByteArray) : Prop :=
  t currentExecutablePath = s currentExecutablePath ∨
    ∃ new, t currentExecutablePath = some new ∧ new.executable = true ∧
      sameDigest (sha256Hex new.contents) digest = true

/-- **No unverified byte is ever run.** In every run in which each installer that is used was
verified while no other download was running, whenever an install is cut short the binary is
the old one, or one with the digest that was expected of the update. -/
theorem binary_oldOrVerified (sha256Hex : QByteArray → QString) (host : Host)
    (file : Option QByteArray) (events : List UpdateEvent)
    (henabled : (Guarded.machine sha256Hex host).EachStep Guarded.Enabled (Guarded.fresh file)
      events)
    (halone : (Guarded.machine sha256Hex host).EachStep Guarded.VerifiedAlone
      (Guarded.fresh file) events) :
    (Guarded.machine sha256Hex host).EachStep (fun w event => ∀ path,
      .startSelfInstall path ∈ (w.updating.perform sha256Hex host event).2 →
      ∀ a currentExecutablePath (s : Files QString QByteArray),
        (s path).map File.contents = w.updating.file →
        ∀ t ∈ (startSelfInstall a path currentExecutablePath s).passed,
          OldOrVerified sha256Hex w.digest currentExecutablePath s t)
      (Guarded.fresh file) events := by
  refine Mealy.eachStep_of_invariant (I := Guarded.Inv sha256Hex host)
    (fun _ event h hP => Guarded.inv_next h event hP.1) (fun w event h hP => ?_)
    (Guarded.fresh_inv sha256Hex host file) (henabled.and halone)
  intro path hpath a currentExecutablePath s hs t ht
  obtain ⟨-, -, contents, hcontents, hdigest⟩ :=
    (Guarded.installsVerified_iff h event).mpr hP.2 path hpath
  have hsafe := startSelfInstall_safe a path currentExecutablePath s s (Files.SameBut.refl _ s)
  rcases hsafe.1 t ht with hold | hnew
  · exact Or.inl hold.binary
  · obtain ⟨new, hnew, hbinary⟩ := hnew.binary
    have hsame : new.contents = contents := by
      rw [hnew, hcontents] at hs
      exact Option.some.inj hs
    exact Or.inr ⟨_, hbinary, rfl, by rw [← hdigest, ← hsame]⟩

/-- One download, which is verified and installed. -/
theorem single_oldOrVerified :
    (Guarded.machine Guarded.knownDigest Guarded.host).EachStep (fun w event => ∀ path,
      .startSelfInstall path ∈
        (w.updating.perform Guarded.knownDigest Guarded.host event).2 →
      ∀ a currentExecutablePath (s : Files QString QByteArray),
        (s path).map File.contents = w.updating.file →
        ∀ t ∈ (startSelfInstall a path currentExecutablePath s).passed,
          OldOrVerified Guarded.knownDigest w.digest currentExecutablePath s t)
      (Guarded.fresh none)
      [.download "1.1" (Guarded.knownDigest [97, 98, 99]) true, .progress 0 (some [97, 98, 99]),
        .finished 0 true (.hashed [97, 98, 99]) true, .applyAndRestart true] :=
  binary_oldOrVerified Guarded.knownDigest Guarded.host none
    [.download "1.1" (Guarded.knownDigest [97, 98, 99]) true, .progress 0 (some [97, 98, 99]),
      .finished 0 true (.hashed [97, 98, 99]) true, .applyAndRestart true]
    (by decide +kernel) (by decide +kernel)

end QtAppBase.Infra
