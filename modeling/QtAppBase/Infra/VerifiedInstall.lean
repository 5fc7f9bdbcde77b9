import QtAppBase.Infra.UpdateInstaller

/-!
# Only verified bytes are installed

The digest is checked at one moment, and the installer is used at a later one. All
downloads write to the same path, so what was checked is what is used only as long
as no other download touches the file in between.
-/

namespace QtAppBase.Infra

open Library Qt

/-- An `Updating`, watched for the download that set `m_verified` last: the digest it
was given, and whether it found no other download running. -/
structure Guarded where
  updating : Updating
  digest : QString := ""
  alone : Bool := true
  deriving DecidableEq, Repr

namespace Guarded

section Behaviour

variable (sha256Hex : QByteArray → QString) (host : Host)

/-- What is remembered of a download that is verified. -/
def observe (w : Guarded) (r : Reaction Updating UpdateEffect) : UpdateEvent → Guarded
  | .finished id _ _ _ =>
    match w.updating.transfer? id, r.2 with
    | some t, _ :: _ => ⟨r.1, t.sha256, (w.updating.others id).isEmpty⟩
    | _, _ => { w with updating := r.1 }
  | _ => { w with updating := r.1 }

/-- The watched machine. -/
def machine : Mealy Guarded UpdateEvent UpdateEffect where
  step w event :=
    let r := w.updating.perform sha256Hex host event
    (w.observe r event, r.2)

/-- A new object, whatever an earlier run has left at the installer path. -/
def fresh (file : Option QByteArray) : Guarded := { updating := { file := file } }

/-- Only running processes write and end. When the last one ends, nothing else has the
file open: it is hashed as it is, and it can be removed. -/
def Enabled (w : Guarded) : UpdateEvent → Prop
  | .progress id _ => (w.updating.transfer? id).isSome
  | .errorOccurred id _ => (w.updating.transfer? id).isSome
  | .finished id _ readBack removed =>
    (w.updating.transfer? id).isSome ∧
      (w.updating.others id = [] → readBack.Faithful w.updating.file ∧ removed)
  | _ => True

/-- Whatever is handed to the platform is the file at the installer path, which no
running download can write to any more, with the digest it was verified against. -/
def InstallsVerified (w : Guarded) (event : UpdateEvent) : Prop :=
  ∀ path, .startSelfInstall path ∈ (w.updating.perform sha256Hex host event).2 →
    path = host.installerPath ∧ w.updating.transfers = [] ∧
      ∃ contents, w.updating.file = some contents ∧ sameDigest (sha256Hex contents) w.digest

/-- An install is asked for only if the download that was verified last, if any, was the
only one running then. -/
def VerifiedAlone (w : Guarded) : UpdateEvent → Prop
  | .applyAndRestart _ => w.updating.installer.verified → w.alone
  | _ => True

instance (w : Guarded) (event : UpdateEvent) : Decidable (w.Enabled event) := by
  cases event <;> unfold Enabled <;> infer_instance

instance (w : Guarded) (event : UpdateEvent) : Decidable (w.VerifiedAlone event) := by
  cases event <;> unfold VerifiedAlone <;> infer_instance

/-- What every event keeps. -/
structure Inv (w : Guarded) : Prop where
  /-- A verified installer is the one at the installer path. -/
  path : w.updating.installer.verified → w.updating.installer.installerPath = host.installerPath
  /-- Verified alone, it stays what it was. -/
  kept : w.updating.installer.verified → w.alone →
    w.updating.transfers = [] ∧
      ∃ contents, w.updating.file = some contents ∧ sameDigest (sha256Hex contents) w.digest
  /-- Verified beside others, it is gone when all of them have ended. -/
  gone : w.updating.installer.verified → w.alone = false → w.updating.transfers = [] →
    w.updating.file = none

theorem fresh_inv (file : Option QByteArray) : Inv sha256Hex host (fresh file) := by
  constructor <;> simp [fresh]

variable {sha256Hex host}

theorem next_eq (w : Guarded) (event : UpdateEvent) :
    (machine sha256Hex host).next w event =
      w.observe (w.updating.perform sha256Hex host event) event := rfl

/-- While a download runs, an installer that was verified before was verified beside it. -/
theorem Inv.beside {w : Guarded} (h : Inv sha256Hex host w) {id : ℕ}
    (hruns : (w.updating.transfer? id).isSome) (hverified : w.updating.installer.verified) :
    w.alone = false := by
  by_contra halone
  have hkept := (h.kept hverified (by simpa using halone)).1
  simp [Updating.transfer?, hkept] at hruns

/-- A new download forgets the verified installer. -/
theorem download_inv (w : Guarded) (version sha256 : QString) (removed : Bool) :
    Inv sha256Hex host ((machine sha256Hex host).next w (.download version sha256 removed)) := by
  have hforgotten : ((machine sha256Hex host).next w
      (.download version sha256 removed)).updating.installer.verified = false := by
    simp only [next_eq, observe, Updating.perform, Updating.download]
    split <;> simp [Updating.onDone]
  constructor <;> simp [hforgotten]

/-- What a running process writes, or an error of it removes, is not what was verified alone. -/
theorem touched_inv {w : Guarded} (h : Inv sha256Hex host w) {id : ℕ}
    (hruns : (w.updating.transfer? id).isSome) (file : Option QByteArray) :
    Inv sha256Hex host { w with updating := { w.updating with file := file } } := by
  constructor
  · exact h.path
  · intro hverified halone
    exact absurd halone (by simp [h.beside hruns hverified])
  · intro _ _ hended
    simp only at hended
    simp [Updating.transfer?, hended] at hruns

/-- The end of a process verifies what it has left, or removes it. -/
theorem finished_inv {w : Guarded} (h : Inv sha256Hex host w) {id : ℕ} {ok : Bool}
    {readBack : ReadBack} {removed : Bool}
    (henabled : w.Enabled (.finished id ok readBack removed)) :
    Inv sha256Hex host ((machine sha256Hex host).next w (.finished id ok readBack removed)) := by
  obtain ⟨hruns, hlast⟩ := henabled
  obtain ⟨t, ht⟩ := Option.isSome_iff_exists.mp hruns
  rw [next_eq]
  simp only [Updating.perform, ht]
  rcases Updating.onDone_cases sha256Hex host t ok readBack removed
      { w.updating with transfers := w.updating.others id } with
    hremoved | ⟨contents, hread, hsame, hverifies⟩
  · rw [hremoved]
    simp only [observe, ht, Reaction.silently_fst, Reaction.silently_snd]
    constructor
    · simpa using h.path
    · intro hverified halone
      exact absurd halone (by simp [h.beside hruns (by simpa using hverified)])
    · intro _ _ hended
      -- the last process to end removes the file
      have hgone := (hlast (by simpa using hended)).2
      simp [Updating.removeFile, hgone]
  · rw [hverifies]
    simp only [observe, ht]
    constructor
    · intro _
      rfl
    · intro _ halone
      have hended : w.updating.others id = [] := List.isEmpty_iff.mp halone
      have hfaithful := (hlast hended).1
      rw [hread] at hfaithful
      exact ⟨hended, contents, hfaithful, hsame⟩
    · intro _ hbeside hended
      simp only at hended
      simp [hended] at hbeside

/-- Every event keeps the invariant. -/
theorem inv_next {w : Guarded} (h : Inv sha256Hex host w) (event : UpdateEvent)
    (henabled : w.Enabled event) : Inv sha256Hex host ((machine sha256Hex host).next w event) := by
  cases event with
  | download version sha256 removed => exact download_inv w version sha256 removed
  | progress id file => exact touched_inv h henabled file
  | errorOccurred id removed =>
    obtain ⟨t, ht⟩ := Option.isSome_iff_exists.mp henabled
    cases removed with
    | true =>
      have htouched := touched_inv h henabled none
      simpa [next_eq, observe, Updating.perform, ht, Updating.onDone, Updating.removeFile]
        using htouched
    | false =>
      simpa [next_eq, observe, Updating.perform, ht, Updating.onDone, Updating.removeFile] using h
  | finished id ok readBack removed => exact finished_inv h henabled
  | applyAndRestart installs =>
    have hsame : (machine sha256Hex host).next w (.applyAndRestart installs) = w := by
      simp only [next_eq, observe, Updating.perform, Updating.applyAndRestart]
      split_ifs <;> rfl
    rwa [hsame]

/-- An install is safe exactly when the installer was verified alone. -/
theorem installsVerified_iff {w : Guarded} (h : Inv sha256Hex host w) (event : UpdateEvent) :
    w.InstallsVerified sha256Hex host event ↔ w.VerifiedAlone event := by
  constructor
  · intro hsafe
    cases event with
    | applyAndRestart installs =>
      intro hverified
      have heffects := Updating.applyAndRestart_verified host installs hverified (h.path hverified)
      obtain ⟨_, hended, contents, hfile, _⟩ := hsafe host.installerPath
        (by rw [Updating.perform, heffects]; exact List.mem_cons_self)
      by_contra hbeside
      have hgone := h.gone hverified (by simpa using hbeside) hended
      rw [hfile] at hgone
      cases hgone
    | _ => trivial
  · intro halone path hmem
    obtain ⟨installs, rfl, hverified⟩ := Updating.startSelfInstall_mem hmem
    have heffects := Updating.applyAndRestart_verified host installs hverified (h.path hverified)
    have hpath : path = host.installerPath := by
      rw [Updating.perform, heffects] at hmem
      cases installs <;> simpa using hmem
    exact ⟨hpath, h.kept hverified (halone hverified)⟩

/-- **When only verified bytes are installed.** In every run, every file handed to the
platform is final and has the digest it was verified against, if and only if every
installer that is used was verified while no other download was running. -/
theorem installsVerified_iff_verifiedAlone (file : Option QByteArray) (events : List UpdateEvent)
    (henabled : (machine sha256Hex host).EachStep Enabled (fresh file) events) :
    (machine sha256Hex host).EachStep (InstallsVerified sha256Hex host) (fresh file) events ↔
      (machine sha256Hex host).EachStep VerifiedAlone (fresh file) events :=
  Mealy.eachStep_iff_eachStep (I := Inv sha256Hex host)
    (fun _ event h henabled _ => inv_next h event henabled)
    (fun _ event h _ => installsVerified_iff h event) (fresh_inv sha256Hex host file) henabled

end Behaviour

/-- The SHA-256 digests of the file `abc` and of the empty one. -/
def knownDigest (contents : QByteArray) : QString :=
  if contents = [97, 98, 99] then
    "ba7816bf8f01cfea414140de5dae2223b00361a396177a9cb410ff61f20015ad"
  else "e3b0c44298fc1c149afbf4c8996fb92427ae41e4649b934ca495991b7852b855"

/-- A host with curl. -/
def host : Host := ⟨.unix, true, "/tmp/app-update", by decide⟩

/-- One download, which is verified and installed. -/
theorem single_installsVerified :
    (machine knownDigest host).EachStep (InstallsVerified knownDigest host) (fresh none)
      [.download "1.1" (knownDigest [97, 98, 99]) true, .progress 0 (some [97, 98, 99]),
        .finished 0 true (.hashed [97, 98, 99]) true, .applyAndRestart true] :=
  (installsVerified_iff_verifiedAlone none _ (by decide +kernel)).mpr (by decide +kernel)

/-- Two downloads. The first is verified while the second, which truncates the file when
its first bytes arrive, is still running. -/
def overlappingRun : List UpdateEvent :=
  [.download "1.1" (knownDigest [97, 98, 99]) true, .download "1.1" (knownDigest [97, 98, 99]) true,
    .progress 0 (some [97, 98, 99]), .finished 0 true (.hashed [97, 98, 99]) true,
    .progress 1 (some []), .applyAndRestart true]

/-- The truncated file is installed. -/
theorem overlappingRun_unverified :
    ¬ ∀ sha256Hex host file events,
      (machine sha256Hex host).EachStep Enabled (fresh file) events →
      (machine sha256Hex host).EachStep (InstallsVerified sha256Hex host) (fresh file) events := by
  intro h
  have hrun := h knownDigest host none overlappingRun (by decide +kernel)
  have hinstall := hrun.2.2.2.2.2.1 "/tmp/app-update" (by decide +kernel)
  exact absurd hinstall.2.1 (by decide +kernel)

end Guarded

end QtAppBase.Infra
