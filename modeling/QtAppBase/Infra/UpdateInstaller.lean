import QtAppBase.Library.Mealy
import QtAppBase.Qt.Values

/-!
# Downloading and installing an update

`UpdateInstaller` has a curl process download the installer to a path that is
the same for every download, hashes the file on disk when the process is done,
and hands the path to the platform when asked to install. What the process
writes, and what the disk answers, are part of the events.
-/

namespace QtAppBase.Infra

open Library Qt

/-- The platforms there is a `Platform` implementation for. -/
inductive Platform where
  | unix
  | windows
  deriving DecidableEq, Repr

/-- Whether an update can be installed by the application itself. -/
def Platform.supportsSelfUpdate : Platform → Bool
  | .unix => true
  | .windows => true

@[simp] theorem Platform.supportsSelfUpdate_eq (platform : Platform) :
    platform.supportsSelfUpdate = true := by
  cases platform <;> rfl

/-- Where the application runs. -/
structure Host where
  platform : Platform
  /-- Whether there is a curl executable. -/
  curlFound : Bool
  /-- The installer's file name in the directory for temporary files. -/
  installerPath : QString
  /-- The file name has a suffix, so the path is not empty. -/
  installerPath_ne : installerPath ≠ ""

/-- A running curl process, with what its completion handler has captured. -/
structure Transfer where
  id : ℕ
  version : QString
  sha256 : QString
  deriving DecidableEq, Repr

/-- The members of `UpdateInstaller`. -/
structure UpdateInstaller where
  verified : Bool := false
  installerPath : QString := ""
  deriving DecidableEq, Repr

/-- The installer object, the curl processes that are running, oldest first, how many
were started, and the file at the installer path. -/
structure Updating where
  installer : UpdateInstaller := {}
  transfers : List Transfer := []
  started : ℕ := 0
  file : Option QByteArray := none
  deriving DecidableEq, Repr

/-- What becomes of reading the file back: it cannot be opened, or not be read to its
end, or these are the bytes that were hashed. -/
inductive ReadBack where
  | unopened
  | unhashed
  | hashed (contents : QByteArray)
  deriving DecidableEq, Repr

/-- What was read is what was there. -/
def ReadBack.Faithful (file : Option QByteArray) : ReadBack → Prop
  | .hashed contents => file = some contents
  | _ => True

instance (file : Option QByteArray) (readBack : ReadBack) : Decidable (readBack.Faithful file) := by
  cases readBack <;> unfold ReadBack.Faithful <;> infer_instance

/-- What can be observed of the object. -/
inductive UpdateEffect where
  | readyToInstall (version : QString)
  | selfUpdateUnsupported (installerPath : QString)
  | startSelfInstall (installerPath : QString)
  | quit
  deriving DecidableEq, Repr

/-- `QString::compare` of two digests in hexadecimal, whose letters are ASCII, without
regard to case. -/
def sameDigest (actual expected : QString) : Bool :=
  actual.toList.map Char.toLower = expected.toList.map Char.toLower

namespace Updating

/-- `QFile::remove` of the installer path, with its answer. -/
def removeFile (removed : Bool) (w : Updating) : Updating :=
  if removed then { w with file := none } else w

/-- The running process with this number. -/
def transfer? (w : Updating) (id : ℕ) : Option Transfer := w.transfers.find? (·.id = id)

/-- The processes other than this one. -/
def others (w : Updating) (id : ℕ) : List Transfer := w.transfers.filter (·.id ≠ id)

section Behaviour

variable (sha256Hex : QByteArray → QString) (host : Host)

/-- The completion handler of a download. Only a file whose digest is the expected one
is kept. -/
def onDone (t : Transfer) (ok : Bool) (readBack : ReadBack) (removed : Bool) (w : Updating) :
    Reaction Updating UpdateEffect :=
  if !ok then .silently (w.removeFile removed)
  else
    match readBack with
    | .unopened => .silently (w.removeFile removed)
    | .unhashed => .silently (w.removeFile removed)
    | .hashed contents =>
      if !sameDigest (sha256Hex contents) t.sha256 then .silently (w.removeFile removed)
      else
        ({ w with installer := ⟨true, host.installerPath⟩ }, [.readyToInstall t.version])

/-- `download`: forget the verified file and start curl. Without curl the handler is
called at once. -/
def download (version sha256 : QString) (removed : Bool) (w : Updating) :
    Reaction Updating UpdateEffect :=
  let w := { w with installer := ⟨false, ""⟩ }
  let t : Transfer := ⟨w.started, version, sha256⟩
  if !host.curlFound then onDone sha256Hex host t false .unopened removed w
  else .silently { w with transfers := w.transfers ++ [t], started := w.started + 1 }

/-- `applyAndRestart`, with the answer of `Platform::startSelfInstall`. -/
def applyAndRestart (installs : Bool) (w : Updating) : Reaction Updating UpdateEffect :=
  if !w.installer.verified || w.installer.installerPath = "" then (w, [])
  else if !host.platform.supportsSelfUpdate then
    (w, [.selfUpdateUnsupported w.installer.installerPath])
  else (w, .startSelfInstall w.installer.installerPath :: if installs then [.quit] else [])

end Behaviour

end Updating

/-- What can happen: a call, a write of a running process to the installer path, which
leaves any file or none there, an error of a process that is still running, and the
end of a process. A process that did not start, crashed, or had an exit code has
ended without success; both signals of a crash do the same. -/
inductive UpdateEvent where
  | download (version sha256 : QString) (removed : Bool)
  | progress (id : ℕ) (file : Option QByteArray)
  | errorOccurred (id : ℕ) (removed : Bool)
  | finished (id : ℕ) (ok : Bool) (readBack : ReadBack) (removed : Bool)
  | applyAndRestart (installs : Bool)
  deriving DecidableEq, Repr

namespace Updating

/-- What one event does. -/
def perform (sha256Hex : QByteArray → QString) (host : Host) (w : Updating) :
    UpdateEvent → Reaction Updating UpdateEffect
  | .download version sha256 removed => download sha256Hex host version sha256 removed w
  | .progress _ file => .silently { w with file := file }
  | .errorOccurred id removed =>
    match w.transfer? id with
    | none => (w, [])
    | some t => onDone sha256Hex host t false .unopened removed w
  | .finished id ok readBack removed =>
    match w.transfer? id with
    | none => (w, [])
    | some t =>
      onDone sha256Hex host t ok readBack removed { w with transfers := w.others id }
  | .applyAndRestart installs => applyAndRestart host installs w

@[simp] theorem removeFile_installer (removed : Bool) (w : Updating) :
    (w.removeFile removed).installer = w.installer := by
  unfold removeFile
  split <;> rfl

@[simp] theorem removeFile_transfers (removed : Bool) (w : Updating) :
    (w.removeFile removed).transfers = w.transfers := by
  unfold removeFile
  split <;> rfl

/-- The handler either verifies the file, which is then the one with the expected
digest, or removes it. -/
theorem onDone_cases (sha256Hex : QByteArray → QString) (host : Host) (t : Transfer) (ok : Bool)
    (readBack : ReadBack) (removed : Bool) (w : Updating) :
    onDone sha256Hex host t ok readBack removed w = .silently (w.removeFile removed) ∨
    ∃ contents, readBack = .hashed contents ∧ sameDigest (sha256Hex contents) t.sha256 ∧
      onDone sha256Hex host t ok readBack removed w =
        ({ w with installer := ⟨true, host.installerPath⟩ }, [.readyToInstall t.version]) := by
  cases ok with
  | false => exact Or.inl rfl
  | true =>
    cases readBack with
    | unopened => exact Or.inl rfl
    | unhashed => exact Or.inl rfl
    | hashed contents =>
      cases hsame : sameDigest (sha256Hex contents) t.sha256 with
      | false => exact Or.inl (by simp [onDone, hsame])
      | true => exact Or.inr ⟨contents, rfl, hsame, by simp [onDone, hsame]⟩

/-- A verified installer is handed to the platform. -/
theorem applyAndRestart_verified (host : Host) (installs : Bool) {w : Updating}
    (hverified : w.installer.verified = true)
    (hpath : w.installer.installerPath = host.installerPath) :
    (applyAndRestart host installs w).2 =
      .startSelfInstall host.installerPath :: if installs then [.quit] else [] := by
  simp [applyAndRestart, hverified, hpath, host.installerPath_ne]

/-- Nothing else is. -/
theorem startSelfInstall_mem {sha256Hex : QByteArray → QString} {host : Host} {w : Updating}
    {event : UpdateEvent} {path : QString}
    (hmem : .startSelfInstall path ∈ (w.perform sha256Hex host event).2) :
    ∃ installs, event = .applyAndRestart installs ∧ w.installer.verified = true := by
  have hhandler (t : Transfer) (ok : Bool) (readBack : ReadBack) (removed : Bool) (v : Updating) :
      .startSelfInstall path ∉ (onDone sha256Hex host t ok readBack removed v).2 := by
    rcases onDone_cases sha256Hex host t ok readBack removed v with h | ⟨_, _, _, h⟩ <;> simp [h]
  cases event with
  | download version sha256 removed =>
    simp only [perform, download] at hmem
    split at hmem
    · exact absurd hmem (hhandler _ _ _ _ _)
    · simp at hmem
  | progress id file => simp [perform] at hmem
  | errorOccurred id removed =>
    simp only [perform] at hmem
    split at hmem
    · simp at hmem
    · exact absurd hmem (hhandler _ _ _ _ _)
  | finished id ok readBack removed =>
    simp only [perform] at hmem
    split at hmem
    · simp at hmem
    · exact absurd hmem (hhandler _ _ _ _ _)
  | applyAndRestart installs =>
    refine ⟨installs, rfl, ?_⟩
    cases hverified : w.installer.verified with
    | true => rfl
    | false => simp [perform, applyAndRestart, hverified] at hmem

end Updating

end QtAppBase.Infra
