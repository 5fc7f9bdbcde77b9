import QtAppBase.Infra.ReleaseCheck
import QtAppBase.Infra.VerifiedInstall

/-!
# From a release to its install

The demo wires the checker of updates to the installer, and the installer to a
question to the user. Timers, curl processes and the user take their turns in any
order, and a question that is open does not keep the next check from running.
Whatever the order, an install is an answer to a question, and leads back to a
release that was received and is newer than the application.
-/

namespace QtAppBase.Infra

open Library Qt

/-- The members of `UpdateChecker`, its timers, and the curl processes it has started. -/
structure UpdateChecker where
  started : Bool := false
  /-- The single shot of `start` has not fired. -/
  initialPending : Bool := false
  timerActive : Bool := false
  /-- The curl processes that are running. -/
  fetches : List ℕ := []
  fetchCount : ℕ := 0
  deriving DecidableEq, Repr

/-- What can be observed of the checker. -/
inductive CheckEffect where
  | log (level : Level) (text : QString)
  /-- A curl process is started for the latest release. -/
  | fetch
  | updateAvailable (offer : Offer)
  deriving DecidableEq, Repr

/-- The objects the demo wires together. -/
structure UpdateFlow where
  checker : UpdateChecker := {}
  installer : Guarded
  /-- The versions that the open questions are about, the one on top first. -/
  questions : List QString := []
  deriving DecidableEq, Repr

/-- What can be observed. -/
inductive FlowEffect where
  | check (effect : CheckEffect)
  | update (effect : UpdateEffect)
  deriving DecidableEq, Repr

/-- What can happen: the start, the timers, an error or the end of a curl process of the
checker, an event of the installer that is not a call, and an answer of the user to the
question on top. Whether files are removed and installs succeed is part of the events. -/
inductive FlowEvent where
  | start
  | initialTimeout
  | intervalTimeout
  | fetchError (id : ℕ) (errorString : QString)
  | fetchFinished (id : ℕ) (normalExit : Bool) (exitCode : ℤ) (body : QByteArray) (err : QString)
    (removed : Bool)
  | progress (id : ℕ) (file : Option QByteArray)
  | downloadError (id : ℕ) (removed : Bool)
  | downloadFinished (id : ℕ) (ok : Bool) (readBack : ReadBack) (removed : Bool)
  | answered (installNow installs : Bool)
  deriving DecidableEq, Repr

/-- The code outside: `QJsonDocument::fromJson` with the text of its error, whether a `QUrl`
is valid and not empty, and SHA-256 in hexadecimal. -/
structure Outside where
  fromJson : QByteArray → Except QString Json
  urlUsable : QString → Bool
  sha256Hex : QByteArray → QString

/-- A local build is not updated. -/
def Application.IsDevelopment (app : Application) : Prop :=
  "-dev".toList <:+: app.version.toList

instance (app : Application) : Decidable app.IsDevelopment :=
  inferInstanceAs (Decidable (_ <:+: _))

/-- The version of a question. -/
def UpdateEffect.question? : UpdateEffect → Option QString
  | .readyToInstall version => some version
  | _ => none

namespace UpdateFlow

section Behaviour

variable (out : Outside) (host : Host) (app : Application)

/-- The handler of `checkNow`. -/
def onFetched (ok : Bool) (body : QByteArray) (error : QString) : List CheckEffect :=
  if !ok then [.log .warn ("update check failed: " ++ error)]
  else
    match out.fromJson body with
    | .error errorString => [.log .warn ("update check returned malformed JSON: " ++ errorString)]
    | .ok (.object release) =>
      match readRelease out.urlUsable app release with
      | .error text => [.log .warn text]
      | .ok (offer, newer) =>
        .log .info ("update check found release version=" ++ offer.version ++ "; current=" ++
          app.version) :: if newer then [.updateAvailable offer] else []
    | .ok _ => [.log .warn "update check returned malformed JSON: no error occurred"]

/-- An event of the installer. A file that is ready opens a question. -/
def onInstaller (event : UpdateEvent) (w : UpdateFlow) : Reaction UpdateFlow FlowEffect :=
  let r := (Guarded.machine out.sha256Hex host).step w.installer event
  ({ w with installer := r.1, questions := r.2.filterMap UpdateEffect.question? ++ w.questions },
    r.2.map .update)

/-- What the checker does, with its signal connected to `UpdateInstaller::download`. -/
def deliver (removed : Bool) (w : UpdateFlow) : List CheckEffect → Reaction UpdateFlow FlowEffect
  | [] => (w, [])
  | .updateAvailable offer :: effects =>
    let r : Reaction UpdateFlow FlowEffect := (w, [.check (.updateAvailable offer)])
    (r.andThen (onInstaller out host (.download offer.version offer.sha256 removed))).andThen
      fun w => deliver removed w effects
  | effect :: effects =>
    Reaction.andThen (w, [.check effect]) fun w => deliver removed w effects

/-- `checkNow`. -/
def checkNow (w : UpdateFlow) : Reaction UpdateFlow FlowEffect :=
  Reaction.andThen (w, [.check (.log .info "update check started")]) fun w =>
    if !host.curlFound then
      Reaction.andThen
        (w, [.check (.log .warn "no system curl found; update checking is unavailable")])
        fun w => deliver out host false w (onFetched out app false [] "curl not found")
    else
      ({ w with checker := { w.checker with
          fetches := w.checker.fetches ++ [w.checker.fetchCount],
          fetchCount := w.checker.fetchCount + 1 } }, [.check .fetch])

/-- `UpdateChecker::start`. -/
def start (w : UpdateFlow) : Reaction UpdateFlow FlowEffect :=
  if w.checker.started then (w, [])
  else if app.IsDevelopment then
    ({ w with checker := { w.checker with started := true } },
      [.check (.log .info "update check disabled for a development build")])
  else
    .silently { w with checker := { w.checker with
      started := true, initialPending := true, timerActive := true } }

/-- The lambda of `CurlClient::run` for the end of a process, and the handler of the checker. -/
def fetchFinished (id : ℕ) (normalExit : Bool) (exitCode : ℤ) (body : QByteArray) (err : QString)
    (removed : Bool) (w : UpdateFlow) : Reaction UpdateFlow FlowEffect :=
  if id ∉ w.checker.fetches then (w, [])
  else
    let w := { w with checker := { w.checker with fetches := w.checker.fetches.filter (· ≠ id) } }
    if !normalExit || exitCode ≠ 0 then
      deliver out host removed w (onFetched out app false []
        (if err = "" then "curl exit code " ++ toString exitCode else err))
    else deliver out host removed w (onFetched out app true body "")

/-- The user answers the question on top. -/
def answered (installNow installs : Bool) (w : UpdateFlow) : Reaction UpdateFlow FlowEffect :=
  match w.questions with
  | [] => (w, [])
  | _ :: questions =>
    let w := { w with questions := questions }
    if installNow then onInstaller out host (.applyAndRestart installs) w else (w, [])

/-- What one event does. -/
def handle (w : UpdateFlow) : FlowEvent → Reaction UpdateFlow FlowEffect
  | .start => start app w
  | .initialTimeout =>
    if w.checker.initialPending then
      checkNow out host app { w with checker := { w.checker with initialPending := false } }
    else (w, [])
  | .intervalTimeout => if w.checker.timerActive then checkNow out host app w else (w, [])
  | .fetchError id errorString =>
    if id ∉ w.checker.fetches then (w, [])
    else deliver out host false w (onFetched out app false [] errorString)
  | .fetchFinished id normalExit exitCode body err removed =>
    fetchFinished out host app id normalExit exitCode body err removed w
  | .progress id file => onInstaller out host (.progress id file) w
  | .downloadError id removed => onInstaller out host (.errorOccurred id removed) w
  | .downloadFinished id ok readBack removed =>
    onInstaller out host (.finished id ok readBack removed) w
  | .answered installNow installs => answered out host installNow installs w

/-- The state machine driven by its events. -/
def machine : Mealy UpdateFlow FlowEvent FlowEffect := ⟨handle out host app⟩

/-- The window has been opened, whatever an earlier run has left at the installer path. -/
def opened (file : Option QByteArray) : UpdateFlow := { installer := Guarded.fresh file }

end Behaviour

/-! ### Development builds -/

variable {app : Application} {w : UpdateFlow}

/-- What a development build stays in: no timer runs, nothing is fetched or downloaded, and
there is nothing to install. -/
structure Offline (w : UpdateFlow) : Prop where
  initialPending : w.checker.initialPending = false
  timerActive : w.checker.timerActive = false
  fetches : w.checker.fetches = []
  transfers : w.installer.updating.transfers = []
  questions : w.questions = []

/-- The one thing a development build says about updates, when it is started. -/
def disabledRecord : FlowEffect :=
  .check (.log .info "update check disabled for a development build")

/-- Without a download, the installer is silent. -/
theorem onInstaller_offline (out : Outside) (host : Host) {event : UpdateEvent} (h : Offline w)
    (hevent : (∃ id file, event = .progress id file) ∨
      (∃ id removed, event = .errorOccurred id removed) ∨
      ∃ id ok readBack removed, event = .finished id ok readBack removed) :
    Offline (onInstaller out host event w).1 ∧ (onInstaller out host event w).2 = [] ∧
      (onInstaller out host event w).1.checker = w.checker := by
  have hnone : ∀ id, w.installer.updating.transfer? id = none := by
    intro id
    rw [Updating.transfer?, h.transfers]
    rfl
  rcases hevent with ⟨id, file, rfl⟩ | ⟨id, removed, rfl⟩ | ⟨id, ok, readBack, removed, rfl⟩
  · exact ⟨⟨h.initialPending, h.timerActive, h.fetches, h.transfers, h.questions⟩, rfl, rfl⟩
  · have hperform : w.installer.updating.perform out.sha256Hex host (.errorOccurred id removed) =
        (w.installer.updating, []) := by
      unfold Updating.perform
      dsimp only
      rw [hnone]
    unfold onInstaller Guarded.machine
    dsimp only
    rw [hperform]
    exact ⟨⟨h.initialPending, h.timerActive, h.fetches, h.transfers, h.questions⟩, rfl, rfl⟩
  · have hperform : w.installer.updating.perform out.sha256Hex host
        (.finished id ok readBack removed) = (w.installer.updating, []) := by
      unfold Updating.perform
      dsimp only
      rw [hnone]
    unfold onInstaller Guarded.machine Guarded.observe
    dsimp only
    rw [hperform, hnone]
    exact ⟨⟨h.initialPending, h.timerActive, h.fetches, h.transfers, h.questions⟩, rfl, rfl⟩

/-- An event leaves a development build offline, and only the first start is recorded. -/
theorem handle_offline (out : Outside) (host : Host) (hdev : app.IsDevelopment) (h : Offline w)
    (e : FlowEvent) :
    Offline (w.handle out host app e).1 ∧
    (w.handle out host app e).2 =
      (if e = .start ∧ w.checker.started = false then [disabledRecord] else []) ∧
    (w.handle out host app e).1.checker.started = (w.checker.started || decide (e = .start)) := by
  have hkept : Offline w ∧ ([] : List FlowEffect) = [] ∧
      w.checker.started = (w.checker.started || false) :=
    ⟨h, rfl, (Bool.or_false _).symm⟩
  have hinstaller : ∀ {event}, (∃ id file, event = .progress id file) ∨
      (∃ id removed, event = .errorOccurred id removed) ∨
      (∃ id ok readBack removed, event = .finished id ok readBack removed) →
      Offline (onInstaller out host event w).1 ∧ (onInstaller out host event w).2 = [] ∧
        (onInstaller out host event w).1.checker.started = (w.checker.started || false) := by
    intro event hevent
    obtain ⟨hoffline, hsilent, hchecker⟩ := onInstaller_offline out host h hevent
    rw [hchecker]
    exact ⟨hoffline, hsilent, (Bool.or_false _).symm⟩
  unfold handle
  cases e with
  | start =>
    unfold start
    dsimp only
    by_cases hstarted : w.checker.started = true
    · rw [if_pos hstarted, if_neg (by simp [hstarted])]
      exact ⟨h, rfl, by simp [hstarted]⟩
    · rw [if_neg hstarted, if_pos hdev, if_pos (by simp [hstarted])]
      exact ⟨⟨h.initialPending, h.timerActive, h.fetches, h.transfers, h.questions⟩, rfl,
        by simp⟩
  | initialTimeout =>
    dsimp only
    rw [if_neg (by simp [h.initialPending]), if_neg (by simp)]
    exact hkept
  | intervalTimeout =>
    dsimp only
    rw [if_neg (by simp [h.timerActive]), if_neg (by simp)]
    exact hkept
  | fetchError id errorString =>
    dsimp only
    rw [if_pos (by simp [h.fetches]), if_neg (by simp)]
    exact hkept
  | fetchFinished id normalExit exitCode body err removed =>
    unfold fetchFinished
    dsimp only
    rw [if_pos (by simp [h.fetches]), if_neg (by simp)]
    exact hkept
  | progress id file => exact hinstaller (Or.inl ⟨id, file, rfl⟩)
  | downloadError id removed => exact hinstaller (Or.inr (Or.inl ⟨id, removed, rfl⟩))
  | downloadFinished id ok readBack removed =>
    exact hinstaller (Or.inr (Or.inr ⟨id, ok, readBack, removed, rfl⟩))
  | answered installNow installs =>
    unfold answered
    rw [h.questions]
    exact hkept

/-- **A development build is left alone.** Whatever happens to it, it starts no curl process,
asks nothing and installs nothing: in every run it records once, if it is started at all,
that it does not check for updates. -/
theorem development_offline (out : Outside) (host : Host) (app : Application)
    (hdev : app.IsDevelopment) (file : Option QByteArray) (events : List FlowEvent) :
    (machine out host app).emitted (opened file) events =
      if .start ∈ events then [disabledRecord] else [] := by
  have hrun : ∀ w, Offline w → (machine out host app).emitted w events =
      if .start ∈ events ∧ w.checker.started = false then [disabledRecord] else [] := by
    induction events with
    | nil =>
      intro w _
      rfl
    | cons e events ih =>
      intro w hw
      obtain ⟨hoffline, heffects, hstarted⟩ := handle_offline out host hdev hw e
      rw [Mealy.emitted_cons]
      change (w.handle out host app e).2 ++ _ = _
      rw [heffects]
      refine (congrArg (_ ++ ·) (ih _ hoffline)).trans ?_
      rw [hstarted]
      by_cases he : e = .start
      · cases hs : w.checker.started <;> simp [he]
      · have hmem : .start ∈ e :: events ↔ .start ∈ events :=
          List.mem_cons.trans (or_iff_right (Ne.symm he))
        simp [he, hmem]
  have hopened := hrun (opened file) ⟨rfl, rfl, rfl, rfl, rfl⟩
  rw [hopened]
  exact if_congr (and_iff_left rfl) rfl rfl

/-- The code outside where there is nothing to parse. -/
def unparsed : Outside where
  fromJson _ := .error "illegal value"
  urlUsable url := url ≠ ""
  sha256Hex := Guarded.knownDigest

/-- A local build that is started, and whose timers are said to fire. -/
theorem localBuild_offline :
    (machine unparsed Guarded.host ⟨"0.0.0-dev", "demo-linux"⟩).emitted (opened none)
      [.start, .initialTimeout, .intervalTimeout, .answered true true] = [disabledRecord] :=
  (development_offline unparsed Guarded.host ⟨"0.0.0-dev", "demo-linux"⟩ (by decide +kernel)
    none [.start, .initialTimeout, .intervalTimeout, .answered true true]).trans
    (if_pos List.mem_cons_self)

end UpdateFlow

end QtAppBase.Infra
