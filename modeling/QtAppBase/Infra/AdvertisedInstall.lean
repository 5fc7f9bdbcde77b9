import QtAppBase.Infra.UpdateFlow

/-!
# Only advertised releases are installed

Where what the installer holds comes from: every download, the file verified last and
every open question belong to a release that was received and advertises an update.
-/

namespace QtAppBase.Infra

open Library Qt

/-! ### Where the installer has its versions and digests from -/

namespace Guarded

variable {sha256Hex : QByteArray → QString} {host : Host} {w : Guarded} {event : UpdateEvent}

/-- Watching changes nothing. -/
theorem updating_next (w : Guarded) (event : UpdateEvent) :
    ((machine sha256Hex host).next w event).updating =
      (w.updating.perform sha256Hex host event).1 := by
  cases event with
  | finished id ok readBack removed =>
    rw [next_eq]
    unfold observe
    dsimp only
    split <;> rfl
  | _ => rfl

/-- A download that is running was running before, or has just been asked for. -/
theorem transfer_next {t : Transfer}
    (h : t ∈ ((machine sha256Hex host).next w event).updating.transfers) :
    t ∈ w.updating.transfers ∨
      ∃ removed, event = .download t.version t.sha256 removed := by
  rw [updating_next] at h
  cases event with
  | download version sha256 removed =>
    unfold Updating.perform Updating.download at h
    dsimp only at h
    split_ifs at h
    · exact Or.inl (by simpa [Updating.onDone] using h)
    · rcases List.mem_append.mp h with hbefore | hnew
      · exact Or.inl hbefore
      · rw [List.mem_singleton.mp hnew]
        exact Or.inr ⟨removed, rfl⟩
  | progress id file => exact Or.inl h
  | errorOccurred id removed =>
    refine Or.inl ?_
    unfold Updating.perform at h
    dsimp only at h
    split at h
    · exact h
    · simpa [Updating.onDone] using h
  | finished id ok readBack removed =>
    refine Or.inl ?_
    unfold Updating.perform at h
    dsimp only at h
    split at h
    · exact h
    · rename_i t' ht'
      have hothers : t ∈ w.updating.others id := by
        rcases Updating.onDone_cases sha256Hex host t' ok readBack removed
            { w.updating with transfers := w.updating.others id } with
          hremoved | ⟨contents, -, -, hverifies⟩
        · rw [hremoved] at h
          simpa using h
        · rw [hverifies] at h
          exact h
      exact (List.mem_filter.mp hothers).1
  | applyAndRestart installs =>
    refine Or.inl ?_
    unfold Updating.perform Updating.applyAndRestart at h
    dsimp only at h
    split_ifs at h <;> exact h

/-- A verified file was verified before, or belongs to a download that was running. -/
theorem verified_next
    (h : ((machine sha256Hex host).next w event).updating.installer.verified = true) :
    (w.updating.installer.verified = true ∧
      ((machine sha256Hex host).next w event).digest = w.digest) ∨
    ∃ t ∈ w.updating.transfers, ((machine sha256Hex host).next w event).digest = t.sha256 := by
  rw [updating_next] at h
  cases event with
  | download version sha256 removed =>
    unfold Updating.perform Updating.download at h
    dsimp only at h
    split_ifs at h <;> simp [Updating.onDone] at h
  | progress id file => exact Or.inl ⟨h, rfl⟩
  | errorOccurred id removed =>
    refine Or.inl ⟨?_, rfl⟩
    unfold Updating.perform at h
    dsimp only at h
    split at h
    · exact h
    · simpa [Updating.onDone] using h
  | finished id ok readBack removed =>
    rw [next_eq]
    unfold Updating.perform at *
    unfold observe
    dsimp only at *
    cases ht : w.updating.transfer? id with
    | none =>
      rw [ht] at h
      exact Or.inl ⟨h, rfl⟩
    | some t =>
      have hmem : t ∈ w.updating.transfers := List.mem_of_find?_eq_some ht
      rw [ht] at h
      dsimp only at h ⊢
      rcases Updating.onDone_cases sha256Hex host t ok readBack removed
          { w.updating with transfers := w.updating.others id } with
        hremoved | ⟨contents, -, -, hverifies⟩
      · rw [hremoved] at h ⊢
        exact Or.inl ⟨by simpa using h, rfl⟩
      · rw [hverifies]
        exact Or.inr ⟨t, hmem, rfl⟩
  | applyAndRestart installs =>
    refine Or.inl ⟨?_, rfl⟩
    unfold Updating.perform Updating.applyAndRestart at h
    dsimp only at h
    split_ifs at h <;> exact h

/-- A file that is ready belongs to a download that was running. -/
theorem ready_of_transfer {version : QString}
    (h : .readyToInstall version ∈ ((machine sha256Hex host).step w event).2) :
    ∃ t ∈ w.updating.transfers, t.version = version := by
  change .readyToInstall version ∈ (w.updating.perform sha256Hex host event).2 at h
  cases event with
  | download version' sha256 removed =>
    unfold Updating.perform Updating.download at h
    dsimp only at h
    split_ifs at h <;> cases h
  | progress id file => cases h
  | errorOccurred id removed =>
    unfold Updating.perform at h
    dsimp only at h
    split at h <;> cases h
  | finished id ok readBack removed =>
    unfold Updating.perform at h
    dsimp only at h
    split at h
    · cases h
    · rename_i t ht
      refine ⟨t, List.mem_of_find?_eq_some ht, ?_⟩
      rcases Updating.onDone_cases sha256Hex host t ok readBack removed
          { w.updating with transfers := w.updating.others id } with
        hremoved | ⟨contents, -, -, hverifies⟩
      · rw [hremoved] at h
        cases h
      · rw [hverifies] at h
        exact (UpdateEffect.readyToInstall.inj (List.mem_singleton.mp h)).symm
  | applyAndRestart installs =>
    unfold Updating.perform Updating.applyAndRestart at h
    dsimp only at h
    split_ifs at h
    all_goals simp at h

/-- Asking for a download tells nobody anything. -/
theorem download_quiet (w : Guarded) (version sha256 : QString) (removed : Bool) :
    ((machine sha256Hex host).step w (.download version sha256 removed)).2 = [] := by
  change (w.updating.perform sha256Hex host (.download version sha256 removed)).2 = []
  unfold Updating.perform Updating.download
  dsimp only
  split_ifs <;> rfl

end Guarded

/-! ### Where the flow has them from -/

namespace UpdateFlow

variable {out : Outside} {host : Host} {app : Application} {past : List FlowEvent}
  {w : UpdateFlow} {event : UpdateEvent}

section Records

variable (out : Outside) (app : Application)

/-- A release that advertises the offer has been received. -/
def Received (past : List FlowEvent) (offer : Offer) : Prop :=
  ∃ id body err removed release, .fetchFinished id true 0 body err removed ∈ past ∧
    out.fromJson body = .ok (.object release) ∧ Advertises out.urlUsable app release offer

/-- All that the installer and the user deal with belongs to offers that were received. -/
structure Supplied (past : List FlowEvent) (w : UpdateFlow) : Prop where
  transfers : ∀ t ∈ w.installer.updating.transfers, ∃ offer, Received out app past offer ∧
    offer.version = t.version ∧ offer.sha256 = t.sha256
  verified : w.installer.updating.installer.verified = true →
    ∃ offer, Received out app past offer ∧ offer.sha256 = w.installer.digest
  questions : ∀ version ∈ w.questions, ∃ offer, Received out app past offer ∧
    offer.version = version

end Records

theorem Received.mono {offer : Offer} (h : Received out app past offer)
    (more : List FlowEvent) : Received out app (past ++ more) offer := by
  obtain ⟨id, body, err, removed, release, hmem, hrelease⟩ := h
  exact ⟨id, body, err, removed, release, List.mem_append_left _ hmem, hrelease⟩

theorem Supplied.mono (h : Supplied out app past w) (more : List FlowEvent) :
    Supplied out app (past ++ more) w := by
  refine ⟨fun t ht => ?_, fun hverified => ?_, fun version hversion => ?_⟩
  · obtain ⟨offer, hoffer, hsame⟩ := h.transfers t ht
    exact ⟨offer, hoffer.mono more, hsame⟩
  · obtain ⟨offer, hoffer, hsame⟩ := h.verified hverified
    exact ⟨offer, hoffer.mono more, hsame⟩
  · obtain ⟨offer, hoffer, hsame⟩ := h.questions version hversion
    exact ⟨offer, hoffer.mono more, hsame⟩

/-- An event of the installer keeps it, if what is to be downloaded was received. -/
theorem Supplied.onInstaller (h : Supplied out app past w)
    (hdownload : ∀ version sha256 removed, event = .download version sha256 removed →
      ∃ offer, Received out app past offer ∧ offer.version = version ∧ offer.sha256 = sha256) :
    Supplied out app past (onInstaller out host event w).1 := by
  refine ⟨fun t ht => ?_, fun hverified => ?_, fun version hversion => ?_⟩
  · rcases Guarded.transfer_next ht with hbefore | ⟨removed, hnew⟩
    · exact h.transfers t hbefore
    · exact hdownload _ _ removed hnew
  · rcases Guarded.verified_next hverified with ⟨hbefore, hdigest⟩ | ⟨t, ht, hdigest⟩
    · obtain ⟨offer, hoffer, hsame⟩ := h.verified hbefore
      exact ⟨offer, hoffer, hsame.trans hdigest.symm⟩
    · obtain ⟨offer, hoffer, -, hsame⟩ := h.transfers t ht
      exact ⟨offer, hoffer, hsame.trans hdigest.symm⟩
  · rcases List.mem_append.mp hversion with hnew | hbefore
    · obtain ⟨effect, heffect, hquestion⟩ := List.mem_filterMap.mp hnew
      cases effect with
      | readyToInstall ready =>
        obtain rfl := Option.some.inj hquestion
        obtain ⟨t, ht, rfl⟩ := Guarded.ready_of_transfer heffect
        obtain ⟨offer, hoffer, hsame, -⟩ := h.transfers t ht
        exact ⟨offer, hoffer, hsame⟩
      | _ => cases hquestion
    · exact h.questions version hbefore

/-- So does what the checker does, if its offers were received. -/
theorem Supplied.deliver {effects : List CheckEffect} {removed : Bool}
    (h : Supplied out app past w)
    (hoffers : ∀ offer, .updateAvailable offer ∈ effects → Received out app past offer) :
    Supplied out app past (deliver out host removed w effects).1 := by
  induction effects generalizing w with
  | nil => exact h
  | cons effect effects ih =>
    have hrest : ∀ offer, .updateAvailable offer ∈ effects → Received out app past offer :=
      fun offer hoffer => hoffers offer (List.mem_cons_of_mem _ hoffer)
    cases effect with
    | log level text => exact ih h hrest
    | fetch => exact ih h hrest
    | updateAvailable offer =>
      refine ih (h.onInstaller fun version sha256 removed hevent => ?_) hrest
      obtain ⟨rfl, rfl, -⟩ := UpdateEvent.download.inj hevent
      exact ⟨offer, hoffers offer List.mem_cons_self, rfl, rfl⟩

/-- What the checker offers is what a release advertises. -/
theorem updateAvailable_mem {ok : Bool} {body : QByteArray} {error : QString} {offer : Offer}
    (h : .updateAvailable offer ∈ onFetched out app ok body error) :
    ok = true ∧ ∃ release, out.fromJson body = .ok (.object release) ∧
      Advertises out.urlUsable app release offer := by
  unfold onFetched at h
  cases ok with
  | false => simp at h
  | true =>
    refine ⟨rfl, ?_⟩
    rw [if_neg (by decide)] at h
    split at h
    · simp at h
    · rename_i release hbody
      refine ⟨release, hbody, ?_⟩
      split at h
      · simp at h
      · rename_i received newer hread
        rcases List.mem_cons.mp h with hlog | hoffer
        · cases hlog
        · cases newer with
          | false => cases hoffer
          | true =>
            rw [CheckEffect.updateAvailable.inj (List.mem_singleton.mp hoffer)]
            exact readRelease_eq_ok_iff.mp hread
    · simp at h

/-- Only the installer's part of the state and the questions matter. -/
theorem Supplied.of_same {v : UpdateFlow} (h : Supplied out app past w)
    (hinstaller : v.installer = w.installer) (hquestions : ∀ q ∈ v.questions, q ∈ w.questions) :
    Supplied out app past v := by
  obtain ⟨htransfers, hverified, hasked⟩ := h
  rw [← hinstaller] at htransfers hverified
  exact ⟨htransfers, hverified, fun q hq => hasked q (hquestions q hq)⟩

/-- A check that fails offers nothing. -/
theorem Supplied.failed {removed : Bool} {error : QString} (h : Supplied out app past w) :
    Supplied out app past
      (UpdateFlow.deliver out host removed w (onFetched out app false [] error)).1 :=
  h.deliver fun _ hoffer => absurd (updateAvailable_mem hoffer).1 (by decide)

theorem Supplied.checkNow (h : Supplied out app past w) :
    Supplied out app past (checkNow out host app w).1 := by
  unfold UpdateFlow.checkNow
  rw [Reaction.andThen_fst]
  split_ifs
  · rw [Reaction.andThen_fst]
    exact h.failed
  · exact h.of_same rfl fun _ hq => hq

/-- Every event keeps it. -/
theorem Supplied.handle (h : Supplied out app past w) (e : FlowEvent) :
    Supplied out app (past ++ [e]) (w.handle out host app e).1 := by
  have hmore := h.mono [e]
  cases e with
  | start =>
    unfold UpdateFlow.handle UpdateFlow.start
    dsimp only
    split_ifs
    · exact hmore
    · exact hmore.of_same rfl fun _ hq => hq
    · exact hmore.of_same rfl fun _ hq => hq
  | initialTimeout =>
    unfold UpdateFlow.handle
    dsimp only
    have hfired : Supplied out app (past ++ [.initialTimeout])
        { w with checker := { w.checker with initialPending := false } } :=
      hmore.of_same rfl fun _ hq => hq
    split_ifs
    · exact hfired.checkNow
    · exact hmore
  | intervalTimeout =>
    unfold UpdateFlow.handle
    dsimp only
    split_ifs
    · exact hmore.checkNow
    · exact hmore
  | fetchError id errorString =>
    unfold UpdateFlow.handle
    dsimp only
    by_cases hruns : id ∉ w.checker.fetches
    · rw [if_pos hruns]
      exact hmore
    · rw [if_neg hruns]
      exact hmore.failed
  | fetchFinished id normalExit exitCode body err removed =>
    unfold UpdateFlow.handle UpdateFlow.fetchFinished
    dsimp only
    by_cases hruns : id ∉ w.checker.fetches
    · rw [if_pos hruns]
      exact hmore
    · rw [if_neg hruns]
      have hended : Supplied out app
          (past ++ [.fetchFinished id normalExit exitCode body err removed])
          { w with checker :=
            { w.checker with fetches := w.checker.fetches.filter (· ≠ id) } } :=
        hmore.of_same rfl fun _ hq => hq
      by_cases hfailed : (!normalExit || exitCode ≠ 0) = true
      · rw [if_pos hfailed]
        exact hended.failed
      · rw [if_neg hfailed]
        simp only [Bool.or_eq_true, Bool.not_eq_true', decide_eq_true_eq, not_or,
          Bool.not_eq_false, not_not] at hfailed
        obtain ⟨rfl, rfl⟩ := hfailed
        refine hended.deliver fun offer hoffer => ?_
        obtain ⟨-, release, hrelease, hadvertises⟩ := updateAvailable_mem hoffer
        exact ⟨id, body, err, removed, release, List.mem_append_right _ List.mem_cons_self,
          hrelease, hadvertises⟩
  | progress id file => exact hmore.onInstaller nofun
  | downloadError id removed => exact hmore.onInstaller nofun
  | downloadFinished id ok readBack removed => exact hmore.onInstaller nofun
  | answered installNow installs =>
    unfold UpdateFlow.handle UpdateFlow.answered
    dsimp only
    split
    · exact hmore
    · rename_i version questions hquestions
      have hanswered : Supplied out app (past ++ [.answered installNow installs])
          { w with questions := questions } :=
        hmore.of_same rfl fun q hq => hquestions ▸ List.mem_cons_of_mem _ hq
      cases installNow with
      | true => exact hanswered.onInstaller nofun
      | false => exact hanswered

/-- All that is dealt with after a run belongs to offers received in it. -/
theorem after_supplied (file : Option QByteArray) (past : List FlowEvent) :
    Supplied out app past ((machine out host app).after (opened file) past) := by
  have hopened : Supplied out app [] (opened file) := ⟨nofun, nofun, nofun⟩
  exact Mealy.after_of_recorded (M := machine out host app) (P := fun _ _ => True)
    (fun _ _ e h _ => h.handle e) hopened (Mealy.eachStep_trivial _ _)

/-! ### What the installer says and does -/

/-- The checker leaves files and installs alone. -/
theorem deliver_update {effects : List CheckEffect} {removed : Bool} {effect : UpdateEffect} :
    .update effect ∉ (deliver out host removed w effects).2 := by
  induction effects generalizing w with
  | nil => exact List.not_mem_nil
  | cons first effects ih =>
    intro h
    cases first with
    | log level text =>
      rcases List.mem_cons.mp h with hfirst | hrest
      · cases hfirst
      · exact ih hrest
    | fetch =>
      rcases List.mem_cons.mp h with hfirst | hrest
      · cases hfirst
      · exact ih hrest
    | updateAvailable offer =>
      rcases List.mem_append.mp h with hdownload | hrest
      · rcases List.mem_cons.mp hdownload with hfirst | hdownload
        · cases hfirst
        · obtain ⟨e, he, -⟩ := List.mem_map.mp hdownload
          rw [Guarded.download_quiet] at he
          cases he
      · exact ih hrest

theorem checkNow_update {effect : UpdateEffect} :
    .update effect ∉ (UpdateFlow.checkNow out host app w).2 := by
  unfold UpdateFlow.checkNow
  intro h
  rcases List.mem_append.mp h with hlog | h
  · cases List.mem_singleton.mp hlog
  · dsimp only at h
    split_ifs at h
    · rcases List.mem_append.mp h with hlog | h
      · cases List.mem_singleton.mp hlog
      · exact deliver_update h
    · cases List.mem_singleton.mp h

/-- In an event of the flow the installer goes on with a download, or the user has answered the
question on top. -/
theorem update_mem {e : FlowEvent} {effect : UpdateEffect}
    (h : .update effect ∈ (w.handle out host app e).2) :
    ∃ event, effect ∈ ((Guarded.machine out.sha256Hex host).step w.installer event).2 ∧
      ∀ installs, event = .applyAndRestart installs →
        e = .answered true installs ∧ w.questions ≠ [] := by
  have hstep : ∀ {v : UpdateFlow} {event : UpdateEvent}, v.installer = w.installer →
      .update effect ∈ (onInstaller out host event v).2 →
      effect ∈ ((Guarded.machine out.sha256Hex host).step w.installer event).2 := by
    intro v event hv h
    obtain ⟨e, he, hsame⟩ := List.mem_map.mp h
    rw [hv] at he
    exact FlowEffect.update.inj hsame ▸ he
  unfold UpdateFlow.handle at h
  cases e with
  | start =>
    unfold UpdateFlow.start at h
    dsimp only at h
    split_ifs at h
    · cases h
    · cases List.mem_singleton.mp h
    · cases h
  | initialTimeout =>
    dsimp only at h
    split_ifs at h
    · exact absurd h checkNow_update
    · cases h
  | intervalTimeout =>
    dsimp only at h
    split_ifs at h
    · exact absurd h checkNow_update
    · cases h
  | fetchError id errorString =>
    dsimp only at h
    by_cases hruns : id ∉ w.checker.fetches
    · rw [if_pos hruns] at h
      cases h
    · rw [if_neg hruns] at h
      exact absurd h deliver_update
  | fetchFinished id normalExit exitCode body err removed =>
    unfold UpdateFlow.fetchFinished at h
    dsimp only at h
    by_cases hruns : id ∉ w.checker.fetches
    · rw [if_pos hruns] at h
      cases h
    · rw [if_neg hruns] at h
      by_cases hfailed : (!normalExit || exitCode ≠ 0) = true
      · rw [if_pos hfailed] at h
        exact absurd h deliver_update
      · rw [if_neg hfailed] at h
        exact absurd h deliver_update
  | progress id file => exact ⟨_, hstep rfl h, nofun⟩
  | downloadError id removed => exact ⟨_, hstep rfl h, nofun⟩
  | downloadFinished id ok readBack removed => exact ⟨_, hstep rfl h, nofun⟩
  | answered installNow installs =>
    unfold UpdateFlow.answered at h
    dsimp only at h
    split at h
    · cases h
    · rename_i version questions hquestions
      cases installNow with
      | true =>
        refine ⟨.applyAndRestart installs, hstep rfl h, fun installs' hevent => ?_⟩
        obtain rfl := UpdateEvent.applyAndRestart.inj hevent
        exact ⟨rfl, by rw [hquestions]; exact List.cons_ne_nil _ _⟩
      | false => cases h

/-- **Only advertised releases are installed, and only when asked.** After any run, a question
is about the version of a release that was received in it, and advertises an update. A file is
handed to the platform only when the user agrees to such a question, and the digest it was
verified against is that of such a release, too. -/
theorem install_advertised (out : Outside) (host : Host) (app : Application)
    (file : Option QByteArray) (past : List FlowEvent) (e : FlowEvent) :
    let w := (machine out host app).after (opened file) past
    (∀ version, .update (.readyToInstall version) ∈ (w.handle out host app e).2 →
      ∃ offer, Received out app past offer ∧ offer.version = version) ∧
    ∀ path, .update (.startSelfInstall path) ∈ (w.handle out host app e).2 →
      (∃ installs, e = .answered true installs) ∧
      (∃ version ∈ w.questions.head?, ∃ offer, Received out app past offer ∧
        offer.version = version) ∧
      ∃ offer, Received out app past offer ∧ offer.sha256 = w.installer.digest := by
  intro w
  have hsupplied : Supplied out app past w := after_supplied file past
  refine ⟨fun version h => ?_, fun path h => ?_⟩
  · obtain ⟨event, heffect, -⟩ := update_mem h
    obtain ⟨t, ht, rfl⟩ := Guarded.ready_of_transfer heffect
    obtain ⟨offer, hoffer, hversion, -⟩ := hsupplied.transfers t ht
    exact ⟨offer, hoffer, hversion⟩
  · obtain ⟨event, heffect, hanswered⟩ := update_mem h
    obtain ⟨installs, rfl, hverified⟩ := Updating.startSelfInstall_mem heffect
    obtain ⟨hagreed, hasked⟩ := hanswered installs rfl
    obtain ⟨version, questions, hquestions⟩ := List.exists_cons_of_ne_nil hasked
    refine ⟨⟨installs, hagreed⟩, ⟨version, ?_, hsupplied.questions version ?_⟩,
      hsupplied.verified hverified⟩
    · rw [hquestions]
      rfl
    · rw [hquestions]
      exact List.mem_cons_self

/-! ### What is installed -/

/-- Only running downloads write and end. -/
def Enabled (w : UpdateFlow) : FlowEvent → Prop
  | .progress id file => w.installer.Enabled (.progress id file)
  | .downloadError id removed => w.installer.Enabled (.errorOccurred id removed)
  | .downloadFinished id ok readBack removed =>
    w.installer.Enabled (.finished id ok readBack removed)
  | _ => True

/-- The user agrees only when the download that was verified last was the only one running
then. -/
def VerifiedAlone (w : UpdateFlow) : FlowEvent → Prop
  | .answered true installs => w.installer.VerifiedAlone (.applyAndRestart installs)
  | _ => True

instance (w : UpdateFlow) (e : FlowEvent) : Decidable (w.Enabled e) := by
  cases e <;> unfold Enabled <;> infer_instance

instance (w : UpdateFlow) (e : FlowEvent) : Decidable (w.VerifiedAlone e) := by
  unfold VerifiedAlone
  split <;> infer_instance

/-- The checker keeps what the installer relies on. -/
theorem deliver_inv {effects : List CheckEffect} {removed : Bool}
    (h : Guarded.Inv out.sha256Hex host w.installer) :
    Guarded.Inv out.sha256Hex host (deliver out host removed w effects).1.installer := by
  induction effects generalizing w with
  | nil => exact h
  | cons effect effects ih =>
    cases effect with
    | log level text => exact ih h
    | fetch => exact ih h
    | updateAvailable offer => exact ih (Guarded.download_inv w.installer _ _ _)

theorem checkNow_inv (h : Guarded.Inv out.sha256Hex host w.installer) :
    Guarded.Inv out.sha256Hex host (UpdateFlow.checkNow out host app w).1.installer := by
  unfold UpdateFlow.checkNow
  rw [Reaction.andThen_fst]
  split_ifs
  · rw [Reaction.andThen_fst]
    exact deliver_inv h
  · exact h

/-- Every event of a run does. -/
theorem handle_inv {e : FlowEvent} (h : Guarded.Inv out.sha256Hex host w.installer)
    (henabled : w.Enabled e) :
    Guarded.Inv out.sha256Hex host (w.handle out host app e).1.installer := by
  unfold UpdateFlow.handle
  cases e with
  | start =>
    unfold UpdateFlow.start
    dsimp only
    split_ifs <;> exact h
  | initialTimeout =>
    dsimp only
    split_ifs
    · exact checkNow_inv h
    · exact h
  | intervalTimeout =>
    dsimp only
    split_ifs
    · exact checkNow_inv h
    · exact h
  | fetchError id errorString =>
    dsimp only
    by_cases hruns : id ∉ w.checker.fetches
    · rw [if_pos hruns]
      exact h
    · rw [if_neg hruns]
      exact deliver_inv h
  | fetchFinished id normalExit exitCode body err removed =>
    unfold UpdateFlow.fetchFinished
    dsimp only
    by_cases hruns : id ∉ w.checker.fetches
    · rw [if_pos hruns]
      exact h
    · rw [if_neg hruns]
      by_cases hfailed : (!normalExit || exitCode ≠ 0) = true
      · rw [if_pos hfailed]
        exact deliver_inv h
      · rw [if_neg hfailed]
        exact deliver_inv h
  | progress id file => exact Guarded.inv_next h (.progress id file) henabled
  | downloadError id removed => exact Guarded.inv_next h (.errorOccurred id removed) henabled
  | downloadFinished id ok readBack removed =>
    exact Guarded.inv_next h (.finished id ok readBack removed) henabled
  | answered installNow installs =>
    unfold UpdateFlow.answered
    dsimp only
    split
    · exact h
    · cases installNow with
      | true => exact Guarded.inv_next h (.applyAndRestart installs) trivial
      | false => exact h

/-- **What is installed is what was advertised.** If the download that was verified last was
the only one running then, the file that the user agrees to install is final, and has the
digest that a release received in the run advertises for a version newer than the
application. -/
theorem installed_final (out : Outside) (host : Host) (app : Application)
    (file : Option QByteArray) (past : List FlowEvent) (e : FlowEvent)
    (henabled : (machine out host app).EachStep Enabled (opened file) past)
    (halone : ((machine out host app).after (opened file) past).VerifiedAlone e) :
    let w := (machine out host app).after (opened file) past
    ∀ path, .update (.startSelfInstall path) ∈ (w.handle out host app e).2 →
      path = host.installerPath ∧ w.installer.updating.transfers = [] ∧
      ∃ contents offer, w.installer.updating.file = some contents ∧
        sameDigest (out.sha256Hex contents) offer.sha256 = true ∧ Received out app past offer := by
  intro w path h
  have hinv : Guarded.Inv out.sha256Hex host w.installer :=
    (Mealy.eachState_of_invariant (M := machine out host app)
      (I := fun w => Guarded.Inv out.sha256Hex host w.installer)
      (fun _ _ h henabled => handle_inv h henabled) (fun _ h => h)
      (Guarded.fresh_inv out.sha256Hex host file) henabled).last
  have hsupplied : Supplied out app past w := after_supplied file past
  obtain ⟨event, heffect, hanswered⟩ := update_mem h
  obtain ⟨installs, rfl, hverified⟩ := Updating.startSelfInstall_mem heffect
  obtain ⟨rfl, -⟩ := hanswered installs rfl
  obtain ⟨offer, hoffer, hdigest⟩ := hsupplied.verified hverified
  obtain ⟨hpath, hended, contents, hfile, hsame⟩ :=
    (Guarded.installsVerified_iff hinv (.applyAndRestart installs)).mpr halone path heffect
  exact ⟨hpath, hended, contents, offer, hfile, hdigest ▸ hsame, hoffer⟩

/-- A release as GitHub describes it. -/
def releaseText : QString :=
  "\x7b\"tag_name\":\"v1.1\",\"prerelease\":false,\"assets\":[\x7b\"name\":\"demo-linux\"," ++
  "\"browser_download_url\":\"https://github.com/demo-linux\"," ++
  "\"digest\":\"sha256:ba7816bf8f01cfea414140de5dae2223b00361a396177a9cb410ff61f20015ad\"" ++
  "\x7d]\x7d"

/-- The reply of the server. -/
def releaseBody : QByteArray := releaseText.toUTF8.toList

/-- What it is parsed to. -/
def release : JsonObject :=
  [("tag_name", .string "v1.1"), ("prerelease", .bool false), ("assets", .array [.object
    [("name", .string "demo-linux"),
      ("browser_download_url", .string "https://github.com/demo-linux"),
      ("digest", .string
        "sha256:ba7816bf8f01cfea414140de5dae2223b00361a396177a9cb410ff61f20015ad")]])]

/-- The code outside, on an empty reply and on this one. -/
def outside : Outside where
  fromJson body :=
    if body.isEmpty then .error "illegal value" else .ok (.object release)
  urlUsable url := url ≠ ""
  sha256Hex := Guarded.knownDigest

/-- The release is received, downloaded and verified. -/
def releaseRun : List FlowEvent :=
  [.start, .initialTimeout, .fetchFinished 0 true 0 releaseBody "" true,
    .progress 0 (some [97, 98, 99]), .downloadFinished 0 true (.hashed [97, 98, 99]) true]

/-- The user agrees, and what is installed is the release. -/
theorem releaseRun_final : ∃ contents offer,
    ((machine outside Guarded.host ⟨"1.0", "demo-linux"⟩).after (opened none)
      releaseRun).installer.updating.file = some contents ∧
    sameDigest (Guarded.knownDigest contents) offer.sha256 = true ∧
    Received outside ⟨"1.0", "demo-linux"⟩ releaseRun offer :=
  (installed_final outside Guarded.host ⟨"1.0", "demo-linux"⟩ none releaseRun
    (.answered true true) (by decide +kernel) (by decide +kernel) "/tmp/app-update"
    (by decide +kernel)).2.2

end UpdateFlow

end QtAppBase.Infra
