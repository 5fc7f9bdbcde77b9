import QtAppBase.Mq.SettingsDialog
import QtAppBase.Qt.Decimals

/-!
# The form of the settings dialog

Saving takes every field of the form, and the password field is blank at first. What
the user has not edited must come out of it as it went in.
-/

namespace QtAppBase.Mq

open Library Qt

namespace MqSettingsDialog

variable {α : Type*}

/-- A setting, as text. -/
def setting (settings : MqSettings) : FormField → QString
  | .host => settings.host
  | .port => toString settings.port
  | .vhost => settings.vhost
  | .user => settings.user
  | .password => settings.password

/-- What the dialog shows of a setting when it is opened. -/
def shown (settings : MqSettings) : FormField → QString
  | .password => ""
  | field => setting settings field

/-- What saving makes of a setting, by the text of its field. -/
def taken (old text : QString) : FormField → QString
  | .port => toString (UInt16.ofNat ((toUInt text).getD 0)).toNat
  | .password => if text = "" then old else text
  | _ => text

theorem edit_edited (text : LineEdit) (d : MqSettingsDialog α) (field other : FormField) :
    (d.edited text field).edit other = if field = other then text else d.edit other := by
  cases field <;> cases other <;> rfl

theorem edit_opened (settings : MqSettings) (field : FormField) :
    (opened settings : MqSettingsDialog α).edit field = .setText (shown settings field) := by
  cases field <;> rfl

/-- Another password leaves the other settings alone. -/
theorem value_setPassword (settings : MqSettings) (newValue : QString) {key : QString}
    (hkey : MqSettings.kPasswordKey ≠ key) (fallback : QVariant) :
    (settings.setPassword newValue).value key fallback = settings.value key fallback := by
  unfold MqSettings.setPassword
  split_ifs
  · rfl
  · rw [Infra.AppSettings.value_setValue, if_neg hkey]

/-- Saving takes every field. -/
theorem setting_save (d : MqSettingsDialog α) (field : FormField) :
    setting d.save.settings field = taken (setting d.settings field) (d.edit field).text field := by
  obtain ⟨set, hset⟩ : ∃ set : MqSettings, set = (((d.settings.setHost d.hostEdit.text).setPort
    d.port).setVhost d.vhostEdit.text).setUser d.userEdit.text := ⟨_, rfl⟩
  obtain ⟨hhost, hport, hvhost, huser⟩ := d.settings.getters_of_setters d.hostEdit.text
    d.vhostEdit.text d.userEdit.text d.port
  rw [← hset] at hhost hport hvhost huser
  have hsaved : d.save.settings = set.setPassword d.passwordEdit.text := by rw [hset]; rfl
  have hkept (key : QString) (hkey : MqSettings.kPasswordKey ≠ key) :=
    value_setPassword set d.passwordEdit.text hkey
  rw [hsaved]
  cases field with
  | host =>
    change ((set.setPassword d.passwordEdit.text).value MqSettings.kHostKey _).toString = _
    rw [hkept _ (by decide)]
    exact hhost
  | port =>
    have hsame : (set.setPassword d.passwordEdit.text).port = set.port := by
      unfold MqSettings.port
      rw [hkept _ (by decide)]
    change toString (set.setPassword d.passwordEdit.text).port = _
    rw [hsame, hport]
    rfl
  | vhost =>
    change ((set.setPassword d.passwordEdit.text).value MqSettings.kVhostKey _).toString = _
    rw [hkept _ (by decide)]
    exact hvhost
  | user =>
    change ((set.setPassword d.passwordEdit.text).value MqSettings.kUserKey _).toString = _
    rw [hkept _ (by decide)]
    exact huser
  | password =>
    change (set.setPassword d.passwordEdit.text).password =
      if d.passwordEdit.text = "" then d.settings.password else d.passwordEdit.text
    split_ifs with hblank
    · have hold : set.password = d.settings.password := by
        have hkeys : MqSettings.kUserKey ≠ MqSettings.kPasswordKey ∧
            MqSettings.kVhostKey ≠ MqSettings.kPasswordKey ∧
            MqSettings.kPortKey ≠ MqSettings.kPasswordKey ∧
            MqSettings.kHostKey ≠ MqSettings.kPasswordKey := by decide
        obtain ⟨huserKey, hvhostKey, hportKey, hhostKey⟩ := hkeys
        rw [hset]
        unfold MqSettings.password MqSettings.setUser MqSettings.setVhost MqSettings.setPort
          MqSettings.setHost
        rw [Infra.AppSettings.value_setValue, if_neg huserKey, Infra.AppSettings.value_setValue,
          if_neg hvhostKey, Infra.AppSettings.value_setValue, if_neg hportKey,
          Infra.AppSettings.value_setValue, if_neg hhostKey]
      rw [hblank, MqSettings.setPassword, if_pos rfl, hold]
    · exact MqSettings.password_setPassword hblank set

/-- A configured port fits. -/
theorem port_le (settings : MqSettings) : settings.port ≤ 65535 := by
  unfold MqSettings.port
  split
  · split_ifs with hfits
    · exact hfits
    · decide
  · decide

/-- A field that shows its setting leaves it as it is. -/
theorem taken_shown (settings : MqSettings) (field : FormField) :
    taken (setting settings field) (shown settings field) field = setting settings field := by
  cases field with
  | port =>
    have hbound := port_le settings
    have hread : toUInt (toString settings.port) = some settings.port :=
      toUInt_toString (by omega)
    change toString (UInt16.ofNat ((toUInt (toString settings.port)).getD 0)).toNat = _
    rw [hread, Option.getD_some, UInt16.toNat_ofNat_of_lt' (by simp [UInt16.size]; omega)]
    rfl
  | _ => rfl

/-- Nothing but saving changes the settings, and nothing but editing a field. -/
theorem handle_form (lib : AmqpLibrary α) (d : MqSettingsDialog α) (e : DialogEvent)
    (field : FormField) :
    (e ≠ .saveClicked → (d.handle lib e).1.settings = d.settings) ∧
    ((∀ text, e ≠ .edited field text) → (d.handle lib e).1.edit field = d.edit field) := by
  cases e with
  | edited other text =>
    refine ⟨fun _ => by cases other <;> rfl, fun hne => ?_⟩
    have hother : other ≠ field := by
      rintro rfl
      exact hne text rfl
    exact (edit_edited text d other field).trans (if_neg hother)
  | saveClicked => exact ⟨fun h => absurd rfl h, fun _ => by cases field <;> rfl⟩
  | testClicked launch => exact ⟨fun _ => rfl, fun _ => by cases field <;> rfl⟩
  | pollTimeout =>
    have hpoll : d.pollTest.1.settings = d.settings ∧ d.pollTest.1.edit field = d.edit field := by
      unfold pollTest
      split
      · exact ⟨rfl, by cases field <;> rfl⟩
      · dsimp only
        split_ifs <;> exact ⟨rfl, by cases field <;> rfl⟩
    exact ⟨fun _ => hpoll.1, fun _ => hpoll.2⟩
  | connection event =>
    have hconnection : (d.handle lib (.connection event)).1.settings = d.settings ∧
        (d.handle lib (.connection event)).1.edit field = d.edit field := by
      unfold handle
      dsimp only
      split <;> exact ⟨rfl, by cases field <;> rfl⟩
    exact ⟨fun _ => hconnection.1, fun _ => hconnection.2⟩

/-- **What is not edited is not changed.** Whatever is tested, saved and typed into the other
fields: a setting whose field is not edited stays what it was when the dialog was opened, the
password, which is not shown, included. -/
theorem unedited_keeps (lib : AmqpLibrary α) (settings : MqSettings) (field : FormField)
    (hfits : (utf16 (shown settings field)).length ≤ 32767) (events : List DialogEvent)
    (hunedited : ∀ text, .edited field text ∉ events) :
    setting ((machine lib).after (opened settings) events).settings field =
      setting settings field := by
  have hinv : let last := (machine lib).after (opened settings) events
      (last.edit field).text = shown settings field ∧
        setting last.settings field = setting settings field := by
    refine Mealy.after_of_kept (I := fun d : MqSettingsDialog α =>
      (d.edit field).text = shown settings field ∧
        setting d.settings field = setting settings field) ?_ ⟨?_, rfl⟩
    · rintro d e he ⟨hedit, hsetting⟩
      obtain ⟨hsettings, hkept⟩ := handle_form lib d e field
      have hne : ∀ text, e ≠ .edited field text := by
        rintro text rfl
        exact hunedited text he
      refine ⟨?_, ?_⟩
      · change ((d.handle lib e).1.edit field).text = _
        rw [hkept hne, hedit]
      · change setting (d.handle lib e).1.settings field = _
        by_cases hsave : e = .saveClicked
        · subst hsave
          change setting d.save.settings field = _
          rw [setting_save, hsetting, hedit, taken_shown]
        · rw [hsettings hsave, hsetting]
    · rw [edit_opened, LineEdit.text_setText hfits]
  exact hinv.2

/-- Another user is saved while a test runs. -/
def guestRun : List DialogEvent :=
  [.edited .user ⟨"guest", by decide⟩, .testClicked .started, .saveClicked, .pollTimeout]

/-- The password stays the one that was stored. -/
theorem guestRun_keeps :
    setting ((machine idleLibrary).after (opened (MqSettings.unset.setPassword "secret"))
      guestRun).settings .password = setting (MqSettings.unset.setPassword "secret") .password :=
  unedited_keeps idleLibrary (MqSettings.unset.setPassword "secret") .password (by decide) guestRun
    (by simp [guestRun])

end MqSettingsDialog

end QtAppBase.Mq
