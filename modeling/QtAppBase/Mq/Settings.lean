import QtAppBase.Infra.Settings

/-!
# Connection settings of the message queue

The settings of the broker, and their description for the log. The description is a
format into which five values are filled one after the other, each into the lowest
place markers left; then the password is to be blanked.
-/

namespace QtAppBase.Mq

open Library Qt Infra

/-- `MqSettings`. -/
abbrev MqSettings := AppSettings

namespace MqSettings

/-- `kHostKey`. -/
def kHostKey : QString := "mq/host"

/-- `kPortKey`. -/
def kPortKey : QString := "mq/port"

/-- `kVhostKey`. -/
def kVhostKey : QString := "mq/vhost"

/-- `kUserKey`. -/
def kUserKey : QString := "mq/user"

/-- `kPasswordKey`. -/
def kPasswordKey : QString := "mq/password"

/-- `host`. -/
def host (settings : MqSettings) : QString :=
  (settings.value kHostKey (.string "localhost")).toString

/-- `port`: the stored number, if it is one and fits. -/
def port (settings : MqSettings) : ℕ :=
  match (settings.value kPortKey (.longlong 5672)).toUInt with
  | some configuredPort => if configuredPort ≤ 65535 then configuredPort else 5672
  | none => 5672

/-- `vhost`. -/
def vhost (settings : MqSettings) : QString :=
  (settings.value kVhostKey (.string "/")).toString

/-- `user`. -/
def user (settings : MqSettings) : QString :=
  (settings.value kUserKey (.string "dev")).toString

/-- `password`. -/
def password (settings : MqSettings) : QString :=
  (settings.value kPasswordKey (.string "")).toString

/-- `setHost`. -/
def setHost (settings : MqSettings) (newValue : QString) : MqSettings :=
  settings.setValue kHostKey (.string newValue)

/-- `setPort`. -/
def setPort (settings : MqSettings) (newValue : UInt16) : MqSettings :=
  settings.setValue kPortKey (.longlong (Int64.ofNat newValue.toNat))

/-- `setVhost`. -/
def setVhost (settings : MqSettings) (newValue : QString) : MqSettings :=
  settings.setValue kVhostKey (.string newValue)

/-- `setUser`. -/
def setUser (settings : MqSettings) (newValue : QString) : MqSettings :=
  settings.setValue kUserKey (.string newValue)

/-- `setPassword`: an empty value leaves the stored password unchanged. -/
def setPassword (settings : MqSettings) (newValue : QString) : MqSettings :=
  if newValue = "" then settings else settings.setValue kPasswordKey (.string newValue)

/-- What is set is what the getters return: every host, port, virtual host and user can be set. -/
theorem getters_of_setters (settings : MqSettings) (host vhost user : QString) (port : UInt16) :
    let set := (((settings.setHost host).setPort port).setVhost vhost).setUser user
    set.host = host ∧ set.port = port.toNat ∧ set.vhost = vhost ∧ set.user = user := by
  have hfits : port.toNat ≤ 65535 := Nat.le_of_lt_succ port.toNat_lt
  have hport : (QVariant.longlong (Int64.ofNat port.toNat)).toUInt = some port.toNat := by
    have hsize : (port.toNat : ℤ).bmod Int64.size = port.toNat :=
      Int.bmod_eq_of_le (by simp [Int64.size]) (by simp [Int64.size]; omega)
    have hlong : (port.toNat : ℤ) % 2 ^ 64 = port.toNat := by omega
    rw [QVariant.toUInt, QVariant.toULongLong, Int64.toInt_ofNat', hsize, hlong,
      Int.toNat_natCast, Option.map_some, Nat.mod_eq_of_lt (by omega)]
  have hkeys : kPortKey ≠ kHostKey ∧ kVhostKey ≠ kHostKey ∧ kUserKey ≠ kHostKey ∧
      kVhostKey ≠ kPortKey ∧ kUserKey ≠ kPortKey ∧ kUserKey ≠ kVhostKey := by decide
  obtain ⟨hhostPort, hhostVhost, hhostUser, hportVhost, hportUser, hvhostUser⟩ := hkeys
  intro set
  simp only [set, MqSettings.host, MqSettings.port, MqSettings.vhost, MqSettings.user, setHost,
    setPort, setVhost, setUser, AppSettings.value_setValue, hhostPort, hhostVhost, hhostUser,
    hportVhost, hportUser, hvhostUser, hport, hfits, if_true, if_false]
  exact ⟨rfl, trivial, rfl, rfl⟩

/-- `connectionDescription`. -/
def connectionDescription (locale : QLocale) (settings : MqSettings) : QString :=
  let description :=
    ((((QString.arg "host=%1,port=%2,vhost=%3,user=%4,password=%5" settings.host).argNumber locale
      settings.port).arg settings.vhost).arg settings.user).arg settings.password
  stripSecret description "password"

/-! ### The format of the password -/

/-- The format once host, port, vhost and user are filled in. -/
def passwordFormat (locale : QLocale) (settings : MqSettings) : List Char :=
  replaceLowest settings.user.toList settings.user.toList
    (replaceLowest settings.vhost.toList settings.vhost.toList
      (replaceLowest settings.port.repr.toList (locale.toString settings.port).toList
        (replaceLowest settings.host.toList settings.host.toList
          "host=%1,port=%2,vhost=%3,user=%4,password=%5".toList)))

/-- The password goes into that format, and the value of its key is cut out. -/
theorem connectionDescription_toList (locale : QLocale) (settings : MqSettings) :
    (settings.connectionDescription locale).toList =
      cut "password=".toList ','
        (fill settings.password.toList (template (settings.passwordFormat locale))) := by
  have hkey : "password" ++ "=" = "password=" := by decide
  rw [connectionDescription, stripSecret_toList, hkey, ← replaceLowest_eq_fill]
  simp only [QString.arg, QString.argNumber, String.toList_ofList]
  rfl

/-- Another password is all that `setPassword` changes. -/
theorem password_setPassword {newValue : QString} (h : newValue ≠ "") (settings : MqSettings) :
    (settings.setPassword newValue).password = newValue := by
  rw [setPassword, if_neg h, password, AppSettings.value_setValue, if_pos rfl]
  rfl

/-- The other settings are kept, and with them the format. -/
theorem passwordFormat_setPassword (locale : QLocale) (settings : MqSettings) (newValue : QString) :
    (settings.setPassword newValue).passwordFormat locale = settings.passwordFormat locale := by
  have hkept : ∀ key fallback, kPasswordKey ≠ key →
      (settings.setPassword newValue).value key fallback = settings.value key fallback := by
    intro key fallback hne
    unfold setPassword
    split_ifs
    · rfl
    · rw [AppSettings.value_setValue, if_neg hne]
  have hhost := hkept kHostKey (.string "localhost") (by decide)
  have hport := hkept kPortKey (.longlong 5672) (by decide)
  have hvhost := hkept kVhostKey (.string "/") (by decide)
  have huser := hkept kUserKey (.string "dev") (by decide)
  unfold passwordFormat host port vhost user
  rw [hhost, hport, hvhost, huser]

/-- The last field keeps its place marker while the others are filled in. -/
theorem passwordFormat_last (locale : QLocale) (settings : MqSettings) :
    ∃ front, settings.passwordFormat locale = front ++ ',' :: "password=%5".toList := by
  have hstart : Plain 'h' := by decide
  have hcomma : Plain ',' := by decide
  -- behind each field only higher markers follow
  have hport : ∀ other ∈ markers (',' :: "port=%2,vhost=%3,user=%4,password=%5".toList),
      1 < other := by decide
  have hvhost : ∀ other ∈ markers (',' :: "vhost=%3,user=%4,password=%5".toList),
      2 < other := by decide
  have huser : ∀ other ∈ markers (',' :: "user=%4,password=%5".toList), 3 < other := by decide
  have hpassword : ∀ other ∈ markers (',' :: "password=%5".toList), 4 < other := by decide
  obtain ⟨front₁, hfirst⟩ := replaceLowest_keeps hstart hcomma
    (by decide : 1 ∈ markers ('h' :: "ost=%1".toList)) hport settings.host.toList
    settings.host.toList []
  obtain ⟨front₂, hsecond⟩ := replaceLowest_keeps hcomma hcomma
    (by decide : 2 ∈ markers (',' :: "port=%2".toList)) hvhost settings.port.repr.toList
    (locale.toString settings.port).toList front₁
  obtain ⟨front₃, hthird⟩ := replaceLowest_keeps hcomma hcomma
    (by decide : 3 ∈ markers (',' :: "vhost=%3".toList)) huser settings.vhost.toList
    settings.vhost.toList front₂
  obtain ⟨front₄, hfourth⟩ := replaceLowest_keeps hcomma hcomma
    (by decide : 4 ∈ markers (',' :: "user=%4".toList)) hpassword settings.user.toList
    settings.user.toList front₃
  have hformat : "host=%1,port=%2,vhost=%3,user=%4,password=%5".toList =
      [] ++ ('h' :: "ost=%1".toList ++ ',' :: "port=%2,vhost=%3,user=%4,password=%5".toList) := by
    decide
  have hafterHost : ',' :: "port=%2,vhost=%3,user=%4,password=%5".toList =
      ',' :: "port=%2".toList ++ ',' :: "vhost=%3,user=%4,password=%5".toList := by decide
  have hafterPort : ',' :: "vhost=%3,user=%4,password=%5".toList =
      ',' :: "vhost=%3".toList ++ ',' :: "user=%4,password=%5".toList := by decide
  have hafterVhost : ',' :: "user=%4,password=%5".toList =
      ',' :: "user=%4".toList ++ ',' :: "password=%5".toList := by decide
  unfold passwordFormat
  rw [hformat, hfirst, hafterHost, hsecond, hafterPort, hthird, hafterVhost, hfourth]
  exact ⟨front₄, rfl⟩

/-- So there is a marker for the password. -/
theorem markers_passwordFormat (locale : QLocale) (settings : MqSettings) :
    markers (settings.passwordFormat locale) ≠ [] := by
  have hcomma : Plain ',' := by decide
  have hmarker : 5 ∈ markers (',' :: "password=%5".toList) := by decide
  obtain ⟨front, hfront⟩ := settings.passwordFormat_last locale
  rw [hfront, markers_append hcomma]
  exact List.ne_nil_of_mem (List.mem_append_right _ hmarker)

/-- All places of the password in the format are behind its key, and before the next comma. -/
def Blanks (locale : QLocale) (settings : MqSettings) : Prop :=
  none ∉ cut ("password=".toList.map some) (some ',') (template (settings.passwordFormat locale))

instance (locale : QLocale) (settings : MqSettings) : Decidable (settings.Blanks locale) :=
  inferInstanceAs (Decidable (_ ∉ _))

/-- **What the description tells about the password.** A password has the description
of every other one without commas exactly when all its places are blanked and it has
no comma either. -/
theorem connectionDescription_hides_iff (locale : QLocale) (settings : MqSettings)
    {secret : QString} (hsecret : secret ≠ "") :
    (∀ other : QString, other ≠ "" → ',' ∉ other.toList →
        (settings.setPassword secret).connectionDescription locale =
          (settings.setPassword other).connectionDescription locale) ↔
      settings.Blanks locale ∧ ',' ∉ secret.toList := by
  have hkey : "password=".toList ≠ [] := by decide
  have hslot := none_mem_template (settings.markers_passwordFormat locale)
  have hfresh : ∃ c, c ∉ "password=".toList ∧ c ≠ ',' := ⟨'x', by decide, by decide⟩
  have hdescription : ∀ newValue : QString, newValue ≠ "" →
      ((settings.setPassword newValue).connectionDescription locale).toList =
        cut "password=".toList ','
          (fill newValue.toList (template (settings.passwordFormat locale))) := by
    intro newValue hnewValue
    rw [connectionDescription_toList, password_setPassword hnewValue, passwordFormat_setPassword]
  unfold Blanks
  rw [← cut_fill_eq_iff hkey hslot hfresh]
  constructor
  · intro hsame text htext hcomma
    have hchars : (String.ofList text).toList = text := String.toList_ofList
    have hother : String.ofList text ≠ "" := by
      simpa [← String.toList_inj] using htext
    have hequal := hsame (String.ofList text) hother (by rwa [hchars])
    rw [← String.toList_inj, hdescription _ hsecret, hdescription _ hother, hchars] at hequal
    exact hequal
  · intro hsame other hother hcomma
    have htext : other.toList ≠ [] := by simpa using hother
    have hequal := hsame other.toList htext hcomma
    rw [← hdescription _ hsecret, ← hdescription _ hother, String.toList_inj] at hequal
    exact hequal

/-- Nothing stored. -/
def unset : MqSettings := ⟨QVariantMap.empty⟩

/-- The default settings tell nothing about a password without commas. -/
theorem unset_hides_secret :
    (unset.setPassword "secret").connectionDescription QLocale.c =
      (unset.setPassword "another").connectionDescription QLocale.c :=
  (connectionDescription_hides_iff QLocale.c unset (by decide)).mpr
    ⟨by decide +kernel, by decide⟩ "another" (by decide) (by decide)

/-- A percent sequence in the virtual host takes the user, and the place of the user the
password: `host=localhost,port=5672,vhost=devF,user=secret1,password=`. -/
theorem slashVhost_shows_password :
    ¬ ∀ (locale : QLocale) (settings : MqSettings) (p₁ p₂ : QString), p₁ ≠ "" → p₂ ≠ "" →
      (settings.setPassword p₁).connectionDescription locale =
        (settings.setPassword p₂).connectionDescription locale := by
  intro hsame
  have hfirst : "secret1" ≠ "" := by decide
  have hsecond : "secret2" ≠ "" := by decide
  have hequal := hsame QLocale.c (unset.setVhost "%2F") "secret1" "secret2" hfirst hsecond
  rw [← String.toList_inj, connectionDescription_toList, connectionDescription_toList,
    password_setPassword hfirst, password_setPassword hsecond, passwordFormat_setPassword,
    passwordFormat_setPassword] at hequal
  revert hequal
  decide +kernel

/-! ### Settings without percent signs -/

/-- A text has no percent sign. -/
def Percentless (text : QString) : Prop := '%' ∉ text.toList

/-- A text holds the key of the password. -/
def HoldsKey (text : QString) : Prop := "password=".toList <:+: text.toList

/-- Numbers are written with digits. -/
theorem isDigit_of_mem_repr {n : ℕ} {c : Char} (h : c ∈ n.repr.toList) : c.isDigit := by
  rw [Nat.toList_repr] at h
  exact Nat.isDigit_of_mem_toDigits (by decide) (by decide) h

/-- Texts without percent signs are filled in one after the other. -/
theorem fill_percentless {host port vhost : List Char} (hhost : '%' ∉ host) (hport : '%' ∉ port)
    (hvhost : '%' ∉ vhost) (localizedPort user : List Char) :
    replaceLowest user user (replaceLowest vhost vhost (replaceLowest port localizedPort
        (replaceLowest host host "host=%1,port=%2,vhost=%3,user=%4,password=%5".toList))) =
      "host=".toList ++ host ++ ",port=".toList ++ port ++ ",vhost=".toList ++ vhost ++
        ",user=".toList ++ user ++ ',' :: "password=%5".toList := by
  have hcomma : Plain ',' := by decide
  have hformat : "host=%1,port=%2,vhost=%3,user=%4,password=%5".toList =
      "host=".toList ++ '%' :: '1' :: ',' :: "port=%2,vhost=%3,user=%4,password=%5".toList := by
    decide
  have hafterHost : ',' :: "port=%2,vhost=%3,user=%4,password=%5".toList =
      ",port=".toList ++ '%' :: '2' :: ',' :: "vhost=%3,user=%4,password=%5".toList := by decide
  have hafterPort : ',' :: "vhost=%3,user=%4,password=%5".toList =
      ",vhost=".toList ++ '%' :: '3' :: ',' :: "user=%4,password=%5".toList := by decide
  have hafterVhost : ',' :: "user=%4,password=%5".toList =
      ",user=".toList ++ '%' :: '4' :: ',' :: "password=%5".toList := by decide
  have hstart : '%' ∉ "host=".toList := by decide
  have hportField : '%' ∉ "host=".toList ++ host ++ ",port=".toList := by simp [hhost]
  have hvhostField : '%' ∉ "host=".toList ++ host ++ ",port=".toList ++ port ++
      ",vhost=".toList := by simp [hhost, hport]
  have huserField : '%' ∉ "host=".toList ++ host ++ ",port=".toList ++ port ++
      ",vhost=".toList ++ vhost ++ ",user=".toList := by simp [hhost, hport, hvhost]
  rw [hformat, replaceLowest_first hstart (by decide : digitValue '1' = some 1) hcomma (by decide),
    ← List.append_assoc, hafterHost, ← List.append_assoc,
    replaceLowest_first hportField (by decide : digitValue '2' = some 2) hcomma (by decide),
    ← List.append_assoc, hafterPort, ← List.append_assoc,
    replaceLowest_first hvhostField (by decide : digitValue '3' = some 3) hcomma (by decide),
    ← List.append_assoc, hafterVhost, ← List.append_assoc,
    replaceLowest_first huserField (by decide : digitValue '4' = some 4) hcomma (by decide),
    ← List.append_assoc]

/-- The key is in a field only if it is in the value. -/
theorem key_in_field {label body : List Char} (hlabel : label = body ++ ['='])
    (hkey : ¬ "password=".toList <:+: label) (value : List Char) :
    "password=".toList <:+: label ++ value ↔ "password=".toList <:+: value := by
  have hbody : "password=".toList = "password".toList ++ ['='] := by decide
  subst hlabel
  rw [hbody] at hkey ⊢
  rw [infix_append_last (by decide), or_iff_right hkey]

/-- Without percent signs, the password is blanked unless another value holds its key. -/
theorem blanks_iff_of_percentless (locale : QLocale) {settings : MqSettings}
    (hhost : Percentless settings.host) (hvhost : Percentless settings.vhost)
    (huser : Percentless settings.user) :
    settings.Blanks locale ↔
      ¬ HoldsKey settings.host ∧ ¬ HoldsKey settings.vhost ∧ ¬ HoldsKey settings.user := by
  unfold Percentless at hhost hvhost huser
  unfold Blanks HoldsKey passwordFormat
  have hport : '%' ∉ settings.port.repr.toList :=
    fun h => absurd (isDigit_of_mem_repr h) (by decide)
  have hportKey : ¬ "password=".toList <:+: settings.port.repr.toList := by
    intro h
    exact absurd (isDigit_of_mem_repr (h.subset (by decide : 'p' ∈ "password=".toList))) (by decide)
  rw [fill_percentless hhost hport hvhost]
  generalize settings.host.toList = host at *
  generalize settings.port.repr.toList = port at *
  generalize settings.vhost.toList = vhost at *
  generalize settings.user.toList = user at *
  have hkey : "password=".toList ≠ [] := by decide
  have hcomma : ',' ∉ "password=".toList := by decide
  have hfields : "host=".toList ++ host ++ ",port=".toList ++ port ++ ",vhost=".toList ++ vhost ++
      ",user=".toList ++ user ++ ',' :: "password=%5".toList =
      ((("host=".toList ++ host) ++ ',' :: (("port=".toList ++ port) ++
        ',' :: (("vhost=".toList ++ vhost) ++ ',' :: ("user=".toList ++ user)))) ++
        ',' :: "password=".toList) ++ ['%', '5'] := by
    simp
  have hfront : '%' ∉ (("host=".toList ++ host) ++ ',' :: (("port=".toList ++ port) ++
      ',' :: (("vhost=".toList ++ vhost) ++ ',' :: ("user=".toList ++ user)))) ++
      ',' :: "password=".toList := by
    simp [hhost, hport, hvhost, huser]
  have hhostField := key_in_field (by decide : "host=".toList = "host".toList ++ ['='])
    (by decide +kernel) host
  have hportField := key_in_field (by decide : "port=".toList = "port".toList ++ ['='])
    (by decide +kernel) port
  have hvhostField := key_in_field (by decide : "vhost=".toList = "vhost".toList ++ ['='])
    (by decide +kernel) vhost
  have huserField := key_in_field (by decide : "user=".toList = "user".toList ++ ['='])
    (by decide +kernel) user
  rw [hfields, template_marker hfront (by decide : digitValue '5' = some 5), List.map_append,
    List.map_cons, List.append_assoc, List.cons_append, slot_hidden_iff hkey hcomma,
    infix_append_separator hkey hcomma, infix_append_separator hkey hcomma,
    infix_append_separator hkey hcomma, hhostField, hportField, hvhostField, huserField,
    or_iff_right hportKey, not_or, not_or]

end MqSettings

end QtAppBase.Mq
