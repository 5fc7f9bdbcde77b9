import QtAppBase.Qt.Text

/-!
# Application settings

Stored values by key, and `stripSecret`, which blanks the value of a key in a text of
the form `key=value,key=value`.
-/

namespace QtAppBase.Infra

open Library Qt

/-- `AppSettings`: what `QSettings` holds for the application. -/
structure AppSettings where
  stored : QVariantMap

namespace AppSettings

/-- `value`. -/
def value (settings : AppSettings) (key : QString) (fallback : QVariant) : QVariant :=
  (settings.stored.find? key).getD fallback

/-- `setValue`. -/
def setValue (settings : AppSettings) (key : QString) (newValue : QVariant) : AppSettings :=
  ⟨settings.stored.insert key newValue⟩

/-- A stored key has the new value, and the others keep theirs. -/
theorem value_setValue (settings : AppSettings) (key : QString) (newValue : QVariant)
    (name : QString) (fallback : QVariant) :
    (settings.setValue key newValue).value name fallback =
      if key = name then newValue else settings.value name fallback := by
  unfold value setValue
  rw [QVariantMap.find?_insert]
  split_ifs <;> rfl

end AppSettings

/-- `stripSecret`. -/
def stripSecret (text secretKey : QString) : QString :=
  let needle := secretKey ++ "="
  match text.indexOf needle 0 with
  | none => text
  | some keyIndex =>
    let valueStart := keyIndex + needle.length
    match text.indexOf "," valueStart with
    | none => text.left valueStart
    | some valueEnd => text.left valueStart ++ text.mid valueEnd

/-- The value behind the first occurrence of the key is cut out, up to the next comma. -/
theorem stripSecret_toList (text secretKey : QString) :
    (stripSecret text secretKey).toList = cut (secretKey ++ "=").toList ',' text.toList := by
  have hkey : (secretKey ++ "=").toList ≠ [] := by simp
  have hcomma : (",".toList : List Char) = [','] := by decide
  rw [cut_eq_firstIndex hkey]
  unfold stripSecret QString.indexOf QString.left QString.mid
  simp only [List.drop_zero, Nat.add_zero, Option.map_id']
  cases firstIndex (secretKey ++ "=").toList text.toList with
  | none => rfl
  | some keyIndex =>
    have hlength : (secretKey ++ "=").length = (secretKey ++ "=").toList.length :=
      String.length_toList.symm
    dsimp only
    rw [dropWhile_eq_firstIndex, hlength, hcomma]
    cases firstIndex [','] (text.toList.drop (keyIndex + (secretKey ++ "=").toList.length)) with
    | none => simp
    | some index => simp [List.drop_drop, Nat.add_comm]

end QtAppBase.Infra
