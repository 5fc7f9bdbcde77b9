import QtAppBase.Qt.Values

/-!
# Strings as code units

A `QString` is a sequence of UTF-16 code units, and nothing makes its surrogates
come in pairs. `toUtf8` replaces a surrogate that has no partner by a question
mark, and `fromUtf8` takes U+FEFF in front for a byte order mark and skips it. On
all other strings the conversion to UTF-8 and back is the identity.
-/

namespace QtAppBase.Qt

/-- A `QString`, code unit by code unit. -/
abbrev Units := List UInt16

def isHighSurrogate (u : UInt16) : Bool := 0xD800 ≤ u && u < 0xDC00

def isLowSurrogate (u : UInt16) : Bool := 0xDC00 ≤ u && u < 0xE000

/-- The character of a surrogate pair. -/
def pairChar (high low : UInt16) : Char :=
  Char.ofNat (0x10000 + (high.toNat - 0xD800) * 0x400 + (low.toNat - 0xDC00))

/-- The character of a code unit that is not half of a pair. -/
def unitChar (u : UInt16) : Char :=
  if isHighSurrogate u || isLowSurrogate u then '?' else Char.ofNat u.toNat

/-- `QString::toUtf8`, as the characters it encodes. -/
def utf8Chars : Units → List Char
  | [] => []
  | [u] => [unitChar u]
  | u :: v :: rest =>
    if isHighSurrogate u && isLowSurrogate v then pairChar u v :: utf8Chars rest
    else unitChar u :: utf8Chars (v :: rest)

/-- `QString::toUtf8`. -/
def toUtf8 (s : Units) : QString := String.ofList (utf8Chars s)

/-- `QString::fromUtf8` of an encoded text: a byte order mark in front of it is skipped. -/
def fromUtf8 (encoded : QString) : QString :=
  match encoded.toList with
  | [] => encoded
  | c :: rest => if c.toNat = 0xFEFF then String.ofList rest else encoded

/-- Every surrogate has its partner. -/
def Paired : Units → Prop
  | [] => True
  | [u] => isHighSurrogate u = false ∧ isLowSurrogate u = false
  | u :: v :: rest =>
    if isHighSurrogate u && isLowSurrogate v then Paired rest
    else (isHighSurrogate u = false ∧ isLowSurrogate u = false) ∧ Paired (v :: rest)

instance decidablePaired : ∀ s, Decidable (Paired s)
  | [] => isTrue trivial
  | [_] => inferInstanceAs (Decidable (_ ∧ _))
  | u :: v :: rest =>
    have := decidablePaired rest
    have := decidablePaired (v :: rest)
    inferInstanceAs (Decidable (if isHighSurrogate u && isLowSurrogate v then Paired rest
      else (isHighSurrogate u = false ∧ isLowSurrogate u = false) ∧ Paired (v :: rest)))

variable {s rest : Units} {u v : UInt16} {c : Char}

theorem isHighSurrogate_iff : isHighSurrogate u = true ↔ 0xD800 ≤ u.toNat ∧ u.toNat < 0xDC00 := by
  simp [isHighSurrogate, UInt16.le_iff_toNat_le, UInt16.lt_iff_toNat_lt]

theorem isLowSurrogate_iff : isLowSurrogate u = true ↔ 0xDC00 ≤ u.toNat ∧ u.toNat < 0xE000 := by
  simp [isLowSurrogate, UInt16.le_iff_toNat_le, UInt16.lt_iff_toNat_lt]

/-- A number below the surrogates or above them is a character. -/
theorem toNat_ofNat_valid {n : ℕ} (h : n < 0xD800 ∨ 0xDFFF < n ∧ n < 0x110000) :
    (Char.ofNat n).toNat = n := by
  have hvalid : n.isValidChar := h
  rw [Char.ofNat, dif_pos hvalid]
  rfl

/-- A code unit is a surrogate or stands for itself. -/
theorem unitChar_toNat (hhigh : isHighSurrogate u = false) (hlow : isLowSurrogate u = false) :
    (unitChar u).toNat = u.toNat := by
  have hlt := u.toNat_lt
  have hnhigh : ¬ (0xD800 ≤ u.toNat ∧ u.toNat < 0xDC00) := by
    rw [← isHighSurrogate_iff, hhigh]
    exact Bool.false_ne_true
  have hnlow : ¬ (0xDC00 ≤ u.toNat ∧ u.toNat < 0xE000) := by
    rw [← isLowSurrogate_iff, hlow]
    exact Bool.false_ne_true
  have hchar : unitChar u = Char.ofNat u.toNat := by
    rw [unitChar, hhigh, hlow]
    rfl
  rw [hchar]
  exact toNat_ofNat_valid (by omega)

/-- A code unit that is no surrogate is encoded alone. -/
theorem utf16Units_unitChar (hhigh : isHighSurrogate u = false) (hlow : isLowSurrogate u = false) :
    utf16Units (unitChar u) = [u] := by
  have hlt := u.toNat_lt
  rw [utf16Units, unitChar_toNat hhigh hlow, if_pos (by omega), UInt16.ofNat_toNat]

/-- A pair is encoded as itself. -/
theorem utf16Units_pairChar (hhigh : isHighSurrogate u = true) (hlow : isLowSurrogate v = true) :
    utf16Units (pairChar u v) = [u, v] := by
  obtain ⟨hu, hu'⟩ := isHighSurrogate_iff.mp hhigh
  obtain ⟨hv, hv'⟩ := isLowSurrogate_iff.mp hlow
  have hnat : (pairChar u v).toNat =
      0x10000 + (u.toNat - 0xD800) * 0x400 + (v.toNat - 0xDC00) := toNat_ofNat_valid (by omega)
  rw [utf16Units, hnat, if_neg (by omega)]
  dsimp only
  have hfirst : 0xD800 + (0x10000 + (u.toNat - 0xD800) * 0x400 + (v.toNat - 0xDC00) - 0x10000) /
      0x400 = u.toNat := by omega
  have hsecond : 0xDC00 + (0x10000 + (u.toNat - 0xD800) * 0x400 + (v.toNat - 0xDC00) - 0x10000) %
      0x400 = v.toNat := by omega
  rw [hfirst, hsecond, UInt16.ofNat_toNat, UInt16.ofNat_toNat]

/-- The replacement of a surrogate is encoded as something else. -/
theorem utf16Units_replaced (h : isHighSurrogate u = true ∨ isLowSurrogate u = true) :
    utf16Units (unitChar u) = [63] ∧ u ≠ 63 := by
  have hchar : unitChar u = '?' := by
    rw [unitChar, if_pos (by simpa using h)]
  have hne : u ≠ 63 := by
    rintro rfl
    exact absurd h (by decide)
  exact ⟨by rw [hchar]; decide, hne⟩

/-- **Paired strings survive the conversion, and only they do.** -/
theorem utf16_utf8Chars_iff : (utf8Chars s).flatMap utf16Units = s ↔ Paired s := by
  fun_induction utf8Chars s with
  | case1 => simp [Paired]
  | case2 u =>
    rw [Paired, List.flatMap_singleton]
    constructor
    · intro h
      by_contra hnot
      have hsurrogate : isHighSurrogate u = true ∨ isLowSurrogate u = true := by
        cases hu : isHighSurrogate u <;> cases hl : isLowSurrogate u <;> simp_all
      obtain ⟨hunits, hne⟩ := utf16Units_replaced hsurrogate
      rw [hunits] at h
      exact hne (List.head_eq_of_cons_eq h).symm
    · rintro ⟨hhigh, hlow⟩
      exact utf16Units_unitChar hhigh hlow
  | case3 u v rest hpair ih =>
    obtain ⟨hhigh, hlow⟩ := (Bool.and_eq_true _ _).mp hpair
    rw [Paired, if_pos hpair, ← ih, List.flatMap_cons, utf16Units_pairChar hhigh hlow]
    simp
  | case4 u v rest hpair ih =>
    rw [Paired, if_neg hpair, ← ih, List.flatMap_cons]
    constructor
    · intro h
      by_cases hsurrogate : isHighSurrogate u = true ∨ isLowSurrogate u = true
      · obtain ⟨hunits, hne⟩ := utf16Units_replaced hsurrogate
        rw [hunits] at h
        exact absurd (List.head_eq_of_cons_eq h).symm hne
      · obtain ⟨hhigh, hlow⟩ : isHighSurrogate u = false ∧ isLowSurrogate u = false := by
          simpa using hsurrogate
        rw [utf16Units_unitChar hhigh hlow] at h
        exact ⟨⟨hhigh, hlow⟩, (List.cons.inj h).2⟩
    · rintro ⟨⟨hhigh, hlow⟩, hrest⟩
      rw [utf16Units_unitChar hhigh hlow, hrest]
      rfl

/-- A code unit that is no surrogate is converted alone. -/
theorem utf8Chars_cons (hhigh : isHighSurrogate u = false) :
    utf8Chars (u :: rest) = unitChar u :: utf8Chars rest := by
  cases rest with
  | nil => rfl
  | cons v rest => rw [utf8Chars, hhigh, Bool.false_and, if_neg Bool.false_ne_true]

/-- At the end, a code unit that is no low surrogate is converted alone. -/
theorem utf8Chars_append_singleton (hlow : isLowSurrogate u = false) :
    utf8Chars (s ++ [u]) = utf8Chars s ++ [unitChar u] := by
  fun_induction utf8Chars s with
  | case1 => rfl
  | case2 v =>
    rw [List.singleton_append, utf8Chars, hlow, Bool.and_false, if_neg Bool.false_ne_true]
    rfl
  | case3 u' v rest hpair ih =>
    rw [List.cons_append, List.cons_append, utf8Chars, if_pos hpair, ih, List.cons_append]
  | case4 u' v rest hpair ih =>
    rw [List.cons_append, List.cons_append, utf8Chars, if_neg hpair, ← List.cons_append, ih,
      List.cons_append]

/-- Only the empty string is converted to the empty text. -/
theorem toUtf8_isEmpty : (toUtf8 s).isEmpty = s.isEmpty := by
  rw [Bool.eq_iff_iff, String.isEmpty_iff, List.isEmpty_iff, toUtf8, String.ofList_eq_empty_iff]
  fun_cases utf8Chars s <;> simp

/-- The code units of a character are converted back to it. -/
theorem utf8Chars_utf16Units (c : Char) (rest : Units) :
    utf8Chars (utf16Units c ++ rest) = c :: utf8Chars rest := by
  have hvalid : c.toNat < 0xD800 ∨ 0xDFFF < c.toNat ∧ c.toNat < 0x110000 := c.valid
  by_cases hsmall : c.toNat < 0x10000
  · have hnat : (UInt16.ofNat c.toNat).toNat = c.toNat := UInt16.toNat_ofNat_of_lt' hsmall
    have hhigh : isHighSurrogate (UInt16.ofNat c.toNat) = false := by
      rw [← Bool.not_eq_true, isHighSurrogate_iff, hnat]
      omega
    have hlow : isLowSurrogate (UInt16.ofNat c.toNat) = false := by
      rw [← Bool.not_eq_true, isLowSurrogate_iff, hnat]
      omega
    rw [utf16Units, if_pos hsmall, List.singleton_append, utf8Chars_cons hhigh]
    exact congrArg (· :: utf8Chars rest)
      (Char.toNat_inj.mp ((unitChar_toNat hhigh hlow).trans hnat))
  · have hfirst : (UInt16.ofNat (0xD800 + (c.toNat - 0x10000) / 0x400)).toNat =
        0xD800 + (c.toNat - 0x10000) / 0x400 :=
      UInt16.toNat_ofNat_of_lt' (by rw [UInt16.size]; omega)
    have hsecond : (UInt16.ofNat (0xDC00 + (c.toNat - 0x10000) % 0x400)).toNat =
        0xDC00 + (c.toNat - 0x10000) % 0x400 :=
      UInt16.toNat_ofNat_of_lt' (by rw [UInt16.size]; omega)
    have hhigh := isHighSurrogate_iff.mpr
      (show 0xD800 ≤ (UInt16.ofNat (0xD800 + (c.toNat - 0x10000) / 0x400)).toNat ∧ _ < 0xDC00 by
        rw [hfirst]; omega)
    have hlow := isLowSurrogate_iff.mpr
      (show 0xDC00 ≤ (UInt16.ofNat (0xDC00 + (c.toNat - 0x10000) % 0x400)).toNat ∧ _ < 0xE000 by
        rw [hsecond]; omega)
    rw [utf16Units, if_neg hsmall]
    dsimp only
    rw [List.cons_append, List.singleton_append, utf8Chars, hhigh, hlow, Bool.true_and, if_pos rfl,
      pairChar, hfirst, hsecond]
    refine congrArg (· :: utf8Chars rest) (Char.toNat_inj.mp ?_)
    rw [toNat_ofNat_valid (by omega)]
    omega

/-- The code unit of a character below the surrogates stands for nothing else. -/
theorem mem_utf16_iff (hc : c.toNat < 0xD800) {text : QString} :
    UInt16.ofNat c.toNat ∈ utf16 text ↔ c ∈ text.toList := by
  have hnat : (UInt16.ofNat c.toNat).toNat = c.toNat :=
    UInt16.toNat_ofNat_of_lt' (by rw [UInt16.size]; omega)
  rw [utf16, List.mem_flatMap]
  constructor
  · rintro ⟨d, hd, hunit⟩
    have hsame : c = d := by
      apply Char.toNat_inj.mp
      have hvalid : d.toNat < 0xD800 ∨ 0xDFFF < d.toNat ∧ d.toNat < 0x110000 := d.valid
      unfold utf16Units at hunit
      split_ifs at hunit with hsmall
      · have hunits := congrArg UInt16.toNat (List.mem_singleton.mp hunit)
        rwa [hnat, UInt16.toNat_ofNat_of_lt' hsmall] at hunits
      · simp only [List.mem_cons, List.not_mem_nil, or_false, ← UInt16.toNat_inj, hnat,
          UInt16.toNat_ofNat'] at hunit
        omega
    rwa [hsame]
  · intro hmem
    refine ⟨c, hmem, ?_⟩
    rw [utf16Units, if_pos (by omega)]
    exact List.mem_singleton_self _

/-- The conversion keeps the number of code units. -/
theorem length_utf16_toUtf8 : (utf16 (toUtf8 s)).length = s.length := by
  have hunit : ∀ u : UInt16, (utf16Units (unitChar u)).length = 1 := by
    intro u
    by_cases hsurrogate : isHighSurrogate u = true ∨ isLowSurrogate u = true
    · rw [(utf16Units_replaced hsurrogate).1]
      rfl
    · obtain ⟨hhigh, hlow⟩ : isHighSurrogate u = false ∧ isLowSurrogate u = false := by
        simpa using hsurrogate
      rw [utf16Units_unitChar hhigh hlow]
      rfl
  rw [utf16, toUtf8, String.toList_ofList]
  fun_induction utf8Chars s with
  | case1 => rfl
  | case2 u => rw [List.flatMap_singleton, hunit]; rfl
  | case3 u v rest hpair ih =>
    obtain ⟨hhigh, hlow⟩ := (Bool.and_eq_true _ _).mp hpair
    rw [List.flatMap_cons, utf16Units_pairChar hhigh hlow, List.length_append, ih]
    simp only [List.length_cons, List.length_nil]
    omega
  | case4 u v rest hpair ih =>
    rw [List.flatMap_cons, List.length_append, hunit, ih]
    simp only [List.length_cons]
    omega

/-- **Text survives the conversion from code units.** -/
theorem toUtf8_utf16 (text : QString) : toUtf8 (utf16 text) = text := by
  have hchars : ∀ chars : List Char, utf8Chars (chars.flatMap utf16Units) = chars := by
    intro chars
    induction chars with
    | nil => rfl
    | cons c chars ih => rw [List.flatMap_cons, utf8Chars_utf16Units, ih]
  rw [toUtf8, utf16, hchars, String.ofList_toList]

/-- The conversion is undone on paired strings, and only there. -/
theorem utf16_toUtf8_iff : utf16 (toUtf8 s) = s ↔ Paired s := by
  rw [utf16, toUtf8, String.toList_ofList]
  exact utf16_utf8Chars_iff

/-- Only U+FEFF is encoded with this code unit in front. -/
theorem head_utf16Units (c : Char) (rest : Units) :
    (utf16Units c ++ rest).head? = some 0xFEFF ↔ c.toNat = 0xFEFF := by
  have hvalid : c.toNat < 0xD800 ∨ 0xDFFF < c.toNat ∧ c.toNat < 0x110000 := c.valid
  unfold utf16Units
  split_ifs with hsmall
  · rw [List.singleton_append, List.head?_cons, Option.some.injEq, ← UInt16.toNat_inj,
      UInt16.toNat_ofNat_of_lt' hsmall]
    rfl
  · dsimp only
    rw [List.cons_append, List.head?_cons, Option.some.injEq, ← UInt16.toNat_inj,
      UInt16.toNat_ofNat']
    refine iff_of_false (fun hunit => ?_) (by omega)
    have hunit : (0xD800 + (c.toNat - 0x10000) / 0x400) % 2 ^ 16 = 0xFEFF := hunit
    omega

/-- A text without a byte order mark in front is read as it is. -/
theorem fromUtf8_eq_self_iff {text : QString} :
    fromUtf8 text = text ↔ (utf16 text).head? ≠ some 0xFEFF := by
  unfold fromUtf8 utf16
  split
  · next hnil =>
    rw [hnil]
    exact iff_of_true rfl nofun
  · next c rest hcons =>
    rw [hcons, List.flatMap_cons, Ne, head_utf16Units]
    split_ifs with hmark
    · refine iff_of_false (fun h => ?_) (not_not.mpr hmark)
      have hlength := congrArg (fun text : QString => text.toList.length) h
      simp [hcons] at hlength
    · exact iff_of_true rfl hmark

/-- A byte order mark is missing from what is read. -/
theorem length_utf16_fromUtf8_lt {text : QString} (h : fromUtf8 text ≠ text) :
    (utf16 (fromUtf8 text)).length < (utf16 text).length := by
  unfold fromUtf8 at h ⊢
  split at h
  · exact absurd rfl h
  · next c rest hcons =>
    split_ifs at h with hmark
    · rw [if_pos hmark, utf16, utf16, hcons, String.toList_ofList, List.flatMap_cons,
        List.length_append, utf16Units, if_pos (by omega), List.length_singleton]
      omega
    · exact absurd rfl h

end QtAppBase.Qt
