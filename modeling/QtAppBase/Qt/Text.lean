import QtAppBase.Qt.Values
import QtAppBase.Library.FixedWidth
import QtAppBase.Library.Redaction
import Mathlib.Data.List.MinMax

/-!
# Texts and place markers

`QString` as far as texts are searched, cut and filled in. Positions count
characters. `QString::arg` looks for place markers, a percent sign with one or two
digits and possibly an `L` between, and replaces all those with the lowest number;
what it has replaced is part of the text that the next call searches.
-/

namespace QtAppBase.Qt

open Library

/-- The first position of a text in another. -/
def firstIndex (needle : List Char) : List Char → Option ℕ
  | [] => if needle = [] then some 0 else none
  | c :: rest => if needle <+: c :: rest then some 0 else (firstIndex needle rest).map (· + 1)

/-- The value of a decimal digit. -/
def digitValue (c : Char) : Option ℕ :=
  if '0' ≤ c ∧ c ≤ '9' then some (c.toNat - '0'.toNat) else none

/-- A part of a format: a character, or a place marker with the characters it is made of. -/
inductive FormatToken where
  | character (c : Char)
  | marker (number : ℕ) (localized : Bool) (source : List Char)
  deriving DecidableEq, Repr

namespace FormatToken

/-- The characters of the format. -/
def source : FormatToken → List Char
  | .character c => [c]
  | .marker _ _ source => source

/-- The number of a marker. -/
def number? : FormatToken → Option ℕ
  | .character _ => none
  | .marker number _ _ => some number

end FormatToken

/-- How much of a marker has been seen. -/
inductive Scanning where
  | nothing
  | percent
  | percentL
  | digit (localized : Bool) (value : ℕ) (source : List Char)
  deriving DecidableEq, Repr

namespace Scanning

/-- What was seen, if the text ends here. -/
def flush : Scanning → List FormatToken
  | .nothing => []
  | .percent => [.character '%']
  | .percentL => [.character '%', .character 'L']
  | .digit localized value source => [.marker value localized source]

/-- A character that continues no marker. -/
def restart (seen : Scanning) (c : Char) : List FormatToken × Scanning :=
  if c = '%' then (seen.flush, .percent) else (seen.flush ++ [.character c], .nothing)

/-- The next character. -/
def next (seen : Scanning) (c : Char) : List FormatToken × Scanning :=
  match seen, digitValue c with
  | .nothing, _ => seen.restart c
  | .percent, some value => ([], .digit false value ['%', c])
  | .percent, none => if c = 'L' then ([], .percentL) else seen.restart c
  | .percentL, some value => ([], .digit true value ['%', 'L', c])
  | .percentL, none => seen.restart c
  | .digit localized value source, some unit =>
    ([.marker (10 * value + unit) localized (source ++ [c])], .nothing)
  | .digit .., none => seen.restart c

end Scanning

/-- The tokens of a format. -/
def scan : Scanning → List Char → List FormatToken
  | seen, [] => seen.flush
  | seen, c :: rest => (seen.next c).1 ++ scan (seen.next c).2 rest

/-- The numbers of the markers in a format. -/
def markers (text : List Char) : List ℕ := (scan .nothing text).filterMap FormatToken.number?

/-- What becomes of a token when the markers with a number are replaced. -/
def FormatToken.replaced (number : ℕ) (a localizedA : List Char) : FormatToken → List Char
  | .character c => [c]
  | .marker other localized source =>
    if other = number then (if localized then localizedA else a) else source

/-- The lowest number is replaced. -/
def replaceLowest (a localizedA text : List Char) : List Char :=
  match (markers text).min? with
  | none => text
  | some number => (scan .nothing text).flatMap (FormatToken.replaced number a localizedA)

/-- How the default locale writes numbers. -/
structure QLocale where
  toString : ℕ → QString

/-- Plain decimal digits. -/
def QLocale.c : QLocale := ⟨fun n => n.repr⟩

namespace QString

/-- `indexOf`, from a position on. -/
def indexOf (text needle : QString) (start : ℕ) : Option ℕ :=
  (firstIndex needle.toList (text.toList.drop start)).map (· + start)

/-- `left`. -/
def left (text : QString) (n : ℕ) : QString := String.ofList (text.toList.take n)

/-- `mid`, up to the end. -/
def mid (text : QString) (position : ℕ) : QString := String.ofList (text.toList.drop position)

/-- `arg` with a text. -/
def arg (format a : QString) : QString :=
  String.ofList (replaceLowest a.toList a.toList format.toList)

/-- `arg` with an unsigned number; the locale matters for markers with an `L`. -/
def argNumber (format : QString) (locale : QLocale) (a : ℕ) : QString :=
  String.ofList (replaceLowest a.repr.toList (locale.toString a).toList format.toList)

/-- `arg` with a number that is not negative, a field width, base ten and zeros as fill. -/
def argZeroPadded (format : QString) (a fieldWidth : ℕ) : QString :=
  arg format (String.ofList (zeroPadded fieldWidth a))

end QString

/-! ### Searching -/

/-- A text is cut where its key is found first. -/
theorem cut_eq_firstIndex {key : List Char} (hkey : key ≠ []) (separator : Char)
    (text : List Char) :
    cut key separator text =
      match firstIndex key text with
      | none => text
      | some index => text.take (index + key.length) ++
          (text.drop (index + key.length)).dropWhile (· ≠ separator) := by
  induction text with
  | nil => simp [cut, firstIndex, hkey]
  | cons c rest ih =>
    by_cases hstart : key <+: c :: rest
    · have htake : (c :: rest).take key.length = key := (List.prefix_iff_eq_take.mp hstart).symm
      rw [cut_at_key hkey hstart, firstIndex, if_pos hstart]
      dsimp only
      rw [Nat.zero_add, htake]
    · rw [cut_cons hstart, ih, firstIndex, if_neg hstart]
      cases firstIndex key rest with
      | none => rfl
      | some index =>
        have hindex : index + 1 + key.length = index + key.length + 1 := by omega
        simp [hindex]

/-- Skipping to a separator. -/
theorem dropWhile_eq_firstIndex (separator : Char) (text : List Char) :
    text.dropWhile (· ≠ separator) =
      match firstIndex [separator] text with
      | none => []
      | some index => text.drop index := by
  induction text with
  | nil => rfl
  | cons c rest ih =>
    by_cases hc : c = separator
    · simp [firstIndex, hc, List.cons_prefix_cons]
    · have hstart : ¬ [separator] <+: c :: rest := by
        simpa [List.cons_prefix_cons] using Ne.symm hc
      rw [List.dropWhile_cons_of_pos (by simpa using hc), ih, firstIndex, if_neg hstart]
      cases firstIndex [separator] rest <;> rfl

/-! ### Scanning -/

/-- A character that is part of no marker. -/
def Plain (c : Char) : Prop := c ≠ '%' ∧ c ≠ 'L' ∧ digitValue c = none

instance (c : Char) : Decidable (Plain c) := inferInstanceAs (Decidable (_ ∧ _ ∧ _))

/-- Such a character ends what was seen before it. -/
theorem next_plain {c : Char} (h : Plain c) (seen : Scanning) :
    seen.next c = (seen.flush ++ [.character c], .nothing) := by
  obtain ⟨hpercent, hL, hdigit⟩ := h
  unfold Scanning.next
  rw [hdigit]
  cases seen <;> simp [Scanning.restart, hpercent, hL]

/-- So a format can be scanned in two parts there. -/
theorem scan_append {c : Char} (h : Plain c) (seen : Scanning) (front rest : List Char) :
    scan seen (front ++ c :: rest) = scan seen front ++ scan .nothing (c :: rest) := by
  induction front generalizing seen with
  | nil => simp [scan, next_plain h, Scanning.flush]
  | cons d front ih => rw [List.cons_append, scan, scan, ih, List.append_assoc]

theorem markers_append {c : Char} (h : Plain c) (front rest : List Char) :
    markers (front ++ c :: rest) = markers front ++ markers (c :: rest) := by
  rw [markers, scan_append h, List.filterMap_append]
  rfl

/-- What was seen of a marker. -/
def Scanning.source : Scanning → List Char
  | .nothing => []
  | .percent => ['%']
  | .percentL => ['%', 'L']
  | .digit _ _ source => source

theorem flush_source (seen : Scanning) : seen.flush.flatMap FormatToken.source = seen.source := by
  cases seen <;> simp [Scanning.flush, Scanning.source, FormatToken.source]

/-- A step takes one character. -/
theorem next_source (seen : Scanning) (c : Char) :
    (seen.next c).1.flatMap FormatToken.source ++ (seen.next c).2.source = seen.source ++ [c] := by
  have hrestart : (seen.restart c).1.flatMap FormatToken.source ++ (seen.restart c).2.source =
      seen.source ++ [c] := by
    unfold Scanning.restart
    split_ifs with hpercent
    · subst hpercent
      rw [flush_source]
      rfl
    · rw [List.flatMap_append, flush_source]
      simp [FormatToken.source, Scanning.source]
  unfold Scanning.next
  split
  · exact hrestart
  · rfl
  · split_ifs with hL
    · subst hL
      rfl
    · exact hrestart
  · rfl
  · exact hrestart
  · simp [FormatToken.source, Scanning.source]
  · exact hrestart

/-- The tokens are made of the characters of the format. -/
theorem scan_source (seen : Scanning) (text : List Char) :
    (scan seen text).flatMap FormatToken.source = seen.source ++ text := by
  induction text generalizing seen with
  | nil => rw [scan, flush_source, List.append_nil]
  | cons c rest ih =>
    rw [scan, List.flatMap_append, ih, ← List.append_assoc, next_source, List.append_assoc]
    rfl

/-! ### Replacing -/

/-- A number that does not occur replaces nothing. -/
theorem replaced_eq_source {number : ℕ} (a localizedA : List Char) {tokens : List FormatToken}
    (h : ∀ other ∈ tokens.filterMap FormatToken.number?, other ≠ number) :
    tokens.flatMap (FormatToken.replaced number a localizedA) =
      tokens.flatMap FormatToken.source := by
  induction tokens with
  | nil => rfl
  | cons token rest ih =>
    have hrest : ∀ other ∈ rest.filterMap FormatToken.number?, other ≠ number := by
      intro other hother
      apply h
      cases token with
      | character c => exact hother
      | marker _ _ _ => exact List.mem_cons_of_mem _ hother
    rw [List.flatMap_cons, List.flatMap_cons, ih hrest]
    cases token with
    | character c => rfl
    | marker other localized source =>
      have hne : other ≠ number := h other List.mem_cons_self
      simp [FormatToken.replaced, FormatToken.source, hne]

/-- While a field of a format has its marker, what stands behind the field and has
higher numbers is kept. -/
theorem replaceLowest_keeps {c d : Char} (hc : Plain c) (hd : Plain d) {number : ℕ}
    {field rest : List Char} (hmarker : number ∈ markers (c :: field))
    (hlater : ∀ other ∈ markers (d :: rest), number < other) (a localizedA front : List Char) :
    ∃ front', replaceLowest a localizedA (front ++ ((c :: field) ++ d :: rest)) =
      front' ++ d :: rest := by
  rw [← List.append_assoc]
  have hsplit : markers (front ++ (c :: field) ++ d :: rest) =
      markers front ++ markers (c :: field) ++ markers (d :: rest) := by
    rw [markers_append hd, markers_append hc]
  have hmem : number ∈ markers (front ++ (c :: field) ++ d :: rest) := by
    rw [hsplit]
    exact List.mem_append_left _ (List.mem_append_right _ hmarker)
  obtain ⟨lowest, hlowest⟩ : ∃ lowest, (markers (front ++ (c :: field) ++ d :: rest)).min? =
      some lowest := by
    rw [← Option.ne_none_iff_exists']
    intro hnone
    rw [List.min?_eq_none_iff.mp hnone] at hmem
    cases hmem
  have hle : lowest ≤ number := (List.min?_eq_some_iff.mp hlowest).2 number hmem
  have hkept : (scan .nothing (d :: rest)).flatMap (FormatToken.replaced lowest a localizedA) =
      d :: rest := by
    rw [replaced_eq_source, scan_source]
    · rfl
    · intro other hother
      have hlt := hlater other hother
      omega
  unfold replaceLowest
  rw [hlowest]
  dsimp only
  rw [scan_append hd, List.flatMap_append, hkept]
  exact ⟨_, rfl⟩

/-- A text without percent signs has no markers, and none starts in it. -/
theorem scan_of_no_percent {text : List Char} (h : '%' ∉ text) (rest : List Char) :
    scan .nothing (text ++ rest) = text.map .character ++ scan .nothing rest := by
  induction text with
  | nil => rfl
  | cons c text ih =>
    obtain ⟨hc, htext⟩ := not_or.mp (mt List.mem_cons.mpr h)
    have hnext : Scanning.nothing.next c = ([.character c], .nothing) := if_neg (Ne.symm hc)
    rw [List.cons_append, scan, hnext, ih htext]
    rfl

/-- Behind such a text, a marker with one digit is followed by what comes next. -/
theorem scan_marker {text : List Char} (h : '%' ∉ text) {digit : Char} {number : ℕ}
    (hdigit : digitValue digit = some number) {rest : List Char}
    (hrest : ∀ c ∈ rest.head?, Plain c) :
    scan .nothing (text ++ '%' :: digit :: rest) =
      text.map .character ++ .marker number false ['%', digit] :: scan .nothing rest := by
  have hpercent : Scanning.nothing.next '%' = ([], .percent) := rfl
  have hmarker : Scanning.percent.next digit = ([], .digit false number ['%', digit]) := by
    unfold Scanning.next
    rw [hdigit]
  have hflush : scan (.digit false number ['%', digit]) rest =
      .marker number false ['%', digit] :: scan .nothing rest := by
    cases rest with
    | nil => rfl
    | cons c rest => exact scan_append (hrest c rfl) _ [] rest
  rw [scan_of_no_percent h, scan, hpercent, scan, hmarker, hflush]
  rfl

/-- The characters before a marker are kept. -/
theorem flatMap_replaced_characters (number : ℕ) (a localizedA text : List Char) :
    (text.map FormatToken.character).flatMap (FormatToken.replaced number a localizedA) = text := by
  induction text with
  | nil => rfl
  | cons c rest ih =>
    rw [List.map_cons, List.flatMap_cons, ih]
    rfl

/-- The first marker is replaced, if all others have higher numbers. -/
theorem replaceLowest_first {text : List Char} (h : '%' ∉ text) {digit c : Char} {number : ℕ}
    (hdigit : digitValue digit = some number) (hc : Plain c) {rest : List Char}
    (hlater : ∀ other ∈ markers (c :: rest), number < other) (a localizedA : List Char) :
    replaceLowest a localizedA (text ++ '%' :: digit :: c :: rest) = text ++ (a ++ c :: rest) := by
  have hrest : ∀ d ∈ (c :: rest).head?, Plain d := by
    rintro d ⟨⟩
    exact hc
  have hcharacters : (text.map FormatToken.character).filterMap FormatToken.number? = [] := by
    simp [FormatToken.number?]
  have hmarkers : markers (text ++ '%' :: digit :: c :: rest) = number :: markers (c :: rest) := by
    rw [markers, scan_marker h hdigit hrest, List.filterMap_append, hcharacters]
    rfl
  have hlowest : (markers (text ++ '%' :: digit :: c :: rest)).min? = some number := by
    rw [hmarkers, List.min?_eq_some_iff]
    refine ⟨List.mem_cons_self, fun other hother => ?_⟩
    rcases List.mem_cons.mp hother with rfl | hother
    · exact Nat.le_refl _
    · exact Nat.le_of_lt (hlater other hother)
  have hkept : (scan .nothing (c :: rest)).flatMap (FormatToken.replaced number a localizedA) =
      c :: rest := by
    rw [replaced_eq_source, scan_source]
    · rfl
    · intro other hother
      exact Nat.ne_of_gt (hlater other hother)
  unfold replaceLowest
  rw [hlowest]
  dsimp only
  rw [scan_marker h hdigit hrest, List.flatMap_append, flatMap_replaced_characters,
    List.flatMap_cons, hkept]
  simp [FormatToken.replaced]

/-- The format as a template, with a slot for every marker that is replaced. -/
def template (text : List Char) : List (Option Char) :=
  match (markers text).min? with
  | none => text.map some
  | some number => (scan .nothing text).flatMap fun
    | .character c => [some c]
    | .marker other _ source => if other = number then [none] else source.map some

/-- A text is filled into the template. -/
theorem replaceLowest_eq_fill (a text : List Char) :
    replaceLowest a a text = fill a (template text) := by
  unfold replaceLowest template
  split
  · rw [fill_map_some]
  · next number _ =>
    induction scan .nothing text with
    | nil => rfl
    | cons token rest ih =>
      rw [List.flatMap_cons, List.flatMap_cons, fill_append, ih]
      cases token with
      | character c => rfl
      | marker other localized source =>
        by_cases hother : other = number <;> simp [FormatToken.replaced, hother]

/-- A marker at the end of such a text is its only slot. -/
theorem template_marker {text : List Char} (h : '%' ∉ text) {digit : Char} {number : ℕ}
    (hdigit : digitValue digit = some number) :
    template (text ++ ['%', digit]) = text.map some ++ [none] := by
  have hrest : ∀ c ∈ ([] : List Char).head?, Plain c := by simp
  have hscan : scan .nothing (text ++ ['%', digit]) =
      text.map .character ++ [.marker number false ['%', digit]] := scan_marker h hdigit hrest
  have hmarkers : markers (text ++ ['%', digit]) = [number] := by
    rw [markers, hscan, List.filterMap_append]
    simp [FormatToken.number?]
  have hcharacters : text.flatMap (fun c => [some c]) = text.map some := List.map_eq_flatMap.symm
  unfold template
  rw [hmarkers, hscan]
  simp [List.flatMap_map, hcharacters]

/-- A format with a marker has a slot. -/
theorem none_mem_template {text : List Char} (h : markers text ≠ []) : none ∈ template text := by
  obtain ⟨number, hnumber⟩ : ∃ number, (markers text).min? = some number :=
    Option.ne_none_iff_exists'.mp fun hnone => h (List.min?_eq_none_iff.mp hnone)
  have hmem : number ∈ markers text := (List.min?_eq_some_iff.mp hnumber).1
  obtain ⟨token, htoken, hmarker⟩ := List.mem_filterMap.mp hmem
  unfold template
  rw [hnumber]
  refine List.mem_flatMap.mpr ⟨token, htoken, ?_⟩
  cases token with
  | character c => cases hmarker
  | marker other localized source =>
    cases hmarker
    simp

end QtAppBase.Qt
