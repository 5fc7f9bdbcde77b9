import QtAppBase.Library.Mealy
import QtAppBase.Library.Separated
import QtAppBase.Qt.DateTime

/-!
# The log of the application

`AppLog` appends one line for every record to a file that it opens for this line
alone. Line breaks in a message become blanks, so a line is a record and can be
read back; a file that has grown too large is set aside when the application
starts. Only a file that cannot be opened counts as a failure: a line that is cut
short, because the device is full, goes unnoticed.
-/

namespace QtAppBase.Infra

open Library Qt

inductive Level where
  | info
  | warn
  | error
  deriving DecidableEq, Repr

/-- The name of a level in the log. -/
def Level.name : Level → QString
  | .info => "INFO"
  | .warn => "WARN"
  | .error => "ERROR"

/-- A record that is written. -/
structure LogEntry where
  time : QDateTime
  level : Level
  message : QString
  deriving DecidableEq, Repr

/-- `yyyy-MM-dd HH:mm:ss.zzz`. -/
def logFields : List Field :=
  [.four ['-'], .two ['-'], .two [' '], .two [':'], .two [':'], .two ['.'], ⟨3, [], Nat.succ_pos 2⟩]

/-- `QString::toUtf8`, byte by byte. -/
def utf8Bytes (text : List Char) : QByteArray := text.flatMap String.utf8EncodeChar

/-- The text of bytes that are UTF-8. -/
def utf8Text (bytes : QByteArray) : Option (List Char) :=
  bytes.toByteArray.utf8Decode?.map Array.toList

/-- `QString::leftJustified`. -/
def leftJustified (width : ℕ) (text : List Char) : List Char :=
  text ++ List.replicate (width - text.length) ' '

namespace LogEntry

/-- A message without line breaks. -/
def singleLine (message : QString) : List Char :=
  message.toList.map fun c => if c = '\r' ∨ c = '\n' then ' ' else c

/-- The line of a record, without its end. -/
def lineText (e : LogEntry) : List Char :=
  writeFields logFields e.time.parts ++ ([' ', ' '] ++ (leftJustified 5 e.level.name.toList ++
    ([' ', ' '] ++ singleLine e.message)))

/-- The bytes of the line. -/
def lineBytes (e : LogEntry) : QByteArray := utf8Bytes e.lineText

/-- What is appended to the file. -/
def line (e : LogEntry) : QByteArray := e.lineBytes ++ [10]

/-- What is appended where the device takes only so many bytes: the line lacks its end. -/
def cutLine (e : LogEntry) (bytes : ℕ) : QByteArray := e.lineBytes.take bytes

end LogEntry

/-- What happens when the file is opened for a record, and how many bytes of the line are
stored if it is cut short. -/
structure WriteAnswer where
  opens : Bool := true
  short : Option ℕ := none
  now : QDateTime := .epoch
  errorText : QString := ""

/-- What happens when a file is set aside. -/
structure RotateAnswer where
  removes : Bool := true
  renames : Bool := true

/-- The process-wide state of the log, its file and the one set aside. -/
structure AppLog where
  initialized : Bool := false
  writeFailed : Bool := false
  log : Option QByteArray := none
  rotated : Option QByteArray := none

/-- What can be observed. -/
inductive LogEffect where
  | written (entry : LogEntry)
  | cut (entry : LogEntry) (bytes : ℕ)
  /-- The file has been set aside. -/
  | rotated
  | stderr (text : QString)
  deriving DecidableEq, Repr

namespace AppLog

/-- `writeLine`. -/
def writeLine (filePath : QString) (a : WriteAnswer) (level : Level) (message : QString)
    (w : AppLog) : Reaction AppLog LogEffect :=
  if !w.initialized then (w, [])
  else if !a.opens then
    if !w.writeFailed then
      ({ w with writeFailed := true },
        [.stderr ("AppLog: failed to open " ++ filePath ++ ": " ++ a.errorText ++ "\n")])
    else (w, [])
  else
    let entry : LogEntry := ⟨a.now, level, message⟩
    -- what `write` and `flush` return is not looked at
    match a.short with
    | none => ({ w with log := some (w.log.getD [] ++ entry.line) }, [.written entry])
    | some bytes =>
      ({ w with log := some (w.log.getD [] ++ entry.cutLine bytes) }, [.cut entry bytes])

/-- The beginning of `init`: a file can only be renamed to a path where there is none. -/
def rotate (a : RotateAnswer) (w : AppLog) : Reaction AppLog LogEffect :=
  match w.log with
  | none => (w, [])
  | some bytes =>
    if bytes.length ≤ 1024 * 1024 then (w, [])
    else
      let w := { w with rotated := if a.removes then none else w.rotated }
      if a.renames && w.rotated.isNone then
        ({ w with log := none, rotated := some bytes }, [.rotated])
      else (w, [])

/-- `init`. -/
def init (filePath version : QString) (pid : ℕ) (r : RotateAnswer) (a : WriteAnswer)
    (w : AppLog) : Reaction AppLog LogEffect :=
  (w.rotate r).andThen fun w =>
    writeLine filePath a .info
      ("application started; version=" ++ version ++ "; pid=" ++ toString pid)
      { w with initialized := true }

/-- `isHealthy`. -/
def isHealthy (w : AppLog) : Bool := !w.writeFailed

end AppLog

/-- A call of the log. -/
inductive LogEvent where
  | init (pid : ℕ) (r : RotateAnswer) (a : WriteAnswer)
  | record (level : Level) (message : QString) (a : WriteAnswer)

namespace AppLog

/-- What one call does. -/
def handle (filePath version : QString) (w : AppLog) : LogEvent → Reaction AppLog LogEffect
  | .init pid r a => w.init filePath version pid r a
  | .record level message a => w.writeLine filePath a level message

/-- The state machine driven by its calls. -/
def machine (filePath version : QString) : Mealy AppLog LogEvent LogEffect :=
  ⟨handle filePath version⟩

/-! ### A line is a record -/

/-- What is read from the text of a line: the numbers of the time, the level and the message. -/
def readText (line : List Char) : List ℕ × List Char × List Char :=
  (readFields logFields line, (line.drop 25).take 5, line.drop 32)

/-- What is read from a line. -/
def readLine (line : QByteArray) : Option (List ℕ × List Char × List Char) :=
  (utf8Text line).map readText

theorem fits_logFields (t : QDateTime) : FitsFields logFields t.parts := by
  have hiso := t.fits_parts
  unfold QDateTime.isoFields QDateTime.parts FitsFields at hiso
  simp only [List.forall₂_cons] at hiso
  unfold logFields QDateTime.parts FitsFields
  simp only [List.forall₂_cons]
  exact hiso

/-- The time takes 23 characters, the level five. -/
theorem length_time (t : QDateTime) : (writeFields logFields t.parts).length = 23 :=
  length_writeFields (fits_logFields t)

theorem length_level (level : Level) : (leftJustified 5 level.name.toList).length = 5 := by
  cases level <;> decide

/-- The text of a line is read back as its record. -/
theorem readText_lineText (e : LogEntry) : readText e.lineText =
    (e.time.parts, leftJustified 5 e.level.name.toList, LogEntry.singleLine e.message) := by
  have htime := length_time e.time
  have hlevel := length_level e.level
  have hfront : (writeFields logFields e.time.parts ++ [' ', ' ']).length = 25 := by
    rw [List.length_append, htime]
    rfl
  have hmiddle : (leftJustified 5 e.level.name.toList ++ [' ', ' ']).length = 7 := by
    rw [List.length_append, hlevel]
    rfl
  have hdrop : e.lineText.drop 25 = leftJustified 5 e.level.name.toList ++
      ([' ', ' '] ++ LogEntry.singleLine e.message) := by
    rw [LogEntry.lineText, ← List.append_assoc, List.drop_left' hfront]
  have hmessage : e.lineText.drop 32 = LogEntry.singleLine e.message := by
    rw [show 32 = 25 + 7 from rfl, ← List.drop_drop, hdrop, ← List.append_assoc,
      List.drop_left' hmiddle]
  unfold readText
  rw [hmessage, hdrop, List.take_left' hlevel, LogEntry.lineText,
    readFields_append (fits_logFields e.time)]

/-- A text is read back from its bytes. -/
theorem utf8Text_utf8Bytes (text : List Char) : utf8Text (utf8Bytes text) = some text := by
  change text.utf8Encode.utf8Decode?.map Array.toList = some text
  rw [List.utf8Decode?_utf8Encode, Option.map_some]

/-- **A line is read back as its record.** -/
theorem readLine_lineBytes (e : LogEntry) : readLine e.lineBytes =
    some (e.time.parts, leftJustified 5 e.level.name.toList, LogEntry.singleLine e.message) := by
  rw [readLine, LogEntry.lineBytes, utf8Text_utf8Bytes, Option.map_some, readText_lineText]

/-- Digits and the characters between them do not break a line. -/
theorem newline_notMem_writeFields {fields : List Field} {ns : List ℕ}
    (h : ∀ field ∈ fields, '\n' ∉ field.behind) : '\n' ∉ writeFields fields ns := by
  induction fields generalizing ns with
  | nil => cases ns <;> exact List.not_mem_nil
  | cons field fields ih =>
    obtain ⟨hfield, hfields⟩ := List.forall_mem_cons.mp h
    cases ns with
    | nil => exact List.not_mem_nil
    | cons n ns =>
      rw [writeFields, List.mem_append, List.mem_append, zeroPadded, List.mem_append]
      rintro (((hzero | hdigit) | hbehind) | hrest)
      · exact absurd (List.eq_of_mem_replicate hzero) (by decide)
      · exact absurd (Nat.isDigit_of_mem_toDigits (by decide) (by decide) hdigit) (by decide)
      · exact hfield hbehind
      · exact ih hfields hrest

/-- A record takes one line. -/
theorem newline_notMem_lineText (e : LogEntry) : '\n' ∉ e.lineText := by
  have htime : '\n' ∉ writeFields logFields e.time.parts := newline_notMem_writeFields (by decide)
  have hlevel : '\n' ∉ leftJustified 5 e.level.name.toList := by
    cases e.level <;> decide
  have hmessage : '\n' ∉ LogEntry.singleLine e.message := by
    intro hmem
    obtain ⟨c, -, hc⟩ := List.mem_map.mp hmem
    split_ifs at hc with hbreak
    · cases hc
    · exact hbreak (Or.inr hc)
  unfold LogEntry.lineText
  simp [htime, hlevel, hmessage]

/-- The byte of a line break encodes nothing else. -/
theorem eq_newline_of_mem {c : Char} (h : 10 ∈ String.utf8EncodeChar c) : c = '\n' := by
  obtain ⟨byte, hbyte, hten⟩ : ∃ byte ∈ String.utf8EncodeChar c, byte.toNat = 10 := ⟨10, h, rfl⟩
  unfold String.utf8EncodeChar at hbyte
  dsimp only at hbyte
  split_ifs at hbyte with hascii
  · rw [List.mem_singleton.mp hbyte, UInt8.toNat_ofNat', Nat.mod_eq_of_lt (by omega)] at hten
    exact Char.ext (UInt32.toNat_inj.mp hten)
  -- the bytes of all other characters are at least 0x80
  all_goals
    simp only [List.mem_cons, List.not_mem_nil, or_false] at hbyte
    rcases hbyte with rfl | rfl | rfl | rfl
    all_goals
      rw [UInt8.toNat_ofNat'] at hten
      omega

/-- A record takes one line of bytes. -/
theorem newline_notMem_lineBytes (e : LogEntry) : 10 ∉ e.lineBytes := by
  intro hmem
  obtain ⟨c, hc, hbyte⟩ := List.mem_flatMap.mp hmem
  exact newline_notMem_lineText e (eq_newline_of_mem hbyte ▸ hc)

/-! ### The file over a run -/

/-- What an effect does to the file. -/
def appended (bytes : QByteArray) : LogEffect → QByteArray
  | .written entry => bytes ++ entry.line
  | .cut entry stored => bytes ++ entry.cutLine stored
  | .rotated => []
  | .stderr _ => bytes

/-- The records that were written whole. -/
def written? : LogEffect → Option LogEntry
  | .written entry => some entry
  | _ => none

/-- The records of which something may be missing. -/
def cut? : LogEffect → Option LogEntry
  | .cut entry _ => some entry
  | _ => none

/-- What an effect appends, and whether it ends the line. -/
def piece? : LogEffect → Option (QByteArray × Bool)
  | .written entry => some (entry.lineBytes, true)
  | .cut entry stored => some (entry.cutLine stored, false)
  | _ => none

/-- The reaction says what it does to the file. -/
def Says (w : AppLog) (r : Reaction AppLog LogEffect) : Prop :=
  r.1.log.getD [] = r.2.foldl appended (w.log.getD [])

theorem writeLine_says (filePath : QString) (a : WriteAnswer) (level : Level)
    (message : QString) (w : AppLog) : Says w (w.writeLine filePath a level message) := by
  unfold writeLine
  dsimp only
  split_ifs
  · rfl
  · rfl
  · rfl
  · cases a.short <;> rfl

theorem rotate_says (a : RotateAnswer) (w : AppLog) : Says w (w.rotate a) := by
  unfold rotate
  cases hlog : w.log with
  | none => rfl
  | some bytes =>
    dsimp only
    split_ifs <;> simp [Says, appended, hlog]

theorem handle_says (filePath version : QString) (w : AppLog) (e : LogEvent) :
    Says w (w.handle filePath version e) := by
  cases e with
  | init pid r a =>
    have hrotate := w.rotate_says r
    have hwrite := writeLine_says filePath a .info
      ("application started; version=" ++ version ++ "; pid=" ++ toString pid)
      { (w.rotate r).1 with initialized := true }
    unfold Says at *
    change (writeLine ..).1.log.getD [] = ((w.rotate r).2 ++ (writeLine ..).2).foldl appended _
    rw [List.foldl_append, ← hrotate]
    exact hwrite
  | record level message a => exact w.writeLine_says filePath a level message

/-- The file after a run. -/
theorem log_eq_foldl (w : AppLog) (events : List LogEvent) :
    ((machine filePath version).after w events).log.getD [] =
      ((machine filePath version).emitted w events).foldl appended (w.log.getD []) := by
  induction events generalizing w with
  | nil => rfl
  | cons e events ih =>
    have hstep := w.handle_says filePath version e
    rw [Mealy.after_cons, ih, Mealy.emitted_cons, List.foldl_append]
    exact congrArg (List.foldl appended · _) hstep

/-- Without a rotation, the pieces are appended. -/
theorem foldl_appended {effects : List LogEffect} (h : .rotated ∉ effects) (bytes : QByteArray) :
    effects.foldl appended bytes =
      bytes ++ (effects.filterMap piece?).flatMap (ended 10) := by
  induction effects generalizing bytes with
  | nil => exact (List.append_nil bytes).symm
  | cons effect effects ih =>
    have hrest : .rotated ∉ effects := fun hmem => h (List.mem_cons_of_mem _ hmem)
    rw [List.foldl_cons, ih hrest]
    cases effect with
    | written entry => simp [appended, piece?, ended, LogEntry.line]
    | cut entry stored => simp [appended, piece?, ended]
    | rotated => exact absurd List.mem_cons_self h
    | stderr text => rfl

/-- No piece breaks a line. -/
theorem newline_notMem_piece {effects : List LogEffect} {piece : QByteArray × Bool}
    (h : piece ∈ effects.filterMap piece?) : 10 ∉ piece.1 := by
  obtain ⟨effect, -, heffect⟩ := List.mem_filterMap.mp h
  cases effect with
  | written entry =>
    obtain rfl := Option.some.inj heffect
    exact newline_notMem_lineBytes entry
  | cut entry stored =>
    obtain rfl := Option.some.inj heffect
    exact fun hmem => newline_notMem_lineBytes entry (List.mem_of_mem_take hmem)
  | rotated => cases heffect
  | stderr text => cases heffect

/-- The finished pieces are the records written whole. -/
theorem finished_pieces (effects : List LogEffect) :
    ((effects.filterMap piece?).filter Prod.snd).map Prod.fst =
      (effects.filterMap written?).map LogEntry.lineBytes := by
  induction effects with
  | nil => rfl
  | cons effect effects ih =>
    cases effect with
    | written entry => exact congrArg (entry.lineBytes :: ·) ih
    | cut entry stored => exact ih
    | rotated => exact ih
    | stderr text => exact ih

/-- Where nothing was cut, every piece is finished. -/
theorem flatMap_pieces {effects : List LogEffect} (h : effects.filterMap cut? = []) :
    (effects.filterMap piece?).flatMap (ended 10) =
      ((effects.filterMap written?).map LogEntry.lineBytes).flatMap (· ++ [10]) := by
  induction effects with
  | nil => rfl
  | cons effect effects ih =>
    cases effect with
    | written entry => exact congrArg (ended 10 (entry.lineBytes, true) ++ ·) (ih h)
    | cut entry stored => cases h
    | rotated => exact ih h
    | stderr text => exact ih h

/-- **The log is read back.** Over every run of calls in which the file is not set aside, the
file keeps its bytes, and split at its line breaks what it gained has one line for every
record written whole, in their order: it ends with the line of the record, and before that
has only what was left of lines cut short. Where none was, the lines are those of the
records. Each is read back as the time, the level and the message of its record, with blanks
for the line breaks of the message. -/
theorem log_readBack (filePath version : QString) (w : AppLog) (events : List LogEvent)
    (hkept : .rotated ∉ (machine filePath version).emitted w events) :
    ∃ gained, ((machine filePath version).after w events).log.getD [] =
        w.log.getD [] ++ gained ∧
      (∃ lines rest, gained.splitOn 10 = lines ++ [rest] ∧
        List.Forall₂ (fun line piece => piece <:+ line) lines
          ((((machine filePath version).emitted w events).filterMap written?).map
            LogEntry.lineBytes)) ∧
      (((machine filePath version).emitted w events).filterMap cut? = [] →
        gained.splitOn 10 = (((machine filePath version).emitted w events).filterMap written?).map
          LogEntry.lineBytes ++ [[]]) ∧
      ∀ e : LogEntry, readLine e.lineBytes = some
        (e.time.parts, leftJustified 5 e.level.name.toList, LogEntry.singleLine e.message) := by
  refine ⟨_, (log_eq_foldl w events).trans (foldl_appended hkept _), ?_, fun hwhole => ?_,
    readLine_lineBytes⟩
  · rw [← finished_pieces]
    rw [← List.nil_append (List.flatMap _ _)]
    exact splitOn_ended List.not_mem_nil fun _ => newline_notMem_piece
  · rw [flatMap_pieces hwhole]
    refine splitOn_terminated fun piece hpiece => ?_
    obtain ⟨e, -, rfl⟩ := List.mem_map.mp hpiece
    exact newline_notMem_lineBytes e

/-- A start, a record cut in its time, and one whose message is broken: two lines. -/
theorem brokenRun_readBack :
    ∃ gained, ((machine "app.log" "1.0").after {} [.init 1 {} {},
        .record .warn "full" { short := some 4 }, .record .warn "late\nagain" {}]).log.getD [] =
        [] ++ gained ∧
      (∃ lines rest, gained.splitOn 10 = lines ++ [rest] ∧
        List.Forall₂ (fun line piece => piece <:+ line) lines
          ((((machine "app.log" "1.0").emitted {} [.init 1 {} {},
            .record .warn "full" { short := some 4 },
            .record .warn "late\nagain" {}]).filterMap written?).map LogEntry.lineBytes)) ∧
      (((machine "app.log" "1.0").emitted {} [.init 1 {} {},
          .record .warn "full" { short := some 4 },
          .record .warn "late\nagain" {}]).filterMap cut? = [] →
        gained.splitOn 10 = (((machine "app.log" "1.0").emitted {} [.init 1 {} {},
          .record .warn "full" { short := some 4 },
          .record .warn "late\nagain" {}]).filterMap written?).map LogEntry.lineBytes ++ [[]]) ∧
      ∀ e : LogEntry, readLine e.lineBytes = some
        (e.time.parts, leftJustified 5 e.level.name.toList, LogEntry.singleLine e.message) :=
  log_readBack "app.log" "1.0" {} [.init 1 {} {}, .record .warn "full" { short := some 4 },
    .record .warn "late\nagain" {}] (by decide)

/-! ### Health -/

/-- The record of a call. -/
def entryOf (version : QString) : LogEvent → LogEntry
  | .init pid _ a =>
    ⟨a.now, .info, "application started; version=" ++ version ++ "; pid=" ++ toString pid⟩
  | .record level message a => ⟨a.now, level, message⟩

/-- The device takes the whole line of a call. -/
def takesWhole : LogEvent → Bool
  | .init _ _ a => a.short.isNone
  | .record _ _ a => a.short.isNone

/-- The records that were written, whole or in part. -/
def reached? : LogEffect → Option LogEntry
  | .written entry => some entry
  | .cut entry _ => some entry
  | _ => none

/-- A message on the standard error. -/
def isStderr : LogEffect → Bool
  | .stderr _ => true
  | _ => false

/-- The start of the application. -/
def isInit : LogEvent → Bool
  | .init .. => true
  | .record .. => false

/-- What a call does to an initialized log: its record is written, in part if the device is
full, or the log has failed, which is said once. -/
structure Answers (version : QString) (w : AppLog) (e : LogEvent)
    (r : Reaction AppLog LogEffect) : Prop where
  initialized : r.1.initialized = true
  /-- A failure stays. -/
  latched : w.writeFailed = true → r.1.writeFailed = true
  said : r.2.countP isStderr = if r.1.writeFailed && !w.writeFailed then 1 else 0
  reached : r.1.writeFailed = false → r.2.filterMap reached? = [entryOf version e]
  whole : r.1.writeFailed = false →
    r.2.filterMap written? = if takesWhole e then [entryOf version e] else []

theorem writeLine_answers (filePath version : QString) {w : AppLog} {e : LogEvent}
    {a : WriteAnswer} {level : Level} {message : QString} (hw : w.initialized = true)
    (he : entryOf version e = ⟨a.now, level, message⟩) (htakes : takesWhole e = a.short.isNone) :
    Answers version w e (w.writeLine filePath a level message) := by
  unfold writeLine
  rw [if_neg (by simp [hw])]
  by_cases hopens : a.opens = true
  · have hquiet : 0 = if w.writeFailed && !w.writeFailed then 1 else 0 := by
      cases w.writeFailed <;> rfl
    rw [if_neg (by simp [hopens])]
    cases hshort : a.short with
    | none =>
      rw [hshort, Option.isNone_none] at htakes
      exact ⟨hw, id, hquiet, fun _ => by rw [he]; rfl, fun _ => by rw [he, htakes]; rfl⟩
    | some bytes =>
      rw [hshort, Option.isNone_some] at htakes
      exact ⟨hw, id, hquiet, fun _ => by rw [he]; rfl, fun _ => by rw [htakes]; rfl⟩
  · rw [if_pos (by simp [hopens])]
    cases hfailed : w.writeFailed with
    | true =>
      exact ⟨hw, id, by simp [hfailed], fun h => by simp [hfailed] at h,
        fun h => by simp [hfailed] at h⟩
    | false =>
      exact ⟨hw, fun h => by simp [hfailed] at h, by simp [hfailed, isStderr], nofun, nofun⟩

/-- Setting the file aside neither fails nor writes. -/
theorem rotate_quiet (a : RotateAnswer) (w : AppLog) :
    (w.rotate a).1.writeFailed = w.writeFailed ∧
      (w.rotate a).2.countP isStderr = 0 ∧ (w.rotate a).2.filterMap reached? = [] ∧
      (w.rotate a).2.filterMap written? = [] := by
  unfold rotate
  cases w.log with
  | none => exact ⟨rfl, rfl, rfl, rfl⟩
  | some bytes =>
    dsimp only
    split_ifs <;> exact ⟨rfl, rfl, rfl, rfl⟩

/-- The log is initialized, or this call does it. -/
theorem handle_answers (filePath version : QString) {w : AppLog} {e : LogEvent}
    (hw : w.initialized = true ∨ isInit e = true) :
    Answers version w e (w.handle filePath version e) := by
  cases e with
  | init pid r a =>
    obtain ⟨hfailed, hstderr, hreached, hwritten⟩ := w.rotate_quiet r
    have hwrite := show Answers version
        { (w.rotate r).1 with initialized := true } (.init pid r a) _ from
      writeLine_answers filePath version rfl rfl rfl
    have hbefore : ({ (w.rotate r).1 with initialized := true } : AppLog).writeFailed =
        w.writeFailed := hfailed
    have hlatched := hwrite.latched
    have hsaid := hwrite.said
    rw [hbefore] at hlatched hsaid
    refine ⟨hwrite.initialized, hlatched, ?_, fun h => ?_, fun h => ?_⟩
    · change ((w.rotate r).2 ++ _).countP _ = _
      rw [List.countP_append, hstderr, Nat.zero_add]
      exact hsaid
    · change ((w.rotate r).2 ++ _).filterMap _ = _
      rw [List.filterMap_append, hreached, List.nil_append]
      exact hwrite.reached h
    · change ((w.rotate r).2 ++ _).filterMap _ = _
      rw [List.filterMap_append, hwritten, List.nil_append]
      exact hwrite.whole h
  | record level message a =>
    exact writeLine_answers filePath version (hw.resolve_right nofun) rfl rfl

/-- A failure stays for the rest of the process. -/
theorem after_latched (filePath version : QString) {w : AppLog} (hw : w.initialized = true)
    (hfailed : w.writeFailed = true) (events : List LogEvent) :
    ((machine filePath version).after w events).writeFailed = true := by
  induction events generalizing w with
  | nil => exact hfailed
  | cons e events ih =>
    have hstep := handle_answers filePath version (e := e) (Or.inl hw)
    exact ih hstep.initialized (hstep.latched hfailed)

/-- What is healthy after a run was healthy before it. -/
theorem healthy_before (filePath version : QString) {w : AppLog} (hw : w.initialized = true)
    {events : List LogEvent}
    (hhealthy : ((machine filePath version).after w events).isHealthy = true) :
    w.writeFailed = false := by
  by_contra hbad
  have hlatched := after_latched filePath version hw (by simpa using hbad) events
  unfold isHealthy at hhealthy
  rw [hlatched] at hhealthy
  cases hhealthy

/-- A failure that stays is counted once over two stretches. -/
theorem once_add_once {before between after : Bool} (hfirst : before = true → between = true)
    (hlater : between = true → after = true) :
    (if between && !before then 1 else 0) + (if after && !between then 1 else 0) =
      if after && !before then 1 else 0 := by
  cases before with
  | true =>
    rw [hfirst rfl]
    cases after <;> rfl
  | false =>
    cases between with
    | true => rw [hlater rfl]; rfl
    | false => cases after <;> rfl

/-- **A healthy log has a line for every call.** From the first call of `init` on, in every
run, the file of a log that is healthy at the end was given the record of every call, in
their order, and has it whole exactly where the device took the whole line: a healthy log is
complete when no write was cut short. Otherwise a message has been left on the standard
error, once in the process. -/
theorem healthy_complete (filePath version : QString) (w : AppLog) (events : List LogEvent)
    (hinit : w.initialized = true ∨ ∃ first ∈ events.head?, isInit first = true) :
    (((machine filePath version).after w events).isHealthy = true →
      ((machine filePath version).emitted w events).filterMap reached? =
        events.map (entryOf version) ∧
      ((machine filePath version).emitted w events).filterMap written? =
        (events.filter takesWhole).map (entryOf version)) ∧
    ((machine filePath version).emitted w events).countP isStderr =
      if ((machine filePath version).after w events).writeFailed && !w.writeFailed then 1
      else 0 := by
  induction events generalizing w with
  | nil =>
    refine ⟨fun _ => ⟨rfl, rfl⟩, ?_⟩
    change 0 = if w.writeFailed && !w.writeFailed then 1 else 0
    cases w.writeFailed <;> rfl
  | cons e events ih =>
    have hstep : Answers version w e (w.handle filePath version e) := by
      refine handle_answers filePath version (hinit.imp_right ?_)
      rintro ⟨first, hfirst, hisInit⟩
      obtain rfl := Option.some.inj hfirst
      exact hisInit
    obtain ⟨hcomplete, hsaid⟩ := ih (w.handle filePath version e).1 (Or.inl hstep.initialized)
    rw [Mealy.after_cons, Mealy.emitted_cons, List.filterMap_append, List.filterMap_append,
      List.countP_append]
    refine ⟨fun hhealthy => ?_, ?_⟩
    · have hgood : (w.handle filePath version e).1.writeFailed = false :=
        healthy_before filePath version hstep.initialized hhealthy
      obtain ⟨hreached, hwritten⟩ := hcomplete hhealthy
      constructor
      · rw [List.map_cons]
        change (w.handle filePath version e).2.filterMap reached? ++ _ = _
        rw [hstep.reached hgood]
        exact congrArg (entryOf version e :: ·) hreached
      · change (w.handle filePath version e).2.filterMap written? ++ _ = _
        rw [hstep.whole hgood, List.filter_cons]
        refine (congrArg (_ ++ ·) hwritten).trans ?_
        cases takesWhole e <;> rfl
    · change (w.handle filePath version e).2.countP _ + _ = _
      rw [hstep.said]
      refine (congrArg (_ + ·) hsaid).trans ?_
      exact once_add_once hstep.latched
        fun hfailed => after_latched filePath version hstep.initialized hfailed events

/-- A start, a record the full device cuts, and one after it: still healthy. -/
theorem startRun_complete :
    ((machine "app.log" "1.0").emitted {} [.init 1 {} {},
      .record .warn "full" { short := some 4 }, .record .warn "late" {}]).filterMap reached? =
        [.init 1 {} {}, .record .warn "full" { short := some 4 }, .record .warn "late" {}].map
          (entryOf "1.0") ∧
    ((machine "app.log" "1.0").emitted {} [.init 1 {} {},
      .record .warn "full" { short := some 4 }, .record .warn "late" {}]).filterMap written? =
        [.init 1 {} {}, .record .warn "late" {}].map (entryOf "1.0") :=
  (healthy_complete "app.log" "1.0" {} [.init 1 {} {},
    .record .warn "full" { short := some 4 }, .record .warn "late" {}] (Or.inr ⟨_, rfl, rfl⟩)).1 rfl

end AppLog

end QtAppBase.Infra
