import ObjectBridge.Logging.Process

/-!
# The first log

The first log that is set up in a process is the log of the process from then on.  Setting up
another one fails and leaves the log as it is.  The log is told of it, and the file of the other
output is made if it is not there.

Main results:

- Definition `LogDeed`: what happens to the log of a process.
- Theorem `LogProcess.Logs.didAll`: a log stays, and its file is there.
- Theorem `LogProcess.Logs.lines?_setUp`: the files after another log is set up.
- Theorem `LogProcess.log_of_history`: what setting up logs does, one after another, and which of
  them leave all files as they are.
-/

namespace ObjectBridge

/-! ## Files -/

/-- The place of the file of an output, if it is a file. -/
def LogOutput.place? [RollingFiles] : LogOutput → Option String
  | file directory stem => some (RollingFiles.place directory stem)
  | _ => none

namespace Written

variable [RollingFiles] {w : Written} {place : String} {output : LogOutput}

/-- The lines of the file at a place, if it is there. -/
def lines? (w : Written) (place : String) : Option (List LogLine) :=
  Entries.lookup place w.places

/-- Lines are written to the end of the file of an output, which is made if it is not there. -/
theorem lines?_write (w : Written) (lines : List LogLine) (output : LogOutput) (place : String) :
    (w.write lines output).lines? place =
      if output.place? = some place then some ((w.lines? place).getD [] ++ lines)
      else w.lines? place := by
  cases output with
  | file directory stem =>
    simp only [write, LogOutput.place?, lines?, Entries.lookup_insert, Option.some.injEq]
    by_cases hown : RollingFiles.place directory stem = place
    · rw [if_pos hown, if_pos hown, hown]
    · rw [if_neg hown, if_neg hown]
  | _ => rfl

/-- A file that is there gets the lines that are written to it. -/
theorem lines?_write_of_there (hthere : ∀ place, output.place? = some place → w.lines? place ≠ none)
    (lines : List LogLine) (place : String) :
    (w.write lines output).lines? place =
      if output.place? = some place then (w.lines? place).map (· ++ lines) else w.lines? place := by
  rw [lines?_write]
  split
  · rename_i hplace
    obtain ⟨held, hheld⟩ := Option.ne_none_iff_exists'.mp (hthere place hplace)
    rw [hheld]
    rfl
  · rfl

/-- No file is lost by writing. -/
theorem lines?_write_ne_none (hthere : w.lines? place ≠ none) (lines : List LogLine)
    (output : LogOutput) : (w.write lines output).lines? place ≠ none := by
  rw [lines?_write]
  split
  · exact Option.some_ne_none _
  · exact hthere

/-- Preparing an output makes its file, and changes no other. -/
theorem lines?_prepare (w : Written) (output : LogOutput) (place : String) :
    (w.prepare output).lines? place =
      if output.place? = some place then some ((w.lines? place).getD []) else w.lines? place := by
  rw [prepare, lines?_write, List.append_nil]

end Written

/-! ## What happens to the log of a process -/

/-- What happens in a process as far as logs are concerned. -/
inductive LogDeed where
  /-- A log is set up, with the text of the environment variable at that time. -/
  | setUp (variableText : Option String) (s : LogSettings)
  /-- An entry of a trace is received. -/
  | receive (entry : TraceEntry)

/-- What setting up a log tells the log that is there already. -/
def LogSettings.refusalNotices [FilterLibrary] (s : LogSettings) : List Notice :=
  s.ignored.map .directiveIgnored ++ [.subscriberPresent]

namespace LogProcess

section Library

variable [FilterLibrary] {p q : LogProcess} {log : Log} {place : String}

/-- The lines of a notice in the log of a process; none if there is no log or it does not let the
notice through. -/
def linesOf (p : LogProcess) (n : Notice) : List LogLine :=
  match p.log with
  | none => []
  | some log =>
    let r := Report.ofNotice n (p.span.filter p.shows)
    let fields := "message" :: r.fields.map Prod.fst
    if FilterLibrary.allowsInside log.filter r.span r.level r.target fields then r.lines log.format
    else []

/-- The lines of a notice depend on the log and on the span that the process is in. -/
theorem linesOf_congr (hlog : q.log = p.log) (hspan : q.span = p.span) : q.linesOf = p.linesOf := by
  have hshows : q.shows = p.shows := by
    funext s
    rw [shows, shows, hlog]
  funext n
  rw [linesOf, linesOf, hlog, hspan, hshows]

variable [RollingFiles]

/-- The process after a deed. -/
def did (p : LogProcess) : LogDeed → LogProcess
  | .setUp variableText s => (p.setUp variableText s).2
  | .receive entry => p.receive entry

/-- The process after a history. -/
def didAll (p : LogProcess) (history : List LogDeed) : LogProcess :=
  history.foldl did p

/-- Nothing was done. -/
theorem didAll_nil (p : LogProcess) : p.didAll [] = p :=
  rfl

/-- A process has a log, and the file of the log is there. -/
structure Logs (p : LogProcess) (log : Log) : Prop where
  installed : p.log = some log
  file : ∀ place, log.output.place? = some place → p.written.lines? place ≠ none

/-! ## A log stays -/

/-- A report changes nothing but what is written. -/
theorem writeIf_written (p : LogProcess) (condition : Log → Bool) (r : Report) :
    { p.writeIf condition r with written := p.written } = p := by
  rw [writeIf]
  split
  · rfl
  · split <;> rfl

namespace Logs

/-- A report leaves the log in place. -/
theorem writeIf (h : p.Logs log) (condition : Log → Bool) (r : Report) :
    (p.writeIf condition r).Logs log := by
  have hlog := congrArg LogProcess.log (writeIf_written p condition r)
  refine ⟨hlog.trans h.installed, fun place hplace => ?_⟩
  rw [LogProcess.writeIf, h.installed]
  dsimp only
  split
  · exact Written.lines?_write_ne_none (h.file place hplace) _ _
  · exact h.file place hplace

/-- An entry leaves the log in place. -/
theorem receive (h : p.Logs log) (entry : TraceEntry) : (p.receive entry).Logs log := by
  have hspan {q : LogProcess} (hq : q.Logs log) (span : Option CallSpan) :
      { q with span }.Logs log :=
    ⟨hq.installed, hq.file⟩
  cases entry with
  | notice n => exact h.writeIf _ _
  | elsewhere n => exact h.writeIf _ _
  | opened s => exact hspan (h.writeIf _ _) (some s)
  | entered => exact h
  | left =>
    rw [LogProcess.receive]
    split
    · exact hspan (h.writeIf _ _) none
    · exact h

/-- A trace leaves the log in place. -/
theorem receiveAll (h : p.Logs log) (trace : List TraceEntry) : (p.receiveAll trace).Logs log := by
  induction trace generalizing p with
  | nil => exact h
  | cons entry trace ih => exact ih (h.receive entry)

/-! ## Notices that a log receives -/

/-- A notice is written to the file of the log, and to no other. -/
theorem lines?_receive (h : p.Logs log) (n : Notice) (place : String) :
    (p.receive (.notice n)).written.lines? place =
      if log.output.place? = some place then (p.written.lines? place).map (· ++ p.linesOf n)
      else p.written.lines? place := by
  rw [LogProcess.receive, report, LogProcess.writeIf, linesOf, h.installed]
  dsimp only
  split
  · exact Written.lines?_write_of_there h.file _ place
  · simp

end Logs

/-- What was received later comes after what was received earlier. -/
theorem receiveAll_append (p : LogProcess) (earlier later : List TraceEntry) :
    p.receiveAll (earlier ++ later) = (p.receiveAll earlier).receiveAll later :=
  List.foldl_append

/-- How notices are written is not changed by notices. -/
theorem linesOf_receive (p : LogProcess) (n : Notice) :
    (p.receive (.notice n)).linesOf = p.linesOf := by
  have hsame : { p.receive (.notice n) with written := p.written } = p := writeIf_written p _ _
  have hlog := congrArg LogProcess.log hsame
  have hspan := congrArg LogProcess.span hsame
  exact linesOf_congr hlog hspan

/-- Notices are written to the file of a log, one after another. -/
theorem Logs.lines?_receiveAll (h : p.Logs log) (notices : List Notice) (place : String) :
    (p.receiveAll (notices.map .notice)).written.lines? place =
      if log.output.place? = some place then
        (p.written.lines? place).map (· ++ notices.flatMap p.linesOf)
      else p.written.lines? place := by
  induction notices generalizing p with
  | nil =>
    have hnone : p.receiveAll [] = p := rfl
    simp [hnone]
  | cons n notices ih =>
    have hcons : p.receiveAll ((n :: notices).map .notice) =
        (p.receive (.notice n)).receiveAll (notices.map .notice) := rfl
    rw [hcons, ih (h.receive _), h.lines?_receive, linesOf_receive]
    split
    · simp [Function.comp_def]
    · rfl

/-! ## Setting up a log -/

/-- A process that is about to set up a log: the file of the output is made, and the complaints about
the environment variable are written. -/
def prepared (p : LogProcess) (variableText : Option String) (s : LogSettings) : LogProcess :=
  let complaints := (FilterLibrary.complaints variableText).flatMap Report.textLines
  { p with written := (p.written.prepare s.output).write complaints .stderr }

/-- Preparing settings makes the file of their output, and changes no other. -/
theorem lines?_prepared (p : LogProcess) (variableText : Option String) (s : LogSettings)
    (place : String) :
    (p.prepared variableText s).written.lines? place =
      if s.output.place? = some place then some ((p.written.lines? place).getD [])
      else p.written.lines? place := by
  have hstderr : LogOutput.place? .stderr ≠ some place := nofun
  rw [prepared, Written.lines?_write, if_neg hstderr, Written.lines?_prepare]

/-- Preparing settings leaves the log in place. -/
theorem Logs.prepared (h : p.Logs log) (variableText : Option String) (s : LogSettings) :
    (p.prepared variableText s).Logs log := by
  refine ⟨h.installed, fun place hplace => ?_⟩
  rw [lines?_prepared]
  split
  · exact Option.some_ne_none _
  · exact h.file place hplace

/-- A process without a log receives nothing. -/
theorem receiveAll_of_none (hnone : p.log = none) (notices : List Notice) :
    p.receiveAll (notices.map .notice) = p := by
  have hreceive (n : Notice) : p.receive (.notice n) = p := by
    rw [receive, report, writeIf, hnone]
  induction notices with
  | nil => rfl
  | cons n notices ih =>
    change (p.receive (.notice n)).receiveAll (notices.map .notice) = p
    rw [hreceive, ih]

/-- Directives that are ignored are told of before it is known whether there is a log. -/
theorem setUp_apply (p : LogProcess) (variableText : Option String) (s : LogSettings) :
    p.setUp variableText s =
      let ignored := s.ignored.map Notice.directiveIgnored
      let told := (p.prepared variableText s).receiveAll (ignored.map .notice)
      match told.log with
      | some _ => (false, told.receive (.notice .subscriberPresent))
      | none =>
        (true, { told with
          log := some ⟨s.format, s.output, s.spanEvents, s.buildFilter variableText⟩ }) := by
  dsimp only
  rw [List.map_map]
  rfl

/-- The first log is set up. -/
theorem setUp_of_none (hnone : p.log = none) (variableText : Option String) (s : LogSettings) :
    p.setUp variableText s =
      (true, { p.prepared variableText s with
        log := some ⟨s.format, s.output, s.spanEvents, s.buildFilter variableText⟩ }) := by
  have hprepared : (p.prepared variableText s).log = none := hnone
  rw [setUp_apply]
  simp only [receiveAll_of_none hprepared, hprepared]

/-- A first log leaves other files as they are. -/
theorem lines?_setUp_of_none (hnone : p.log = none) {s : LogSettings}
    (hplace : s.output.place? ≠ some place) (variableText : Option String) :
    (p.setUp variableText s).2.written.lines? place = p.written.lines? place := by
  rw [setUp_of_none hnone]
  exact (lines?_prepared p variableText s place).trans (if_neg hplace)

/-- A first log is the one that its settings ask for. -/
theorem Logs.of_setUp (hnone : p.log = none) (variableText : Option String) (s : LogSettings) :
    (p.setUp variableText s).2.Logs
      ⟨s.format, s.output, s.spanEvents, s.buildFilter variableText⟩ := by
  rw [setUp_of_none hnone]
  refine ⟨rfl, fun place hplace => ?_⟩
  have hmade := lines?_prepared p variableText s place
  rw [if_pos hplace] at hmade
  exact hmade ▸ Option.some_ne_none _

/-- A later one is refused, and the log is told. -/
theorem Logs.setUp_eq (h : p.Logs log) (variableText : Option String) (s : LogSettings) :
    p.setUp variableText s =
      (false, (p.prepared variableText s).receiveAll (s.refusalNotices.map .notice)) := by
  have htold := (h.prepared variableText s).receiveAll
    ((s.ignored.map Notice.directiveIgnored).map .notice)
  rw [setUp_apply]
  simp only [htold.installed, LogSettings.refusalNotices, List.map_append, receiveAll_append]
  rfl

/-- A log stays, whatever happens. -/
theorem Logs.did (h : p.Logs log) (deed : LogDeed) : (p.did deed).Logs log := by
  cases deed with
  | setUp variableText s =>
    rw [LogProcess.did, h.setUp_eq]
    exact (h.prepared variableText s).receiveAll _
  | receive entry => exact h.receive entry

/-- A log stays in place through every history. -/
theorem Logs.didAll (h : p.Logs log) (history : List LogDeed) : (p.didAll history).Logs log := by
  induction history generalizing p with
  | nil => exact h
  | cons deed history ih => exact ih (h.did deed)

/-- The files after another log is set up: its own is there, and the file of the log has the notices
that the log lets through. -/
theorem Logs.lines?_setUp (h : p.Logs log) (variableText : Option String) (s : LogSettings)
    (place : String) :
    (p.setUp variableText s).2.written.lines? place =
      if log.output.place? = some place then
        (p.written.lines? place).map (· ++ s.refusalNotices.flatMap p.linesOf)
      else if s.output.place? = some place then some ((p.written.lines? place).getD [])
      else p.written.lines? place := by
  have hsame : (p.prepared variableText s).linesOf = p.linesOf := linesOf_congr rfl rfl
  rw [h.setUp_eq, (h.prepared variableText s).lines?_receiveAll, hsame, lines?_prepared]
  split
  · rename_i hown
    obtain ⟨held, hheld⟩ := Option.ne_none_iff_exists'.mp (h.file place hown)
    rw [hheld]
    simp
  · rfl

/-- Setting up another log leaves all files as they are if its own is there already, and the log has
no file or lets none of the notices through. -/
theorem Logs.lines?_setUp_eq_iff (h : p.Logs log) (variableText : Option String)
    (s : LogSettings) :
    (∀ place, (p.setUp variableText s).2.written.lines? place = p.written.lines? place) ↔
      (∀ place, s.output.place? = some place → p.written.lines? place ≠ none) ∧
        (log.output.place? = none ∨ s.refusalNotices.flatMap p.linesOf = []) := by
  simp only [h.lines?_setUp]
  constructor
  · intro hsame
    refine ⟨fun place hplace hnone => ?made, ?noticed⟩
    case made =>
      have hplace' := hsame place
      by_cases hown : log.output.place? = some place
      · exact h.file place hown hnone
      · rw [if_neg hown, if_pos hplace, hnone] at hplace'
        cases hplace'
    case noticed =>
      cases hown : log.output.place? with
      | none => exact .inl rfl
      | some place =>
        obtain ⟨held, hheld⟩ := Option.ne_none_iff_exists'.mp (h.file place hown)
        have hplace' := hsame place
        rw [if_pos hown, hheld] at hplace'
        simpa using hplace'
  · rintro ⟨hmade, hnoticed⟩ place
    split
    · rename_i hown
      obtain hnone | hnothing := hnoticed
      · cases hnone.symm.trans hown
      · rw [hnothing]
        simp
    · split
      · rename_i hplace
        obtain ⟨held, hheld⟩ := Option.ne_none_iff_exists'.mp (hmade place hplace)
        rw [hheld]
        rfl
      · rfl

end Library

/-- Settings of a log that is written to a file of its own. -/
def otherSettings : LogSettings :=
  { LogSettings.default with output := .file "logs" "other" }

/-- The file of these settings is in the directory of the process. -/
theorem place?_otherSettings : otherSettings.output.place? = some "logs/other.<date>" := by
  decide +kernel

example : (LogOutput.file "/var/log/shop" "other").place? = some "/var/log/shop/other.<date>" := by
  decide +kernel

example : (LogOutput.file "../logs" "other").place? = some "../logs/other.<date>" := by
  decide +kernel

end LogProcess

end ObjectBridge
