import ObjectBridge.Logging.Format
import ObjectBridge.Logging.Library

/-!
# The log of a process

A process has at most one log.  The first one that is set up stays; setting up
another one has no effect on it, but the file of its output is made all the same.
What is reported before there is a log is lost.

Main results:

- Definition `LogSettings.buildFilter`: the filter of an environment variable and
  settings.
- Definition `LogProcess.setUp`: a log is set up, unless there is one.
- Definition `LogProcess.receive`: an entry of a trace reaches the log.
-/

namespace ObjectBridge

/-! ## The filter of a log -/

namespace LogSettings

/-- The texts between the commas of the filter of some settings, without the blanks around them and
without those that are nothing else. -/
def directiveTexts (s : LogSettings) : List String :=
  match s.filter with
  | none => []
  | some text => ((Text.textSegments ',' text).map Text.trimText).filter fun piece => piece ≠ ""

/-- A filter with the directive of one more text, if it is the text of one. -/
def addText [FilterLibrary] (f : FilterLibrary.Filter) (text : String) : FilterLibrary.Filter :=
  match FilterLibrary.parse text with
  | some rule => FilterLibrary.addRule f rule
  | none => f

/-- The filter of an environment variable and settings: that of the variable, with the level of the
settings and then with their directives. -/
def buildFilter [FilterLibrary] (variableText : Option String) (s : LogSettings) :
    FilterLibrary.Filter :=
  s.directiveTexts.foldl addText
    (FilterLibrary.addRule (FilterLibrary.ofVariable variableText) (FilterLibrary.ofLevel s.level))

/-- The texts in the filter of some settings that are no directives. -/
def ignored [FilterLibrary] (s : LogSettings) : List String :=
  s.directiveTexts.filter fun text => (FilterLibrary.parse text).isNone

end LogSettings

/-! ## What is written -/

/-- What a process wrote: to its two streams, and to files by their places. -/
structure Written where
  stdout : List LogLine
  stderr : List LogLine
  places : Entries (List LogLine)

namespace Written

/-- The files below the directory of the process. -/
def files (w : Written) : Entries (List LogLine) :=
  w.places.filter fun entry => (Path.ofText entry.1).below?.isSome

/-- Lines written to an output. -/
def write [RollingFiles] (w : Written) (lines : List LogLine) : LogOutput → Written
  | .stdout => { w with stdout := w.stdout ++ lines }
  | .stderr => { w with stderr := w.stderr ++ lines }
  | .file directory stem =>
    let place := RollingFiles.place directory stem
    let held := (Entries.lookup place w.places).getD []
    { w with places := Entries.insert place (held ++ lines) w.places }

/-- The file of an output is there, even if nothing is written to it. -/
def prepare [RollingFiles] (w : Written) (output : LogOutput) : Written :=
  w.write [] output

end Written

/-! ## The log of a process -/

/-- A log that is set up. -/
structure Log [FilterLibrary] where
  format : LogFormat
  output : LogOutput
  spanEvents : Bool
  filter : FilterLibrary.Filter

/-- A process: its log, what it wrote, and the span it is in. -/
structure LogProcess [FilterLibrary] where
  log : Option Log
  written : Written
  span : Option CallSpan

namespace LogProcess

variable [FilterLibrary] [RollingFiles]

/-- A process without a log. -/
def new : LogProcess :=
  ⟨none, ⟨[], [], []⟩, none⟩

/-- A report is written into the log, if there is one and a condition on it holds. -/
def writeIf (p : LogProcess) (condition : Log → Bool) (r : Report) : LogProcess :=
  match p.log with
  | none => p
  | some log =>
    if condition log then
      { p with written := p.written.write (r.lines log.format) log.output }
    else p

/-- A report reaches the log, which may let it through. -/
def report (p : LogProcess) (r : Report) : LogProcess :=
  let fields := "message" :: r.fields.map Prod.fst
  p.writeIf (fun log => FilterLibrary.allowsInside log.filter r.span r.level r.target fields) r

/-- Whether the log lets a span through. -/
def shows (p : LogProcess) (s : CallSpan) : Bool :=
  p.log.any fun log => FilterLibrary.allowsSpan log.filter s

/-- A report about a span, if the log lets the span through and wants reports about spans. -/
def reportSpan (p : LogProcess) (s : CallSpan) (r : Report) : LogProcess :=
  p.writeIf (fun log => log.spanEvents && FilterLibrary.allowsSpan log.filter s) r

/-- An entry of a trace reaches the log. -/
def receive (p : LogProcess) : TraceEntry → LogProcess
  | .notice n => p.report (.ofNotice n (p.span.filter p.shows))
  | .elsewhere n => p.report (.ofNotice n none)
  | .opened s => { p.reportSpan s (.opening s) with span := some s }
  | .entered => p
  | .left =>
    match p.span with
    | some s => { p.reportSpan s (.closing s) with span := none }
    | none => p

/-- A trace reaches the log. -/
def receiveAll (p : LogProcess) (trace : List TraceEntry) : LogProcess :=
  trace.foldl receive p

/-- A log is set up, unless there is one.  Complaints about the environment variable go to the error
stream, those about the filter of the settings to the log that is there already. -/
def setUp (p : LogProcess) (variableText : Option String) (s : LogSettings) : Bool × LogProcess :=
  let complaints := (FilterLibrary.complaints variableText).flatMap Report.textLines
  let p := { p with written := (p.written.prepare s.output).write complaints .stderr }
  let p := p.receiveAll (s.ignored.map fun d => .notice (.directiveIgnored d))
  match p.log with
  | some _ => (false, p.receive (.notice .subscriberPresent))
  | none =>
    (true, { p with log := some ⟨s.format, s.output, s.spanEvents, s.buildFilter variableText⟩ })

end LogProcess

end ObjectBridge
