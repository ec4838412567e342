import ObjectBridge.Logging.Settings
import ObjectBridge.Text.Address
import ObjectBridge.Text.Segments
import ObjectBridge.Value.Json

/-!
# Formats of a log

A report is a notice, or the opening or closing of a span, as it is written into
a log: with its level, its target, its fields and the span it lies in.  The time
of a report and the time spent in a span are left open.

Main results:

- Definition `Report.lines`: the lines of a report in a format.
-/

namespace ObjectBridge

/-- Something to be written into a log. -/
structure Report where
  level : Level
  target : String
  message : String
  fields : Fields
  /-- The names of times spent, whose amounts are left open. -/
  times : List String
  /-- The span the report lies in. -/
  span : Option CallSpan
  /-- Whether the report lies inside of the span, and is not about the span itself. -/
  isInside : Bool
deriving DecidableEq, Repr

/-- A line of a log: a text, or a record. -/
inductive LogLine where
  | text (s : String)
  | record (j : Json)
deriving Repr

namespace FieldValue

/-- The content of a field in a text. -/
def write : FieldValue → String
  | text s => Text.quoted s
  | number n => toString n
  | shown s => s

/-- The content of a field without addresses. -/
def masked : FieldValue → FieldValue
  | text s => .text (Text.masked s)
  | number n => .number n
  | shown s => .shown (Text.masked s)

/-- The content of a field as data.  What it is only shown as is shown without addresses. -/
def toJson : FieldValue → Json
  | text s => .str s
  | number n => .int (Int64.ofNat n)
  | shown s => .str (Text.masked s)

end FieldValue

namespace Report

/-- The report of a notice. -/
def ofNotice (n : Notice) (span : Option CallSpan) : Report :=
  ⟨n.level, n.origin.target, n.message, n.fields, [], span, span.isSome⟩

/-- A report about a span. -/
def ofSpan (s : CallSpan) (message : String) (times : List String) : Report :=
  ⟨s.level, s.origin.target, message, [], times, some s, false⟩

/-- The report that a span is opened. -/
def opening (s : CallSpan) : Report :=
  ofSpan s "new" []

/-- The report that a span is closed. -/
def closing (s : CallSpan) : Report :=
  ofSpan s "close" ["time.busy", "time.idle"]

/-! ## Texts -/

/-- A character of a message; characters that control a terminal are written by their code
points. -/
def escapedControl (c : Char) : List Char :=
  if c = '\x1b' ∨ c = '\x07' ∨ c = '\x08' ∨ c = '\x0c' ∨ c = '\x7f' then
    ['\\', 'x'] ++ (if c.toNat < 16 then ['0'] else []) ++ Text.hexadecimal c.toNat
  else if 0x80 ≤ c.toNat ∧ c.toNat ≤ 0x9f then
    ['\\', 'u', '\x7b'] ++ Text.hexadecimal c.toNat ++ ['\x7d']
  else [c]

/-- The message in a text. -/
def messageText (r : Report) : String :=
  String.ofList (r.message.toList.flatMap escapedControl)

/-- The level in a text, five columns wide. -/
def levelText (level : Level) : String :=
  String.ofList (List.replicate (5 - level.name.length) ' ') ++ level.name

/-- What stands for the time of a report. -/
def timeText : String := "<time>"

/-- Fields with a mark between name and content. -/
def writeFields (mark : String) (fields : Fields) : List String :=
  fields.map fun f => f.1 ++ mark ++ f.2.write

/-- The message with all fields and times. -/
def content (r : Report) (mark : String) : List String :=
  r.messageText :: writeFields mark r.fields ++ r.times.map fun name => name ++ mark ++ "_"

/-- The report in one line. -/
def compactText (r : Report) : String :=
  let scope := r.span.elim "" fun s => s.name ++ ": "
  let words := r.content "=" ++ writeFields "=" (r.span.elim [] CallSpan.fields)
  s!"{timeText} {levelText r.level} {scope}{r.target}: " ++ " ".intercalate words

/-- The report in several lines, the last one empty. -/
def prettyText (r : Report) : String :=
  let scope := r.span.toList.map fun s =>
    s!"    in {s.origin.target}::{s.name} with " ++ ", ".intercalate (writeFields ": " s.fields)
  let first :=
    s!"  {timeText} {levelText r.level} {r.target}: " ++ ", ".intercalate (r.content ": ")
  "\n".intercalate (first :: "    at <src>" :: scope ++ [""])

/-! ## Records -/

/-- A record of fields in any order. -/
def recordOf (fields : List (String × Json)) : Json :=
  .record (Entries.ofList fields)

/-- Fields in a record. -/
def fieldsJson (fields : Fields) : List (String × Json) :=
  fields.map fun f => (f.1, f.2.masked.toJson)

/-- A span in a record. -/
def spanJson (s : CallSpan) : Json :=
  recordOf (("name", .str s.name) :: fieldsJson s.fields)

/-- The report as a record, without times. -/
def toJson (r : Report) : Json :=
  let scope := match r.span with
    | none => []
    | some s =>
      let around := if r.isInside then [spanJson s] else []
      [("span", spanJson s), ("spans", .list around)]
  let fields := recordOf (("message", .str (Text.masked r.message)) :: fieldsJson r.fields)
  recordOf
    ([("level", .str r.level.name), ("target", .str r.target), ("fields", fields)] ++ scope)

/-- A line without a carriage return at its end, which counts as a part of the line break. -/
def withoutReturn (line : String) : String :=
  match line.toList.reverse with
  | '\r' :: before => String.ofList before.reverse
  | _ => line

/-- The lines of a text. -/
def textLines (s : String) : List LogLine :=
  (Text.textSegments '\n' (Text.masked s)).map fun line => .text (withoutReturn line)

/-- The lines of a report in a format. -/
def lines (r : Report) : LogFormat → List LogLine
  | .compact => textLines r.compactText
  | .pretty => textLines r.prettyText
  | .json => [.record r.toJson]

end Report

end ObjectBridge
