import ObjectBridge.Text.Quoted
import ObjectBridge.Trace

/-!
# Settings of a log

A log has a level, a format, an output and a filter, and may show the spans of
forwarded calls.  There are settings for development and for production beside
the ones that apply when none are given.

Main results:

- Definitions `LogSettings.default`, `LogSettings.development` and
  `LogSettings.production`: settings for a purpose.
-/

namespace ObjectBridge

/-- The format of a log. -/
inductive LogFormat where
  /-- Several lines for each notice. -/
  | pretty
  /-- One line for each notice. -/
  | compact
  /-- One record for each notice. -/
  | json
deriving DecidableEq, Repr

namespace LogFormat

/-- The description of a format. -/
def describe : LogFormat → String
  | pretty => "Pretty"
  | compact => "Compact"
  | json => "Json"

/-- The format of a name in lower case. -/
def ofName? (text : String) : Option LogFormat :=
  [pretty, compact, json].find? fun format => format.describe.toLower == text

end LogFormat

/-- Where a log goes. -/
inductive LogOutput where
  | stdout
  | stderr
  /-- A file for each day, in a directory. -/
  | file (directory stem : String)
deriving DecidableEq, Repr

/-- The description of an output. -/
def LogOutput.describe : LogOutput → String
  | stdout => "Stdout"
  | stderr => "Stderr"
  | file directory stem =>
    s!"File \x7b directory: {Text.quoted directory}, prefix: {Text.quoted stem} \x7d"

/-- The settings of a log. -/
structure LogSettings where
  level : Level
  format : LogFormat
  output : LogOutput
  spanEvents : Bool
  filter : Option String
deriving DecidableEq, Repr

namespace LogSettings

/-- The settings that apply when none are given. -/
def default : LogSettings :=
  ⟨.info, .pretty, .stderr, false, none⟩

/-- Settings for development: verbose, with the spans of calls. -/
def development : LogSettings :=
  ⟨.debug, .pretty, .stderr, true, some "pyproxy=debug"⟩

/-- Settings for production: records in daily files of a directory. -/
def production (directory : String) : LogSettings :=
  ⟨.info, .json, .file directory "pyproxy", false, some "pyproxy=info,warn"⟩

end LogSettings

end ObjectBridge
