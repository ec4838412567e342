import ObjectBridge.Path

/-!
# Configuration

How a bridge keys its interpreter states, which paths it adds to the search path
of a new state, and whether it checks the number of constructor arguments.

Main results:

- Definition `PathSettings.candidates`: the paths in the order of their sources.
- Definition `PathSettings.resolve`: the candidates, each path once.
-/

namespace ObjectBridge

/-- How interpreter states are keyed. -/
inductive StateMode where
  /-- One state for all interfaces. -/
  | shared
  /-- One state for each interface or native target type. -/
  | perInterface
deriving DecidableEq, Repr

namespace StateMode

/-- The name of a mode in a configuration. -/
def name : StateMode → String
  | shared => "shared"
  | perInterface => "per_interface"

/-- The names of all modes. -/
def names : List String :=
  [shared.name, perInterface.name]

/-- The mode of a name. -/
def ofName? (text : String) : Option StateMode :=
  [shared, perInterface].find? fun mode => mode.name == text

/-- The description of a mode in a log. -/
def describe : StateMode → String
  | shared => "Shared"
  | perInterface => "PerInterface"

end StateMode

/-! ## Search path -/

/-- What the search path of a new state is made of. -/
structure PathSettings where
  /-- Whether the installation directory is added. -/
  includeInstallDir : Bool
  /-- The installation directory, if it is not the detected one. -/
  installDir : Option Path
  /-- The environment variable with further paths; no variable when empty. -/
  pathVariable : String
  /-- Paths added at the end. -/
  extra : List Path
deriving DecidableEq, Repr

/-- What the process around the bridge supplies: the directory of its program, and the values of
its environment variables. -/
structure Environment where
  programDir : Option Path
  valueOf : String → Option (List UInt8)

namespace PathSettings

/-- The environment variable that is read unless another one is named. -/
def defaultVariable : String := "PYPROXY_PATH"

/-- The settings that apply when none are given. -/
def default : PathSettings :=
  ⟨true, none, defaultVariable, []⟩

/-- The settings under which nothing around the bridge is consulted. -/
def isolated : PathSettings :=
  ⟨false, none, "", []⟩

/-- The installation directory, if it is wanted and known. -/
def installEntries (s : PathSettings) (env : Environment) : List Path :=
  if s.includeInstallDir then (s.installDir.or env.programDir).toList else []

/-- The paths of the environment variable, if one is named and set. -/
def variableEntries (s : PathSettings) (env : Environment) : List Path :=
  if s.pathVariable = "" then []
  else
    match env.valueOf s.pathVariable with
    | some raw => Path.splitList raw
    | none => []

/-- All paths in the order of their sources. -/
def candidates (s : PathSettings) (env : Environment) : List Path :=
  s.installEntries env ++ s.variableEntries env ++ s.extra

/-- The paths for a new state, each once and as it was first spelled. -/
def resolve (s : PathSettings) (env : Environment) : List Path :=
  Path.addAll [] (s.candidates env)

end PathSettings

/-! ## The whole configuration -/

/-- The configuration of a bridge. -/
structure Configuration where
  mode : StateMode
  paths : PathSettings
  checkArity : Bool
deriving DecidableEq, Repr

namespace Configuration

/-- The configuration that applies when none is given. -/
def default : Configuration :=
  ⟨.perInterface, .default, true⟩

/-- The configuration under which nothing around the bridge is consulted. -/
def isolated : Configuration :=
  { default with paths := .isolated }

end Configuration

end ObjectBridge
