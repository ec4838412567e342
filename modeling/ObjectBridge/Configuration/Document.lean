import ObjectBridge.Configuration
import ObjectBridge.Error
import ObjectBridge.Toml.Library

/-!
# Configuration documents

A configuration as a document of three tables, read and written.  Every key may
be missing and then keeps the value it has by default; keys that are not known
are passed over.  A table may also be given as an array of its fields in order.

Main results:

- Definition `Configuration.ofDocument`: the configuration of a document, or its
  first fault in the order of the document.
- Definition `Configuration.toDocument`: the document of a configuration, if all
  of its paths are texts.
- Definitions `Configuration.parse` and `Configuration.toText`: the same on the
  text of a document, by a library of documents.
-/

namespace ObjectBridge

open Toml (Table)

namespace Configuration

/-! ## Fields -/

/-- A fault of a value that stands where another one is expected. -/
def unexpected {α : Type} (v : Toml.Value) (expected : String) : Except DecodeFault α :=
  .error (.invalidType v.found expected)

/-- A flag. -/
def readFlag : Toml.Value → Except DecodeFault Bool
  | .boolean b => .ok b
  | v => unexpected v "a boolean"

/-- A text. -/
def readText : Toml.Value → Except DecodeFault String
  | .string s => .ok s
  | v => unexpected v "a string"

/-- A path. -/
def readPath : Toml.Value → Except DecodeFault Path
  | .string s => .ok (.ofText s)
  | v => unexpected v "path string"

/-- A list of paths. -/
def readPaths (v : Toml.Value) : Except DecodeFault (List Path) :=
  match v.items? with
  | some items => items.mapM readPath
  | none => unexpected v "a sequence"

/-- The mode of a name. -/
def modeOfName (name : String) : Except DecodeFault StateMode :=
  match StateMode.ofName? name with
  | some mode => .ok mode
  | none => .error (.unknownVariant name StateMode.names)

/-- A mode, given by its name or by a table with its name as the only key. -/
def readMode : Toml.Value → Except DecodeFault StateMode
  | .string name => modeOfName name
  | .table [] => .error .choiceEmpty
  | .table [(name, content)] => do
    let mode ← modeOfName name
    match content with
    | .table [] | .array [] => .ok mode
    | .table _ | .array _ => .error .choiceTable
    | .tables _ => .error .choiceArray
    | v => .error (.choiceContent v.typeName)
  | .table _ => .error .choiceSeveral
  | _ => .error .choiceType

/-! ## Records -/

/-- A field of a record: its key, and how its value changes the record. -/
structure Field (σ : Type) where
  key : String
  read : Toml.Value → σ → Except DecodeFault σ

/-- The record with the entries of a table, one after another. -/
def readEntries {σ : Type} (fields : List (Field σ)) : Table → σ → Except DecodeFault σ
  | [], record => .ok record
  | (key, v) :: rest, record =>
    match fields.find? fun field => field.key == key with
    | some field => do readEntries fields rest (← field.read v record)
    | none => readEntries fields rest record

/-- The record with the items of an array as its fields in order. -/
def readItems {σ : Type} : List (Field σ) → List Toml.Value → σ → Except DecodeFault σ
  | field :: fields, v :: rest, record => do readItems fields rest (← field.read v record)
  | _, _, record => .ok record

/-- A record, which starts with every field at its default. -/
def readRecord {σ : Type} (name : String) (fields : List (Field σ)) (default : σ) :
    Toml.Value → Except DecodeFault σ
  | .table entries => readEntries fields entries default
  | .datetime _ => .ok default
  | v =>
    match v.items? with
    | some items => readItems fields items default
    | none => unexpected v s!"struct {name}"

/-- The field of the state table. -/
def stateFields : List (Field StateMode) :=
  [⟨"mode", fun v _ => readMode v⟩]

/-- The fields of the table of paths. -/
def pathFields : List (Field PathSettings) :=
  [⟨"include_install_dir", fun v s => do return { s with includeInstallDir := ← readFlag v }⟩,
    ⟨"install_dir", fun v s => do return { s with installDir := some (← readPath v) }⟩,
    ⟨"env_var", fun v s => do return { s with pathVariable := ← readText v }⟩,
    ⟨"extra", fun v s => do return { s with extra := ← readPaths v }⟩]

/-- The field of the table of instantiation. -/
def instantiationFields : List (Field Bool) :=
  [⟨"check_arity", fun v _ => readFlag v⟩]

/-- The tables of a configuration. -/
def tables : List (Field Configuration) :=
  [⟨"state", fun v c => do
      return { c with mode := ← readRecord "StateConfig" stateFields default.mode v }⟩,
    ⟨"paths", fun v c => do
      return { c with paths := ← readRecord "PathsConfig" pathFields default.paths v }⟩,
    ⟨"instantiation", fun v c => do
      let checkArity ← readRecord "InstantiationConfig" instantiationFields default.checkArity v
      return { c with checkArity }⟩]

/-! ## Documents -/

/-- The configuration of a document. -/
def ofDocument (document : Table) : Except DecodeFault Configuration :=
  readEntries tables document default

/-- The configuration of the text of a document. -/
def parse [Toml.Library] (text : String) : Except BridgeError Configuration :=
  match Toml.Library.read text with
  | none => .error (.configuration "config" (.unparsed none))
  | some document =>
    match ofDocument document with
    | .ok c => .ok c
    | .error fault => .error (.configuration "config" (.unparsed (some fault)))

/-- The document of a configuration, if all of its paths are texts. -/
def toDocument (c : Configuration) : Option Table := do
  let installDir ← c.paths.installDir.mapM Path.text?
  let extra ← c.paths.extra.mapM Path.text?
  some
    [("state", .table [("mode", .string c.mode.name)]),
      ("paths", .table <|
        [("include_install_dir", .boolean c.paths.includeInstallDir)] ++
        (installDir.map fun s => ("install_dir", Toml.Value.string s)).toList ++
        [("env_var", .string c.paths.pathVariable),
          ("extra", .array (extra.map .string))]),
      ("instantiation", .table [("check_arity", .boolean c.checkArity)])]

/-- The text of the document of a configuration. -/
def toText [Toml.Library] (c : Configuration) : Except BridgeError String :=
  match c.toDocument with
  | some document => .ok (Toml.Library.write document)
  | none => .error (.configuration "config" .unwritablePath)

end Configuration

end ObjectBridge
