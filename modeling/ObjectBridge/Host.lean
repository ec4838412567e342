import ObjectBridge.Entries
import ObjectBridge.Interpreter
import ObjectBridge.Text.Address
import ObjectBridge.Text.Segments
import ObjectBridge.Value.Description

/-!
# The scripted host

The scripted host is an interpreter without a language: modules and classes are
given by functions, and an instance is its class and its attributes.  It answers
every request as a language would: the importer returns the first package of a
module, classes are called, methods return any number of results.  Every request
is counted.

Main results:

- Definition `Host.perform`: the answer to a request.
- Definition `Host.interpreter`: the host as an interpreter.
-/

namespace ObjectBridge

/-! ## Classes and objects -/

/-- The attributes of an instance. -/
abbrev Attributes := Entries Value

/-- A constructor: the attributes of a new instance for arguments by position and by name. -/
abbrev Constructor := List Value → List (String × Value) → Except ForeignError Attributes

/-- A method: its results for attributes and arguments, and the attributes it leaves. -/
abbrev HostMethod := Attributes → List Value → Except ForeignError (List Value) × Attributes

/-- A class of the host.  Without a constructor it takes no arguments. -/
structure HostClass where
  name : String
  construct : Option Constructor
  methods : Entries HostMethod

namespace HostClass

/-- The attributes of a new instance. -/
def instantiate (c : HostClass) : Constructor := fun positional keywords =>
  match c.construct with
  | some construct => construct positional keywords
  | none =>
    if positional.isEmpty && keywords.isEmpty then .ok []
    else .error (.wrongType s!"{c.name}() takes no arguments")

/-- The description of a class. -/
def describe (c : HostClass) : String :=
  let methods := Text.bracketed ((Entries.keys c.methods).map Text.quoted)
  s!"HostClass \x7b name: {Text.quoted c.name}, methods: {methods} \x7d"

end HostClass

/-- What an object of the host is. -/
inductive HostObject where
  | data (v : Value)
  | classObject (c : HostClass)
  | instanceOf (c : HostClass) (attributes : Attributes)
  | module (name : String)
  | importer

/-- The type name of an object. -/
def HostObject.typeName : HostObject → String
  | data v => v.typeName
  | classObject _ => "type"
  | instanceOf c _ => c.name
  | module _ => "module"
  | importer => "builtin_function_or_method"

/-- The description of an instance. -/
def describeInstance (c : HostClass) (attributes : Attributes) : String :=
  let attributes := describeEntries (Value.describeFields attributes)
  Text.masked s!"HostInstance \x7b class: {Text.quoted c.name}, attrs: {attributes} \x7d"

/-- The host: its modules, the objects by their handles, the search path of each state, and what it
counts.  A handle without an object belongs to another host. -/
structure Host where
  modules : Entries (Entries HostClass)
  objects : Array (Option HostObject)
  searchPaths : Array (List Path)
  interactions : Nat
  pathExtensions : Nat
  refusing : Bool

/-- A step of the host that ends in an answer or an exception. -/
abbrev HostAction (α : Type) := ExceptT ForeignError (StateM Host) α

namespace Host

/-- The host without modules. -/
def empty : Host := ⟨[], #[], #[], 0, 0, false⟩

/-- The number of states made. -/
def statesCreated (h : Host) : Nat :=
  h.searchPaths.size

/-! ## Modules -/

/-- The host with classes added to a module; a class replaces one of its name. -/
def defineModule (h : Host) (name : String) (classes : List HostClass) : Host :=
  let module := (Entries.lookup name h.modules).getD []
  let module := classes.foldl (fun m c => Entries.insert c.name c m) module
  { h with modules := Entries.insert name module h.modules }

/-- Whether a name is that of a module or of a package around one. -/
def isModule (h : Host) (name : String) : Bool :=
  h.modules.any fun entry => entry.1 == name || (name ++ ".").toList.isPrefixOf entry.1.toList

/-- The class of a name in a module. -/
def class? (h : Host) (module name : String) : Option HostClass :=
  (Entries.lookup module h.modules).bind (Entries.lookup name)

/-! ## Objects -/

/-- The object behind a handle, if it is one of this host. -/
def object? (h : Host) (o : ForeignObject) : Option HostObject :=
  h.objects[o.handle]?.join

/-- A handle of another host. -/
def alien (h : Host) (typeName : String) : ForeignObject × Host :=
  (⟨h.objects.size, typeName⟩, { h with objects := h.objects.push none })

/-- The host with another object behind a handle. -/
def put (h : Host) (o : ForeignObject) (x : HostObject) : Host :=
  { h with objects := h.objects.setIfInBounds o.handle (some x) }

/-- A new handle for an object. -/
def make (x : HostObject) : HostAction ForeignObject :=
  modifyGet fun h =>
    (⟨h.objects.size, x.typeName⟩, { h with objects := h.objects.push (some x) })

/-- The object behind a handle. -/
def find (o : ForeignObject) : HostAction HostObject := do
  match (← get).object? o with
  | some x => return x
  | none => throw (.wrongType s!"object of type '{o.typeName}' does not belong to this host")

/-- The value of an object: the data it wraps, or the object itself. -/
def valueOf (o : ForeignObject) : HostAction Value := do
  match ← find o with
  | .data v => return v
  | _ => return .object o

/-- An object for a value.  A number that is not finite cannot be stored. -/
def store (v : Value) : HostAction ForeignObject :=
  match v with
  | .object o => return o
  | .float x =>
    if x.isFinite then make (.data v)
    else throw ⟨"ValueError", s!"cannot store non-finite float {x.plainText}"⟩
  | v => make (.data v)

/-! ## Requests -/

/-- Every request is counted before anything else happens. -/
def touch : HostAction Unit :=
  modify fun h => { h with interactions := h.interactions + 1 }

/-- A new state. -/
def createState : HostAction StateToken := do
  if (← get).refusing then throw ⟨"SystemError", "state creation refused"⟩
  modifyGet fun h => (⟨h.searchPaths.size⟩, { h with searchPaths := h.searchPaths.push [] })

/-- Paths added to the search path of a state. -/
def extendSearchPath (s : StateToken) (entries : List Path) : HostAction Unit :=
  modify fun h =>
    { h with
      pathExtensions := h.pathExtensions + 1
      searchPaths := h.searchPaths.modify s.index fun paths => Path.addAll paths entries }

/-- The name of the importer. -/
def importerName : String := "__import__"

/-- An object known by name. -/
def builtin (name : String) : HostAction ForeignObject :=
  if name = importerName then make .importer
  else throw ⟨"NameError", s!"name '{name}' is not defined"⟩

/-- The first package of the module that is named by the first argument. -/
def importModule (positional : List ForeignObject) : HostAction ForeignObject := do
  let argument ← positional.head?.mapM valueOf
  match argument with
  | some (.str name) =>
    if (← get).isModule name then make (.module ((Text.textSegments '.' name).headD name))
    else throw (.missingModule name)
  | _ => throw (.wrongType "__import__() argument 1 must be str")

/-- A call of an object. -/
def call (callable : ForeignObject) (arguments : Arguments) : HostAction ForeignObject := do
  match ← find callable with
  | .importer => importModule arguments.positional
  | .classObject c =>
    let positional ← arguments.positional.mapM valueOf
    let keywords ← arguments.keywords.mapM fun entry => return (entry.1, ← valueOf entry.2)
    let attributes ← c.instantiate positional keywords
    make (.instanceOf c attributes)
  | _ => throw (.wrongType s!"'{callable.typeName}' object is not callable")

/-- An attribute of an object: a class or a submodule of a module, a value of an instance. -/
def getAttribute (o : ForeignObject) (name : String) : HostAction ForeignObject := do
  match ← find o with
  | .module module =>
    let h ← get
    let submodule := module ++ "." ++ name
    match h.class? module name with
    | some c => make (.classObject c)
    | none =>
      if h.isModule submodule then make (.module submodule)
      else throw ⟨"AttributeError", s!"module '{module}' has no attribute '{name}'"⟩
  | .instanceOf c attributes =>
    match Entries.lookup name attributes with
    | some (.object inner) => return inner
    | some v => make (.data v)
    | none => throw (.missingAttribute c.name name)
  | _ => throw (.missingAttribute o.typeName name)

/-- An object for one result of a method, which is counted like a request. -/
def storeResult (v : Value) : HostAction ForeignObject := do
  touch
  store v

/-- A call of a method of an instance.  The attributes it leaves are kept even when it fails. -/
def callMethod (o : ForeignObject) (name : String) (positional : List ForeignObject) :
    HostAction (List ForeignObject) := do
  match ← find o with
  | .instanceOf c attributes =>
    match Entries.lookup name c.methods with
    | none => throw (.missingAttribute c.name name)
    | some method =>
      let arguments ← positional.mapM valueOf
      let (outcome, attributes) := method attributes arguments
      modify fun h => h.put o (.instanceOf c attributes)
      let results ← outcome
      results.mapM storeResult
  | _ => throw (.missingAttribute o.typeName name)

/-- The structure of an object: the data it wraps, or the attributes of an instance. -/
def coerce (o : ForeignObject) : HostAction Value := do
  match ← find o with
  | .data v => return v
  | .instanceOf _ attributes => return .map attributes
  | _ => throw (.wrongType s!"'{o.typeName}' object has no native form")

/-- The answer to a request that is counted already. -/
def grant : (r : Request) → HostAction r.Answer
  | .createState => createState
  | .extendSearchPath s entries => extendSearchPath s entries
  | .searchPath s => return (← get).searchPaths.getD s.index []
  | .builtin _ name => builtin name
  | .call _ callable arguments => call callable arguments
  | .getAttribute _ o name => getAttribute o name
  | .callMethod _ o name positional => callMethod o name positional
  | .toForeign _ v => store v
  | .toNative _ o => valueOf o
  | .coerce _ o => coerce o

/-- The answer to a request. -/
def perform (r : Request) : HostAction r.Answer := do
  touch
  grant r

/-- The host as an interpreter.  Its clock stands still. -/
def interpreter : Interpreter Host where
  name := "scripted"
  perform r h := perform r h
  clock _ := .zero

end Host

end ObjectBridge
