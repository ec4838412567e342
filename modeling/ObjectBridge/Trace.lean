import ObjectBridge.Configuration
import ObjectBridge.State

/-!
# Traces

While it works the bridge leaves a trace: notices of what happened, and a span
around each call that is passed on to an object.  Other threads that work for it
leave notices too, which are told apart.  A notice is data; its level,
the part of the bridge it comes from, its message and its fields are functions
of it.

Main results:

- Definitions `Notice.level`, `Notice.origin`, `Notice.message` and
  `Notice.fields`: what a reader sees of a notice.
- Definition `CallSpan.fields`: what a reader sees of a span.
-/

namespace ObjectBridge

/-! ## Levels, origins and fields -/

/-- How important a notice is. -/
inductive Level where
  | error
  | warn
  | info
  | debug
  | trace
deriving DecidableEq, Repr

namespace Level

/-- The name of a level. -/
def name : Level → String
  | error => "ERROR"
  | warn => "WARN"
  | info => "INFO"
  | debug => "DEBUG"
  | trace => "TRACE"

/-- How verbose a level is, from one for errors to five. -/
def verbosity : Level → Nat
  | error => 1
  | warn => 2
  | info => 3
  | debug => 4
  | trace => 5

/-- All levels, from the most important one on. -/
def all : List Level :=
  [error, warn, info, debug, trace]

/-- The level of a name. -/
def ofName? (text : String) : Option Level :=
  all.find? fun level => level.name == text

end Level

/-- The parts of the bridge that leave traces. -/
inductive Origin where
  | binding
  | bridge
  | dispatch
  | instantiation
  | logging
  | proxy
  | registry
  | resolver
deriving DecidableEq, Repr

/-- The target an origin is filtered by. -/
def Origin.target : Origin → String
  | binding => "pyproxy::core::binding"
  | bridge => "pyproxy::frontend::bridge"
  | dispatch => "pyproxy::interop::dispatch"
  | instantiation => "pyproxy::runtime::instantiate"
  | logging => "pyproxy::infrastructure::logging"
  | proxy => "pyproxy::interop::proxy"
  | registry => "pyproxy::runtime::registry"
  | resolver => "pyproxy::runtime::resolver"

/-- The content of a field: a text or a number as such, or something in the form it is shown in. -/
inductive FieldValue where
  | text (s : String)
  | number (n : Nat)
  | shown (s : String)
deriving DecidableEq, Repr

/-- The fields of a notice or a span, by name and in order. -/
abbrev Fields := List (String × FieldValue)

/-! ## Spans -/

/-- The span around a call that is passed on to an object. -/
structure CallSpan where
  interface : String
  operation : String
  foreignName : String
  state : Nat
deriving DecidableEq, Repr

namespace CallSpan

/-- The name of the span. -/
def name (_ : CallSpan) : String := "dispatch"

/-- The level of the span. -/
def level (_ : CallSpan) : Level := .trace

/-- The part of the bridge the span comes from. -/
def origin (_ : CallSpan) : Origin := .dispatch

/-- The fields of the span. -/
def fields (s : CallSpan) : Fields :=
  [("interface", .text s.interface), ("operation", .text s.operation),
    ("foreign", .text s.foreignName), ("state", .number s.state)]

end CallSpan

/-! ## Notices -/

/-- Something that happened. -/
inductive Notice where
  | bridgeCreated (interpreter : String) (mode : StateMode)
  | bindingResolved (interface : Interface)
  | stateCreated (interpreter : String) (state : ManagedState)
  | statesReleased (interpreter : String) (count : Nat)
  | proxyTypeGenerated (interface : String) (forwarded : List String)
  | proxyGenerationFailed (interface : String) (error : BridgeError)
  | moduleResolved (state : Nat) (module : String)
  | classResolved (state : Nat) (className : String)
  | objectInstantiated (state : Nat) (className : String) (arguments : Nat)
  | nativeInstanceCreated (className target : String)
  | proxyInstanceCreated (interface className : String) (state : Nat)
  | operationFailed (operation subject : String) (error : BridgeError)
  | callReturned
  | callFailed (interface operation : String) (error : BridgeError)
  | directiveIgnored (directive : String)
  | subscriberPresent
deriving DecidableEq, Repr

namespace Notice

/-- The level of a notice. -/
def level : Notice → Level
  | stateCreated .. | statesReleased .. => .info
  | bridgeCreated .. | bindingResolved .. | proxyTypeGenerated .. | classResolved ..
  | objectInstantiated .. | nativeInstanceCreated .. | proxyInstanceCreated ..
  | subscriberPresent => .debug
  | proxyGenerationFailed .. | operationFailed .. | callFailed .. | directiveIgnored .. => .warn
  | moduleResolved .. | callReturned => .trace

/-- The part of the bridge a notice comes from. -/
def origin : Notice → Origin
  | bridgeCreated .. | nativeInstanceCreated .. | proxyInstanceCreated .. | operationFailed .. =>
    .bridge
  | bindingResolved .. => .binding
  | stateCreated .. | statesReleased .. => .registry
  | proxyTypeGenerated .. | proxyGenerationFailed .. => .proxy
  | moduleResolved .. | classResolved .. => .resolver
  | objectInstantiated .. => .instantiation
  | callReturned | callFailed .. => .dispatch
  | directiveIgnored .. | subscriberPresent => .logging

/-- The message of a notice. -/
def message : Notice → String
  | bridgeCreated .. => "bridge created"
  | bindingResolved .. => "resolved interface binding"
  | stateCreated .. => "created interpreter state"
  | statesReleased .. => "interpreter states released"
  | proxyTypeGenerated .. => "generated proxy type"
  | proxyGenerationFailed .. => "proxy generation failed"
  | moduleResolved .. => "module resolved"
  | classResolved .. => "class resolved"
  | objectInstantiated .. => "instantiated foreign object"
  | nativeInstanceCreated .. => "created native instance"
  | proxyInstanceCreated .. => "created proxy instance"
  | operationFailed .. => "bridge operation failed"
  | callReturned => "forwarded call returned"
  | callFailed .. => "forwarded call failed"
  | directiveIgnored directive => s!"Invalid filter directive: {directive}"
  | subscriberPresent => "global subscriber already installed"

/-- The description of something that may be absent. -/
def describeOptional (s : Option String) : String :=
  match s with
  | some s => s!"Some({Text.quoted s})"
  | none => "None"

/-- The fields of a notice. -/
def fields : Notice → Fields
  | bridgeCreated interpreter mode =>
    [("runtime", .text interpreter), ("mode", .shown mode.describe)]
  | bindingResolved i =>
    [("interface", .text i.name),
      ("binding", .shown (describeOptional (i.binding.map Binding.qualifiedName))),
      ("operations", .number i.operations.length)]
  | stateCreated interpreter s =>
    [("runtime", .text interpreter), ("state", .number s.id), ("key", .shown s.key.text),
      ("path_entries", .number s.injectedPath.length)]
  | statesReleased interpreter count =>
    [("runtime", .text interpreter), ("states", .number count)]
  | proxyTypeGenerated interface forwarded =>
    [("interface", .text interface),
      ("forwarded", .shown (Text.bracketed (forwarded.map Text.quoted)))]
  | proxyGenerationFailed interface e =>
    [("interface", .text interface), ("error", .shown e.message)]
  | moduleResolved state module => [("state", .number state), ("module", .text module)]
  | classResolved state className => [("state", .number state), ("class", .shown className)]
  | objectInstantiated state className arguments =>
    [("state", .number state), ("class", .shown className), ("args", .number arguments)]
  | nativeInstanceCreated className target =>
    [("class", .shown className), ("target", .text target)]
  | proxyInstanceCreated interface className state =>
    [("interface", .text interface), ("class", .shown className), ("state", .number state)]
  | operationFailed operation subject e =>
    [("operation", .text operation), ("subject", .text subject), ("kind", .text e.kind),
      ("error", .shown e.message)]
  | callFailed interface operation e =>
    [("interface", .text interface), ("operation", .text operation), ("error", .shown e.message)]
  | callReturned | directiveIgnored _ | subscriberPresent => []

end Notice

/-! ## Traces -/

/-- An entry of a trace: a notice, or a span that is opened, entered or left. -/
inductive TraceEntry where
  | notice (notice : Notice)
  /-- A notice that another thread left. -/
  | elsewhere (notice : Notice)
  | opened (span : CallSpan)
  | entered
  | left
deriving DecidableEq, Repr

namespace TraceEntry

/-- The entry as one that another thread left. -/
def toElsewhere : TraceEntry → TraceEntry
  | notice n => elsewhere n
  | entry => entry

/-- Whether the entry was left by the thread of the session itself. -/
def isOwn : TraceEntry → Bool
  | elsewhere _ => false
  | _ => true

end TraceEntry

end ObjectBridge
