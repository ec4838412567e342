import ObjectBridge.Decoding.Fault
import ObjectBridge.Number.Decimal

/-!
# Errors

An interpreter fails with an exception: a kind and a message.  The bridge fails
with one of eight errors, each naming what it concerns and the cause.  A cause
is data; its wording is in `Cause.message` and the wording of an error in
`BridgeError.message`.

Main results:

- Definition `Cause.message`: the wording of every cause.
- Definition `BridgeError.message`: the wording of every error.
-/

namespace ObjectBridge

/-! ## Exceptions of the interpreter -/

/-- An exception raised inside the interpreter. -/
structure ForeignError where
  kind : String
  text : String
deriving DecidableEq, Repr

namespace ForeignError

/-- The exception as it is shown. -/
def message (e : ForeignError) : String :=
  s!"{e.kind}: {e.text}"

/-- A module that cannot be imported. -/
def missingModule (module : String) : ForeignError :=
  ⟨"ImportError", s!"No module named '{module}'"⟩

/-- An attribute that an object of some type does not have. -/
def missingAttribute (owner name : String) : ForeignError :=
  ⟨"AttributeError", s!"'{owner}' object has no attribute '{name}'"⟩

/-- An operation applied to the wrong type of object. -/
def wrongType (text : String) : ForeignError :=
  ⟨"TypeError", text⟩

end ForeignError

/-! ## Causes -/

/-- Why an operation of the bridge failed. -/
inductive Cause where
  /-- A reason put into words by the caller. -/
  | stated (text : String)
  /-- An exception of the interpreter. -/
  | raised (error : ForeignError)
  /-- An exception of the interpreter during a call of one of its methods. -/
  | raisedBy (error : ForeignError) (method : String)
  /-- A value of another type than the expected one. -/
  | expected (type : String)
  /-- An integer that the expected type does not hold. -/
  | outOfRange (n : Int) (type : String)
  /-- A float without a structural form. -/
  | notFinite (x : Double)
  /-- An object without a structural form. -/
  | noNativeForm
  /-- A part that could not be converted, with the name of its type. -/
  | unconvertible (typeName : String) (cause : Cause)
  /-- Structured data that does not fit the native type. -/
  | undecodable (fault : DecodeFault)
  /-- A binding without a module name. -/
  | emptyModuleName
  /-- A binding whose module name has a blank segment. -/
  | malformedModuleName (name : String)
  /-- A binding without a class name. -/
  | emptyClassName
  /-- An interface without a binding. -/
  | noBinding
  /-- A constructor given another number of arguments than declared. -/
  | constructorArity (declared supplied : Nat)
  /-- An operation that is not passed on to the object. -/
  | notForwarded
  /-- An operation given another number of arguments than declared. -/
  | operationArity (declared supplied : Nat)
  /-- Two different declarations of one operation. -/
  | conflictingOperation (name : String)
  /-- An operation passed on under a name that is no identifier. -/
  | invalidForeignName (operation foreign : String)
  /-- Two operations passed on under one name with different numbers of arguments. -/
  | foreignArity (first second foreign : String)
  /-- A configuration file that cannot be read. -/
  | unreadable (reason : String)
  /-- A configuration text that is no document, or a document with a fault. -/
  | unparsed (fault : Option DecodeFault)
  /-- A configuration with a path that is no text. -/
  | unwritablePath
deriving DecidableEq, Repr

/-- The wording of a cause. -/
def Cause.message : Cause → String
  | stated text => text
  | raised error => error.message
  | raisedBy error method => s!"{error.message} (foreign method '{method}')"
  | expected type => s!"expected {type}"
  | outOfRange n type => s!"{n} is out of range for {type}"
  | notFinite x => s!"{x.plainText} is not finite"
  | noNativeForm => "foreign object has no structural native form"
  | unconvertible typeName cause =>
    s!"cannot convert value of type '{typeName}': {cause.message}"
  | undecodable fault => fault.message
  | emptyModuleName => "binding has an empty module name"
  | malformedModuleName name => s!"malformed module name '{name}'"
  | emptyClassName => "binding has an empty class name"
  | noBinding => "interface carries no module/class binding"
  | constructorArity declared supplied =>
    s!"expected {declared} constructor arguments, got {supplied}"
  | notForwarded => "operation is not forwarded"
  | operationArity declared supplied => s!"expected {declared} arguments, got {supplied}"
  | conflictingOperation name => s!"conflicting declarations of operation '{name}'"
  | invalidForeignName operation foreign =>
    s!"operation '{operation}' maps to invalid foreign name '{foreign}'"
  | foreignArity first second foreign =>
    s!"operations '{first}' and '{second}' forward to '{foreign}' with different arity"
  | unreadable reason => s!"failed to read config: {reason}"
  | unparsed _ => "failed to parse config"
  | unwritablePath => "failed to serialize config: path contains invalid UTF-8 characters"

/-! ## Errors of the bridge -/

/-- A failed operation of the bridge. -/
inductive BridgeError where
  /-- Metadata or configuration that is missing or malformed. -/
  | configuration (subject : String) (cause : Cause)
  /-- A module or class that cannot be found. -/
  | lookup (target : String) (cause : Cause)
  /-- A class that cannot be instantiated. -/
  | instantiation (className : String) (cause : Cause)
  /-- A value without a form on the other side. -/
  | conversion (typeName : String) (cause : Cause)
  /-- An object that does not fit the native type asked for. -/
  | coercion (typeName target : String) (cause : Cause)
  /-- A forwarded call that failed. -/
  | invocation (interface operation : String) (cause : Cause)
  /-- An interface without a consistent dispatch table. -/
  | proxyGeneration (interface : String) (cause : Cause)
  /-- An interpreter state that cannot be created. -/
  | state (key : String) (cause : Cause)
deriving DecidableEq, Repr

namespace BridgeError

/-- The short name of the kind of an error. -/
def kind : BridgeError → String
  | configuration .. => "configuration"
  | lookup .. => "lookup"
  | instantiation .. => "instantiation"
  | conversion .. => "conversion"
  | coercion .. => "coercion"
  | invocation .. => "invocation"
  | proxyGeneration .. => "proxy_generation"
  | state .. => "state"

/-- The cause of an error. -/
def cause : BridgeError → Cause
  | configuration _ cause => cause
  | lookup _ cause => cause
  | instantiation _ cause => cause
  | conversion _ cause => cause
  | coercion _ _ cause => cause
  | invocation _ _ cause => cause
  | proxyGeneration _ cause => cause
  | state _ cause => cause

/-- The wording of an error. -/
def message : BridgeError → String
  | configuration subject cause => s!"configuration error for {subject}: {cause.message}"
  | lookup target cause => s!"cannot resolve '{target}': {cause.message}"
  | instantiation className cause => s!"cannot instantiate '{className}': {cause.message}"
  | conversion typeName cause => (Cause.unconvertible typeName cause).message
  | coercion typeName target cause => s!"cannot coerce '{typeName}' into {target}: {cause.message}"
  | invocation interface operation cause =>
    s!"call to {interface}.{operation} failed: {cause.message}"
  | proxyGeneration interface cause => s!"cannot generate proxy for {interface}: {cause.message}"
  | state key cause => s!"cannot create interpreter state {key}: {cause.message}"

end BridgeError

end ObjectBridge
