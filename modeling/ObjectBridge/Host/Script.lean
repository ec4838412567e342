import ObjectBridge.Host

/-!
# Scripts of classes

The common constructors and methods of host classes, as data: constructors that
fill attributes from arguments, methods that read or write one attribute, keep a
list, or give a fixed answer.

Main results:

- Definitions `ConstructorScript.run`, `MethodScript.run`: what a script does.
- Definition `HostClass.scripted`: the class of scripts.
-/

namespace ObjectBridge

/-- A common constructor. -/
inductive ConstructorScript where
  /-- The attributes are filled by position, then by name. -/
  | fill (attributes : List String)
  /-- One attribute holds the list of all arguments given by position. -/
  | collect (key : String)
  | raise (error : ForeignError)
deriving DecidableEq, Repr

/-- What a constructor of a class does. -/
def ConstructorScript.run (className : String) : ConstructorScript → Constructor
  | fill attributes, positional, keywords =>
    if attributes.length < positional.length then
      .error (.wrongType (s!"{className}() takes at most {attributes.length} arguments " ++
        s!"({positional.length} given)"))
    else .ok (Entries.ofList (attributes.zip positional ++ keywords))
  | collect key, positional, _ => .ok [(key, .list positional)]
  | raise e, _, _ => .error e

/-- A common method. -/
inductive MethodScript where
  /-- The values of attributes, each as a result. -/
  | read (attributes : List String)
  /-- One attribute is given the only argument. -/
  | write (key : String)
  | answer (results : List Value)
  | raise (error : ForeignError)
  /-- The arguments are added to the list an attribute holds. -/
  | push (key : String)
  /-- The length of the list an attribute holds. -/
  | length (key : String)
  /-- The arguments are given back. -/
  | echo
deriving Repr

namespace MethodScript

/-- The value of an attribute; missing when it was never written. -/
def valueOf (attributes : Attributes) (name : String) : Value :=
  (Entries.lookup name attributes).getD .none

/-- The list an attribute holds; empty when it holds anything else. -/
def itemsOf (attributes : Attributes) (name : String) : List Value :=
  ((Entries.lookup name attributes).bind Value.asList).getD []

/-- What a method of a name does. -/
def run (name : String) : MethodScript → HostMethod
  | read names, attributes, _ => (.ok (names.map (valueOf attributes)), attributes)
  | write key, attributes, [v] => (.ok [], Entries.insert key v attributes)
  | write _, attributes, arguments =>
    (.error (.wrongType s!"{name}() takes 1 argument ({arguments.length} given)"), attributes)
  | answer results, attributes, _ => (.ok results, attributes)
  | raise e, attributes, _ => (.error e, attributes)
  | push key, attributes, arguments =>
    (.ok [],
      Entries.insert key (.list (itemsOf attributes key ++ arguments)) attributes)
  | length key, attributes, _ =>
    (.ok [.int (Int64.ofNat (itemsOf attributes key).length)], attributes)
  | echo, attributes, arguments => (.ok arguments, attributes)

end MethodScript

/-- The class of scripts; of several methods with one name the last one counts. -/
def HostClass.scripted (name : String) (construct : Option ConstructorScript)
    (methods : List (String × MethodScript)) : HostClass where
  name := name
  construct := construct.map (ConstructorScript.run name)
  methods := Entries.ofList (methods.map fun m => (m.1, m.2.run m.1))

end ObjectBridge
