import ObjectBridge.Error
import ObjectBridge.Text.Blank
import ObjectBridge.Text.Segments
import ObjectBridge.Value

/-!
# Bindings

A binding names the module and the class of the interpreter that stand behind a
native interface, and may declare the kinds of the constructor's arguments.

Main results:

- Definition `Binding.validate`: no segment of the module name and not the class
  name is blank.
- Theorem `Binding.checkArity_eq_ok_iff`: the number of arguments is free as long
  as no kinds are declared.
-/

namespace ObjectBridge

/-- The module and class behind an interface, with the declared kinds of constructor arguments. -/
structure Binding where
  moduleName : String
  className : String
  argumentKinds : List Kind
deriving DecidableEq, Repr

namespace Binding

/-- The name of the class with its module. -/
def qualifiedName (b : Binding) : String :=
  b.moduleName ++ "." ++ b.className

/-- The segments of the module name between its dots. -/
def moduleSegments (b : Binding) : List String :=
  Text.textSegments '.' b.moduleName

/-- Whether both names are present, on behalf of an interface. -/
def validate (b : Binding) (interface : String) : Except BridgeError Unit :=
  if Text.isBlankText b.moduleName then .error (.configuration interface .emptyModuleName)
  else if b.moduleSegments.any Text.isBlankText then
    .error (.configuration interface (.malformedModuleName b.moduleName))
  else if Text.isBlankText b.className then .error (.configuration interface .emptyClassName)
  else .ok ()

/-- Whether the number of constructor arguments fits the declaration, if there is one. -/
def checkArity (b : Binding) (supplied : Nat) : Except BridgeError Unit :=
  let declared := b.argumentKinds.length
  if declared = 0 ∨ declared = supplied then .ok ()
  else .error (.instantiation b.qualifiedName (.constructorArity declared supplied))

/-! ## Laws -/

/-- The number of arguments is free as long as no kinds are declared. -/
theorem checkArity_eq_ok_iff {b : Binding} {supplied : Nat} :
    b.checkArity supplied = .ok () ↔
      b.argumentKinds = [] ∨ b.argumentKinds.length = supplied := by
  unfold checkArity
  simp only [List.length_eq_zero_iff]
  split <;> simp_all

end Binding

end ObjectBridge
