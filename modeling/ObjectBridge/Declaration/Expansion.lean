import ObjectBridge.Declaration.Settings

/-!
# Expansion of a declaration

A declaration is expanded into the interface itself, whose forwarding markers
are gone, a proxy, the metadata of the interface and a body for each forwarded
method, which passes its arguments on under the name of its operation.  A marker
on a constant is none of them and stays.

Main results:

- Definition `Declaration.expand`: the expansion, or the first fault in the order
  of the items.
-/

namespace ObjectBridge

/-- A method of the proxy: the operation it asks for, the type it expects and the arguments it
passes on. -/
structure Forwarding where
  name : String
  operation : String
  okType : String
  arguments : List String
deriving DecidableEq, Repr

/-- What a declaration is expanded into. -/
structure Expansion where
  /-- The interface as it stays, without forwarding markers. -/
  emitted : Declaration
  visibility : String
  proxy : String
  interface : Interface
  methods : List Forwarding
deriving DecidableEq, Repr

namespace Expansion

/-- The name of the interface. -/
def declared (x : Expansion) : String :=
  x.emitted.identifier

/-- The items of the interface that stay. -/
def items (x : Expansion) : List Item :=
  x.emitted.items

end Expansion

/-- What one item of a declaration is expanded into. -/
structure ExpandedItem where
  kept : Item
  operation : Option Operation
  forwarding : Option Forwarding

namespace Method

/-- The names of the arguments besides the object itself. -/
def argumentNames (m : Method) : Except DeclarationError (List String) :=
  (m.arguments.filter fun a => !a.isReceiver).mapM fun a =>
    match a.name? with
    | some name => .ok name
    | none => .error .unsupportedPattern

/-- The type a forwarded method yields on success. -/
def okType (m : Method) : Except DeclarationError String :=
  match m.result with
  | none => .error .noResult
  | some result =>
    match result.okType? with
    | some type => .ok type
    | none => .error .otherResult

/-- The method of the proxy for a forwarded method. -/
def forwarding (m : Method) (arguments : List String) : Except DeclarationError Forwarding := do
  if m.hasBody then .error .forwardedBody
  else if isGeneric m.generics then .error .forwardedGeneric
  else if m.isAsync then .error .forwardedAsync
  else if !m.takesSharedReference then .error .forwardedReceiver
  else .ok ⟨m.identifier, plainName m.identifier, ← m.okType, arguments⟩

/-- The operation of a method with its forwarding marker. -/
def operation (m : Method) (forward : Option Forward) (arity : Nat) : Operation :=
  ⟨plainName m.identifier, forward.bind Forward.name, arity, forward.isSome⟩

/-- The expansion of a method. -/
def expand (m : Method) : Except DeclarationError ExpandedItem := do
  let (forward, kept) ← takeForward none m.markers
  let arguments ← m.argumentNames
  let forwarding ←
    if forward.isSome then (m.forwarding arguments).map some
    else if m.hasBody then .ok none
    else .error (.missingBody m.identifier)
  .ok ⟨.method { m with markers := kept }, some (m.operation forward arguments.length), forwarding⟩

end Method

/-- The expansion of an item. -/
def Item.expand : Item → Except DeclarationError ExpandedItem
  | method m => m.expand
  | constant name true markers => .ok ⟨.constant name true markers, none, none⟩
  | _ => .error .unsupportedItem

namespace Declaration

/-- The name of the proxy, which is derived from that of the interface unless it is given. -/
def proxyName (d : Declaration) (settings : Settings) : String :=
  settings.proxy.getD (plainName d.identifier ++ "Proxy")

/-- The expansion of a declaration under its settings. -/
def expand (d : Declaration) (settings : Settings) : Except DeclarationError Expansion := do
  if isGeneric d.generics || d.hasWhereClause then .error .genericDeclaration
  else
    let items ← d.items.mapM Item.expand
    .ok {
      emitted := { d with items := items.map ExpandedItem.kept }
      visibility := d.visibilityText
      proxy := d.proxyName settings
      interface := ⟨d.identifier, settings.binding, items.filterMap ExpandedItem.operation⟩
      methods := items.filterMap ExpandedItem.forwarding }

end Declaration

end ObjectBridge
