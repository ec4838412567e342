import ObjectBridge.Declaration.Token

/-!
# Declarations of interfaces

A native interface is declared as a list of methods and constants.  Markers on
the methods say which of them are forwarded, and the settings of the declaration
say which class of the interpreter stands behind it.

Main results:

- Definition `Argument.name?`: the name of an argument that is a plain name.
- Definition `ResultType.okType?`: the type a call yields when it succeeds.
- Definition `DeclarationError.message`: the wording of every fault of a
  declaration.
-/

namespace ObjectBridge

/-! ## Names -/

/-- A name without the mark that lets it be spelled like a keyword. -/
def plainName (name : String) : String :=
  match name.toList with
  | 'r' :: '#' :: rest => String.ofList rest
  | _ => name

/-! ## Settings and markers -/

/-- A setting in the parentheses behind a marker. -/
inductive Setting where
  /-- A key alone. -/
  | key (key : String)
  /-- A key with a text. -/
  | assign (key text : String)
  /-- A key with a name. -/
  | assignName (key name : String)
  /-- A key with names in parentheses. -/
  | group (key : String) (names : List String)
deriving DecidableEq, Repr

/-- Lists of tokens with commas between them. -/
def withCommas (parts : List (List Token)) : List Token :=
  [Token.mark ","].intercalate parts

/-- The tokens of a setting. -/
def Setting.tokens : Setting → List Token
  | key k => ObjectBridge.tokens k
  | assign k text => ObjectBridge.tokens k ++ [.mark "=", .ofText text]
  | assignName k name => ObjectBridge.tokens k ++ .mark "=" :: ObjectBridge.tokens name
  | group k names =>
    ObjectBridge.tokens k ++
      .mark "(" :: withCommas (names.map ObjectBridge.tokens) ++ [.mark ")"]

/-- A marker on an item of a declaration. -/
inductive Marker where
  /-- A marker as it is written. -/
  | plain (text : String)
  /-- A marker with settings. -/
  | withSettings (path : String) (settings : List Setting)
  /-- A marker with a text. -/
  | assign (path text : String)
deriving DecidableEq, Repr

namespace Marker

/-- The tokens of a marker. -/
def tokens : Marker → List Token
  | plain text => ObjectBridge.tokens text
  | withSettings path settings =>
    ObjectBridge.tokens path ++
      .mark "(" :: withCommas (settings.map Setting.tokens) ++ [.mark ")"]
  | assign path text => ObjectBridge.tokens path ++ [.mark "=", .ofText text]

/-- Whether a token belongs to a path. -/
def isOfPath : Token → Bool
  | .name _ => true
  | t => t == .mark "::"

/-- The path of a marker. -/
def path (m : Marker) : String :=
  spell (m.tokens.takeWhile isOfPath)

/-- The tokens of a marker behind its path. -/
def behind (m : Marker) : List Token :=
  m.tokens.dropWhile isOfPath

end Marker

/-! ## Methods -/

/-- An argument of a method: a pattern and a type. -/
structure Argument where
  pattern : String
  type : String
deriving DecidableEq, Repr

namespace Argument

/-- The words in front of a name that say how it is bound. -/
def isBindingWord (t : Token) : Bool :=
  t == .name "ref" || t == .name "mut"

/-- Names that are patterns of their own. -/
def isFixedPattern (name : String) : Bool :=
  ["_", "true", "false", "Self", "super", "crate"].contains name

/-- Whether the argument is the object itself. -/
def isReceiver (a : Argument) : Bool :=
  (unmarkedTokens a.pattern).dropWhile (· == .name "mut") == [.name "self"]

/-- The name an argument is bound to, if its pattern is a plain name, perhaps with a pattern of its
own behind it. -/
def name? (a : Argument) : Option String :=
  match (unmarkedTokens a.pattern).dropWhile isBindingWord with
  | [.name n] => if isFixedPattern n then none else some n
  | .name n :: .mark "@" :: _ => some n
  | _ => none

end Argument

/-- The type a method returns. -/
inductive ResultType where
  /-- A path of names, with generic arguments behind the last one. -/
  | path (segments : List String) (arguments : List String)
  /-- A type of any other form. -/
  | other (text : String)
deriving DecidableEq, Repr

namespace ResultType

/-- The text of a type. -/
def text : ResultType → String
  | path segments arguments =>
    let behind := if arguments = [] then "" else "<" ++ ", ".intercalate arguments ++ ">"
    "::".intercalate segments ++ behind
  | other text => text

/-- The last name of a path of names with the generic arguments behind it, read in a number of
steps. -/
def lastSegment? : (steps : Nat) → List Token → Option (String × List Token)
  | 0, _ => none
  | _, [.name n] => some (n, [])
  | steps + 1, .name n :: ts =>
    let bracket := match ts with
      | .mark "<" :: inside => angled 0 0 inside
      | .mark "::" :: .mark "<" :: inside => angled 0 0 inside
      | ts => some ([], ts)
    match bracket with
    | some (arguments, []) => some (n, arguments)
    | some (_, .mark "::" :: ts) => lastSegment? steps ts
    | _ => none
  | _, _ => none

/-- The last segment of a type that is a path, which may start at a type in a bracket. -/
def segment? (ts : List Token) : Option (String × List Token) :=
  match ts with
  | .mark "<" :: inside =>
    match angled 0 0 inside with
    | some (_, .mark "::" :: names) => lastSegment? names.length names
    | _ => none
  | .mark "::" :: names => lastSegment? names.length names
  | names => lastSegment? names.length names

/-- Whether a generic argument names something of a trait, as `Item = T` and `Item: T` do. -/
def namesItem (ts : List Token) : Bool :=
  let behind := match ts with
    | .name _ :: .mark "<" :: inside | .name _ :: .mark "::" :: .mark "<" :: inside =>
      (angled 0 0 inside).elim [] Prod.snd
    | .name _ :: ts => ts
    | _ => []
  behind.head? == some (.mark "=") || behind.head? == some (.mark ":")

/-- Whether a generic argument is a type: no lifetime, no constant and no item of a trait. -/
def isType (ts : List Token) : Bool :=
  match ts with
  | [] => false
  | .literal _ :: _ | .quoted .. :: _ => false
  | .lifetime _ :: rest => rest.head? == some (.mark "+")
  | .mark s :: _ => s != "-" && s != "\x7b"
  | .name n :: _ => n != "true" && n != "false" && !namesItem ts

/-- The type of what is yielded on success by a result type. -/
def okType? (r : ResultType) : Option String := do
  let (name, arguments) ← segment? (tokens r.text)
  let first := beforeComma 0 0 arguments
  if name = "Result" ∧ isType first then some (spell first) else none

end ResultType

/-- Whether some of the texts of generic parameters is not blank. -/
def isGeneric (parameters : List String) : Bool :=
  parameters.any fun p => tokens p != []

/-- A method of a declaration. -/
structure Method where
  name : String
  receiver : Option String
  arguments : List Argument
  result : Option ResultType
  markers : List Marker
  hasBody : Bool
  isAsync : Bool
  generics : List String
deriving DecidableEq, Repr

/-- The name of a method, without blanks and comments. -/
def Method.identifier (m : Method) : String :=
  firstName m.name

/-- Whether a method takes its object by a plain shared reference. -/
def Method.takesSharedReference (m : Method) : Bool :=
  match m.receiver.map unmarkedTokens with
  | some (.mark "&" :: rest) => !rest.contains (.name "mut")
  | _ => false

/-- An item of a declaration. -/
inductive Item where
  | method (method : Method)
  | constant (name : String) (hasDefault : Bool) (markers : List Marker)
  | associatedType (name : String)
deriving DecidableEq, Repr

namespace Item

/-- The name of an item, without blanks and comments. -/
def name : Item → String
  | method m => m.identifier
  | constant name _ _ => firstName name
  | associatedType name => firstName name

/-- The markers on an item. -/
def markers : Item → List Marker
  | method m => m.markers
  | constant _ _ markers => markers
  | associatedType _ => []

end Item

/-- The declaration of an interface. -/
structure Declaration where
  name : String
  visibility : String
  generics : List String
  hasWhereClause : Bool
  items : List Item
deriving DecidableEq, Repr

namespace Declaration

/-- The name of a declaration, without blanks and comments. -/
def identifier (d : Declaration) : String :=
  firstName d.name

/-- Who may see a declaration, written without any blank. -/
def visibilityText (d : Declaration) : String :=
  match unmarkedTokens d.visibility with
  | .name "pub" :: .mark "(" :: ts =>
    let within := (enclosed 0 ts).elim [] Prod.fst
    spell (.name "pub" :: .mark "(" :: within ++ [.mark ")"])
  | .name "pub" :: _ => "pub"
  | _ => ""

end Declaration

/-! ## Faults -/

/-- What can be wrong with a declaration or its settings. -/
inductive DeclarationError where
  /-- A key without the sign behind it. -/
  | signNeeded
  /-- A sign without a text behind it; `atEnd` when nothing follows it. -/
  | textNeeded (atEnd : Bool)
  /-- A sign without a name behind it. -/
  | nameNeeded (atEnd : Bool)
  /-- A keyword where a name is needed. -/
  | keyword (word : String)
  /-- A key without its names in parentheses. -/
  | missingNames (atEnd : Bool)
  /-- Something behind a setting that does not belong to it. -/
  | commaNeeded
  /-- Nothing where a setting is needed. -/
  | settingNeeded
  /-- A literal where a setting is needed. -/
  | literalSetting
  /-- Anything else where a setting is needed. -/
  | noSetting
  /-- A path of names that breaks off. -/
  | brokenPath (atEnd : Bool)
  /-- A text of blanks where a name is needed. -/
  | emptyName
  /-- Something that is no single name where a kind is needed. -/
  | kindNeeded
  /-- A name that is no kind. -/
  | unknownKind (name : String) (kinds : List String)
  /-- A setting the declaration does not have. -/
  | unsupportedSetting
  /-- A module without a class, or a class without a module. -/
  | halfBinding
  /-- Kinds of arguments without a class. -/
  | kindsWithoutBinding
  /-- A second forwarding marker on one method. -/
  | duplicateMarker
  /-- A setting the forwarding marker does not have. -/
  | unsupportedMarkerSetting
  /-- A forwarding marker with a text. -/
  | malformedMarker
  /-- A declaration with generic parameters or a where clause. -/
  | genericDeclaration
  /-- A method that is neither forwarded nor carried out in native code. -/
  | missingBody (method : String)
  /-- An item that is neither a method nor a constant with a value. -/
  | unsupportedItem
  /-- An argument that is no plain name. -/
  | unsupportedPattern
  /-- A forwarded method with a body. -/
  | forwardedBody
  /-- A forwarded method with generic parameters. -/
  | forwardedGeneric
  /-- A forwarded method that is asynchronous. -/
  | forwardedAsync
  /-- A forwarded method that does not take its object by a shared reference. -/
  | forwardedReceiver
  /-- A forwarded method that returns nothing. -/
  | noResult
  /-- A forwarded method that returns something else than a result. -/
  | otherResult
deriving DecidableEq, Repr

namespace DeclarationError

private def atEndOfInput (atEnd : Bool) (message : String) : String :=
  if atEnd then "unexpected end of input, " ++ message else message

/-- The wording of a fault. -/
def message : DeclarationError → String
  | signNeeded => "expected `=`"
  | textNeeded atEnd => atEndOfInput atEnd "expected string literal"
  | nameNeeded atEnd => atEndOfInput atEnd "expected identifier"
  | keyword word => s!"expected identifier, found keyword `{word}`"
  | missingNames atEnd => atEndOfInput atEnd "expected parentheses"
  | commaNeeded => "expected `,`"
  | settingNeeded => atEndOfInput true "expected nested attribute"
  | literalSetting => "unexpected literal in nested attribute, expected ident"
  | noSetting => "unexpected token in nested attribute, expected ident"
  | brokenPath atEnd => atEndOfInput atEnd "expected ident"
  | emptyName => "name must not be empty"
  | kindNeeded => "expected a value kind such as `int` or `str`"
  | unknownKind name kinds =>
    s!"unknown value kind `{name}`; expected one of: " ++ ", ".intercalate kinds
  | unsupportedSetting => "unsupported foreign_interface argument"
  | halfBinding => "`module` and `class` must be given together"
  | kindsWithoutBinding => "`constructor_args` requires `module` and `class`"
  | duplicateMarker => "duplicate #[forward] attribute"
  | unsupportedMarkerSetting => "unsupported forward argument; expected `name`"
  | malformedMarker => "expected #[forward] or #[forward(name = \"...\")]"
  | genericDeclaration => "generic traits cannot be bound to a foreign class"
  | missingBody method =>
    s!"method `{method}` has no default body and is not marked #[forward]; " ++
      "every required method of a foreign interface must be forwarded"
  | unsupportedItem => "foreign interfaces may only contain methods and constants with defaults"
  | unsupportedPattern => "only simple identifiers are supported as arguments"
  | forwardedBody => "forwarded methods must not have a default body"
  | forwardedGeneric => "generic methods cannot be forwarded"
  | forwardedAsync => "async methods cannot be forwarded"
  | forwardedReceiver => "forwarded methods must take `&self`"
  | noResult => "forwarded methods must return a Result"
  | otherResult => "forwarded methods must return a Result<T, E> with E: From<BridgeError>"

end DeclarationError

end ObjectBridge
