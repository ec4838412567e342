import ObjectBridge.Declaration
import ObjectBridge.Interface

/-!
# Settings of a declaration

The settings name the module and the class behind the interface, the kinds of
the constructor's arguments and the name of the proxy.  A setting written again
replaces the one before; kinds are added up.

Main results:

- Definition `Clause.path`: what a setting is called and what is written behind it.
- Definition `declaredKinds`: the kinds a declaration may name.
- Definition `Settings.read`: the settings of a list of arguments.
- Definition `Settings.binding`: the binding they stand for.
- Definition `takeForward`: the forwarding marker among the markers of a method.
-/

namespace ObjectBridge

/-! ## One setting -/

namespace Clause

/-- The names behind the first one of a path and the tokens that follow them. -/
def pathNames (isLast : Bool) :
    List Token → Except DeclarationError (List String × List Token)
  | .mark "::" :: .name n :: ts => do
    let (names, rest) ← pathNames isLast ts
    .ok (n :: names, rest)
  | .mark "::" :: ts => .error (.brokenPath (isLast && ts == []))
  | ts => .ok ([], ts)

/-- The path a list of tokens begins with and the tokens that follow it. -/
def pathOf (isLast : Bool) : List Token → Except DeclarationError (String × List Token)
  | .name n :: ts => do
    let (names, rest) ← pathNames isLast ts
    .ok ("::".intercalate (n :: names), rest)
  | [] => .error (if isLast then .settingNeeded else .noSetting)
  | .literal _ :: _ | .quoted .. :: _ => .error .literalSetting
  | .mark "-" :: .literal text :: _ =>
    .error (if text.toList.head?.any Char.isDigit then .literalSetting else .noSetting)
  | _ => .error .noSetting

/-- What a setting is called and the tokens behind it. -/
def path (c : Clause) : Except DeclarationError (String × List Token) :=
  match c.tokens with
  | .mark "::" :: ts => do
    let (path, rest) ← pathOf c.isLast ts
    .ok ("::" ++ path, rest)
  | ts => pathOf c.isLast ts

/-- Nothing may follow what was read of a setting. -/
def finish (rest : List Token) : Except DeclarationError Unit :=
  if rest = [] then .ok () else .error .commaNeeded

end Clause

/-- The tokens behind the sign of a setting. -/
def afterSign : List Token → Except DeclarationError (List Token)
  | .mark "=" :: ts => .ok ts
  | _ => .error .signNeeded

/-- A name given as a text behind the sign of a setting, which is not blank. -/
def nameInText (isLast : Bool) (value : List Token) : Except DeclarationError String := do
  match ← afterSign value with
  | .quoted text _ :: rest =>
    if Text.isBlankText text then .error .emptyName
    else
      Clause.finish rest
      .ok text
  | ts => .error (.textNeeded (isLast && ts == []))

/-- The words that cannot be names. -/
def keywords : List String :=
  ["_", "abstract", "as", "async", "await", "become", "box", "break", "const", "continue", "crate",
    "do", "dyn", "else", "enum", "extern", "false", "final", "fn", "for", "if", "impl", "in", "let",
    "loop", "macro", "match", "mod", "move", "mut", "override", "priv", "pub", "ref", "return",
    "Self", "self", "static", "struct", "super", "trait", "true", "try", "type", "typeof", "unsafe",
    "unsized", "use", "virtual", "where", "while", "yield"]

/-- A name behind the sign of a setting. -/
def plainNameBehind (isLast : Bool) (value : List Token) : Except DeclarationError String := do
  match ← afterSign value with
  | .name n :: rest =>
    if keywords.contains n then .error (.keyword n)
    else
      Clause.finish rest
      .ok n
  | ts => .error (.nameNeeded (isLast && ts == []))

/-! ## Kinds -/

namespace Kind

/-- The variant a kind is written as in generated code. -/
def variant : Kind → String
  | any => "Any"
  | none => "None"
  | bool => "Bool"
  | int => "Int"
  | float => "Float"
  | str => "Str"
  | list => "List"
  | map => "Map"
  | object => "Object"

/-- The kind a variant in generated code stands for. -/
def ofVariant? (text : String) : Option Kind :=
  all.find? fun kind => kind.variant == text

end Kind

/-- The kinds a declaration may name, each with the variant it is passed on as. -/
def declaredKinds : List (String × String) :=
  [("any", "Any"), ("none", "None"), ("bool", "Bool"), ("int", "Int"), ("float", "Float"),
    ("str", "Str"), ("list", "List"), ("map", "Map"), ("object", "Object")]

/-! ## Settings -/

/-- The settings of a declaration.  The kinds are kept as the variants they are passed on as. -/
structure Settings where
  moduleName : Option String
  className : Option String
  kinds : List String
  proxy : Option String
deriving DecidableEq, Repr

namespace Settings

/-- The settings before the first argument. -/
def empty : Settings := ⟨none, none, [], none⟩

/-- The variant of the kind named in parentheses. -/
def readKind (c : Clause) : Except DeclarationError String := do
  let (name, rest) ← c.path
  if name.toList.contains ':' then .error .kindNeeded
  else
    match declaredKinds.lookup name with
    | none => .error (.unknownKind name (declaredKinds.map Prod.fst))
    | some variant =>
      Clause.finish rest
      .ok variant

/-- The variants of the kinds in one pair of parentheses. -/
def readKinds (isLast : Bool) : List Token → Except DeclarationError (List String)
  | .mark "(" :: ts =>
    match enclosed 0 ts with
    | none => .error (.missingNames false)
    | some ([], _) => .error .settingNeeded
    | some (inside, rest) => do
      let kinds ← (clauses inside).mapM readKind
      Clause.finish rest
      .ok kinds
  | ts => .error (.missingNames (isLast && ts == []))

/-- The settings with one more argument. -/
def add (s : Settings) (c : Clause) : Except DeclarationError Settings := do
  let (name, value) ← c.path
  match name with
  | "module" => return { s with moduleName := some (← nameInText c.isLast value) }
  | "class" => return { s with className := some (← nameInText c.isLast value) }
  | "proxy" => return { s with proxy := some (← plainNameBehind c.isLast value) }
  | "constructor_args" => return { s with kinds := s.kinds ++ (← readKinds c.isLast value) }
  | _ => .error .unsupportedSetting

/-- The settings with further arguments in order. -/
def addAll (s : Settings) : List Clause → Except DeclarationError Settings
  | [] => .ok s
  | c :: rest => do addAll (← s.add c) rest

/-- The settings, if module and class are given together and kinds only with them. -/
def check (s : Settings) : Except DeclarationError Settings :=
  match s.moduleName, s.className with
  | some _, some _ => .ok s
  | none, none => if s.kinds = [] then .ok s else .error .kindsWithoutBinding
  | _, _ => .error .halfBinding

/-- The settings of the tokens of a list of arguments. -/
def ofTokens (ts : List Token) : Except DeclarationError Settings := do
  (← empty.addAll (clauses ts)).check

/-- The settings of a list of arguments. -/
def read (arguments : List Setting) : Except DeclarationError Settings :=
  ofTokens (withCommas (arguments.map Setting.tokens))

/-- The binding of the settings, if they name a class. -/
def binding (s : Settings) : Option Binding :=
  match s.moduleName, s.className with
  | some module, some class_ => some ⟨module, class_, s.kinds.filterMap Kind.ofVariant?⟩
  | _, _ => none

end Settings

/-! ## The forwarding marker -/

/-- A forwarding marker: the name on the object's side, if it is another one. -/
structure Forward where
  name : Option String
deriving DecidableEq, Repr

namespace Forward

/-- The path of the forwarding marker. -/
def markerPath : String := "forward"

/-- The marker with further settings in order; the last name counts. -/
def addAll (f : Forward) : List Clause → Except DeclarationError Forward
  | [] => .ok f
  | c :: rest => do
    let (name, value) ← c.path
    if name = "name" then addAll ⟨some (← nameInText c.isLast value)⟩ rest
    else .error .unsupportedMarkerSetting

/-- The forwarding marker a marker stands for. -/
def ofMarker (m : Marker) : Except DeclarationError Forward :=
  match m.behind with
  | .mark "=" :: _ => .error .malformedMarker
  | t :: ts =>
    if t.opens then addAll ⟨none⟩ (clauses ((enclosed 0 ts).elim [] Prod.fst)) else .ok ⟨none⟩
  | [] => .ok ⟨none⟩

end Forward

/-- The forwarding marker among some markers, if there is one, and all other markers. -/
def takeForward (found : Option Forward) :
    List Marker → Except DeclarationError (Option Forward × List Marker)
  | [] => .ok (found, [])
  | marker :: rest => do
    if marker.path = Forward.markerPath then
      if found.isSome then .error .duplicateMarker
      else takeForward (some (← Forward.ofMarker marker)) rest
    else
      let (forward, kept) ← takeForward found rest
      .ok (forward, marker :: kept)

end ObjectBridge
