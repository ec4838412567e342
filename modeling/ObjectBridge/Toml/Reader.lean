import ObjectBridge.Toml.Document
import ObjectBridge.Toml.Token

/-!
# Reading a document

From the characters of a TOML document to its statements.  Values nest less than
eighty levels deep, and a key has less than eighty segments.

Main results:

- Definition `Toml.readValue`: a value at a limited depth.
- Definition `Toml.read`: the document of a text.
-/

namespace ObjectBridge.Toml

/-- The number of levels that nested values and dotted keys stay below. -/
def levelLimit : Nat := 80

/-! ## Keys -/

/-- Whether a character may stand in a key without quotes. -/
def isBareKeyChar (c : Char) : Bool :=
  c.isAlphanum || c == '_' || c == '-'

/-- One segment of a key. -/
def readSegment (cs : List Char) : Option (String × List Char) :=
  match cs with
  | '"' :: rest => (readBasic rest).map fun r => (String.ofList r.1, r.2)
  | '\'' :: rest => (readLiteral rest).map fun r => (String.ofList r.1, r.2)
  | cs =>
    let bare := cs.takeWhile isBareKeyChar
    if bare = [] then none else some (String.ofList bare, cs.dropWhile isBareKeyChar)

/-- The segments of a dotted key: those before the last one, and the last one. -/
def readKey : Nat → List Char → Option ((List String × String) × List Char)
  | 0, _ => none
  | segments + 1, cs => do
    let (segment, cs) ← readSegment (skipSpaces cs)
    match skipSpaces cs with
    | '.' :: rest =>
      let ((path, key), rest) ← readKey segments rest
      some ((segment :: path, key), rest)
    | rest => some (([], segment), rest)

/-! ## Values -/

/-- The items of an array after the opening bracket, at most `count` of them. -/
def readItems (item : Reader Value) : (count : Nat) → List Char → Option (List Value × List Char)
  | 0, _ => none
  | count + 1, cs => do
    let cs ← skipVoid false cs
    match cs with
    | ']' :: rest => some ([], rest)
    | cs =>
      let (value, cs) ← item cs
      match ← skipVoid false cs with
      | ']' :: rest => some ([value], rest)
      | ',' :: rest =>
        let (values, rest) ← readItems item count rest
        some (value :: values, rest)
      | _ => none

/-- A key with the value assigned to it. -/
def readAssignment (value : Reader Value) (cs : List Char) :
    Option ((List String × String × Value) × List Char) := do
  let ((path, key), cs) ← readKey (levelLimit - 1) cs
  let cs ← readChar '=' cs
  let (v, cs) ← value (skipSpaces cs)
  some ((path, key, v), cs)

/-- The assignments of a table on one line up to the closing brace, at least one and at most
`count`. -/
def readAssignments (value : Reader Value) :
    (count : Nat) → List Char → Option (List (List String × String × Value) × List Char)
  | 0, _ => none
  | count + 1, cs => do
    let (assignment, cs) ← readAssignment value cs
    match skipSpaces cs with
    | '\x7d' :: rest => some ([assignment], rest)
    | ',' :: rest =>
      let (assignments, rest) ← readAssignments value count rest
      some (assignment :: assignments, rest)
    | _ => none

/-- A value whose nesting stays within a number of levels. -/
def readValue : (levels : Nat) → List Char → Option (Value × List Char)
  | levels, cs =>
    match cs with
    | '[' :: rest =>
      match levels with
      | 0 => none
      | levels + 1 =>
        (readItems (readValue levels) (rest.length + 1) rest).map fun r => (.array r.1, r.2)
    | '\x7b' :: rest =>
      match levels with
      | 0 => none
      | levels + 1 =>
        match skipSpaces rest with
        | '\x7d' :: rest => some (.table [], rest)
        | rest => do
          let (assignments, after) ← readAssignments (readValue levels) (rest.length + 1) rest
          some (← assembleInline assignments, after)
    | 't' :: 'r' :: 'u' :: 'e' :: rest => some (.boolean true, rest)
    | 'f' :: 'a' :: 'l' :: 's' :: 'e' :: rest => some (.boolean false, rest)
    | '"' :: _ => (readString cs).map fun r => (.string r.1, r.2)
    | '\'' :: _ => (readString cs).map fun r => (.string r.1, r.2)
    | cs => readNumber cs

/-! ## Statements -/

/-- One statement with the end of its line. -/
def readStatement (cs : List Char) : Option (Statement × List Char) := do
  match cs with
  | '[' :: '[' :: rest =>
    let ((path, key), rest) ← readKey (levelLimit - 1) rest
    let rest ← skipLineEnd (← readChar ']' (← readChar ']' rest))
    some (.openItem path key, rest)
  | '[' :: rest =>
    let ((path, key), rest) ← readKey (levelLimit - 1) rest
    let rest ← skipLineEnd (← readChar ']' rest)
    some (.openTable path key, rest)
  | cs =>
    let ((path, key, value), rest) ← readAssignment (readValue (levelLimit - 1)) cs
    some (.assign path key value, ← skipLineEnd rest)

/-- The statements of a document, at most `count` of them. -/
def readStatements : (count : Nat) → List Char → Option (List Statement)
  | 0, _ => none
  | count + 1, cs => do
    match ← skipVoid false cs with
    | [] => some []
    | cs =>
      let (statement, rest) ← readStatement cs
      some (statement :: (← readStatements count rest))

/-- The document of a text, which may start with a mark of the byte order. -/
def read (text : String) : Option Table := do
  let cs := match text.toList with
    | '\uFEFF' :: rest => rest
    | cs => cs
  assemble (← readStatements (cs.length + 1) cs)

end ObjectBridge.Toml
