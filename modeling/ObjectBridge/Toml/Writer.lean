import ObjectBridge.Toml.Value

/-!
# Writing a document

The pretty form of a document of tables.  A string is written in the simplest of
the four quotations that holds it without escapes, and with escapes if none
does.  An array of several items takes a line for each.

Main results:

- Definition `Toml.writeString`: the quotation of a string.
- Definition `Toml.write`: the text of a document whose tables hold plain values.
-/

namespace ObjectBridge.Toml

/-! ## Strings -/

/-- The length of the longest run of a character. -/
def longestRun (c : Char) (cs : List Char) : Nat :=
  let runs := cs.foldl (fun (run, longest) d =>
    if d = c then (run + 1, max longest (run + 1)) else (0, longest)) (0, 0)
  runs.2

/-- Whether a character needs an escape in every quotation. -/
def needsEscape (c : Char) : Bool :=
  c != '\t' && c != '\n' && (c.toNat < 32 || c.toNat == 127)

/-- A code point in four upper-case hexadecimal digits. -/
def fourHexDigits (n : Nat) : List Char :=
  let digits := (Nat.toDigits 16 n).map Char.toUpper
  List.replicate (4 - digits.length) '0' ++ digits

/-- A character between double quotes; line ends and quotes are escaped only where told to. -/
def escaped (escapeLine : Bool) (c : Char) : List Char :=
  match c with
  | '\x08' => ['\\', 'b']
  | '\t' => ['\\', 't']
  | '\n' => if escapeLine then ['\\', 'n'] else ['\n']
  | '\x0c' => ['\\', 'f']
  | '\r' => ['\\', 'r']
  | '\\' => ['\\', '\\']
  | c => if needsEscape c then ['\\', 'u'] ++ fourHexDigits c.toNat else [c]

/-- The characters between double quotes, where after `allowed` quotes in a row the next one is
escaped. -/
def escapedText (escapeLine : Bool) (allowed : Nat) : (run : Nat) → List Char → List Char
  | _, [] => []
  | run, c :: cs =>
    if c = '"' then
      if run < allowed then '"' :: escapedText escapeLine allowed (run + 1) cs
      else '\\' :: '"' :: escapedText escapeLine allowed 0 cs
    else escaped escapeLine c ++ escapedText escapeLine allowed 0 cs

/-- The characters of a string with the quotes around them. -/
def writeString (s : String) : String :=
  let cs := s.toList
  let control := cs.any needsEscape
  let backslash := cs.contains '\\'
  let line := cs.contains '\n'
  let double := longestRun '"' cs
  let single := longestRun '\'' cs
  let lineBreak := if line then ['\n'] else []
  let basic := ['"'] ++ escapedText true 0 0 cs ++ ['"']
  let basicLines := ['"', '"', '"'] ++ lineBreak ++ escapedText false 2 0 cs ++ ['"', '"', '"']
  let literal := ['\''] ++ cs ++ ['\'']
  let literalLines := ['\'', '\'', '\''] ++ lineBreak ++ cs ++ ['\'', '\'', '\'']
  String.ofList <|
    if !control && !backslash && double = 0 && !line then basic
    else if !control && single = 0 && !line then literal
    else if !control && !backslash && double ≤ 2 then basicLines
    else if !control && single ≤ 2 then literalLines
    else if line then basicLines
    else basic

/-! ## Values and tables -/

/-- The text of a plain value on the right of an equality sign. -/
def writeValue : Value → String
  | .string s => writeString s
  | .integer n => toString n
  | .float x => x.fractionText
  | .boolean b => toString b
  | .datetime text => text
  | .array items =>
    let texts := items.map fun item =>
      match item with
      | .string s => writeString s
      | .integer n => toString n
      | .boolean b => toString b
      | other => other.typeName
    match texts with
    | [] => "[]"
    | [text] => "[" ++ text ++ "]"
    | texts => "[\n" ++ String.join (texts.map fun text => "    " ++ text ++ ",\n") ++ "]"
  | .table _ | .tables _ => ""

/-- The lines of a table under its header. -/
def writeTable (name : String) (entries : Table) : String :=
  "[" ++ name ++ "]\n" ++
    String.join (entries.map fun entry => entry.1 ++ " = " ++ writeValue entry.2 ++ "\n")

/-- The text of a document whose entries are tables of plain values. -/
def write (document : Table) : String :=
  "\n".intercalate <| document.filterMap fun entry =>
    match entry.2 with
    | .table entries => some (writeTable entry.1 entries)
    | _ => none

end ObjectBridge.Toml
