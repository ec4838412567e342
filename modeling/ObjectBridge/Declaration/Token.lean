import ObjectBridge.Text.Address
import ObjectBridge.Text.Blank
import ObjectBridge.Text.Quoted

/-!
# Tokens of a declaration

The parts of a declaration that are given as text are read as tokens: names,
lifetimes, literals and marks.  Blanks and comments between them say nothing.
Outside of literals every character beyond ASCII that is no blank belongs to a
name.

Main results:

- Definition `tokens`: the tokens of a text.
- Definitions `enclosed` and `angled`: the tokens up to the end of a bracket.
- Definition `clauses`: the parts of a list between its commas.
- Definition `spell`: the spelling of tokens in a row.
-/

namespace ObjectBridge

/-- A token, with the text it is written in. -/
inductive Token where
  | name (text : String)
  | lifetime (text : String)
  /-- A literal text: what it says, and how it is written. -/
  | quoted (content text : String)
  /-- Any other literal. -/
  | literal (text : String)
  | mark (text : String)
deriving DecidableEq, Repr

namespace Token

/-- The text of a token. -/
def text : Token → String
  | name s => s
  | lifetime s => s
  | quoted _ s => s
  | literal s => s
  | mark s => s

/-- The literal of a text. -/
def ofText (s : String) : Token :=
  quoted s (Text.quoted s)

/-- Whether a token opens a bracket; an angle is none. -/
def opens (t : Token) : Bool :=
  ["(", "[", "\x7b"].any fun s => t == mark s

/-- Whether a token closes a bracket. -/
def closes (t : Token) : Bool :=
  [")", "]", "\x7d"].any fun s => t == mark s

/-! ## Characters -/

/-- Whether a character is blank between tokens: the marks of direction are. -/
def isGap (c : Char) : Bool :=
  Text.isBlank c || c == '\u200e' || c == '\u200f'

/-- Whether a character belongs to names. -/
def isNameChar (c : Char) : Bool :=
  c.isAlphanum || c == '_' || (128 ≤ c.toNat && !isGap c)

/-- The characters behind a comment that is open to some depth. -/
def afterComment : (depth : Nat) → List Char → List Char
  | 0, cs => cs
  | _, [] => []
  | depth + 1, '*' :: '/' :: cs => afterComment depth cs
  | depth + 1, '/' :: '*' :: cs => afterComment (depth + 2) cs
  | depth + 1, _ :: cs => afterComment (depth + 1) cs

/-- The characters of a literal up to its closing quote, and those behind it. -/
def readQuoted (quote : Char) : List Char → List Char × List Char
  | [] => ([], [])
  | '\\' :: c :: cs =>
    let (body, rest) := readQuoted quote cs
    ('\\' :: c :: body, rest)
  | c :: cs =>
    if c = quote then ([c], cs)
    else
      let (body, rest) := readQuoted quote cs
      (c :: body, rest)

/-- The characters of a literal without escapes up to its closing quote with the hashes behind it,
and those behind both. -/
def readRaw (hashes : List Char) : List Char → List Char × List Char
  | [] => ([], [])
  | c :: cs =>
    if c = '"' && hashes.isPrefixOf cs then (c :: hashes, cs.drop hashes.length)
    else
      let (body, rest) := readRaw hashes cs
      (c :: body, rest)

/-- The number behind the braces at the front of an escape, and what follows it. -/
def bracedNumber (cs : List Char) : Nat × List Char :=
  let digits := (cs.takeWhile (· != '\x7d')).filter Text.isHexDigit
  (Nat.ofDigitChars 16 digits 0, (cs.dropWhile (· != '\x7d')).tail)

/-- What the body of a literal says, read in a number of steps. -/
def unescape : (steps : Nat) → List Char → List Char
  | 0, _ => []
  | _, [] => []
  | steps + 1, '\\' :: 'n' :: cs => '\n' :: unescape steps cs
  | steps + 1, '\\' :: 'r' :: cs => '\r' :: unescape steps cs
  | steps + 1, '\\' :: 't' :: cs => '\t' :: unescape steps cs
  | steps + 1, '\\' :: '0' :: cs => '\x00' :: unescape steps cs
  | steps + 1, '\\' :: 'x' :: c :: d :: cs =>
    Char.ofNat (Nat.ofDigitChars 16 [c, d] 0) :: unescape steps cs
  | steps + 1, '\\' :: 'u' :: '\x7b' :: cs =>
    let (n, rest) := bracedNumber cs
    Char.ofNat n :: unescape steps rest
  | steps + 1, '\\' :: '\n' :: cs => unescape steps (cs.dropWhile Char.isWhitespace)
  | steps + 1, '\\' :: c :: cs => c :: unescape steps cs
  | steps + 1, c :: cs => c :: unescape steps cs

/-! ## One token -/

/-- A literal with the suffix that follows it. -/
def literalWithSuffix (body rest : List Char) : Token × List Char :=
  (literal (String.ofList (body ++ rest.takeWhile isNameChar)), rest.dropWhile isNameChar)

/-- A literal text written in some way, whose body ends with its closing marks. -/
def quotedWithSuffix (content written rest : List Char) : Token × List Char :=
  let (token, rest) := literalWithSuffix written rest
  (quoted (String.ofList content) token.text, rest)

/-- The token that begins with a single quote: a character or a lifetime. -/
def readTick (cs : List Char) : Token × List Char :=
  match cs with
  | '\\' :: _ =>
    let (body, rest) := readQuoted '\'' cs
    literalWithSuffix ('\'' :: body) rest
  | c :: '\'' :: rest => literalWithSuffix ['\'', c, '\''] rest
  | cs => (lifetime (String.ofList ('\'' :: cs.takeWhile isNameChar)), cs.dropWhile isNameChar)

/-- The token that begins with a digit. -/
def readNumber (cs : List Char) : Token × List Char :=
  let whole := cs.takeWhile isNameChar
  match cs.dropWhile isNameChar with
  | '.' :: d :: rest =>
    if d.isDigit then literalWithSuffix (whole ++ ['.', d]) rest
    else (literal (String.ofList whole), '.' :: d :: rest)
  | rest => (literal (String.ofList whole), rest)

/-- The token that begins with the characters of a name: a name, perhaps with the mark that lets it
be spelled like a keyword, or a literal with letters in front. -/
def readWord (cs : List Char) : Token × List Char :=
  let word := cs.takeWhile isNameChar
  let rest := cs.dropWhile isNameChar
  let hashes := rest.takeWhile (· == '#')
  match word, rest, rest.dropWhile (· == '#') with
  | ['b'], '"' :: after, _ | ['c'], '"' :: after, _ =>
    let (body, rest) := readQuoted '"' after
    literalWithSuffix (word ++ '"' :: body) rest
  | ['b'], '\'' :: after, _ =>
    let (body, rest) := readQuoted '\'' after
    literalWithSuffix (word ++ '\'' :: body) rest
  | ['r'], _, '"' :: after =>
    let (body, rest) := readRaw hashes after
    quotedWithSuffix (body.take (body.length - hashes.length - 1)) (word ++ hashes ++ '"' :: body)
      rest
  | ['b', 'r'], _, '"' :: after | ['c', 'r'], _, '"' :: after =>
    let (body, rest) := readRaw hashes after
    literalWithSuffix (word ++ hashes ++ '"' :: body) rest
  | ['r'], '#' :: after, _ =>
    (name (String.ofList ('r' :: '#' :: after.takeWhile isNameChar)), after.dropWhile isNameChar)
  | _, _, _ => (name (String.ofList word), rest)

/-- The token at the front of some characters, if there is one, and what follows it.  A gap or a
comment is no token. -/
def next (c : Char) (cs : List Char) : Option Token × List Char :=
  match c, cs with
  | '/', '*' :: rest => (none, afterComment 1 rest)
  | '/', '/' :: rest => (none, rest.dropWhile (· != '\n'))
  | ':', ':' :: rest => (some (mark "::"), rest)
  | '-', '>' :: rest => (some (mark "->"), rest)
  | '"', cs =>
    let (body, rest) := readQuoted '"' cs
    (quotedWithSuffix (unescape body.length body.dropLast) ('"' :: body) rest).map some id
  | '\'', cs => (readTick cs).map some id
  | c, cs =>
    if isGap c then (none, cs)
    else if c.isDigit then (readNumber (c :: cs)).map some id
    else if isNameChar c then (readWord (c :: cs)).map some id
    else (some (mark (String.singleton c)), cs)

end Token

/-! ## All tokens -/

/-- The tokens of some characters, read in a number of steps. -/
def tokensWithin : (steps : Nat) → List Char → List Token
  | 0, _ => []
  | _, [] => []
  | steps + 1, c :: cs =>
    let (token, rest) := Token.next c cs
    token.toList ++ tokensWithin steps rest

/-- The tokens of a text. -/
def tokens (s : String) : List Token :=
  tokensWithin s.toList.length s.toList

/-- Some tokens written without any blank. -/
def spell (ts : List Token) : String :=
  String.ofList ((ts.flatMap fun t => t.text.toList).filter fun c => !Text.isBlank c)

/-! ## Brackets -/

/-- The tokens inside of a bracket that is open to some depth, and those behind it. -/
def enclosed : (depth : Nat) → List Token → Option (List Token × List Token)
  | _, [] => none
  | depth, t :: ts =>
    if t.opens then (enclosed (depth + 1) ts).map fun r => (t :: r.1, r.2)
    else if t.closes then
      match depth with
      | 0 => some ([], ts)
      | depth + 1 => (enclosed depth ts).map fun r => (t :: r.1, r.2)
    else (enclosed depth ts).map fun r => (t :: r.1, r.2)

/-- The tokens inside of an angle that is open to some depth, and those behind it.  An angle inside
of a bracket is none. -/
def angled : (brackets depth : Nat) → List Token → Option (List Token × List Token)
  | _, _, [] => none
  | brackets, depth, t :: ts =>
    let next (brackets depth : Nat) := (angled brackets depth ts).map fun r => (t :: r.1, r.2)
    if t.opens then next (brackets + 1) depth
    else if t.closes then next (brackets - 1) depth
    else if brackets = 0 ∧ t = .mark "<" then next brackets (depth + 1)
    else if brackets = 0 ∧ t = .mark ">" then
      match depth with
      | 0 => some ([], ts)
      | depth + 1 => next brackets depth
    else next brackets depth

/-- The tokens in front of the first comma that stands outside of brackets and angles. -/
def beforeComma : (brackets depth : Nat) → List Token → List Token
  | _, _, [] => []
  | brackets, depth, t :: ts =>
    if brackets = 0 ∧ depth = 0 ∧ t = .mark "," then []
    else if t.opens then t :: beforeComma (brackets + 1) depth ts
    else if t.closes then t :: beforeComma (brackets - 1) depth ts
    else if brackets = 0 ∧ t = .mark "<" then t :: beforeComma brackets (depth + 1) ts
    else if brackets = 0 ∧ t = .mark ">" then t :: beforeComma brackets (depth - 1) ts
    else t :: beforeComma brackets depth ts

/-- The tokens behind the markers at their front, each a hash with a bracket, read in a number of
steps. -/
def afterMarkers : (steps : Nat) → List Token → List Token
  | steps + 1, .mark "#" :: .mark "[" :: ts =>
    match enclosed 0 ts with
    | some (_, rest) => afterMarkers steps rest
    | none => []
  | _, ts => ts

/-- The tokens of a text without the markers at its front. -/
def unmarkedTokens (s : String) : List Token :=
  let ts := tokens s
  afterMarkers ts.length ts

/-- The name a text begins with. -/
def firstName (s : String) : String :=
  ((tokens s).head?.map Token.text).getD ""

/-! ## Lists -/

/-- A part of a list: its tokens, and whether the list ends behind it without a comma. -/
structure Clause where
  tokens : List Token
  isLast : Bool
deriving DecidableEq, Repr

/-- The parts between the commas outside of brackets, from inside of a number of brackets, behind
some tokens of the first one. -/
def splitCommas (found : List Token) : (brackets : Nat) → List Token → List (List Token)
  | _, [] => [found]
  | brackets, t :: ts =>
    if brackets = 0 ∧ t = .mark "," then found :: splitCommas [] brackets ts
    else if t.opens then splitCommas (found ++ [t]) (brackets + 1) ts
    else if t.closes then splitCommas (found ++ [t]) (brackets - 1) ts
    else splitCommas (found ++ [t]) brackets ts

/-- The parts of a list, which may end with a comma. -/
def clauses (ts : List Token) : List Clause :=
  let parts := splitCommas [] 0 ts
  let firsts := parts.dropLast.map fun part => Clause.mk part false
  match parts.getLast? with
  | none | some [] => firsts
  | some part => firsts ++ [⟨part, true⟩]

end ObjectBridge
