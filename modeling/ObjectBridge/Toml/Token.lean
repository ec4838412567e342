import ObjectBridge.Toml.Value

/-!
# Tokens of a document

The smallest parts of a TOML document: blanks, comments and line ends, the four
kinds of strings, numbers, dates and times.  Each reader takes the characters
left and returns what it read together with the characters after it, or nothing
if they do not start with a token of its kind.

Main results:

- Definition `Toml.readString`: a string of any kind.
- Definition `Toml.readNumber`: an integer, a float, a date or a time.
-/

namespace ObjectBridge.Toml

/-- A reader of some part of a document. -/
abbrev Reader (α : Type) := List Char → Option (α × List Char)

/-! ## Blanks, comments and line ends -/

/-- Whether a character is a blank within a line. -/
def isSpace (c : Char) : Bool :=
  c == ' ' || c == '\t'

/-- The characters after the blanks within a line. -/
def skipSpaces (cs : List Char) : List Char :=
  cs.dropWhile isSpace

/-- Whether a character may stand in a comment or a string: no control character but the tab. -/
def isPrintable (c : Char) : Bool :=
  c == '\t' || (32 ≤ c.toNat && c.toNat ≠ 127)

/-- The characters after the end of a line, with a comment before it or without. -/
def skipLineEnd (cs : List Char) : Option (List Char) :=
  let cs := skipSpaces cs
  let cs := if cs.head? = some '#' then cs.dropWhile isPrintable else cs
  match cs with
  | [] => some []
  | '\n' :: rest => some rest
  | '\r' :: '\n' :: rest => some rest
  | _ => none

/-- The characters after blanks, comments and line ends; within a comment when `comment` is set. -/
def skipVoid (comment : Bool) : List Char → Option (List Char)
  | [] => some []
  | '\n' :: rest => skipVoid false rest
  | '\r' :: '\n' :: rest => skipVoid false rest
  | c :: rest =>
    if comment then
      if isPrintable c then skipVoid true rest else none
    else if isSpace c then skipVoid false rest
    else if c = '#' then skipVoid true rest
    else some (c :: rest)

/-! ## Strings -/

/-- The value of a hexadecimal digit. -/
def hexValue? (c : Char) : Option Nat :=
  if '0' ≤ c ∧ c ≤ '9' then some (c.toNat - '0'.toNat)
  else if 'a' ≤ c ∧ c ≤ 'f' then some (c.toNat - 'a'.toNat + 10)
  else if 'A' ≤ c ∧ c ≤ 'F' then some (c.toNat - 'A'.toNat + 10)
  else none

/-- The character whose code point is written in hexadecimal digits, if there is one. -/
def charOfHex? (digits : List Char) : Option Char := do
  let n ← digits.foldlM (fun n c => (hexValue? c).map (n * 16 + ·)) 0
  if n.isValidChar then some (Char.ofNat n) else none

/-- The character of a short escape. -/
def charOfEscape? : Char → Option Char
  | 'b' => some '\x08'
  | 't' => some '\t'
  | 'n' => some '\n'
  | 'f' => some '\x0c'
  | 'r' => some '\r'
  | '"' => some '"'
  | '\\' => some '\\'
  | _ => none

/-- A character put in front of what a reader of text read. -/
def prepend (c : Char) : Option (List Char × List Char) → Option (List Char × List Char) :=
  Option.map fun read => (c :: read.1, read.2)

/-- The rest of a string in double quotes. -/
def readBasic : Reader (List Char)
  | [] => none
  | '"' :: rest => some ([], rest)
  | '\\' :: 'u' :: a :: b :: c :: d :: rest => do
    prepend (← charOfHex? [a, b, c, d]) (readBasic rest)
  | '\\' :: 'U' :: a :: b :: c :: d :: e :: f :: g :: h :: rest => do
    prepend (← charOfHex? [a, b, c, d, e, f, g, h]) (readBasic rest)
  | '\\' :: c :: rest => do
    prepend (← charOfEscape? c) (readBasic rest)
  | c :: rest =>
    if isPrintable c && c != '\\' then prepend c (readBasic rest) else none

/-- Where a reader of a string of several lines stands after a backslash at the end of a line. -/
inductive LineJoin where
  /-- Not behind such a backslash. -/
  | none
  /-- Behind it, before the end of the line. -/
  | pending
  /-- On one of the lines after it, before the first character that counts. -/
  | skipping
deriving DecidableEq

/-- The rest of a string of several lines in double quotes. -/
def readBasicLines (join : LineJoin) : Reader (List Char)
  | [] => none
  | '\n' :: rest =>
    match join with
    | .none => prepend '\n' (readBasicLines .none rest)
    | _ => readBasicLines .skipping rest
  | '\r' :: '\n' :: rest =>
    match join with
    | .none => prepend '\n' (readBasicLines .none rest)
    | _ => readBasicLines .skipping rest
  | c :: rest =>
    if join ≠ .none ∧ isSpace c then readBasicLines join rest
    else if join = .pending then none
    else
      match c, rest with
      | '"', '"' :: '"' :: '"' :: '"' :: rest => some (['"', '"'], rest)
      | '"', '"' :: '"' :: '"' :: rest => some (['"'], rest)
      | '"', '"' :: '"' :: rest => some ([], rest)
      | '\\', 'u' :: a :: b :: c :: d :: rest => do
        prepend (← charOfHex? [a, b, c, d]) (readBasicLines .none rest)
      | '\\', 'U' :: a :: b :: c :: d :: e :: f :: g :: h :: rest => do
        prepend (← charOfHex? [a, b, c, d, e, f, g, h]) (readBasicLines .none rest)
      | '\\', c :: rest =>
        match charOfEscape? c with
        | some e => prepend e (readBasicLines .none rest)
        | none =>
          if isSpace c then readBasicLines .pending rest
          else
            match c, rest with
            | '\n', rest => readBasicLines .skipping rest
            | '\r', '\n' :: rest => readBasicLines .skipping rest
            | _, _ => none
      | c, rest =>
        if isPrintable c && c != '\\' then prepend c (readBasicLines .none rest) else none

/-- The rest of a string in single quotes. -/
def readLiteral : Reader (List Char)
  | [] => none
  | '\'' :: rest => some ([], rest)
  | c :: rest => if isPrintable c then prepend c (readLiteral rest) else none

/-- The rest of a string of several lines in single quotes. -/
def readLiteralLines : Reader (List Char)
  | [] => none
  | '\'' :: '\'' :: '\'' :: '\'' :: '\'' :: rest => some (['\'', '\''], rest)
  | '\'' :: '\'' :: '\'' :: '\'' :: rest => some (['\''], rest)
  | '\'' :: '\'' :: '\'' :: rest => some ([], rest)
  | '\n' :: rest => prepend '\n' (readLiteralLines rest)
  | '\r' :: '\n' :: rest => prepend '\n' (readLiteralLines rest)
  | c :: rest => if isPrintable c then prepend c (readLiteralLines rest) else none

/-- The characters after a line end that directly follows the opening quotes. -/
def skipFirstLineEnd : List Char → List Char
  | '\n' :: rest => rest
  | '\r' :: '\n' :: rest => rest
  | cs => cs

/-- A string of any kind. -/
def readString (cs : List Char) : Option (String × List Char) :=
  let read :=
    match cs with
    | '"' :: '"' :: '"' :: rest => readBasicLines .none (skipFirstLineEnd rest)
    | '"' :: rest => readBasic rest
    | '\'' :: '\'' :: '\'' :: rest => readLiteralLines (skipFirstLineEnd rest)
    | '\'' :: rest => readLiteral rest
    | _ => none
  read.map fun r => (String.ofList r.1, r.2)

/-! ## Numbers -/

/-- Digits of some base, with single underscores between them. -/
def readDigits (isDigit : Char → Bool) : Reader (List Char)
  | [] => none
  | c :: rest =>
    if isDigit c then
      match rest with
      | '_' :: d :: rest' =>
        if isDigit d then
          (readDigits isDigit (d :: rest')).map fun r => (c :: r.1, r.2)
        else some ([c], rest)
      | rest =>
        match readDigits isDigit rest with
        | some r => some (c :: r.1, r.2)
        | none => some ([c], rest)
    else none

/-- The number written by digits of a base. -/
def ofDigits (base : Nat) (digits : List Char) : Nat :=
  digits.foldl (fun n c => n * base + (hexValue? c).getD 0) 0

/-- A sign, if there is one. -/
def readSign : List Char → Bool × List Char
  | '-' :: rest => (true, rest)
  | '+' :: rest => (false, rest)
  | cs => (false, cs)

/-- An integer that a word of 64 bits holds. -/
def checkedInteger (n : Int) : Option Value :=
  if Int64.minValue.toInt ≤ n ∧ n ≤ Int64.maxValue.toInt then some (.integer n) else none

/-- The digits of a decimal integer, which start with a zero only if there is no other digit. -/
def readDecimalDigits (cs : List Char) : Option (List Char × List Char) := do
  match cs with
  | '0' :: rest => some (['0'], rest)
  | cs => readDigits Char.isDigit cs

/-- An integer. -/
def readInteger (cs : List Char) : Option (Value × List Char) := do
  let based (base : Nat) (isDigit : Char → Bool) (cs : List Char) := do
    let (digits, rest) ← readDigits isDigit cs
    some (← checkedInteger (ofDigits base digits), rest)
  match cs with
  | '0' :: 'x' :: rest => based 16 (fun c => (hexValue? c).isSome) rest
  | '0' :: 'o' :: rest => based 8 (fun c => '0' ≤ c && c ≤ '7') rest
  | '0' :: 'b' :: rest => based 2 (fun c => c == '0' || c == '1') rest
  | cs =>
    let (negative, cs) := readSign cs
    let (digits, rest) ← readDecimalDigits cs
    let n : Int := ofDigits 10 digits
    some (← checkedInteger (if negative then -n else n), rest)

/-- The exponent of a float. -/
def readExponent (cs : List Char) : Option (Int × List Char) := do
  let rest ← match cs with
    | 'e' :: rest => some rest
    | 'E' :: rest => some rest
    | _ => none
  let (negative, rest) := readSign rest
  let (digits, rest) ← readDigits Char.isDigit rest
  let n : Int := ofDigits 10 digits
  some (if negative then -n else n, rest)

/-- A float; one beyond the largest number has no value unless it is negative. -/
def readFloat (cs : List Char) : Option (Value × List Char) := do
  let (negative, cs) := readSign cs
  match cs with
  | 'i' :: 'n' :: 'f' :: rest => some (.float (.ofNumber (.infinite negative)), rest)
  | 'n' :: 'a' :: 'n' :: rest => some (.float (.ofNumber .notANumber), rest)
  | cs =>
    let (whole, cs) ← readDecimalDigits cs
    let (fraction, cs) ← match cs with
      | '.' :: rest => readDigits Char.isDigit rest
      | 'e' :: _ => some ([], cs)
      | 'E' :: _ => some ([], cs)
      | _ => none
    let (exponent, cs) ← match cs with
      | 'e' :: _ => readExponent cs
      | 'E' :: _ => readExponent cs
      | _ => some (0, cs)
    let digits := whole ++ fraction
    let bound : Int := 400 + digits.length
    let exponent := max (-bound) (min bound (exponent - fraction.length))
    let x := Double.ofDecimal negative (ofDigits 10 digits) exponent
    if x.number = .infinite false then none else some (.float x, cs)

/-! ## Dates and times -/

/-- A number of a fixed count of digits, in a range. -/
def readField (count low high : Nat) (cs : List Char) : Option (Nat × List Char) :=
  let digits := cs.take count
  let n := ofDigits 10 digits
  if digits.length = count ∧ digits.all Char.isDigit = true ∧ low ≤ n ∧ n ≤ high then
    some (n, cs.drop count)
  else none

/-- The characters after an expected one. -/
def readChar (expected : Char) : List Char → Option (List Char)
  | c :: rest => if c = expected then some rest else none
  | [] => none

/-- The number of days of a month. -/
def daysOfMonth (year month : Nat) : Nat :=
  if month = 2 then
    if year % 4 = 0 ∧ (year % 100 ≠ 0 ∨ year % 400 = 0) then 29 else 28
  else if month = 4 ∨ month = 6 ∨ month = 9 ∨ month = 11 then 30
  else 31

/-- The characters after a date. -/
def skipDate (cs : List Char) : Option (List Char) := do
  let (year, cs) ← readField 4 0 9999 cs
  let (month, cs) ← readField 2 1 12 (← readChar '-' cs)
  let (_, cs) ← readField 2 1 (daysOfMonth year month) (← readChar '-' cs)
  some cs

/-- The characters after a time of the day. -/
def skipTime (cs : List Char) : Option (List Char) := do
  let (_, cs) ← readField 2 0 23 cs
  let (_, cs) ← readField 2 0 59 (← readChar ':' cs)
  let (_, cs) ← readField 2 0 60 (← readChar ':' cs)
  match cs with
  | '.' :: c :: rest => if c.isDigit then some (rest.dropWhile Char.isDigit) else none
  | '.' :: [] => none
  | cs => some cs

/-- The characters after an offset from universal time, if there is one. -/
def skipOffset (cs : List Char) : Option (List Char) :=
  let numeric (cs : List Char) := do
    let (_, cs) ← readField 2 0 23 cs
    let (_, cs) ← readField 2 0 59 (← readChar ':' cs)
    some cs
  match cs with
  | 'Z' :: rest => some rest
  | 'z' :: rest => some rest
  | '+' :: rest => numeric rest
  | '-' :: rest => numeric rest
  | cs => some cs

/-- The characters after a date, a time or both. -/
def skipDatetime (cs : List Char) : Option (List Char) :=
  match skipDate cs with
  | some rest =>
    match rest with
    | 'T' :: time => do skipOffset (← skipTime time)
    | 't' :: time => do skipOffset (← skipTime time)
    | ' ' :: time =>
      match skipTime time with
      | some rest => skipOffset rest
      | none => some rest
    | rest => some rest
  | none => skipTime cs

/-- A number, a date or a time. -/
def readNumber (cs : List Char) : Option (Value × List Char) :=
  match skipDatetime cs with
  | some rest => some (.datetime (String.ofList (cs.take (cs.length - rest.length))), rest)
  | none =>
    match readFloat cs with
    | some r => some r
    | none => readInteger cs

end ObjectBridge.Toml
