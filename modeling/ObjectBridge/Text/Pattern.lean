import ObjectBridge.Text.Address
import ObjectBridge.Text.Blank
import ObjectBridge.Text.Letter

/-!
# Patterns

A pattern describes texts: characters and sets of characters, one behind the
other, alternatives, and parts that may be repeated.  Alternatives are tried from
left to right, and a part is repeated as often as possible unless a question mark
asks for as seldom as possible.  The match that counts is the first one that is
found at the leftmost place.

Main results:

- Definition `Pattern.parse`: the pattern of a text, or why it is none.
- Definition `Pattern.endsText`: whether the match of a pattern reaches the end of
  a text.
-/

namespace ObjectBridge

/-! ## Sets of characters -/

/-- A set of characters. -/
inductive CharSet where
  | none
  | between (first last : Char)
  | digit
  | word
  | blank
  | complement (s : CharSet)
  | union (s t : CharSet)
deriving DecidableEq, Repr

namespace CharSet

/-- Whether a character belongs to a set. -/
def contains : CharSet → Char → Bool
  | none, _ => false
  | between first last, c => first ≤ c && c ≤ last
  | digit, c => c.isDigit
  | word, c => Text.isLetter c || Text.isNumber c || c == '_'
  | blank, c => Text.isBlank c
  | complement s, c => !s.contains c
  | union s t, c => s.contains c || t.contains c

/-- The set of a single character; without regard to case its other case belongs to it too. -/
def single (caseless : Bool) (c : Char) : CharSet :=
  if caseless then union (between c.toLower c.toLower) (between c.toUpper c.toUpper)
  else between c c

/-- The set of the characters from one up to another; without regard to case those of letters of
either case belong to it. -/
def range (caseless : Bool) (first last : Char) : CharSet :=
  if caseless && first.isAlpha && last.isAlpha then
    union (between first last)
      (union (between first.toLower last.toLower) (between first.toUpper last.toUpper))
  else between first last

/-- All characters but the end of a line. -/
def any : CharSet :=
  complement (between '\n' '\n')

end CharSet

/-! ## Patterns and their matches -/

/-- A pattern. -/
inductive Pattern where
  | empty
  | one (set : CharSet)
  /-- The start of the text. -/
  | start
  /-- The end of the text. -/
  | stop
  | both (p q : Pattern)
  | either (p q : Pattern)
  | optional (greedy : Bool) (p : Pattern)
  | many (greedy : Bool) (p : Pattern)
deriving DecidableEq, Repr

namespace Pattern

/-- The texts that are left behind the repetitions of a match, in the order in which they are tried,
with a number of steps.  A repetition takes at least one character. -/
def repeated (greedy : Bool) (step : List Char → List (List Char)) :
    (steps : Nat) → List Char → List (List Char)
  | 0, cs => [cs]
  | steps + 1, cs =>
    let further := ((step cs).filter fun rest => rest.length < cs.length).flatMap
      (repeated greedy step steps)
    if greedy then further ++ [cs] else cs :: further

/-- The texts that are left behind the matches of a pattern at the front of a text, in the order in
which they are tried; `whole` is the length of the text up to its start. -/
def ends (whole : Nat) : Pattern → List Char → List (List Char)
  | empty, cs => [cs]
  | one _, [] => []
  | one set, c :: cs => if set.contains c then [cs] else []
  | start, cs => if cs.length = whole then [cs] else []
  | stop, cs => if cs = [] then [cs] else []
  | both p q, cs => (p.ends whole cs).flatMap (q.ends whole)
  | either p q, cs => p.ends whole cs ++ q.ends whole cs
  | optional greedy p, cs =>
    if greedy then p.ends whole cs ++ [cs] else cs :: p.ends whole cs
  | many greedy p, cs => repeated greedy (p.ends whole) cs.length cs

/-- The text that is left behind the first match at the leftmost place. -/
def firstEnd? (p : Pattern) (cs : List Char) : Option (List Char) :=
  (List.range (cs.length + 1)).findSome? fun n => (p.ends cs.length (cs.drop n)).head?

/-- Whether the match of a pattern reaches the end of a text. -/
def endsText (p : Pattern) (s : String) : Bool :=
  p.firstEnd? s.toList == some []

end Pattern

/-! ## Reading a pattern -/

/-- Why a text is no pattern that can be used. -/
inductive PatternError where
  | malformed
  /-- The edges of words are not looked for. -/
  | wordEdge
deriving DecidableEq, Repr

namespace PatternError

/-- The wording of a fault of a pattern. -/
def message : PatternError → String
  | malformed => "error building NFA"
  | wordEdge =>
    "unsupported regex feature for DFAs: cannot build DFAs for regexes with Unicode word " ++
      "boundaries; switch to ASCII word boundaries, or heuristically enable Unicode word " ++
      "boundaries or use a different regex engine"

end PatternError

namespace Pattern

/-- The set a letter behind a backslash stands for. -/
def namedSet? : Char → Option CharSet
  | 'd' => some .digit
  | 'D' => some (.complement .digit)
  | 'w' => some .word
  | 'W' => some (.complement .word)
  | 's' => some .blank
  | 'S' => some (.complement .blank)
  | _ => none

/-- The character a character behind a backslash stands for: a mark stands for itself. -/
def escapedChar? : Char → Option Char
  | 'n' => some '\n'
  | 't' => some '\t'
  | 'r' => some '\r'
  | 'f' => some '\x0c'
  | 'v' => some '\x0b'
  | 'a' => some '\x07'
  | c => if c.toNat < 128 ∧ !c.isAlphanum ∧ c ≠ '<' ∧ c ≠ '>' then some c else none

/-- The character of a number of hexadecimal digits at the front of a text. -/
def hexChar? (count : Nat) (cs : List Char) : Option (Char × List Char) :=
  let digits := cs.take count
  if digits.length = count ∧ digits.all Text.isHexDigit then
    let n := Nat.ofDigitChars 16 digits 0
    if n.isValidChar then some (Char.ofNat n, cs.drop count) else none
  else none

/-- The character or the set behind a backslash. -/
def readEscape (caseless : Bool) : List Char → Option (CharSet × List Char)
  | 'x' :: cs => (hexChar? 2 cs).map fun r => (.single caseless r.1, r.2)
  | 'u' :: cs => (hexChar? 4 cs).map fun r => (.single caseless r.1, r.2)
  | 'U' :: cs => (hexChar? 8 cs).map fun r => (.single caseless r.1, r.2)
  | c :: cs =>
    match namedSet? c with
    | some set => some (set, cs)
    | none => (escapedChar? c).map fun d => (.single caseless d, cs)
  | [] => none

/-- One character of a set in brackets, or a whole set behind a backslash. -/
def readMember (caseless : Bool) : List Char → Option (CharSet × Option Char × List Char)
  | '\\' :: cs => do
    let (set, rest) ← readEscape caseless cs
    let single := match set with
      | .between first _ => some first
      | .union (.between first _) _ => some first
      | _ => none
    some (set, single, rest)
  | '[' :: _ => none
  | c :: cs => some (.single caseless c, some c, cs)
  | [] => none

/-- The members of a set up to its closing bracket, read in a number of steps. -/
def readMembers (caseless : Bool) :
    (steps : Nat) → CharSet → List Char → Option (CharSet × List Char)
  | 0, _, _ => none
  | _, found, ']' :: cs => some (found, cs)
  | steps + 1, found, cs => do
    let (set, first, rest) ← readMember caseless cs
    match rest with
    | '-' :: c :: behind =>
      if c = ']' then readMembers caseless steps (.union found set) rest
      else
        let (_, last, rest) ← readMember caseless (c :: behind)
        let (first, last) := (← first, ← last)
        if c = '-' ∨ last < first then none
        else readMembers caseless steps (.union found (.range caseless first last)) rest
    | rest => readMembers caseless steps (.union found set) rest

/-- The set behind an opening bracket.  A closing bracket in front belongs to it. -/
def readSet (caseless : Bool) (cs : List Char) : Option (CharSet × List Char) :=
  let inner (cs : List Char) : Option (CharSet × List Char) :=
    match cs with
    | ']' :: rest => readMembers caseless rest.length (.single caseless ']') rest
    | rest => readMembers caseless rest.length .none rest
  match cs with
  | '^' :: rest => (inner rest).map fun r => (.complement r.1, r.2)
  | rest => inner rest

/-- A pattern with the marks of repetition behind it. -/
def repetitions (p : Pattern) : List Char → Pattern × List Char
  | '*' :: '?' :: cs => repetitions (.many false p) cs
  | '+' :: '?' :: cs => repetitions (.both p (.many false p)) cs
  | '?' :: '?' :: cs => repetitions (.optional false p) cs
  | '*' :: cs => repetitions (.many true p) cs
  | '+' :: cs => repetitions (.both p (.many true p)) cs
  | '?' :: cs => repetitions (.optional true p) cs
  | cs => (p, cs)

/-- How a group begins. -/
inductive Opening where
  /-- A group with its own regard to case. -/
  | group (caseless : Bool) (rest : List Char)
  /-- The regard to case changes up to the end of the group around. -/
  | change (caseless : Bool) (rest : List Char)

/-- The beginning of a group behind its parenthesis. -/
def readOpening (caseless : Bool) : List Char → Option Opening
  | '?' :: ':' :: cs => some (.group caseless cs)
  | '?' :: 'i' :: ':' :: cs => some (.group true cs)
  | '?' :: '-' :: 'i' :: ':' :: cs => some (.group false cs)
  | '?' :: 'i' :: ')' :: cs => some (.change true cs)
  | '?' :: '-' :: 'i' :: ')' :: cs => some (.change false cs)
  | '?' :: 'P' :: '<' :: cs | '?' :: '<' :: cs =>
    let name := cs.takeWhile fun c => c.isAlphanum || c == '_'
    match name.head?, cs.drop name.length with
    | some c, '>' :: rest => if c.isDigit then none else some (.group caseless rest)
    | _, _ => none
  | '?' :: _ => none
  | cs => some (.group caseless cs)

mutual

/-- The alternatives at the front of a text, read in a number of steps. -/
def readAlternatives (caseless : Bool) :
    (steps : Nat) → List Char → Option (Pattern × List Char)
  | 0, _ => none
  | steps + 1, cs => do
    let (p, caseless, rest) ← readSequence caseless steps .empty cs
    match rest with
    | '|' :: rest =>
      let (q, rest) ← readAlternatives caseless steps rest
      some (.either p q, rest)
    | rest => some (p, rest)

/-- The parts of one alternative behind those already read, with the regard to case at its end.  The
edge of a word is read like an empty part. -/
def readSequence (caseless : Bool) :
    (steps : Nat) → Pattern → List Char → Option (Pattern × Bool × List Char)
  | 0, _, _ => none
  | steps + 1, found, cs =>
    let continued (part : Pattern × List Char) : Option (Pattern × Bool × List Char) :=
      let (part, rest) := repetitions part.1 part.2
      readSequence caseless steps (.both found part) rest
    match cs with
    | [] => some (found, caseless, [])
    | '|' :: _ | ')' :: _ => some (found, caseless, cs)
    | '*' :: _ | '+' :: _ | '?' :: _ | '\x7b' :: _ => none
    | '(' :: cs =>
      match readOpening caseless cs with
      | some (.group inner cs) => do
        let (p, rest) ← readAlternatives inner steps cs
        match rest with
        | ')' :: rest => continued (p, rest)
        | _ => none
      | some (.change caseless cs) =>
        match cs with
        | '*' :: _ | '+' :: _ | '?' :: _ => none
        | cs => readSequence caseless steps found cs
      | none => none
    | '[' :: cs => do continued ((← readSet caseless cs).map .one id)
    | '.' :: cs => continued (.one .any, cs)
    | '^' :: cs => continued (.start, cs)
    | '$' :: cs => continued (.stop, cs)
    | '\\' :: 'A' :: cs => continued (.start, cs)
    | '\\' :: 'z' :: cs => continued (.stop, cs)
    | '\\' :: 'b' :: cs | '\\' :: 'B' :: cs | '\\' :: '<' :: cs | '\\' :: '>' :: cs =>
      continued (.empty, cs)
    | '\\' :: cs => do continued ((← readEscape caseless cs).map .one id)
    | c :: cs => continued (.one (.single caseless c), cs)

end

/-- Whether the text of a pattern asks for the edge of a word. -/
def asksForEdge : List Char → Bool
  | '\\' :: c :: cs => ['b', 'B', '<', '>'].contains c || asksForEdge cs
  | _ :: cs => asksForEdge cs
  | [] => false

/-- The pattern of a text. -/
def parse (s : String) : Except PatternError Pattern :=
  let cs := s.toList
  match readAlternatives false (2 * cs.length + 2) cs with
  | some (p, []) => if asksForEdge cs then .error .wordEdge else .ok p
  | _ => .error .malformed

end Pattern

end ObjectBridge
