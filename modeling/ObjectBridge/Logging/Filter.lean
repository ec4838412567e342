import ObjectBridge.Logging.Settings
import ObjectBridge.Text.Pattern
import ObjectBridge.Text.Segments

/-!
# Filters

A filter is a set of directives, each a target with the most verbose level that
is let through for it.  A target stands for everything that starts with it; the
longest one decides.  The empty target stands for everything.  A directive with a
scope in brackets lets through what happens inside of the spans it covers.

Main results:

- Definition `FilterRule.parse`: the directive of a text, or why it is none.
- Definition `Filter.allows`: what a filter lets through wherever it happens.
- Definition `Filter.allowsInside`: what a filter lets through inside of a span.
- Definition `Filter.ofVariable`: the filter of an environment variable.
-/

namespace ObjectBridge

/-! ## Directives -/

/-- A target, a field that what it is about must have, and the most verbose level let through for
it; none when it is off. -/
structure Directive where
  target : String
  field : Option String
  level : Option Level
deriving DecidableEq, Repr

/-- Why a text is no directive. -/
inductive DirectiveError where
  /-- The text is not built like a directive. -/
  | malformed
  /-- The text behind the mark is no level. -/
  | unknownLevel
  /-- The value asked of a field is no pattern. -/
  | badPattern (error : PatternError)
deriving DecidableEq, Repr

/-- The wording of a fault of a directive. -/
def DirectiveError.message : DirectiveError → String
  | malformed => "invalid filter directive"
  | unknownLevel =>
    "error parsing level filter: expected one of \"off\", \"error\", \"warn\", \"info\", " ++
      "\"debug\", \"trace\", or a number 0-5"
  | badPattern error => "invalid field filter: " ++ error.message

namespace Directive

/-- A limit of verbosity: a level, or none at all. -/
def limits : List (String × Option Level) :=
  ("off", none) :: Level.all.map fun level => (level.name.toLower, some level)

/-- The number written with decimal digits, which may have a plus sign in front. -/
def number? (cs : List Char) : Option Nat :=
  let digits := if cs.head? = some '+' then cs.tail else cs
  if digits ≠ [] ∧ digits.all Char.isDigit then some (Nat.ofDigitChars 10 digits 0) else none

/-- The limit of a name in any case, or of a number from zero to five. -/
def limit? (text : String) : Option (Option Level) :=
  match (number? text.toList).bind fun n => limits[n]? with
  | some entry => some entry.2
  | none => limits.lookup text.toLower

/-- The limit written behind an equals sign; everything is let through without one. -/
def limitOf (text : String) : Except DirectiveError (Option Level) :=
  if text = "" then .ok (some .trace)
  else
    match limit? text with
    | some level => .ok level
    | none => .error .unknownLevel

/-- Whether a directive may start with a character. -/
def isStart (c : Char) : Bool :=
  c == '-' || c == ':' || c == '_' || Text.isLetter c || Text.isNumber c

/-- The characters of a text from one place up to another. -/
def slice (text : String) (start stop : Nat) : String :=
  String.ofList ((text.toList.drop start).take (stop - start))

/-- The directive of a text without a scope: a limit for everything, a target, or a target and its
limit with an equals sign between them.  The sign is looked for behind the blanks at the start, but
its distance is counted from the very start. -/
def parse (text : String) : Except DirectiveError Directive :=
  let inner := Text.trim text.toList
  match inner with
  | [] => .error .malformed
  | c :: _ =>
    if !isStart c then .error .malformed
    else
      match inner.idxOf? '=' with
      | some n => do
        return ⟨slice text 0 n, none, ← limitOf (slice text (n + 1) text.length)⟩
      | none =>
        match limit? text with
        | some level => .ok ⟨"", none, level⟩
        | none => .ok ⟨text, none, some .trace⟩

/-- Whether a directive is about a target and the fields that come with it; for a span its fields do
not matter. -/
def covers (d : Directive) (target : String) (fields : Option (List String)) : Bool :=
  d.target.toList.isPrefixOf target.toList &&
    fields.all fun names => d.field.all fun name => names.contains name

/-- Whether a level is let through up to a limit. -/
def isWithin (limit : Option Level) (level : Level) : Bool :=
  match limit with
  | some most => level.verbosity ≤ most.verbosity
  | none => false

/-- Whether a directive lets a level through. -/
def allows (d : Directive) (level : Level) : Bool :=
  isWithin d.level level

/-- Whether a field makes a directive more specific than another one: any field does, and of two the
one whose name comes later. -/
def isFinerField : Option String → Option String → Bool
  | some _, none => true
  | some name, some other => other < name
  | none, _ => false

/-- Whether a directive is more specific than another one: its target is longer, or just as long and
its field is finer. -/
def isMoreSpecific (d other : Directive) : Bool :=
  other.target.length < d.target.length ||
    (other.target.length == d.target.length && isFinerField d.field other.field)

end Directive

/-! ## Scopes -/

/-- What is asked of a field of a span. -/
inductive FieldTest where
  /-- Any value will do. -/
  | present
  /-- A number. -/
  | number (n : Nat)
  /-- A text in which the match of a pattern reaches the end. -/
  | pattern (text : String)
  /-- A value that no field of a span has, as it is written. -/
  | other (text : String)
deriving DecidableEq, Repr

namespace FieldTest

/-- Whether a text is written like a number with a fraction or an exponent, or names one that is
none or infinite. -/
def isFractional (cs : List Char) : Bool :=
  let unsigned := if cs.head? = some '+' ∨ cs.head? = some '-' then cs.tail else cs
  let whole := unsigned.takeWhile Char.isDigit
  let behind := unsigned.dropWhile Char.isDigit
  let fraction := if behind.head? = some '.' then behind.tail.takeWhile Char.isDigit else []
  let rest := if behind.head? = some '.' then behind.tail.dropWhile Char.isDigit else behind
  let exponent := match rest with
    | 'e' :: '+' :: digits | 'e' :: '-' :: digits | 'E' :: '+' :: digits | 'E' :: '-' :: digits
    | 'e' :: digits | 'E' :: digits => digits ≠ [] && digits.all Char.isDigit
    | rest => rest = []
  (["inf", "infinity", "nan"].contains (String.ofList unsigned).toLower) ||
    ((whole ≠ [] || fraction ≠ []) && exponent)

/-- The test for a value as it is written. -/
def parse (text : String) : Except DirectiveError FieldTest :=
  match Directive.number? text.toList with
  | some n => .ok (if n < UInt64.size then .number n else .other text)
  | none =>
    if text = "true" ∨ text = "false" ∨ isFractional text.toList then .ok (.other text)
    else
      match Pattern.parse text with
      | .ok _ => .ok (.pattern text)
      | .error e => .error (.badPattern e)

/-- Whether the value of a field passes a test. -/
def holds : FieldTest → FieldValue → Bool
  | present, _ => true
  | number n, .number m => n == m
  | pattern text, .text s => (Pattern.parse text).toOption.any fun p => p.endsText s
  | _, _ => false

end FieldTest

/-- A scope: the target, the name and a field of the spans it is about, each if it matters. -/
structure Scope where
  target : String
  span : Option String
  field : Option (String × FieldTest)
deriving DecidableEq, Repr

namespace Scope

/-- Whether a scope is about spans such as the given one. -/
def covers (scope : Scope) (s : CallSpan) : Bool :=
  scope.target.toList.isPrefixOf s.origin.target.toList &&
    scope.span.all (· == s.name) &&
    scope.field.all fun asked => s.fields.any fun field => field.1 == asked.1

/-- Whether a scope is about the given span and its value. -/
def holds (scope : Scope) (s : CallSpan) : Bool :=
  scope.covers s && scope.field.all fun asked =>
    s.fields.any fun field => field.1 == asked.1 && asked.2.holds field.2

/-- Whether a scope asks for the value of a field. -/
def asksForValue (scope : Scope) : Bool :=
  scope.field.any fun asked => asked.2 != .present

end Scope

/-! ## Reading directives -/

/-- A directive as it is written: a scope and the most verbose level let through. -/
structure FilterRule where
  scope : Scope
  level : Option Level
deriving DecidableEq, Repr

namespace FilterRule

/-- The directive for everything with a target, if no span and no value matters. -/
def directive? (r : FilterRule) : Option Directive :=
  if r.scope.span.isSome || r.scope.asksForValue then none
  else some ⟨r.scope.target, r.scope.field.map Prod.fst, r.level⟩

/-- The scope of a directive, if a span or a field matters. -/
def scope? (r : FilterRule) : Option Scope :=
  if r.scope.span.isSome || r.scope.field.isSome then some r.scope else none

/-- The field of a scope and what is asked of it, with an equals sign between them. -/
def parseField (text : String) : Except DirectiveError (String × FieldTest) :=
  match Text.textSegments '=' text with
  | name :: value :: _ => return (name, ← FieldTest.parse value)
  | _ => .ok (text, .present)

/-- The directive of a text with a scope, whose bracket opens at a distance behind the blanks at the
start.  The name of a span stands in the bracket, and behind it perhaps a field in braces. -/
def parseScoped (text : String) (distance : Nat) : Except DirectiveError FilterRule := do
  let inner := Text.trim text.toList
  let place (rest : List Char) : Nat := inner.length - rest.length
  let begun := inner.drop (distance + 1)
  let named := begun.dropWhile fun c => c ≠ ']' ∧ c ≠ '\x7b'
  let name := Directive.slice text (place begun) (place named)
  let target := Directive.slice text 0 distance
  let (scope, behind) ← match named with
    | ']' :: behind => .ok (Scope.mk target (some name) none, behind)
    | '\x7b' :: body =>
      let closed := body.dropWhile (· ≠ '\x7d')
      let field := Directive.slice text (place body) (place closed)
      if closed = [] ∨ field = "" then .error .malformed
      else do
        let field ← parseField field
        match closed with
        | _ :: ']' :: behind =>
          .ok (⟨target, if name = "" then none else some name, some field⟩, behind)
        | _ => .error .malformed
    | _ => .error DirectiveError.malformed
  match behind with
  | [] => .ok ⟨scope, some .trace⟩
  | '=' :: rest =>
    return ⟨scope, ← Directive.limitOf (Directive.slice text (place rest) text.length)⟩
  | _ => .error .malformed

/-- The directive of a text.  A scope begins at the first bracket, unless an equals sign or a
character that no target starts with comes before. -/
def parse (text : String) : Except DirectiveError FilterRule :=
  let inner := Text.trim text.toList
  let before := inner.takeWhile fun c => c ≠ '[' ∧ c ≠ '='
  if inner[before.length]? = some '[' ∧ before.head?.all Directive.isStart then
    parseScoped text before.length
  else (Directive.parse text).map fun d => ⟨⟨d.target, none, none⟩, d.level⟩

end FilterRule

/-! ## Filters -/

/-- A set of directives, at most one for each target and field and one for each scope, and the most
verbose level that was ever asked for. -/
structure Filter where
  directives : List Directive
  scopes : List (Scope × Option Level)
  reach : Nat
deriving DecidableEq, Repr

namespace Filter

/-- The filter without any directive. -/
def empty : Filter := ⟨[], [], 0⟩

/-- How verbose the most verbose level of a limit is. -/
def reachOf (limit : Option Level) : Nat :=
  limit.elim 0 Level.verbosity

/-- The filter with one more directive, which replaces the one of its target and field. -/
def addDirective (f : Filter) (d : Directive) : Filter :=
  { f with
    directives := d :: f.directives.filter fun other =>
      other.target ≠ d.target ∨ other.field ≠ d.field
    reach := max f.reach (reachOf d.level) }

/-- The filter with one more scope, which replaces the same one.  Every span may matter to a scope
that asks for a value. -/
def addScope (f : Filter) (scope : Scope) (level : Option Level) : Filter :=
  { f with
    scopes := (scope, level) :: f.scopes.filter fun other => other.1 ≠ scope
    reach := max f.reach (if scope.asksForValue then reachOf (some .trace) else reachOf level) }

/-- The filter with a directive of the environment: it may count both for everything with its field
and for the inside of spans. -/
def addFromVariable (f : Filter) (r : FilterRule) : Filter :=
  let f := r.scope?.elim f fun scope => f.addScope scope r.level
  r.directive?.elim f f.addDirective

/-- The filter with a directive that is added later: it counts for the inside of spans only if it
does not count for everything. -/
def addRule (f : Filter) (r : FilterRule) : Filter :=
  match r.directive? with
  | some d => f.addDirective d
  | none => f.addScope r.scope r.level

/-- The more specific one of two directives. -/
def finer (best : Option Directive) (d : Directive) : Option Directive :=
  match best with
  | some other => if d.isMoreSpecific other then some d else some other
  | none => some d

/-- The directive that decides about a target with its fields: the most specific one that covers
it. -/
def decisive (f : Filter) (target : String) (fields : Option (List String)) : Option Directive :=
  (f.directives.filter fun d => d.covers target fields).foldl finer none

/-- Whether a level is let through for a target with its fields. -/
def allows (f : Filter) (level : Level) (target : String) (fields : Option (List String)) : Bool :=
  (f.decisive target fields).any fun d => d.allows level

/-- Whether a span is let through: as any report of its level, or because a scope covers it. -/
def allowsSpan (f : Filter) (s : CallSpan) : Bool :=
  f.allows s.level s.origin.target none ||
    (s.level.verbosity ≤ f.reach && f.scopes.any fun entry => entry.1.covers s)

/-- Whether a scope lets a level through inside of a span. -/
def opens (f : Filter) (s : CallSpan) (level : Level) : Bool :=
  f.scopes.any fun entry => entry.1.holds s && Directive.isWithin entry.2 level

/-- Whether a level is let through for a target with its fields, perhaps inside of a span that was
let through. -/
def allowsInside (f : Filter) (span : Option CallSpan) (level : Level) (target : String)
    (fields : List String) : Bool :=
  f.allows level target (some fields) || span.any fun s => f.opens s level

/-- The texts between the commas of an environment variable, as directives or with their faults. -/
def variablePieces (text : String) : List (String × Except DirectiveError FilterRule) :=
  ((Text.textSegments ',' text).filter fun s => s ≠ "").map fun s => (s, FilterRule.parse s)

/-- The filter of an environment variable.  Where no directive can be read in it, errors are let
through. -/
def ofVariable (variableText : Option String) : Filter :=
  let rules := (variablePieces (variableText.getD "")).filterMap fun p => p.2.toOption
  if rules = [] then empty.addDirective ⟨"", none, some .error⟩
  else rules.foldl addFromVariable empty

/-- The complaints about an environment variable. -/
def complaints (variableText : Option String) : List String :=
  (variablePieces (variableText.getD "")).filterMap fun p =>
    match p.2 with
    | .ok _ => none
    | .error e => some ("ignoring `" ++ p.1 ++ "`: " ++ e.message)

end Filter

end ObjectBridge
