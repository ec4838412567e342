import ObjectBridge.Text.Quoted
import ObjectBridge.Text.Segments

/-!
# File paths

A path is a spelling, a sequence of bytes that need not be text.  Two paths are
equal when their components are: repeated and trailing slashes and all single
dots but a leading one are mere spelling.

Main results:

- Theorem `Path.text?_ofText`: the spelling of a text is read back as that text.
- Definition `Path.components`: what a path is but for its spelling.
- Definition `Path.addAll`: further paths in a list, each in its first spelling.
-/

namespace ObjectBridge

/-- A file path in one of its spellings. -/
structure Path where
  bytes : List UInt8
deriving DecidableEq, Repr

namespace Path

/-! ## Spelling -/

/-- The path spelled by a text. -/
def ofText (s : String) : Path :=
  ⟨s.toByteArray.data.toList⟩

/-- The text of a spelling, if it is one. -/
def text? (p : Path) : Option String :=
  String.fromUTF8? ⟨p.bytes.toArray⟩

/-- The text of a spelling as it is shown; one that is no text is shown as a single mark. -/
def text (p : Path) : String :=
  p.text?.getD "\uFFFD"

/-- The description of a path: its text between double quotes, single quotes escaped too. -/
def describe (p : Path) : String :=
  String.ofList ('"' :: p.text.toList.flatMap Text.escapedInPath ++ ['"'])

/-- The byte of a slash. -/
def slash : UInt8 := 47

/-- The byte of a dot. -/
def dot : UInt8 := 46

/-- The byte of a colon, which stands between the paths of a list. -/
def colon : UInt8 := 58

/-- The spelling of a text is read back as that text. -/
theorem text?_ofText (s : String) : (ofText s).text? = some s := by
  have : (⟨(ofText s).bytes.toArray⟩ : ByteArray) = s.toByteArray := by
    simp [ofText]
  rw [text?, this, String.fromUTF8?, dif_pos s.isValidUTF8]
  rfl

/-! ## Components -/

/-- A component of a path. -/
inductive Component where
  | root
  | here
  | up
  | name (bytes : List UInt8)
deriving DecidableEq, Repr

/-- The component of a segment that is neither empty nor a single dot. -/
def Component.ofSegment (segment : List UInt8) : Component :=
  if segment = [dot, dot] then .up else .name segment

/-- Whether a path starts at the root. -/
def isAbsolute (p : Path) : Bool :=
  p.bytes.head? == some slash

/-- The components of a path. -/
def components (p : Path) : List Component :=
  let pieces := Text.segments slash p.bytes
  let start :=
    if p.isAbsolute then [.root]
    else if pieces.head? = some [dot] then [.here]
    else []
  start ++ (pieces.filter fun s => s ≠ [] ∧ s ≠ [dot]).map Component.ofSegment

/-- Whether the spelling of a path asks for a directory: it ends in a slash or in a single dot. -/
def namesDirectory (p : Path) : Bool :=
  let last := (Text.segments slash p.bytes).getLast?
  last == some [] || last == some [dot]

/-- Whether two paths have the same components. -/
def same (p q : Path) : Bool :=
  p.components == q.components

/-- The spelling of a component. -/
def Component.bytes : Component → List UInt8
  | root => []
  | here => [dot]
  | up => [dot, dot]
  | name bytes => bytes

/-- The path of a list of components. -/
def ofComponents : List Component → Path
  | [.root] => ⟨[slash]⟩
  | components => ⟨Text.joinSegments slash (components.map Component.bytes)⟩

/-- The path without its last component; the root and the empty path have none. -/
def parent? (p : Path) : Option Path :=
  match p.components.reverse with
  | [] | [.root] => none
  | _ :: rest => some (ofComponents rest.reverse)

/-- The components that lead straight down to where components lead from a place on.  Nothing when
they lead above the place that all of this started from. -/
def settle : (place : List Component) → List Component → Option (List Component)
  | place, [] => some place
  | place, .here :: rest => settle place rest
  | place, .up :: rest => if place = [] then none else settle place.dropLast rest
  | place, .name bytes :: rest => settle (place ++ [.name bytes]) rest
  | _, .root :: _ => none

/-- The path that leads straight down to where a path leads, if that is below the directory that it
starts from. -/
def below? (p : Path) : Option Path :=
  (settle [] p.components).map ofComponents

/-- The path of a name below a directory. -/
def join (p : Path) (name : Path) : Path :=
  if name.isAbsolute then name
  else if p.bytes = [] ∨ p.bytes.getLast? = some slash then ⟨p.bytes ++ name.bytes⟩
  else ⟨p.bytes ++ slash :: name.bytes⟩

/-! ## Lists of paths -/

/-- The paths of a list separated by colons, without the empty ones. -/
def splitList (raw : List UInt8) : List Path :=
  ((Text.segments colon raw).filter fun piece => piece ≠ []).map Path.mk

/-- Whether a path is equal to one of a list. -/
def isIn (p : Path) (paths : List Path) : Bool :=
  paths.any p.same

/-- A list of paths with one more at its end, unless it is there already. -/
def add (paths : List Path) (p : Path) : List Path :=
  if p.isIn paths then paths else paths ++ [p]

/-- A list of paths with further ones added in order, each spelled as it was first met. -/
def addAll (paths : List Path) (more : List Path) : List Path :=
  more.foldl add paths

end Path

end ObjectBridge
