import ObjectBridge.Configuration.Document

/-!
# Finding the configuration

A configuration file is looked for in a directory and in all directories above
it, and in each under two names.  The first file that can be read and parsed
decides; a file that cannot is passed over.  Files stand in a tree, in which
symbolic links lead from one place to another.

Main results:

- Definition `FileTree.of`: the tree of some entries.
- Definition `FileTree.walk`: the place that components lead to, through links.
- Definition `FileTree.read`: the text of a file, or why it cannot be read.
- Definition `Configuration.load`: the configuration of one file.
- Definition `Configuration.discover`: the configuration for a directory.
-/

namespace ObjectBridge

/-! ## Trees of files -/

/-- What stands at a place of a tree of files. -/
inductive FileNode where
  | file (content : List UInt8)
  /-- A file that may not be read. -/
  | locked
  | directory
  /-- A directory that may not be entered. -/
  | sealed
  /-- A symbolic link, to where a path leads from the directory of the link on. -/
  | link (target : Path)
deriving DecidableEq, Repr

/-- Whether something is a directory. -/
def FileNode.isDirectory : FileNode → Bool
  | directory | sealed => true
  | _ => false

/-- A place: the names that lead down to it from the root. -/
abbrev Place := List (List UInt8)

/-- A tree of files: what was put where, from the last one on, and the directory that relative paths
start from. -/
structure FileTree where
  nodes : List (Place × FileNode)
  working : Place

/-- Why a file cannot be read. -/
inductive ReadFault where
  | missing
  | notDirectory
  | isDirectory
  | denied
  | nameTooLong
  | tooManyLinks
  | zeroByte
  | notText
deriving DecidableEq, Repr

/-- The wording of a fault. -/
def ReadFault.message : ReadFault → String
  | missing => "No such file or directory (os error 2)"
  | notDirectory => "Not a directory (os error 20)"
  | isDirectory => "Is a directory (os error 21)"
  | denied => "Permission denied (os error 13)"
  | nameTooLong => "File name too long (os error 36)"
  | tooManyLinks => "Too many levels of symbolic links (os error 40)"
  | zeroByte => "file name contained an unexpected NUL byte"
  | notText => "stream did not contain valid UTF-8"

namespace FileTree

/-- What stands at the place of some names, from the last name on.  Nothing stands but in a
directory. -/
def standing (tree : FileTree) : Place → Option FileNode
  | [] => some .directory
  | name :: outer =>
    if (tree.standing outer).any FileNode.isDirectory then
      tree.nodes.lookup (name :: outer).reverse
    else none

/-- What stands at a place.  The root is a directory. -/
def at? (tree : FileTree) (place : Place) : Option FileNode :=
  tree.standing place.reverse

/-! ### Making a tree -/

/-- The tree with a directory at a place where nothing stands yet. -/
def addDirectory (tree : FileTree) (place : Place) : FileTree :=
  if (tree.at? place).isSome then tree
  else { tree with nodes := (place, .directory) :: tree.nodes }

/-- The tree with a directory at every place that components lead through, and the last place. -/
def addWay (tree : FileTree) : Place → List Path.Component → FileTree × Place
  | place, [] => (tree, place)
  | _, .root :: rest => addWay tree [] rest
  | place, .here :: rest => addWay tree place rest
  | place, .up :: rest => addWay tree place.dropLast rest
  | place, .name bytes :: rest =>
    addWay (tree.addDirectory (place ++ [bytes])) (place ++ [bytes]) rest

/-- The tree with one more entry.  Missing directories are made on the way to it, and anything but a
directory takes the place of what stood there. -/
def put (tree : FileTree) (entry : Path × FileNode) : FileTree :=
  let (tree, place) := tree.addWay tree.working entry.1.components
  match entry.2 with
  | .directory => tree
  | node => { tree with nodes := (place, node) :: tree.nodes }

/-- The tree of entries that are put into it one after another.  Relative paths start from the
root. -/
def of (entries : List (Path × FileNode)) : FileTree :=
  entries.foldl put ⟨[], []⟩

/-! ### Looking into a tree -/

/-- The number of bytes that the name of a file has at most. -/
def nameLimit : Nat := 255

/-- The number of bytes that a path stays below. -/
def pathLimit : Nat := 4096

/-- The number of links that are followed at most. -/
def linkLimit : Nat := 40

/-- A place can be entered if it is a directory that may be. -/
def enter (tree : FileTree) (place : Place) : Except ReadFault Unit :=
  match tree.at? place with
  | none => .error .missing
  | some .directory => .ok ()
  | some .sealed => .error .denied
  | some _ => .error .notDirectory

/-- The steps of a path: its components, and a last one that stays where it is if the path asks for
a directory. -/
def steps (path : Path) : List Path.Component :=
  path.components ++ if path.namesDirectory then [.here] else []

/-- The place that components lead to, one after another from a place on.  Every place but the last
is entered.  Where a link stands, the steps of its target are to be followed from its directory on,
and then the components that are left. -/
def walkOn (tree : FileTree) (follow : Place → List Path.Component → Except ReadFault Place) :
    Place → List Path.Component → Except ReadFault Place
  | place, [] => .ok place
  | place, component :: rest => do
    tree.enter place
    match component with
    | .root => walkOn tree follow [] rest
    | .here => walkOn tree follow place rest
    | .up => walkOn tree follow place.dropLast rest
    | .name bytes =>
      if nameLimit < bytes.length then .error .nameTooLong
      else
        match tree.at? (place ++ [bytes]) with
        | some (.link target) => follow place (steps target ++ rest)
        | _ => walkOn tree follow (place ++ [bytes]) rest

/-- The place that components lead to from a place on, over a number of links at most. -/
def walk (tree : FileTree) : (links : Nat) → Place → List Path.Component → Except ReadFault Place
  | 0 => tree.walkOn fun _ _ => .error .tooManyLinks
  | links + 1 => tree.walkOn (tree.walk links)

/-- Where a path starts. -/
def origin (tree : FileTree) (path : Path) : Place :=
  match path.components with
  | .root :: _ => []
  | _ => tree.working

/-- The place that a path leads to, whatever stands there. -/
def locate (tree : FileTree) (path : Path) : Except ReadFault Place :=
  if path.bytes.contains 0 then .error .zeroByte
  else if path.bytes = [] then .error .missing
  else if pathLimit ≤ path.bytes.length then .error .nameTooLong
  else tree.walk linkLimit (tree.origin path) (steps path)

/-- What a path leads to. -/
def find (tree : FileTree) (path : Path) : Except ReadFault FileNode := do
  match tree.at? (← tree.locate path) with
  | none => .error .missing
  | some node => .ok node

/-- The text of the file at a path. -/
def read (tree : FileTree) (path : Path) : Except ReadFault String := do
  match ← tree.find path with
  | .directory => .error .isDirectory
  | .locked | .sealed => .error .denied
  | .link _ => .error .tooManyLinks
  | .file content =>
    match (Path.mk content).text? with
    | some text => .ok text
    | none => .error .notText

/-- Whether anything stands at a path. -/
def holds (tree : FileTree) (path : Path) : Bool :=
  match tree.find path with
  | .ok _ => true
  | .error _ => false

end FileTree

/-! ## Loading and finding -/

namespace Configuration

variable [Toml.Library]

/-- The names of a configuration file, in the order in which they are tried. -/
def fileNames : List Path :=
  [.ofText "pyproxy.toml", .ofText ".pyproxy.toml"]

/-- The configuration of a file. -/
def load (tree : FileTree) (path : Path) : Except BridgeError Configuration :=
  match tree.read path with
  | .error fault => .error (.configuration path.text (.unreadable fault.message))
  | .ok text =>
    match parse text with
    | .ok c => .ok c
    | .error (.configuration _ cause) => .error (.configuration path.text cause)
    | .error e => .error e

/-- A directory and the directories above it, from the inside out. -/
def directories (start : Path) : List Path :=
  let rec above : Nat → Path → List Path
    | 0, _ => []
    | fuel + 1, path =>
      match path.parent? with
      | some parent => parent :: above fuel parent
      | none => []
  start :: above start.components.length start

/-- The files that may hold the configuration for a directory, in the order in which they are
tried. -/
def candidates (start : Path) : List Path :=
  (directories start).flatMap fun directory => fileNames.map directory.join

/-- The configuration of a candidate that is there and can be loaded. -/
def loadIfValid (tree : FileTree) (path : Path) : Option Configuration :=
  if tree.holds path then (load tree path).toOption else none

/-- The configuration for a directory: that of the first candidate that can be loaded, or the
default. -/
def discoverFrom (tree : FileTree) (start : Path) : Configuration :=
  ((candidates start).findSome? (loadIfValid tree)).getD default

/-- The configuration for the working directory, which may be unknown. -/
def discover (tree : FileTree) (workingDirectory : Option Path) : Configuration :=
  match workingDirectory with
  | some start => discoverFrom tree start
  | none => default

end Configuration

end ObjectBridge
