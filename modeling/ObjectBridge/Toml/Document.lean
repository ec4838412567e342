import ObjectBridge.Toml.Value

/-!
# Assembling a document

A document is written as a sequence of statements: headers of tables, headers of
items of an array of tables, and assignments.  Here the statements are put
together.  A key is defined once; a table is opened by one header at most, and
neither by a header nor by a dotted key after it was defined in the other way.

Main results:

- Definition `Toml.Sheet.assign`: one more assignment.
- Definition `Toml.assemble`: the document of a sequence of statements.
-/

namespace ObjectBridge.Toml

/-- One statement of a document.  The last key of a path is the one defined. -/
inductive Statement where
  /-- The header of a table. -/
  | openTable (path : List String) (key : String)
  /-- The header of one more item of an array of tables. -/
  | openItem (path : List String) (key : String)
  /-- The assignment of a value. -/
  | assign (path : List String) (key : String) (value : Value)

/-- How a table came to be. -/
inductive Origin where
  /-- Opened by a header. -/
  | header
  /-- Named on the way to a table below it. -/
  | implicit
  /-- Named on the way to a key that is assigned. -/
  | dotted
deriving DecidableEq

/-- What a key stands for while a document is put together. -/
inductive Node where
  /-- A value, to which nothing can be added. -/
  | closed (value : Value)
  /-- A table. -/
  | table (origin : Origin) (entries : List (String × Node))
  /-- An array of tables. -/
  | items (tables : List (List (String × Node)))

/-- A table while a document is put together. -/
abbrev Sheet := List (String × Node)

/-! ## Reading off the values -/

mutual

/-- The value of a node. -/
def Node.value : Node → Value
  | .closed v => v
  | .table _ entries => .table (Sheet.values entries)
  | .items tables => .tables (Sheet.tables tables)

/-- The values of the entries of a table. -/
def Sheet.values : List (String × Node) → Table
  | [] => []
  | (key, node) :: rest => (key, node.value) :: Sheet.values rest

/-- The values of the tables of an array. -/
def Sheet.tables : List (List (String × Node)) → List Table
  | [] => []
  | sheet :: rest => Sheet.values sheet :: Sheet.tables rest

end

namespace Sheet

/-! ## Changing a table -/

/-- The node of a key. -/
def find? (key : String) (sheet : Sheet) : Option Node :=
  (List.find? (fun entry => entry.1 == key) sheet).map Prod.snd

/-- The table with another node for a key it has. -/
def replace (key : String) (node : Node) (sheet : Sheet) : Sheet :=
  sheet.map fun entry => if entry.1 = key then (key, node) else entry

/-- The table without a key. -/
def erase (key : String) (sheet : Sheet) : Sheet :=
  sheet.filter fun entry => entry.1 != key

/-- A change of the table at the end of a path.  Missing tables are added on the way; `origin` says
how.  The change is told how the table came to be.  Dotted keys lead through no table that a header
has opened. -/
def within {α : Type} (origin : Origin) (change : Origin → Sheet → Option (α × Sheet)) :
    Origin → List String → Sheet → Option (α × Sheet)
  | here, [], sheet => change here sheet
  | _, key :: path, sheet =>
    match find? key sheet with
    | none => do
      let (result, below) ← within origin change origin path []
      some (result, sheet ++ [(key, .table origin below)])
    | some (.closed _) => none
    | some (.table how below) => do
      if origin = .dotted ∧ how = .header then none
      else
        let (result, below) ← within origin change how path below
        some (result, replace key (.table how below) sheet)
    | some (.items tables) =>
      match tables.reverse with
      | [] => none
      | last :: before => do
        let (result, last) ← within origin change .header path last
        some (result, replace key (.items (last :: before).reverse) sheet)

/-- The table with one more assignment.  A plain key goes into a table opened by a header or into
the document itself, a dotted one into a table made by dotted keys. -/
def assign (path : List String) (key : String) (value : Value) (sheet : Sheet) : Option Sheet :=
  let define (how : Origin) (sheet : Sheet) : Option (Unit × Sheet) :=
    if how = .dotted ↔ path = [] then none
    else if (find? key sheet).isSome then none
    else some ((), sheet ++ [(key, .closed value)])
  (within .dotted define .header path sheet).map Prod.snd

end Sheet

/-! ## The document -/

/-- Where the assignments that follow belong. -/
inductive Target where
  /-- Into the document itself. -/
  | top
  /-- Into the table of a header. -/
  | table (path : List String) (key : String)
  /-- Into the item of an array of tables. -/
  | item (path : List String) (key : String)

/-- A document being put together: what is finished, and the table that is open. -/
structure Draft where
  finished : Sheet
  target : Target
  current : Sheet

namespace Draft

/-- The draft before the first statement. -/
def empty : Draft := ⟨[], .top, []⟩

/-- The tables with the open one put in its place. -/
def close (d : Draft) : Option Sheet :=
  match d.target with
  | .top => some d.current
  | .table path key =>
    let put (_ : Origin) (sheet : Sheet) : Option (Unit × Sheet) :=
      match Sheet.find? key sheet with
      | none => some ((), sheet ++ [(key, .table .header d.current)])
      | some _ => none
    (Sheet.within .implicit put .header path d.finished).map Prod.snd
  | .item path key =>
    let put (_ : Origin) (sheet : Sheet) : Option (Unit × Sheet) :=
      match Sheet.find? key sheet with
      | none => some ((), sheet ++ [(key, .items [d.current])])
      | some (.items tables) => some ((), Sheet.replace key (.items (tables ++ [d.current])) sheet)
      | some _ => none
    (Sheet.within .implicit put .header path d.finished).map Prod.snd

/-- The table of a header: the one named on the way to another table, taken out of its place, or a
new one. -/
def openTable (d : Draft) (path : List String) (key : String) : Option Draft := do
  let take (_ : Origin) (sheet : Sheet) : Option (Sheet × Sheet) :=
    match Sheet.find? key sheet with
    | none => some ([], sheet)
    | some (.table .implicit below) => some (below, Sheet.erase key sheet)
    | some _ => none
  let (current, finished) ← Sheet.within .implicit take .header path (← d.close)
  some ⟨finished, .table path key, current⟩

/-- The next item of an array of tables. -/
def openItem (d : Draft) (path : List String) (key : String) : Option Draft := do
  let check (_ : Origin) (sheet : Sheet) : Option (Unit × Sheet) :=
    match Sheet.find? key sheet with
    | none => some ((), sheet)
    | some (.items _) => some ((), sheet)
    | some _ => none
  let (_, finished) ← Sheet.within .implicit check .header path (← d.close)
  some ⟨finished, .item path key, []⟩

/-- The draft with one more statement. -/
def add (d : Draft) : Statement → Option Draft
  | .openTable path key => d.openTable path key
  | .openItem path key => d.openItem path key
  | .assign path key value => do
    let current ← Sheet.assign path key value d.current
    some { d with current }

end Draft

/-- The document of a sequence of statements. -/
def assemble (statements : List Statement) : Option Table := do
  let draft ← statements.foldlM Draft.add Draft.empty
  some (Sheet.values (← draft.close))

/-- The table of a list of assignments on one line. -/
def assembleInline (assignments : List (List String × String × Value)) : Option Value := do
  let sheet ← assignments.foldlM (fun sheet a => Sheet.assign a.1 a.2.1 a.2.2 sheet) []
  some (.table (Sheet.values sheet))

end ObjectBridge.Toml
