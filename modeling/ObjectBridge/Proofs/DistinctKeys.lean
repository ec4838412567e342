import ObjectBridge.Proofs.Documents

/-!
# Keys that are defined once

In a document that was read no table defines a key twice, at any depth.  Each way to change the
table of a draft keeps its keys apart: what is added has a new key, and what is there keeps its
own.

Main results:

- Definition `Toml.Value.Distinct`: values whose tables define each key once.
- Theorem `Toml.Sheet.Distinct.within`: a change at the end of a path keeps keys apart if it does
  so in the table there.
- Theorem `Toml.Table.distinct_of_read`: the documents that are read have distinct keys.
-/

namespace ObjectBridge.Toml

/-! ## Values and tables -/

/-- A value whose tables, at any depth, define each key once. -/
inductive Value.Distinct : Value → Prop where
  | string (s : String) : Distinct (.string s)
  | integer (n : Int) : Distinct (.integer n)
  | float (x : Double) : Distinct (.float x)
  | boolean (b : Bool) : Distinct (.boolean b)
  | datetime (text : String) : Distinct (.datetime text)
  | array {items : List Value} (each : ∀ v ∈ items, Distinct v) : Distinct (.array items)
  | table {entries : Table} (keys : (entries.map Prod.fst).Nodup)
      (each : ∀ entry ∈ entries, Distinct entry.2) : Distinct (.table entries)
  | tables {items : List Table} (each : ∀ entries ∈ items, Distinct (.table entries)) :
      Distinct (.tables items)

/-- A table that defines each key once, at any depth. -/
def Table.Distinct (entries : Table) : Prop :=
  (Value.table entries).Distinct

/-- No key of such a table is defined twice. -/
theorem Table.Distinct.keys {entries : Table} (h : entries.Distinct) :
    (entries.map Prod.fst).Nodup := by
  cases h with
  | table keys each => exact keys

/-- The values of such a table define each of their keys once, too. -/
theorem Table.Distinct.each {entries : Table} (h : entries.Distinct) :
    ∀ entry ∈ entries, entry.2.Distinct := by
  cases h with
  | table keys each => exact each

/-- A node that shows a value whose tables define each key once. -/
def Node.Distinct (node : Node) : Prop :=
  node.value.Distinct

/-- A table of a draft that defines each key once. -/
def Sheet.Distinct (sheet : Sheet) : Prop :=
  (values sheet).Distinct

namespace Sheet

variable {sheet sheet' : Sheet} {key : String} {node : Node} {path : List String} {α : Type}

/-- The values of a sheet are those of its nodes. -/
theorem mem_values (sheet : Sheet) (entry : String × Value) :
    entry ∈ values sheet ↔ ∃ node, (entry.1, node) ∈ sheet ∧ node.value = entry.2 := by
  induction sheet with
  | nil => simp [values]
  | cons first rest ih =>
      obtain ⟨key, v⟩ := entry
      obtain ⟨key', node⟩ := first
      simp only [values, List.mem_cons, ih, Prod.mk.injEq]
      grind

/-- The tables of an array are those of its sheets. -/
theorem mem_tables (tables : List Sheet) (entries : Table) :
    entries ∈ Sheet.tables tables ↔ ∃ sheet ∈ tables, values sheet = entries := by
  induction tables with
  | nil => simp [Sheet.tables]
  | cons first rest ih => simp [Sheet.tables, ih, eq_comm]

/-- A sheet shows a table with distinct keys when its own keys are distinct and its nodes show such
values. -/
theorem distinct_iff (sheet : Sheet) :
    sheet.Distinct ↔ (sheet.map Prod.fst).Nodup ∧ ∀ entry ∈ sheet, entry.2.Distinct := by
  constructor
  · intro h
    refine ⟨keys_values sheet ▸ h.keys, fun entry hentry => ?_⟩
    exact h.each (entry.1, entry.2.value) ((mem_values _ _).mpr ⟨entry.2, hentry, rfl⟩)
  · rintro ⟨hkeys, heach⟩
    refine .table (keys_values sheet ▸ hkeys) fun entry hentry => ?_
    obtain ⟨node, hnode, heq⟩ := (mem_values _ _).mp hentry
    exact heq ▸ heach _ hnode

end Sheet

/-- A node of a table is as distinct as the table. -/
theorem Node.distinct_table_iff (origin : Origin) (entries : Sheet) :
    (Node.table origin entries).Distinct ↔ entries.Distinct :=
  Iff.rfl

/-- A node of an array of tables is as distinct as all of them. -/
theorem Node.distinct_items_iff (tables : List Sheet) :
    (Node.items tables).Distinct ↔ ∀ sheet ∈ tables, sheet.Distinct := by
  constructor
  · intro h sheet hsheet
    cases h with
    | tables each => exact each _ ((Sheet.mem_tables _ _).mpr ⟨sheet, hsheet, rfl⟩)
  · intro h
    refine .tables fun entries hentries => ?_
    obtain ⟨sheet, hsheet, rfl⟩ := (Sheet.mem_tables _ _).mp hentries
    exact h sheet hsheet

/-! ## Changes of a table -/

namespace Sheet.Distinct

variable {sheet sheet' : Sheet} {key : String} {node : Node} {path : List String} {α : Type}

/-- A sheet without nodes defines no key twice. -/
theorem nil : Distinct [] :=
  (distinct_iff _).mpr ⟨.nil, nofun⟩

/-- A node that is found shows a value with distinct keys. -/
theorem find (h : sheet.Distinct) (hfind : find? key sheet = some node) : node.Distinct := by
  obtain ⟨entry, hentry, rfl⟩ := Option.map_eq_some_iff.mp hfind
  exact ((distinct_iff _).mp h).2 entry (List.mem_of_find?_eq_some hentry)

/-- A new key may be added. -/
theorem append (h : sheet.Distinct) (hfind : find? key sheet = none) (hnode : node.Distinct) :
    Distinct (sheet ++ [(key, node)]) := by
  obtain ⟨hkeys, heach⟩ := (distinct_iff _).mp h
  have hnew : ∀ entry ∈ sheet, entry.1 ≠ key := by
    simpa [find?, List.find?_eq_none] using hfind
  refine (distinct_iff _).mpr ⟨?_, ?_⟩
  · rw [List.map_append, List.nodup_append]
    refine ⟨hkeys, List.pairwise_singleton _ _, fun k hk k' hk' => ?_⟩
    obtain ⟨entry, hentry, rfl⟩ := List.mem_map.mp hk
    rw [List.mem_singleton.mp hk']
    exact hnew entry hentry
  · rw [List.forall_mem_append, List.forall_mem_singleton]
    exact ⟨heach, hnode⟩

/-- A node may be replaced. -/
theorem replace (h : sheet.Distinct) (hnode : node.Distinct) :
    Distinct (Sheet.replace key node sheet) := by
  obtain ⟨hkeys, heach⟩ := (distinct_iff _).mp h
  have hsame : (Sheet.replace key node sheet).map Prod.fst = sheet.map Prod.fst := by
    rw [Sheet.replace, List.map_map]
    refine List.map_congr_left fun entry _ => ?_
    by_cases hkey : entry.1 = key <;> simp [hkey]
  refine (distinct_iff _).mpr ⟨hsame ▸ hkeys, fun entry hentry => ?_⟩
  obtain ⟨old, hold, rfl⟩ := List.mem_map.mp hentry
  split
  · exact hnode
  · exact heach old hold

/-- A node may be taken away. -/
theorem erase (h : sheet.Distinct) : Distinct (Sheet.erase key sheet) := by
  obtain ⟨hkeys, heach⟩ := (distinct_iff _).mp h
  have hsublist : List.Sublist (Sheet.erase key sheet) sheet := List.filter_sublist
  exact (distinct_iff _).mpr ⟨hkeys.sublist (hsublist.map Prod.fst),
    fun entry hentry => heach entry (hsublist.subset hentry)⟩

/-- A change of a table that has a result of some kind and keeps keys apart. -/
def Kept (P : α → Prop) (change : Origin → Sheet → Option (α × Sheet)) : Prop :=
  ∀ origin sheet result sheet', sheet.Distinct → change origin sheet = some (result, sheet') →
    P result ∧ sheet'.Distinct

/-- So does the change at the end of a path. -/
theorem within {P : α → Prop} {origin : Origin}
    {change : Origin → Sheet → Option (α × Sheet)} (hchange : Kept P change)
    {here : Origin} {result : α} (h : sheet.Distinct)
    (hwithin : Sheet.within origin change here path sheet = some (result, sheet')) :
    P result ∧ sheet'.Distinct := by
  induction path generalizing here sheet sheet' result with
  | nil => exact hchange here sheet result sheet' h hwithin
  | cons key path ih =>
      rw [Sheet.within] at hwithin
      split at hwithin
      · rename_i hfind
        obtain ⟨⟨_, below⟩, hbelow, heq⟩ := Option.bind_eq_some_iff.mp hwithin
        cases heq
        obtain ⟨hresult, hdistinct⟩ := ih .nil hbelow
        exact ⟨hresult, h.append hfind hdistinct⟩
      · cases hwithin
      · rename_i how below hfind
        split at hwithin
        · cases hwithin
        · obtain ⟨⟨_, below'⟩, hbelow, heq⟩ := Option.bind_eq_some_iff.mp hwithin
          cases heq
          obtain ⟨hresult, hdistinct⟩ := ih (h.find hfind) hbelow
          exact ⟨hresult, h.replace hdistinct⟩
      · rename_i tables hfind
        have htables := (Node.distinct_items_iff _).mp (h.find hfind)
        split at hwithin
        · cases hwithin
        · rename_i last before hlast
          obtain ⟨⟨_, last'⟩, hbelow, heq⟩ := Option.bind_eq_some_iff.mp hwithin
          cases heq
          have hmem : ∀ sheet ∈ last :: before, Sheet.Distinct sheet := fun sheet hsheet =>
            htables sheet (List.mem_reverse.mp (hlast ▸ hsheet))
          obtain ⟨hresult, hdistinct⟩ := ih (hmem last List.mem_cons_self) hbelow
          refine ⟨hresult, h.replace ((Node.distinct_items_iff _).mpr fun sheet hsheet => ?_)⟩
          rcases List.mem_cons.mp (List.mem_reverse.mp hsheet) with rfl | hbefore
          · exact hdistinct
          · exact hmem sheet (List.mem_cons_of_mem _ hbefore)

/-- A change without a result. -/
theorem within_unit {origin : Origin} {change : Origin → Sheet → Option (Unit × Sheet)}
    (hchange : Kept (fun _ => True) change) (h : sheet.Distinct)
    (hwithin : (Sheet.within origin change .header path sheet).map Prod.snd = some sheet') :
    sheet'.Distinct := by
  obtain ⟨⟨_, _⟩, hsome, rfl⟩ := Option.map_eq_some_iff.mp hwithin
  exact (within hchange h hsome).2

/-- A value may be assigned to a path of keys. -/
theorem assign {v : Value} (h : sheet.Distinct) (hv : v.Distinct)
    (hassign : Sheet.assign path key v sheet = some sheet') : sheet'.Distinct := by
  refine within_unit (fun how sheet result sheet' hsheet hdefine => ?_) h hassign
  split at hdefine
  · cases hdefine
  · split at hdefine
    · cases hdefine
    · rename_i hnew
      cases hdefine
      exact ⟨trivial, hsheet.append (by simpa using hnew) hv⟩

end Sheet.Distinct

/-! ## Drafts -/

/-- A draft whose tables define each key once. -/
structure Draft.Distinct (d : Draft) : Prop where
  finished : d.finished.Distinct
  current : d.current.Distinct

/-- A statement whose value, if it has one, has distinct keys. -/
def Statement.Distinct : Statement → Prop
  | .assign _ _ v => v.Distinct
  | _ => True

namespace Draft.Distinct

variable {d d' : Draft} {path : List String} {key : String} {sheet : Sheet}

/-- What a draft comes to when it is closed has distinct keys. -/
theorem close (h : d.Distinct) (hclose : d.close = some sheet) : sheet.Distinct := by
  unfold Draft.close at hclose
  split at hclose
  · cases hclose
    exact h.current
  · refine Sheet.Distinct.within_unit (fun how sheet result sheet' hsheet hput => ?_)
      h.finished hclose
    split at hput
    · rename_i hfind
      cases hput
      exact ⟨trivial, hsheet.append hfind h.current⟩
    · cases hput
  · refine Sheet.Distinct.within_unit (fun how sheet result sheet' hsheet hput => ?_)
      h.finished hclose
    split at hput
    · rename_i hfind
      cases hput
      exact ⟨trivial, hsheet.append hfind
        ((Node.distinct_items_iff _).mpr (List.forall_mem_singleton.mpr h.current))⟩
    · rename_i tables hfind
      cases hput
      refine ⟨trivial, hsheet.replace ((Node.distinct_items_iff _).mpr ?_)⟩
      rw [List.forall_mem_append, List.forall_mem_singleton]
      exact ⟨(Node.distinct_items_iff _).mp (hsheet.find hfind), h.current⟩
    · cases hput

/-- A table may be opened. -/
theorem openTable (h : d.Distinct) (hopen : d.openTable path key = some d') : d'.Distinct := by
  obtain ⟨finished, hclose, hopen⟩ := Option.bind_eq_some_iff.mp hopen
  obtain ⟨⟨current, rest⟩, hwithin, heq⟩ := Option.bind_eq_some_iff.mp hopen
  cases heq
  have htaken : Sheet.Distinct rest ∧ Sheet.Distinct current := by
    refine (Sheet.Distinct.within (P := Sheet.Distinct)
      (fun how sheet result sheet' hsheet htake => ?_) (h.close hclose) hwithin).symm
    split at htake
    · cases htake
      exact ⟨.nil, hsheet⟩
    · rename_i below hfind
      cases htake
      exact ⟨(Node.distinct_table_iff _ _).mp (hsheet.find hfind), hsheet.erase⟩
    · cases htake
  exact ⟨htaken.1, htaken.2⟩

/-- A new item of an array of tables may be opened. -/
theorem openItem (h : d.Distinct) (hopen : d.openItem path key = some d') : d'.Distinct := by
  obtain ⟨finished, hclose, hopen⟩ := Option.bind_eq_some_iff.mp hopen
  obtain ⟨⟨_, rest⟩, hwithin, heq⟩ := Option.bind_eq_some_iff.mp hopen
  cases heq
  refine ⟨?_, .nil⟩
  refine (Sheet.Distinct.within (P := fun _ => True)
    (fun how sheet result sheet' hsheet hcheck => ?_) (h.close hclose) hwithin).2
  split at hcheck
  · cases hcheck
    exact ⟨trivial, hsheet⟩
  · cases hcheck
    exact ⟨trivial, hsheet⟩
  · cases hcheck

/-- A statement keeps the keys of a draft apart. -/
theorem add {statement : Statement} (h : d.Distinct) (hstatement : statement.Distinct)
    (hadd : d.add statement = some d') : d'.Distinct := by
  cases statement with
  | openTable path key => exact h.openTable hadd
  | openItem path key => exact h.openItem hadd
  | assign path key v =>
      obtain ⟨current, hassign, heq⟩ := Option.bind_eq_some_iff.mp hadd
      cases heq
      exact ⟨h.finished, h.current.assign hstatement hassign⟩

/-- So do statements one after another. -/
theorem addAll {statements : List Statement} (h : d.Distinct)
    (hstatements : ∀ statement ∈ statements, statement.Distinct)
    (hadd : statements.foldlM Draft.add d = some d') : d'.Distinct := by
  induction statements generalizing d with
  | nil =>
      cases hadd
      exact h
  | cons statement statements ih =>
      obtain ⟨hfirst, hrest⟩ := List.forall_mem_cons.mp hstatements
      rw [List.foldlM_cons] at hadd
      obtain ⟨next, hnext, hadd⟩ := Option.bind_eq_some_iff.mp hadd
      exact ih (h.add hfirst hnext) hrest hadd

end Draft.Distinct

/-- A document that is put together from statements defines each key once. -/
theorem Table.distinct_of_assemble {statements : List Statement} {document : Table}
    (hstatements : ∀ statement ∈ statements, statement.Distinct)
    (h : assemble statements = some document) : document.Distinct := by
  obtain ⟨d, hd, h⟩ := Option.bind_eq_some_iff.mp h
  obtain ⟨sheet, hclose, heq⟩ := Option.bind_eq_some_iff.mp h
  cases heq
  have hempty : Draft.empty.Distinct := ⟨.nil, .nil⟩
  exact (hempty.addAll hstatements hd).close hclose

/-! ## Reading -/

variable {α β : Type} {P : α → Prop} {Q : β → Prop} {cs : List Char}

/-- A reader that, where it reads something, yields a result of some kind. -/
def Yields (P : α → Prop) (read : Option (α × List Char)) : Prop :=
  ∀ result rest, read = some (result, rest) → P result

namespace Yields

/-- A reader that fails yields nothing. -/
theorem none : Yields P none :=
  nofun

/-- A result that is there is what is yielded. -/
theorem some {result : α} {rest : List Char} (h : P result) : Yields P (some (result, rest)) := by
  intro result' rest' heq
  cases heq
  exact h

/-- A sequence yields what its second part does. -/
theorem bind {first : Option β} {next : β → Option (α × List Char)}
    (h : ∀ b, first = Option.some b → Yields P (next b)) : Yields P (first >>= next) := by
  intro result rest heq
  obtain ⟨b, hb, heq⟩ := Option.bind_eq_some_iff.mp heq
  exact h b hb result rest heq

/-- A reader after another one, which yields a result of some kind itself. -/
theorem andThen {first : Option (β × List Char)} {next : β × List Char → Option (α × List Char)}
    (hfirst : Yields Q first) (hnext : ∀ b rest, Q b → Yields P (next (b, rest))) :
    Yields P (first >>= next) := by
  refine bind fun r hr => ?_
  obtain ⟨b, rest⟩ := r
  exact hnext b rest (hfirst b rest hr)

/-- A result that is changed is yielded as it was changed. -/
theorem map {read : Option (β × List Char)} {f : β → α} (h : Yields (fun b => P (f b)) read) :
    Yields P (read.map fun r => (f r.1, r.2)) := by
  intro result rest heq
  obtain ⟨⟨b, after⟩, hread, heq⟩ := Option.map_eq_some_iff.mp heq
  cases heq
  exact h b after hread

end Yields

/-- What is read as a number with a fraction has no keys at all. -/
theorem readFloat_yields (cs : List Char) : Yields Value.Distinct (readFloat cs) := by
  have hbounded (x : Double) (rest : List Char) : Yields Value.Distinct
      (if x.number = .infinite false then none else some (.float x, rest)) := by
    split
    · exact .none
    · exact .some (.float x)
  unfold readFloat
  split
  split
  · exact .some (.float _)
  · exact .some (.float _)
  · refine .bind fun whole _ => ?_
    -- The ways to read a fraction, and then an exponent, all end in a bounded number.
    split
    dsimp only
    split <;> refine .bind fun fraction _ => ?_
    all_goals split <;> exact .bind fun exponent _ => hbounded _ _

/-- What is read as an integer has no keys at all. -/
theorem readInteger_yields (cs : List Char) : Yields Value.Distinct (readInteger cs) := by
  have hchecked (n : Int) (rest : List Char) :
      Yields Value.Distinct (do some (← checkedInteger n, rest)) := by
    unfold checkedInteger
    split
    · exact .some (.integer n)
    · exact .none
  unfold readInteger
  split
  · exact .bind fun digits _ => hchecked _ _
  · exact .bind fun digits _ => hchecked _ _
  · exact .bind fun digits _ => hchecked _ _
  · exact .bind fun digits _ => hchecked _ _

/-- What is read as a number has no keys at all. -/
theorem readNumber_yields (cs : List Char) : Yields Value.Distinct (readNumber cs) := by
  unfold readNumber
  split
  · exact .some (.datetime _)
  · split
    · rename_i r hfloat
      rw [← hfloat]
      exact readFloat_yields cs
    · exact readInteger_yields cs

/-- The items of an array are of the kind that the reader of an item yields. -/
theorem readItems_yields {item : Reader Value} {P : Value → Prop}
    (hitem : ∀ cs, Yields P (item cs)) (count : Nat) (cs : List Char) :
    Yields (fun items => ∀ v ∈ items, P v) (readItems item count cs) := by
  induction count generalizing cs with
  | zero => exact .none
  | succ count ih =>
      rw [readItems]
      refine .bind fun cs _ => ?_
      split
      · exact .some (List.forall_mem_nil _)
      · refine (hitem _).andThen fun v cs hv => .bind fun after _ => ?_
        split
        · exact .some (List.forall_mem_singleton.mpr hv)
        · refine (ih _).andThen fun items rest hitems => .some ?_
          exact List.forall_mem_cons.mpr ⟨hv, hitems⟩
        · exact .none

/-- The value of an assignment is what the reader of values yields. -/
theorem readAssignment_yields {value : Reader Value} {P : Value → Prop}
    (hvalue : ∀ cs, Yields P (value cs)) (cs : List Char) :
    Yields (fun assignment => P assignment.2.2) (readAssignment value cs) := by
  refine .bind fun key _ => .bind fun cs _ => ?_
  exact (hvalue _).andThen fun v rest hv => .some hv

/-- So are the values of several assignments. -/
theorem readAssignments_yields {value : Reader Value} {P : Value → Prop}
    (hvalue : ∀ cs, Yields P (value cs)) (count : Nat) (cs : List Char) :
    Yields (fun assignments => ∀ a ∈ assignments, P a.2.2) (readAssignments value count cs) := by
  induction count generalizing cs with
  | zero => exact .none
  | succ count ih =>
      rw [readAssignments]
      refine (readAssignment_yields hvalue cs).andThen fun assignment cs hfirst => ?_
      dsimp only
      split
      · exact .some (List.forall_mem_singleton.mpr hfirst)
      · refine (ih _).andThen fun assignments rest hassignments => .some ?_
        exact List.forall_mem_cons.mpr ⟨hfirst, hassignments⟩
      · exact .none

/-- Assignments one after another keep the keys of a sheet apart. -/
theorem Sheet.Distinct.assignAll {assignments : List (List String × String × Value)}
    {sheet sheet' : Sheet} (h : sheet.Distinct) (hassignments : ∀ a ∈ assignments, a.2.2.Distinct)
    (hassign : assignments.foldlM (fun sheet a => Sheet.assign a.1 a.2.1 a.2.2 sheet) sheet =
      some sheet') : sheet'.Distinct := by
  induction assignments generalizing sheet with
  | nil =>
      cases hassign
      exact h
  | cons a assignments ih =>
      obtain ⟨hfirst, hrest⟩ := List.forall_mem_cons.mp hassignments
      rw [List.foldlM_cons] at hassign
      obtain ⟨next, hnext, hassign⟩ := Option.bind_eq_some_iff.mp hassign
      exact ih (h.assign hfirst hnext) hrest hassign

/-- An inline table defines each key once. -/
theorem Value.distinct_of_assembleInline {assignments : List (List String × String × Value)}
    {v : Value} (hassignments : ∀ a ∈ assignments, a.2.2.Distinct)
    (h : assembleInline assignments = some v) : v.Distinct := by
  obtain ⟨sheet, hsheet, heq⟩ := Option.bind_eq_some_iff.mp h
  cases heq
  exact Sheet.Distinct.nil.assignAll hassignments hsheet

/-- The tables of a value define each key once, whatever its depth. -/
theorem readValue_yields (levels : Nat) (cs : List Char) :
    Yields Value.Distinct (readValue levels cs) := by
  induction levels using Nat.strongRecOn generalizing cs with
  | ind levels ih =>
      rw [readValue.eq_def]
      dsimp only
      split
      · split
        · exact .none
        · rename_i levels
          have hitems := readItems_yields (ih levels (Nat.lt_succ_self levels))
          exact .map fun items rest hread => .array (hitems _ _ items rest hread)
      · split
        · exact .none
        · rename_i levels
          have hassignments := readAssignments_yields (ih levels (Nat.lt_succ_self levels))
          split
          · exact .some Sheet.Distinct.nil
          · refine (hassignments _ _).andThen fun assignments after hdistinct => ?_
            exact .bind fun v hv => .some (Value.distinct_of_assembleInline hdistinct hv)
      · exact .some (.boolean true)
      · exact .some (.boolean false)
      · exact .map fun s _ _ => .string s
      · exact .map fun s _ _ => .string s
      · exact readNumber_yields _

/-- A statement is read with a value that defines each key once. -/
theorem readStatement_yields (cs : List Char) : Yields Statement.Distinct (readStatement cs) := by
  unfold readStatement
  split
  · exact .bind fun key _ => .bind fun cs _ => .bind fun cs _ => .bind fun cs _ => .some trivial
  · exact .bind fun key _ => .bind fun cs _ => .bind fun cs _ => .some trivial
  · refine (readAssignment_yields (readValue_yields _) _).andThen fun assignment cs hv => ?_
    exact .bind fun rest _ => .some hv

/-- So are all statements of a document. -/
theorem distinct_of_readStatements {count : Nat} {cs : List Char} {statements : List Statement}
    (h : readStatements count cs = some statements) :
    ∀ statement ∈ statements, statement.Distinct := by
  induction count generalizing cs statements with
  | zero => cases h
  | succ count ih =>
      rw [readStatements] at h
      obtain ⟨cs, -, h⟩ := Option.bind_eq_some_iff.mp h
      split at h
      · cases h
        exact List.forall_mem_nil _
      · obtain ⟨⟨statement, rest⟩, hfirst, h⟩ := Option.bind_eq_some_iff.mp h
        obtain ⟨statements, hrest, heq⟩ := Option.bind_eq_some_iff.mp h
        cases heq
        exact List.forall_mem_cons.mpr ⟨readStatement_yields _ _ _ hfirst, ih hrest⟩

/-- A document that is read defines each key once. -/
theorem Table.distinct_of_read {text : String} {document : Table} (h : read text = some document) :
    document.Distinct := by
  obtain ⟨statements, hstatements, h⟩ := Option.bind_eq_some_iff.mp h
  exact distinct_of_assemble (distinct_of_readStatements hstatements) h

end ObjectBridge.Toml
