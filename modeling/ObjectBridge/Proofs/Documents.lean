import ObjectBridge.Configuration.Document
import ObjectBridge.Proofs.Quotation

/-!
# Documents that are read back

A document whose tables hold booleans, strings and arrays of strings is written as one
statement a line.  The reader takes the lines apart again, and the statements put the same
document together.

Main results:

- Theorem `Toml.readValue_writeValue`: a written value is read back.
- Theorem `Toml.Spells.read`: statements are read from the text that spells them.
- Theorem `Toml.read_write`: a plain document is read back from its text.
-/

namespace ObjectBridge.Toml

/-! ## Plain documents -/

/-- A value that is written on its own: a boolean, a string or an array of strings. -/
inductive Value.Plain : Value → Prop where
  | boolean (b : Bool) : Plain (.boolean b)
  | string (s : String) : Plain (.string s)
  | array (texts : List String) : Plain (.array (texts.map .string))

/-- A key that is written without quotes. -/
def IsBareKey (key : String) : Prop :=
  key.toList ≠ [] ∧ key.toList.all isBareKeyChar = true

instance (key : String) : Decidable (IsBareKey key) :=
  inferInstanceAs (Decidable (_ ∧ _))

/-- A table of plain values, each under a key of its own. -/
structure Table.Plain (entries : Table) : Prop where
  keys : ∀ key ∈ entries.map Prod.fst, IsBareKey key
  distinct : (entries.map Prod.fst).Nodup
  values : ∀ entry ∈ entries, entry.2.Plain

/-- A document of plain tables, each under a key of its own. -/
structure PlainDocument (document : Table) : Prop where
  keys : ∀ key ∈ document.map Prod.fst, IsBareKey key
  distinct : (document.map Prod.fst).Nodup
  tables : ∀ entry ∈ document, ∃ entries : Table, entry.2 = .table entries ∧ entries.Plain

variable {c : Char} {cs rest : List Char} {key : String}

/-! ## Values -/

/-- A written string starts with a quote. -/
theorem writeString_head (s : String) :
    (writeString s).toList.head? = some '"' ∨ (writeString s).toList.head? = some '\'' := by
  simp only [writeString, String.toList_ofList]
  split
  · exact .inl rfl
  · split
    · exact .inr rfl
    · split
      · exact .inl rfl
      · split
        · exact .inr rfl
        · split <;> exact .inl rfl

/-- A string that is written begins with a quote. -/
theorem exists_writeString (s : String) :
    ∃ q cs, (writeString s).toList = q :: cs ∧ (q = '"' ∨ q = '\'') := by
  obtain h | h := writeString_head s
  · obtain ⟨cs, hcs⟩ := List.head?_eq_some_iff.mp h
    exact ⟨_, cs, hcs, .inl rfl⟩
  · obtain ⟨cs, hcs⟩ := List.head?_eq_some_iff.mp h
    exact ⟨_, cs, hcs, .inr rfl⟩

/-- So there is nothing to skip in front of it. -/
theorem skipVoid_writeString (s : String) (rest : List Char) :
    skipVoid false ((writeString s).toList ++ rest) = some ((writeString s).toList ++ rest) := by
  obtain ⟨q, cs, hcs, rfl | rfl⟩ := exists_writeString s
  · rw [hcs]
    rfl
  · rw [hcs]
    rfl

/-- A string that is written is read as a value. -/
theorem readValue_writeString (levels : Nat) (s : String) (hdouble : rest.head? ≠ some '"')
    (hsingle : rest.head? ≠ some '\'') :
    readValue levels ((writeString s).toList ++ rest) = some (.string s, rest) := by
  have hstring := readString_writeString s hdouble hsingle
  obtain ⟨q, cs, hcs, rfl | rfl⟩ := exists_writeString s
  · rw [hcs] at hstring ⊢
    have hread : readValue levels ('"' :: cs ++ rest) =
        (readString ('"' :: cs ++ rest)).map fun r => (.string r.1, r.2) := by
      rw [readValue.eq_def]
      rfl
    rw [hread, hstring]
    rfl
  · rw [hcs] at hstring ⊢
    have hread : readValue levels ('\'' :: cs ++ rest) =
        (readString ('\'' :: cs ++ rest)).map fun r => (.string r.1, r.2) := by
      rw [readValue.eq_def]
      rfl
    rw [hread, hstring]
    rfl

/-- The last item of an array, which the closing bracket follows. -/
theorem readItems_last {item : Reader Value} {count : Nat} {v : Value} {after : List Char}
    (hvoid : skipVoid false cs = some (c :: rest)) (hc : c ≠ ']')
    (hitem : item (c :: rest) = some (v, ']' :: after)) :
    readItems item (count + 1) cs = some ([v], after) := by
  rw [readItems, hvoid]
  simp only [Option.bind_eq_bind, Option.bind_some]
  split
  · rename_i heq
    exact absurd (List.cons.inj heq).1 hc
  · rw [hitem]
    rfl

/-- An item of an array that a comma follows. -/
theorem readItems_next {item : Reader Value} {count : Nat} {v : Value} {after : List Char}
    (hvoid : skipVoid false cs = some (c :: rest)) (hc : c ≠ ']')
    (hitem : item (c :: rest) = some (v, ',' :: after)) :
    readItems item (count + 1) cs =
      (readItems item count after).map fun r => (v :: r.1, r.2) := by
  rw [readItems, hvoid]
  simp only [Option.bind_eq_bind, Option.bind_some]
  split
  · rename_i heq
    exact absurd (List.cons.inj heq).1 hc
  · rw [hitem]
    cases h : readItems item count after with
    | none => simp [skipVoid, isSpace, h]
    | some r => simp [skipVoid, isSpace, h]

/-- The text of an item on a line of its own. -/
def itemLine (s : String) : List Char :=
  [' ', ' ', ' ', ' '] ++ (writeString s).toList ++ [',', '\n']

/-- No line of an item is empty. -/
theorem length_le_itemLines (texts : List String) :
    texts.length ≤ (texts.flatMap itemLine).length := by
  induction texts with
  | nil => exact Nat.le_refl 0
  | cons s texts ih =>
    rw [List.flatMap_cons, List.length_append, List.length_cons, itemLine, List.length_append]
    simp only [List.length_cons, List.length_nil]
    omega

/-- Items on lines of their own are read one after another. -/
theorem readItems_lines (levels : Nat) (texts : List String) {count : Nat}
    (hcount : texts.length < count) :
    readItems (readValue levels) count ('\n' :: (texts.flatMap itemLine ++ ']' :: rest)) =
      some (texts.map .string, rest) := by
  induction texts generalizing count with
  | nil =>
    obtain ⟨count, rfl⟩ := Nat.exists_eq_succ_of_ne_zero (Nat.ne_zero_of_lt hcount)
    rfl
  | cons s texts ih =>
    obtain ⟨count, rfl⟩ := Nat.exists_eq_succ_of_ne_zero (Nat.ne_zero_of_lt hcount)
    have hrest := ih (Nat.lt_of_succ_lt_succ hcount)
    rw [List.flatMap_cons, List.append_assoc]
    generalize texts.flatMap itemLine ++ ']' :: rest = lines at hrest ⊢
    have hvoid : skipVoid false ('\n' :: (itemLine s ++ lines)) =
        some ((writeString s).toList ++ (',' :: '\n' :: lines)) := by
      have hspaces (cs : List Char) :
          skipVoid false ('\n' :: ([' ', ' ', ' ', ' '] ++ cs)) = skipVoid false cs := rfl
      rw [itemLine, List.append_assoc, List.append_assoc, hspaces, skipVoid_writeString]
      rfl
    have hitem : readValue levels ((writeString s).toList ++ (',' :: '\n' :: lines)) =
        some (.string s, ',' :: '\n' :: lines) :=
      readValue_writeString levels s (by simp) (by simp)
    obtain ⟨q, cs, hcs, hq⟩ := exists_writeString s
    rw [hcs, List.cons_append] at hvoid hitem
    have hc : q ≠ ']' := by
      rintro rfl
      simp at hq
    rw [readItems_next hvoid hc hitem, hrest]
    rfl

/-- An array is written without items, with its only item or with a line for each. -/
theorem writeValue_array (texts : List String) :
    (writeValue (.array (texts.map .string))).toList =
      match texts with
      | [] => ['[', ']']
      | [s] => '[' :: ((writeString s).toList ++ [']'])
      | texts => '[' :: '\n' :: (texts.flatMap itemLine ++ [']']) := by
  match texts with
  | [] => rfl
  | [s] => simp [writeValue]
  | s :: t :: texts =>
    have hline (s : String) : ' ' :: ' ' :: ' ' :: ' ' :: ((writeString s).toList ++ [',', '\n']) =
        itemLine s := rfl
    simp [writeValue, List.flatMap_map, Function.comp_def, hline]

/-- An array of strings that is written is read as a value. -/
theorem readValue_array (levels : Nat) (texts : List String) :
    readValue (levels + 1) ((writeValue (.array (texts.map .string))).toList ++ rest) =
      some (.array (texts.map .string), rest) := by
  have hread (cs : List Char) : readValue (levels + 1) ('[' :: cs) =
      (readItems (readValue levels) (cs.length + 1) cs).map fun r => (.array r.1, r.2) := by
    rw [readValue.eq_def]
    rfl
  rw [writeValue_array]
  match texts with
  | [] => rfl
  | [s] =>
    obtain ⟨q, cs, hcs, hq⟩ := exists_writeString s
    have hvoid := skipVoid_writeString s (']' :: rest)
    have hitem : readValue levels ((writeString s).toList ++ ']' :: rest) =
        some (.string s, ']' :: rest) := readValue_writeString levels s (by simp) (by simp)
    rw [hcs, List.cons_append] at hvoid hitem
    have hc : q ≠ ']' := by
      rintro rfl
      simp at hq
    simp only [List.cons_append, List.append_assoc, List.nil_append]
    rw [hread, hcs, List.cons_append, readItems_last hvoid hc hitem]
    rfl
  | s :: t :: texts =>
    simp only [List.cons_append, List.append_assoc, List.nil_append]
    have hcount : (s :: t :: texts).length <
        ('\n' :: ((s :: t :: texts).flatMap itemLine ++ ']' :: rest)).length + 1 := by
      have hlength := length_le_itemLines (s :: t :: texts)
      rw [List.length_cons (a := '\n'), List.length_append]
      omega
    rw [hread, readItems_lines levels _ hcount]
    rfl

/-- A plain value is read back, unless a quote follows it. -/
theorem readValue_writeValue (levels : Nat) {v : Value} (hv : v.Plain)
    (hdouble : rest.head? ≠ some '"') (hsingle : rest.head? ≠ some '\'') :
    readValue (levels + 1) ((writeValue v).toList ++ rest) = some (v, rest) := by
  cases hv with
  | boolean b => cases b <;> rfl
  | string s => exact readValue_writeString _ s hdouble hsingle
  | array texts => exact readValue_array levels texts

/-! ## Keys -/

/-- A character of a bare key is no blank, quote, bracket or mark of a comment. -/
theorem isBareKeyChar_spec (h : isBareKeyChar c = true) :
    isSpace c = false ∧ c ≠ '"' ∧ c ≠ '\'' ∧ c ≠ '[' ∧ c ≠ '\n' ∧ c ≠ '\r' ∧ c ≠ '#' := by
  refine ⟨?_, ?_, ?_, ?_, ?_, ?_, ?_⟩
  · cases hspace : isSpace c with
    | false => rfl
    | true =>
      simp only [isSpace, Bool.or_eq_true, beq_iff_eq] at hspace
      obtain rfl | rfl := hspace <;> revert h <;> decide
  all_goals
    rintro rfl
    revert h
    decide

/-- A bare key has a first character. -/
theorem exists_bareKey (hkey : IsBareKey key) :
    ∃ d ds, key.toList = d :: ds ∧ isBareKeyChar d = true := by
  obtain ⟨d, ds, hds⟩ := List.exists_cons_of_ne_nil hkey.1
  exact ⟨d, ds, hds, List.all_eq_true.mp hkey.2 d (hds ▸ List.mem_cons_self)⟩

/-- What starts with a bare key does not start with a bracket. -/
theorem bareKey_append_ne (bare : IsBareKey key) (text cs : List Char) :
    key.toList ++ text ≠ '[' :: cs := by
  obtain ⟨d, ds, hds, hd⟩ := exists_bareKey bare
  obtain ⟨-, -, -, hbracket, -⟩ := isBareKeyChar_spec hd
  rw [hds]
  exact fun heq => hbracket (List.cons.inj heq).1

/-- A bare key is read up to the first character that it cannot hold. -/
theorem readSegment_bare (hkey : IsBareKey key) (hc : isBareKeyChar c = false) :
    readSegment (key.toList ++ c :: rest) = some (key, c :: rest) := by
  obtain ⟨d, ds, hds, hd⟩ := exists_bareKey hkey
  obtain ⟨-, hdouble, hsingle, -⟩ := isBareKeyChar_spec hd
  have hchars := List.all_eq_true.mp hkey.2
  have hbare : (key.toList ++ c :: rest).takeWhile isBareKeyChar = key.toList := by
    rw [List.takeWhile_append_of_pos hchars, List.takeWhile_cons, if_neg (by simp [hc]),
      List.append_nil]
  have hafter : (key.toList ++ c :: rest).dropWhile isBareKeyChar = c :: rest := by
    rw [List.dropWhile_append_of_pos hchars, List.dropWhile_cons, if_neg (by simp [hc])]
  rw [hds, List.cons_append] at hbare hafter ⊢
  rw [readSegment.eq_def]
  split
  · rename_i heq
    exact absurd (List.cons.inj heq).1 hdouble
  · rename_i heq
    exact absurd (List.cons.inj heq).1 hsingle
  · simp only [hbare, hafter]
    rw [if_neg (List.cons_ne_nil d ds), ← hds, String.ofList_toList]

/-- There is nothing to skip in front of a bare key. -/
theorem skipSpaces_bare (hkey : IsBareKey key) :
    skipSpaces (key.toList ++ cs) = key.toList ++ cs := by
  obtain ⟨d, ds, hds, hd⟩ := exists_bareKey hkey
  obtain ⟨hspace, -⟩ := isBareKeyChar_spec hd
  rw [hds, List.cons_append, skipSpaces, List.dropWhile_cons, if_neg (by simp [hspace])]

/-- A key without dots is one bare segment. -/
theorem readKey_bare (segments : Nat) (hkey : IsBareKey key) (hc : isBareKeyChar c = false)
    (hdot : (skipSpaces (c :: rest)).head? ≠ some '.') :
    readKey (segments + 1) (key.toList ++ c :: rest) =
      some (([], key), skipSpaces (c :: rest)) := by
  rw [readKey, skipSpaces_bare hkey, readSegment_bare hkey hc]
  simp only [Option.bind_eq_bind, Option.bind_some]
  split
  · rename_i heq
    rw [heq] at hdot
    exact absurd rfl hdot
  · rfl

/-! ## Statements -/

/-- A line of a plain document: the header of a table, or the assignment of a plain value. -/
inductive Line : List Char → Statement → Prop where
  | openTable {key : String} (bare : IsBareKey key) :
      Line ('[' :: (key.toList ++ [']', '\n'])) (.openTable [] key)
  | assign {key : String} {v : Value} (bare : IsBareKey key) (plain : v.Plain) :
      Line (key.toList ++ ([' ', '=', ' '] ++ ((writeValue v).toList ++ ['\n']))) (.assign [] key v)

variable {text : List Char} {st : Statement}

/-- Nor in front of a value that is written. -/
theorem skipSpaces_writeValue {v : Value} (hv : v.Plain) :
    skipSpaces ((writeValue v).toList ++ rest) = (writeValue v).toList ++ rest := by
  cases hv with
  | boolean b => cases b <;> rfl
  | string s =>
    obtain ⟨q, cs, hcs, rfl | rfl⟩ := exists_writeString s
    · rw [writeValue, hcs]
      rfl
    · rw [writeValue, hcs]
      rfl
  | array texts =>
    rw [writeValue_array]
    split <;> rfl

/-- A statement is read from its line. -/
theorem Line.readStatement (h : Line text st) (rest : List Char) :
    Toml.readStatement (text ++ rest) = some (st, rest) := by
  cases h with
  | @openTable key bare =>
    have hkey : readKey (levelLimit - 1) (key.toList ++ ']' :: '\n' :: rest) =
        some (([], key), ']' :: '\n' :: rest) :=
      readKey_bare _ bare (by decide) (by simp [skipSpaces, isSpace])
    simp only [List.cons_append, List.append_assoc, List.nil_append]
    rw [Toml.readStatement]
    · rw [hkey]
      rfl
    · exact bareKey_append_ne bare _
  | @assign key v bare plain =>
    simp only [List.cons_append, List.append_assoc, List.nil_append]
    have hkey : readKey (levelLimit - 1)
        (key.toList ++ ' ' :: '=' :: ' ' :: ((writeValue v).toList ++ '\n' :: rest)) =
        some (([], key), '=' :: ' ' :: ((writeValue v).toList ++ '\n' :: rest)) :=
      readKey_bare _ bare (by decide) (by simp [skipSpaces, isSpace])
    have hspace (cs : List Char) : skipSpaces (' ' :: cs) = skipSpaces cs := rfl
    have hvalue : readValue (levelLimit - 1) ((writeValue v).toList ++ '\n' :: rest) =
        some (v, '\n' :: rest) := readValue_writeValue _ plain (by simp) (by simp)
    have hassign : readAssignment (readValue (levelLimit - 1))
        (key.toList ++ ' ' :: '=' :: ' ' :: ((writeValue v).toList ++ '\n' :: rest)) =
        some (([], key, v), '\n' :: rest) := by
      rw [readAssignment, hkey]
      simp [readChar, hspace, skipSpaces_writeValue plain, hvalue]
    rw [Toml.readStatement]
    · rw [hassign]
      rfl
    · exact fun _ => bareKey_append_ne bare _ _
    · exact bareKey_append_ne bare _

/-! ## Texts -/

variable {sts : List Statement}

/-- The text of some statements: a line for each, with empty ones among them. -/
inductive Spells : List Char → List Statement → Prop where
  | nil : Spells [] []
  | blank {cs : List Char} {sts : List Statement} (more : Spells cs sts) : Spells ('\n' :: cs) sts
  | line {text cs : List Char} {st : Statement} {sts : List Statement} (first : Line text st)
      (more : Spells cs sts) : Spells (text ++ cs) (st :: sts)

/-- Texts of statements one after another are the text of all. -/
theorem Spells.append {ds : List Char} {tts : List Statement} (h : Spells cs sts)
    (hmore : Spells ds tts) : Spells (cs ++ ds) (sts ++ tts) := by
  induction h with
  | nil => exact hmore
  | blank _ ih => exact .blank ih
  | line first _ ih =>
    rw [List.append_assoc]
    exact .line first ih

/-- A line starts with a bracket or with its key. -/
theorem Line.head (h : Line text st) :
    ∃ c cs, text = c :: cs ∧ (c = '[' ∨ isBareKeyChar c = true) := by
  cases h with
  | openTable bare => exact ⟨_, _, rfl, .inl rfl⟩
  | assign bare plain =>
    obtain ⟨d, ds, hds, hd⟩ := exists_bareKey bare
    exact ⟨d, _, by rw [hds, List.cons_append], .inr hd⟩

/-- There is nothing to skip in front of a line. -/
theorem Line.skipVoid (h : Line text st) (rest : List Char) :
    Toml.skipVoid false (text ++ rest) = some (text ++ rest) := by
  obtain ⟨c, cs, rfl, rfl | hc⟩ := h.head
  · rfl
  · obtain ⟨hspace, -, -, -, hline, hreturn, hcomment⟩ := isBareKeyChar_spec hc
    rw [List.cons_append, Toml.skipVoid.eq_def]
    split
    · rename_i heq
      cases heq
    · rename_i heq
      exact absurd (List.cons.inj heq).1 hline
    · rename_i heq
      exact absurd (List.cons.inj heq).1 hreturn
    · rename_i heq
      obtain ⟨rfl, rfl⟩ := List.cons.inj heq
      simp [hspace, hcomment]

/-- The statements are read from a text that spells them. -/
theorem Spells.read (h : Spells cs sts) {count : Nat} (hcount : cs.length < count) :
    readStatements count cs = some sts := by
  induction h generalizing count with
  | nil =>
    obtain ⟨count, rfl⟩ := Nat.exists_eq_succ_of_ne_zero (Nat.ne_zero_of_lt hcount)
    rfl
  | @blank cs sts _ ih =>
    obtain ⟨count, rfl⟩ := Nat.exists_eq_succ_of_ne_zero (Nat.ne_zero_of_lt hcount)
    have hread := ih (Nat.lt_of_succ_lt hcount)
    rw [readStatements] at hread ⊢
    exact hread
  | @line text cs st sts first more ih =>
    obtain ⟨count, rfl⟩ := Nat.exists_eq_succ_of_ne_zero (Nat.ne_zero_of_lt hcount)
    have hskip := first.skipVoid cs
    have hstatement := first.readStatement cs
    obtain ⟨c, ds, rfl, -⟩ := first.head
    have hlength : cs.length < count := by
      rw [List.cons_append, List.length_cons, List.length_append] at hcount
      omega
    rw [readStatements, hskip]
    simp only [List.cons_append, Option.bind_eq_bind, Option.bind_some] at hstatement ⊢
    rw [hstatement, Option.bind_some, ih hlength, Option.bind_some]

/-- No text that spells statements starts with a mark of the byte order. -/
theorem Spells.head_ne_mark (h : Spells cs sts) : cs.head? ≠ some '\uFEFF' := by
  cases h with
  | nil => simp
  | blank => simp
  | line first =>
    obtain ⟨c, ds, rfl, rfl | hc⟩ := first.head
    · simp
    · rw [List.cons_append, List.head?_cons]
      intro heq
      rw [Option.some.inj heq] at hc
      revert hc
      decide

/-- The statements of a table. -/
def tableStatements (name : String) (entries : Table) : List Statement :=
  .openTable [] name :: entries.map fun entry => .assign [] entry.1 entry.2

/-- The statements of a document of tables. -/
def documentStatements (document : Table) : List Statement :=
  document.flatMap fun entry =>
    match entry.2 with
    | .table entries => tableStatements entry.1 entries
    | _ => []

variable {name : String} {entries document : Table}

/-- The statements of a table come before those of the tables after it. -/
theorem documentStatements_cons : documentStatements ((name, .table entries) :: document) =
    tableStatements name entries ++ documentStatements document :=
  rfl

/-- A table that is written spells its statements. -/
theorem writeTable_spells (hname : IsBareKey name) (h : entries.Plain) :
    Spells (writeTable name entries).toList (tableStatements name entries) := by
  have hentries : Spells
      (entries.flatMap fun entry =>
        entry.1.toList ++ ([' ', '=', ' '] ++ ((writeValue entry.2).toList ++ ['\n'])))
      (entries.map fun entry => .assign [] entry.1 entry.2) := by
    obtain ⟨hkeys, -, hvalues⟩ := h
    induction entries with
    | nil => exact .nil
    | cons entry entries ih =>
      rw [List.map_cons, List.forall_mem_cons] at hkeys
      rw [List.forall_mem_cons] at hvalues
      exact .line (.assign hkeys.1 hvalues.1) (ih hkeys.2 hvalues.2)
  have htext : (writeTable name entries).toList =
      '[' :: (name.toList ++ [']', '\n']) ++
        entries.flatMap fun entry =>
          entry.1.toList ++ ([' ', '=', ' '] ++ ((writeValue entry.2).toList ++ ['\n'])) := by
    simp [writeTable, List.flatMap_map]
  rw [htext]
  exact .line (.openTable hname) hentries

/-- A plain document spells its statements. -/
theorem write_spells (h : PlainDocument document) :
    Spells (write document).toList (documentStatements document) := by
  obtain ⟨hkeys, -, htables⟩ := h
  rw [write, String.toList_intercalate]
  induction document with
  | nil => exact .nil
  | cons entry document ih =>
    obtain ⟨name, v⟩ := entry
    rw [List.map_cons, List.forall_mem_cons] at hkeys
    rw [List.forall_mem_cons] at htables
    obtain ⟨⟨entries, rfl, hplain⟩, htables⟩ := htables
    have hfirst := writeTable_spells hkeys.1 hplain
    have hrest := ih hkeys.2 htables
    cases document with
    | nil =>
      rw [documentStatements_cons]
      simpa [documentStatements] using hfirst
    | cons next document =>
      -- An empty line stands before the next table.
      obtain ⟨name', v'⟩ := next
      obtain ⟨entries', rfl, -⟩ := (List.forall_mem_cons.mp htables).1
      exact hfirst.append (.blank hrest)

/-! ## Assembling -/

/-- The open table whose entries are the given ones. -/
def Sheet.ofTable (entries : Table) : Sheet :=
  entries.map fun entry => (entry.1, .closed entry.2)

namespace Sheet

variable {sheet : Sheet}

/-- The values of one sheet come before those of the other. -/
theorem values_append (sheet more : Sheet) :
    values (sheet ++ more) = values sheet ++ values more := by
  induction sheet with
  | nil => rfl
  | cons entry sheet ih => rw [List.cons_append, values, values, ih, List.cons_append]

/-- The values of a sheet that was made of a table are those of the table. -/
theorem values_ofTable (entries : Table) : values (ofTable entries) = entries := by
  induction entries with
  | nil => rfl
  | cons entry entries ih =>
    rw [ofTable, List.map_cons, values, ← ofTable, ih]
    rfl

/-- The keys of a sheet are kept with its values. -/
theorem keys_values (sheet : Sheet) : (values sheet).map Prod.fst = sheet.map Prod.fst := by
  induction sheet with
  | nil => rfl
  | cons entry sheet ih => rw [values, List.map_cons, List.map_cons, ih]

/-- A key that is not there is not found. -/
theorem find?_eq_none (h : key ∉ sheet.map Prod.fst) : find? key sheet = none := by
  rw [find?, Option.map_eq_none_iff, List.find?_eq_none]
  intro entry hentry heq
  exact h (List.mem_map.mpr ⟨entry, hentry, beq_iff_eq.mp heq⟩)

/-- A new key is assigned at the end of the table. -/
theorem assign_new (v : Value) (h : key ∉ sheet.map Prod.fst) :
    assign [] key v sheet = some (sheet ++ [(key, .closed v)]) := by
  simp [assign, within, find?_eq_none h]

end Sheet

namespace Draft

/-- A draft shows the document that it would be if it ended here. -/
def Shows (d : Draft) (document : Table) : Prop :=
  ∃ sheet, d.close = some sheet ∧ Sheet.values sheet = document

/-- The empty draft shows no tables. -/
theorem empty_shows : empty.Shows [] :=
  ⟨[], rfl, rfl⟩

/-- Assignments to new keys go into the open table. -/
theorem addAssignments (d : Draft) (h : (d.current.map Prod.fst ++ entries.map Prod.fst).Nodup) :
    (entries.map fun entry => Statement.assign [] entry.1 entry.2).foldlM add d =
      some { d with current := d.current ++ Sheet.ofTable entries } := by
  induction entries generalizing d with
  | nil => simp [Sheet.ofTable]
  | cons entry entries ih =>
    obtain ⟨key, v⟩ := entry
    have hkey : key ∉ d.current.map Prod.fst := by
      rw [List.map_cons, List.nodup_append] at h
      intro hmem
      exact h.2.2 key hmem key List.mem_cons_self rfl
    have hadd : d.add (.assign [] key v) =
        some { d with current := d.current ++ [(key, .closed v)] } := by
      rw [add, Sheet.assign_new v hkey]
      rfl
    have hrest := ih { d with current := d.current ++ [(key, .closed v)] } (by
      simpa using h)
    rw [List.map_cons, List.foldlM_cons, hadd]
    simpa [Sheet.ofTable] using hrest

/-- The statements of a table under a new key put the table at the end of the document. -/
theorem Shows.addTable {d : Draft} (hshows : d.Shows document)
    (hname : name ∉ document.map Prod.fst) (hentries : (entries.map Prod.fst).Nodup) :
    ∃ d', (tableStatements name entries).foldlM add d = some d' ∧
      d'.Shows (document ++ [(name, .table entries)]) := by
  obtain ⟨sheet, hclose, rfl⟩ := hshows
  rw [Sheet.keys_values] at hname
  have hfind := Sheet.find?_eq_none hname
  have hopen : d.add (.openTable [] name) = some ⟨sheet, .table [] name, []⟩ := by
    simp [add, openTable, hclose, Sheet.within, hfind]
  refine ⟨⟨sheet, .table [] name, Sheet.ofTable entries⟩, ?_, ?_⟩
  · rw [tableStatements, List.foldlM_cons, hopen]
    exact addAssignments ⟨sheet, .table [] name, []⟩ (by simpa using hentries)
  · refine ⟨sheet ++ [(name, .table .header (Sheet.ofTable entries))], ?_, ?_⟩
    · simp [close, Sheet.within, hfind]
    · rw [Sheet.values_append, Sheet.values, Node.value, Sheet.values_ofTable]
      rfl

/-- The statements of a document put it together, table by table. -/
theorem Shows.addDocument {d : Draft} {before : Table} (hshows : d.Shows before)
    (hdistinct : (before.map Prod.fst ++ document.map Prod.fst).Nodup)
    (htables : ∀ entry ∈ document, ∃ entries : Table, entry.2 = .table entries ∧ entries.Plain) :
    ∃ d', (documentStatements document).foldlM add d = some d' ∧
      d'.Shows (before ++ document) := by
  induction document generalizing d before with
  | nil => exact ⟨d, rfl, by rwa [List.append_nil]⟩
  | cons entry document ih =>
    obtain ⟨name, v⟩ := entry
    rw [List.forall_mem_cons] at htables
    obtain ⟨⟨entries, rfl, hplain⟩, htables⟩ := htables
    have hname : name ∉ before.map Prod.fst := by
      rw [List.map_cons, List.nodup_append] at hdistinct
      intro hmem
      exact hdistinct.2.2 name hmem name List.mem_cons_self rfl
    obtain ⟨d₁, hadd, hshows₁⟩ := hshows.addTable hname hplain.distinct
    obtain ⟨d₂, hrest, hshows₂⟩ := ih hshows₁ (by simpa using hdistinct) htables
    refine ⟨d₂, ?_, by simpa using hshows₂⟩
    rw [documentStatements_cons, List.foldlM_append, hadd]
    exact hrest

end Draft

/-- The statements of a plain document put it together. -/
theorem assemble_statements (h : PlainDocument document) :
    assemble (documentStatements document) = some document := by
  obtain ⟨-, hdistinct, htables⟩ := h
  obtain ⟨d, hadd, sheet, hclose, hvalues⟩ :=
    Draft.empty_shows.addDocument (by simpa using hdistinct) htables
  rw [assemble, hadd]
  simp [hclose, hvalues]

/-- A plain document is read back from its text. -/
theorem read_write (h : PlainDocument document) : read (write document) = some document := by
  have hspells := write_spells h
  have hread := hspells.read (Nat.lt_succ_self _)
  rw [read]
  split
  · rename_i rest hmark
    exact absurd (by rw [hmark]; rfl) hspells.head_ne_mark
  · simp only [hread, Option.bind_eq_bind, Option.bind_some]
    exact assemble_statements h

/-! ## Libraries of documents -/

/-- What is expected of a library of documents: what it writes of a plain document, it reads as that
document. -/
def Library.Inverse [Library] : Prop :=
  ∀ document : Table, PlainDocument document →
    Library.read (Library.write document) = some document

/-- The reader and the writer of this project are as expected. -/
theorem library_inverse : Library.Inverse :=
  fun _ => read_write

end ObjectBridge.Toml
