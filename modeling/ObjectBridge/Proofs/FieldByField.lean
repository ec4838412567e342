import ObjectBridge.Proofs.DistinctKeys
import ObjectBridge.Proofs.OrderedEntries
import ObjectBridge.Proofs.Outcomes
import ObjectBridge.Proofs.StoredConfiguration

/-!
# Configurations field by field

Every field of a configuration has a key of its own in one of three tables.  It shows what a
document gives for its key and its default without it, whatever else the document holds.  The
default is the same whether the key is missing in its table or the table is missing as a whole.

Main results:

- Theorem `Configuration.Governs.takes`: a part of a record depends on the entry of one key only.
- Theorem `Configuration.Setting.takes_of_ok`: the settings of a decoded configuration.
- Theorem `Configuration.exists_of_decodes`: a document whose values can be decoded is decoded.
- Theorem `Configuration.parse_field_by_field`: what a document makes of every setting, and how
  little of it changes with a table that is added.
-/

namespace ObjectBridge.Configuration

open Toml (Table)

/-! ## Records -/

section Records

variable {σ α : Type} {fields : List (Field σ)} {entries : Table} {key name : String} {r r' : σ}
  {decode : Toml.Value → Except DecodeFault α} {part : σ → α} {v : Toml.Value} {x y : α}

/-- One key governs a part of a record: the field of that key puts there what it decodes, whatever
the record is, and the fields of other keys leave it alone. -/
structure Governs (fields : List (Field σ)) (key : String)
    (decode : Toml.Value → Except DecodeFault α) (part : σ → α) : Prop where
  own : ∃ field, (fields.find? fun field => field.key == key) = some field ∧
    ∀ v r, (field.read v r).map part = decode v
  others : ∀ field ∈ fields, field.key ≠ key →
    ∀ v r r', field.read v r = .ok r' → part r' = part r

/-- A part takes what is decoded from the value that is given, and stays without one. -/
def Takes (decode : Toml.Value → Except DecodeFault α) (given : Option Toml.Value)
    (old new : α) : Prop :=
  match given with
  | some v => decode v = .ok new
  | none => new = old

/-- A field takes one value. -/
theorem Takes.unique {given : Option Toml.Value} {old : α} (h : Takes decode given old x)
    (h' : Takes decode given old y) : x = y := by
  cases given with
  | none => exact h.trans h'.symm
  | some v => exact Except.ok.inj (h.symm.trans h')

/-- Decoding a table changes a part by the entry of its key only. -/
theorem Governs.takes (h : Governs fields key decode part) (hkeys : (Entries.keys entries).Nodup)
    (hread : readEntries fields entries r = .ok r') :
    Takes decode (Entries.lookup key entries) (part r) (part r') := by
  induction entries generalizing r with
  | nil =>
      cases hread
      rfl
  | cons entry rest ih =>
      obtain ⟨k, v⟩ := entry
      obtain ⟨hnot, hrest⟩ := List.nodup_cons.mp hkeys
      rw [readEntries] at hread
      by_cases hk : k = key
      · obtain ⟨field, hfind, hfield⟩ := h.own
        simp only [hk, hfind] at hread
        obtain ⟨next, hnext, hread⟩ := exists_of_bind_eq_ok hread
        -- The key is not among the rest, so what its field has put there stays.
        have hnone : Entries.lookup key rest = none := by
          rw [Option.eq_none_iff_forall_ne_some]
          exact fun v hv => hnot (hk ▸ Entries.mem_keys_iff.mpr ⟨v, hv⟩)
        have hsame : part r' = part next := by
          have := ih hrest hread
          rwa [hnone] at this
        rw [Entries.lookup, if_pos hk, Takes, ← hfield v r, hnext, hsame]
        rfl
      · rw [Entries.lookup, if_neg hk]
        split at hread
        · rename_i field hfind
          obtain ⟨next, hnext, hread⟩ := exists_of_bind_eq_ok hread
          have hother : field.key ≠ key := by
            have hfound := List.find?_some hfind
            rw [beq_iff_eq] at hfound
            rwa [hfound]
          rw [← h.others field (List.mem_of_find?_eq_some hfind) hother v r next hnext]
          exact ih hrest hread
        · exact ih hrest hread

/-- A field reads every value that is decoded. -/
theorem Governs.reads (h : Governs fields key decode part) {field : Field σ}
    (hfind : (fields.find? fun field => field.key == key) = some field) (hv : decode v = .ok x)
    (r : σ) : ∃ r', field.read v r = .ok r' := by
  obtain ⟨field', hfind', hfield⟩ := h.own
  obtain rfl : field' = field := Option.some.inj (hfind'.symm.trans hfind)
  obtain ⟨r', hr', -⟩ := exists_of_map_eq_ok ((hfield v r).trans hv)
  exact ⟨r', hr'⟩

/-- A table is decoded if every field reads its value. -/
theorem exists_readEntries (h : ∀ entry ∈ entries, ∀ field,
      (fields.find? fun field => field.key == entry.1) = some field →
        ∀ r, ∃ r', field.read entry.2 r = .ok r') (r : σ) :
    ∃ r', readEntries fields entries r = .ok r' := by
  induction entries generalizing r with
  | nil => exact ⟨r, rfl⟩
  | cons entry rest ih =>
      obtain ⟨hfirst, hrest⟩ := List.forall_mem_cons.mp h
      rw [readEntries]
      split
      · rename_i field hfind
        obtain ⟨next, hnext⟩ := hfirst field hfind r
        rw [hnext]
        exact ih hrest next
      · exact ih hrest r

end Records

/-! ## Settings -/

/-- A field of a configuration that a document can set. -/
inductive Setting where
  | mode
  | includeInstallDir
  | installDir
  | pathVariable
  | extra
  | checkArity

namespace Setting

/-- The table that a setting belongs to. -/
def table : Setting → String
  | mode => "state"
  | includeInstallDir | installDir | pathVariable | extra => "paths"
  | checkArity => "instantiation"

/-- The key of a setting in its table. -/
def key : Setting → String
  | mode => "mode"
  | includeInstallDir => "include_install_dir"
  | installDir => "install_dir"
  | pathVariable => "env_var"
  | extra => "extra"
  | checkArity => "check_arity"

/-- What a setting can be set to. -/
abbrev Choice : Setting → Type
  | mode => StateMode
  | includeInstallDir | checkArity => Bool
  | installDir => Option Path
  | pathVariable => String
  | extra => List Path

/-- What a configuration has for a setting. -/
def choice : (s : Setting) → Configuration → s.Choice
  | mode, c => c.mode
  | includeInstallDir, c => c.paths.includeInstallDir
  | installDir, c => c.paths.installDir
  | pathVariable, c => c.paths.pathVariable
  | extra, c => c.paths.extra
  | checkArity, c => c.checkArity

/-- A value gives a choice: the name of a mode, a flag, a text, the text of a path, or an array of
such texts. -/
def Gives : (s : Setting) → Toml.Value → s.Choice → Prop
  | mode, v, chosen => v = .string chosen.name
  | includeInstallDir, v, flag | checkArity, v, flag => v = .boolean flag
  | installDir, v, path => ∃ text, v = .string text ∧ path = some (.ofText text)
  | pathVariable, v, text => v = .string text
  | extra, v, paths =>
    ∃ texts : List String, v.items? = some (texts.map .string) ∧ paths = texts.map .ofText

/-- The value at a key of a table of a document. -/
def givenAt (name key : String) (document : Table) : Option Toml.Value :=
  match Entries.lookup name document with
  | some (.table entries) => Entries.lookup key entries
  | _ => none

/-- The value that a document gives for a setting. -/
def given (s : Setting) (document : Table) : Option Toml.Value :=
  givenAt s.table s.key document

/-- A configuration has the value that is given for a setting, and without one the same as another
configuration. -/
def Follows (s : Setting) (given : Option Toml.Value) (old new : Configuration) : Prop :=
  match given with
  | some v => s.Gives v (s.choice new)
  | none => s.choice new = s.choice old

/-- The decoder of the values of a setting. -/
def decode : (s : Setting) → Toml.Value → Except DecodeFault s.Choice
  | mode, v => readMode v
  | includeInstallDir, v | checkArity, v => readFlag v
  | installDir, v => (readPath v).map some
  | pathVariable, v => readText v
  | extra, v => readPaths v

variable {s : Setting} {v : Toml.Value} {x : s.Choice}

/-- A mode is read from its name, as long as it is not written as a table. -/
theorem readMode_eq_ok_iff {mode : StateMode} (hv : ∀ entries, v ≠ .table entries) :
    readMode v = .ok mode ↔ v = .string mode.name := by
  constructor
  · intro h
    cases v with
    | string name =>
        rw [readMode, modeOfName] at h
        split at h
        · rename_i found hfind
          cases h
          have hname := List.find?_some hfind
          rw [beq_iff_eq] at hname
          rw [hname]
        · cases h
    | table entries => exact absurd rfl (hv entries)
    | _ => cases h
  · rintro rfl
    exact readMode_name mode

/-- A path is read from a text. -/
theorem readPath_eq_ok_iff {path : Path} :
    readPath v = .ok path ↔ ∃ text, v = .string text ∧ .ofText text = path := by
  cases v <;> simp [readPath, unexpected]

/-- Paths are read from texts. -/
theorem mapM_readPath_eq_ok_iff {items : List Toml.Value} {paths : List Path} :
    items.mapM readPath = .ok paths ↔
      ∃ texts : List String, items = texts.map .string ∧ paths = texts.map .ofText := by
  rw [mapM_eq_ok_iff]
  constructor
  · intro h
    induction h with
    | nil => exact ⟨[], rfl, rfl⟩
    | cons hitem _ ih =>
        obtain ⟨text, rfl, rfl⟩ := readPath_eq_ok_iff.mp hitem
        obtain ⟨texts, rfl, rfl⟩ := ih
        exact ⟨text :: texts, rfl, rfl⟩
  · rintro ⟨texts, rfl, rfl⟩
    rw [List.forall₂_map_left_iff, List.forall₂_map_right_iff]
    exact List.forall₂_same.mpr fun text _ => rfl

/-- Several paths are read from an array of texts. -/
theorem readPaths_eq_ok_iff {paths : List Path} : readPaths v = .ok paths ↔
    ∃ texts : List String, v.items? = some (texts.map .string) ∧ paths = texts.map .ofText := by
  rw [readPaths]
  split
  · rename_i items hitems
    rw [hitems, mapM_readPath_eq_ok_iff]
    simp only [Option.some.injEq]
  · rename_i hnone
    rw [hnone]
    simp [unexpected]

/-- A value gives a choice exactly when it is decoded as that choice, but for modes that are given
as tables. -/
theorem decode_eq_ok_iff (hv : s = .mode → ∀ entries, v ≠ .table entries) :
    s.decode v = .ok x ↔ s.Gives v x := by
  cases s with
  | mode => exact readMode_eq_ok_iff (hv rfl)
  | includeInstallDir => cases v <;> simp [decode, Gives, readFlag, unexpected]
  | installDir => cases v <;> simp [decode, Gives, readPath, unexpected, Except.map, eq_comm]
  | pathVariable => cases v <;> simp [decode, Gives, readText, unexpected]
  | extra => exact readPaths_eq_ok_iff
  | checkArity => cases v <;> simp [decode, Gives, readFlag, unexpected]

/-- What a setting gives is decoded. -/
theorem decode_of_gives (h : s.Gives v x) : s.decode v = .ok x := by
  refine (decode_eq_ok_iff ?_).mpr h
  rintro rfl entries rfl
  cases h

/-- A value that gives some choice gives the one it is decoded as. -/
theorem gives_of_decode (hgives : ∃ y, s.Gives v y) (h : s.decode v = .ok x) : s.Gives v x := by
  obtain ⟨y, hy⟩ := hgives
  obtain rfl : y = x := Except.ok.inj ((decode_of_gives hy).symm.trans h)
  exact hy

end Setting

/-! ## Which key governs what -/

/-- The fields of the table of paths change their own setting and no other. -/
theorem others_of_mem_pathFields {field : Field PathSettings} (hfield : field ∈ pathFields)
    {v : Toml.Value} {r r' : PathSettings} (hread : field.read v r = .ok r') :
    (field.key ≠ Setting.includeInstallDir.key → r'.includeInstallDir = r.includeInstallDir) ∧
    (field.key ≠ Setting.installDir.key → r'.installDir = r.installDir) ∧
    (field.key ≠ Setting.pathVariable.key → r'.pathVariable = r.pathVariable) ∧
    (field.key ≠ Setting.extra.key → r'.extra = r.extra) := by
  simp only [pathFields, List.mem_cons, List.not_mem_nil, or_false] at hfield
  rcases hfield with rfl | rfl | rfl | rfl <;>
    · obtain ⟨x, -, heq⟩ := exists_of_bind_eq_ok hread
      cases heq
      simp [Setting.key]

/-- So do the tables with the fields of a configuration. -/
theorem others_of_mem_tables {field : Field Configuration} (hfield : field ∈ tables)
    {v : Toml.Value} {c c' : Configuration} (hread : field.read v c = .ok c') :
    (field.key ≠ "state" → c'.mode = c.mode) ∧ (field.key ≠ "paths" → c'.paths = c.paths) ∧
    (field.key ≠ "instantiation" → c'.checkArity = c.checkArity) := by
  simp only [tables, List.mem_cons, List.not_mem_nil, or_false] at hfield
  rcases hfield with rfl | rfl | rfl <;>
    · obtain ⟨x, -, heq⟩ := exists_of_bind_eq_ok hread
      cases heq
      simp

/-- What is decoded and put into a record can be taken out of it again. -/
theorem map_put {σ α : Type} (e : Except DecodeFault α) {put : α → σ} {part : σ → α}
    (h : ∀ x, part (put x) = x) : (e >>= fun x => pure (put x)).map part = e := by
  cases e with
  | ok x => exact congrArg Except.ok (h x)
  | error fault => rfl

/-- The mode is decided by its own field. -/
theorem governs_mode : Governs stateFields Setting.mode.key Setting.mode.decode id where
  own := ⟨_, rfl, fun _ _ => congrFun Except.map_id _⟩
  others _ hfield hkey := absurd (congrArg Field.key (List.mem_singleton.mp hfield)) hkey

/-- So is the check of the number of arguments. -/
theorem governs_checkArity :
    Governs instantiationFields Setting.checkArity.key Setting.checkArity.decode id where
  own := ⟨_, rfl, fun _ _ => congrFun Except.map_id _⟩
  others _ hfield hkey := absurd (congrArg Field.key (List.mem_singleton.mp hfield)) hkey

/-- So is the inclusion of the directory of installation. -/
theorem governs_includeInstallDir : Governs pathFields Setting.includeInstallDir.key
    Setting.includeInstallDir.decode (·.includeInstallDir) where
  own := ⟨_, rfl, fun v r => by exact map_put (readFlag v) fun _ => rfl⟩
  others field hfield hkey v r r' hread := (others_of_mem_pathFields hfield hread).1 hkey

/-- So is the directory of installation. -/
theorem governs_installDir : Governs pathFields Setting.installDir.key
    Setting.installDir.decode (·.installDir) where
  own := ⟨_, rfl, fun v r => by cases v <;> rfl⟩
  others field hfield hkey v r r' hread := (others_of_mem_pathFields hfield hread).2.1 hkey

/-- So is the variable. -/
theorem governs_pathVariable : Governs pathFields Setting.pathVariable.key
    Setting.pathVariable.decode (·.pathVariable) where
  own := ⟨_, rfl, fun v r => by exact map_put (readText v) fun _ => rfl⟩
  others field hfield hkey v r r' hread := (others_of_mem_pathFields hfield hread).2.2.1 hkey

/-- So are the extra paths. -/
theorem governs_extra : Governs pathFields Setting.extra.key Setting.extra.decode (·.extra) where
  own := ⟨_, rfl, fun v r => by exact map_put (readPaths v) fun _ => rfl⟩
  others field hfield hkey v r r' hread := (others_of_mem_pathFields hfield hread).2.2.2 hkey

/-- The mode is decided in the table of the state. -/
theorem governs_state :
    Governs tables "state" (readRecord "StateConfig" stateFields default.mode) (·.mode) where
  own := ⟨_, rfl, fun v c => by exact map_put (readRecord _ _ _ v) fun _ => rfl⟩
  others field hfield hkey v c c' hread := (others_of_mem_tables hfield hread).1 hkey

/-- The paths are decided in their own table. -/
theorem governs_paths :
    Governs tables "paths" (readRecord "PathsConfig" pathFields default.paths) (·.paths) where
  own := ⟨_, rfl, fun v c => by exact map_put (readRecord _ _ _ v) fun _ => rfl⟩
  others field hfield hkey v c c' hread := (others_of_mem_tables hfield hread).2.1 hkey

/-- The check of the number of arguments is decided in the table of instantiation. -/
theorem governs_instantiation : Governs tables "instantiation"
    (readRecord "InstantiationConfig" instantiationFields default.checkArity) (·.checkArity) where
  own := ⟨_, rfl, fun v c => by exact map_put (readRecord _ _ _ v) fun _ => rfl⟩
  others field hfield hkey v c c' hread := (others_of_mem_tables hfield hread).2.2 hkey

/-! ## Documents -/

variable {document document' : Table} {c : Configuration} {s : Setting} {v : Toml.Value}

/-- A document whose sections, those that are there, are tables. -/
def Tabular (document : Table) : Prop :=
  ∀ (s : Setting) (v : Toml.Value), Entries.lookup s.table document = some v → v.found = .mapping

section Sections

variable {σ α : Type} {fields : List (Field σ)} {name typeName key : String} {initial : σ}
  {record : Configuration → σ} {decode : Toml.Value → Except DecodeFault α} {part : σ → α}

/-- A part of a record in a section of a document depends on the entry of its key in the table of
the section. -/
theorem takes_of_section (houter : Governs tables name (readRecord typeName fields initial) record)
    (hinner : Governs fields key decode part) (hinitial : record default = initial)
    (hdistinct : document.Distinct)
    (htable : ∀ v, Entries.lookup name document = some v → v.found = .mapping)
    (h : ofDocument document = .ok c) :
    Takes decode (Setting.givenAt name key document) (part (record default)) (part (record c)) := by
  have hrecord := houter.takes hdistinct.keys h
  rw [Setting.givenAt]
  cases hlookup : Entries.lookup name document with
  | none =>
      rw [hlookup] at hrecord
      exact congrArg part hrecord
  | some v =>
      rw [hlookup] at hrecord
      have hmapping := htable v hlookup
      rw [hinitial]
      cases v with
      | table entries =>
          have hmem := (Entries.lookup_eq_some_iff_of_nodup hdistinct.keys).mp hlookup
          have hentries : Table.Distinct entries := hdistinct.each _ hmem
          exact hinner.takes hentries.keys hrecord
      | datetime text => exact congrArg part (Except.ok.inj hrecord).symm
      | _ => cases hmapping

/-- A section is decoded if it is a table in which all that is given for a setting can be
decoded. -/
theorem exists_readRecord
    (hfields : ∀ field ∈ fields, ∃ s : Setting, s.table = name ∧ s.key = field.key ∧
      ∃ part, Governs fields s.key s.decode part)
    (hdistinct : v.Distinct) (hmapping : v.found = .mapping)
    (hdecodes : ∀ (s : Setting) (w : Toml.Value), s.table = name →
      s.given [(name, v)] = some w → ∃ x, s.decode w = .ok x) :
    ∃ r, readRecord typeName fields initial v = .ok r := by
  cases v with
  | table entries =>
      have hentries : Table.Distinct entries := hdistinct
      refine exists_readEntries (fun entry hentry field hfind r => ?_) initial
      have hkey : field.key = entry.1 := by
        simpa using List.find?_some hfind
      obtain ⟨s, hname, hs, part, hgoverns⟩ := hfields field (List.mem_of_find?_eq_some hfind)
      have hgiven : s.given [(name, .table entries)] = some entry.2 := by
        rw [Setting.given, Setting.givenAt, Entries.lookup, if_pos hname.symm, hs, hkey]
        exact (Entries.lookup_eq_some_iff_of_nodup hentries.keys).mpr hentry
      obtain ⟨x, hx⟩ := hdecodes s entry.2 hname hgiven
      exact hgoverns.reads (hs ▸ hkey ▸ hfind) hx r
  | datetime text => exact ⟨initial, rfl⟩
  | _ => cases hmapping

/-- What stands for a table is a table or an array. -/
theorem found_of_section (houter : Governs tables name (readRecord typeName fields initial) record)
    (hdistinct : document.Distinct) (h : ofDocument document = .ok c)
    (hlookup : Entries.lookup name document = some v) :
    v.found = .mapping ∨ v.found = .sequence := by
  have hrecord := houter.takes hdistinct.keys h
  rw [hlookup] at hrecord
  cases v with
  | table entries => exact .inl rfl
  | datetime text => exact .inl rfl
  | array items => exact .inr rfl
  | tables items => exact .inr rfl
  | _ => cases hrecord

end Sections

/-- Every setting of a decoded configuration shows what the document gives for it. -/
theorem Setting.takes_of_ok (s : Setting) (hdistinct : document.Distinct)
    (htable : ∀ v, Entries.lookup s.table document = some v → v.found = .mapping)
    (h : ofDocument document = .ok c) :
    Takes s.decode (s.given document) (s.choice default) (s.choice c) := by
  cases s with
  | mode => exact takes_of_section governs_state governs_mode rfl hdistinct htable h
  | includeInstallDir =>
      exact takes_of_section governs_paths governs_includeInstallDir rfl hdistinct htable h
  | installDir => exact takes_of_section governs_paths governs_installDir rfl hdistinct htable h
  | pathVariable =>
      exact takes_of_section governs_paths governs_pathVariable rfl hdistinct htable h
  | extra => exact takes_of_section governs_paths governs_extra rfl hdistinct htable h
  | checkArity =>
      exact takes_of_section governs_instantiation governs_checkArity rfl hdistinct htable h

/-- A section of a decoded configuration is a table or an array. -/
theorem found_of_ok (s : Setting) (hdistinct : document.Distinct) (h : ofDocument document = .ok c)
    (hlookup : Entries.lookup s.table document = some v) :
    v.found = .mapping ∨ v.found = .sequence := by
  cases s with
  | mode => exact found_of_section governs_state hdistinct h hlookup
  | includeInstallDir | installDir | pathVariable | extra =>
      exact found_of_section governs_paths hdistinct h hlookup
  | checkArity => exact found_of_section governs_instantiation hdistinct h hlookup

/-- Each field of a section belongs to a setting. -/
theorem governs_of_mem_stateFields : ∀ field ∈ stateFields, ∃ s : Setting,
    s.table = "state" ∧ s.key = field.key ∧ ∃ part, Governs stateFields s.key s.decode part :=
  List.forall_mem_singleton.mpr ⟨.mode, rfl, rfl, _, governs_mode⟩

/-- The fields of the table of paths are settings. -/
theorem governs_of_mem_pathFields : ∀ field ∈ pathFields, ∃ s : Setting,
    s.table = "paths" ∧ s.key = field.key ∧ ∃ part, Governs pathFields s.key s.decode part := by
  simp only [pathFields, List.forall_mem_cons]
  exact ⟨⟨.includeInstallDir, rfl, rfl, _, governs_includeInstallDir⟩,
    ⟨.installDir, rfl, rfl, _, governs_installDir⟩,
    ⟨.pathVariable, rfl, rfl, _, governs_pathVariable⟩,
    ⟨.extra, rfl, rfl, _, governs_extra⟩, List.forall_mem_nil _⟩

/-- The field of the table of instantiation is a setting. -/
theorem governs_of_mem_instantiationFields : ∀ field ∈ instantiationFields, ∃ s : Setting,
    s.table = "instantiation" ∧ s.key = field.key ∧
      ∃ part, Governs instantiationFields s.key s.decode part :=
  List.forall_mem_singleton.mpr ⟨.checkArity, rfl, rfl, _, governs_checkArity⟩

/-- A document whose sections are tables is decoded if all that it gives for a setting can be. -/
theorem exists_of_decodes (hdistinct : document.Distinct) (htabular : Tabular document)
    (hdecodes : ∀ (s : Setting) (v : Toml.Value), s.given document = some v →
      ∃ x, s.decode v = .ok x) : ∃ c, ofDocument document = .ok c := by
  refine exists_readEntries (fun entry hentry field hfind c => ?_) default
  obtain ⟨name, v⟩ := entry
  have hv : v.Distinct := hdistinct.each _ hentry
  have hlookup : Entries.lookup name document = some v :=
    (Entries.lookup_eq_some_iff_of_nodup hdistinct.keys).mpr hentry
  have hmapping (s : Setting) (hs : s.table = name) : v.found = .mapping :=
    htabular s v (hs ▸ hlookup)
  have hgiven (s : Setting) (w : Toml.Value) (hs : s.table = name)
      (hw : s.given [(name, v)] = some w) : ∃ x, s.decode w = .ok x := by
    refine hdecodes s w ?_
    rwa [Setting.given, Setting.givenAt, hs, Entries.lookup, if_pos rfl, ← hlookup, ← hs,
      ← Setting.givenAt] at hw
  have hname : field.key = name := by
    simpa using List.find?_some hfind
  subst hname
  have hfield := List.mem_of_find?_eq_some hfind
  simp only [tables, List.mem_cons, List.not_mem_nil, or_false] at hfield
  rcases hfield with rfl | rfl | rfl
  · obtain ⟨r, hr⟩ := exists_readRecord governs_of_mem_stateFields hv (hmapping .mode rfl) hgiven
    exact governs_state.reads hfind hr c
  · obtain ⟨r, hr⟩ :=
      exists_readRecord governs_of_mem_pathFields hv (hmapping .extra rfl) hgiven
    exact governs_paths.reads hfind hr c
  · obtain ⟨r, hr⟩ :=
      exists_readRecord governs_of_mem_instantiationFields hv (hmapping .checkArity rfl) hgiven
    exact governs_instantiation.reads hfind hr c

/-- What is given for a setting and cannot be decoded is a fault of the document. -/
theorem exists_error_of_given (hdistinct : document.Distinct) (hgiven : s.given document = some v)
    (hv : ∀ x, s.decode v ≠ .ok x) : ∃ fault, ofDocument document = .error fault := by
  cases h : ofDocument document with
  | error fault => exact ⟨fault, rfl⟩
  | ok c =>
      have htable (w : Toml.Value) (hw : Entries.lookup s.table document = some w) :
          w.found = .mapping := by
        rw [Setting.given, Setting.givenAt, hw] at hgiven
        split at hgiven
        · rename_i heq
          cases heq
          rfl
        · cases hgiven
      have htakes := s.takes_of_ok hdistinct htable h
      rw [hgiven] at htakes
      exact absurd htakes (hv _)

/-! ## Tables that are added -/

variable {name : String} {entries : Table}

/-- A document with a table more, wherever it stands, gives what the table gives and what it gave
before. -/
theorem Setting.given_of_perm (s : Setting) (hdistinct : document'.Distinct)
    (hperm : List.Perm document' ((name, .table entries) :: document)) :
    s.given document' = (s.given [(name, .table entries)]).or (s.given document) := by
  have hkeys := ((hperm.map Prod.fst).nodup_iff).mp hdistinct.keys
  simp only [given, givenAt, Entries.lookup_eq_of_perm hdistinct.keys hperm, Entries.lookup]
  by_cases hname : name = s.table
  · have hnone : Entries.lookup s.table document = none := by
      rw [Option.eq_none_iff_forall_ne_some]
      exact fun v hv => (List.nodup_cons.mp hkeys).1 (hname ▸ Entries.mem_keys_iff.mpr ⟨v, hv⟩)
    simp only [if_pos hname, hnone, Option.or_none]
  · simp only [if_neg hname, Option.none_or]

/-- A document with a table taken out still defines each key once. -/
theorem distinct_of_perm (hdistinct : document'.Distinct)
    (hperm : List.Perm document' ((name, .table entries) :: document)) : document.Distinct := by
  have hkeys := ((hperm.map Prod.fst).nodup_iff).mp hdistinct.keys
  exact .table (List.nodup_cons.mp hkeys).2 fun entry hentry =>
    hdistinct.each entry (hperm.mem_iff.mpr (List.mem_cons_of_mem _ hentry))

/-- A document with a table put in holds tables where it has to. -/
theorem tabular_of_perm (hdistinct : document'.Distinct)
    (hperm : List.Perm document' ((name, .table entries) :: document))
    (htabular : Tabular document) : Tabular document' := by
  intro s v hlookup
  rw [Entries.lookup_eq_of_perm hdistinct.keys hperm, Entries.lookup] at hlookup
  split at hlookup
  · cases hlookup
    rfl
  · exact htabular s v hlookup

/-- A table that is added sets what it gives and leaves all other settings as they were. -/
theorem exists_of_table_added (htabular : Tabular document) (h : ofDocument document = .ok c)
    (hdistinct : document'.Distinct)
    (hperm : List.Perm document' ((name, .table entries) :: document))
    (hgives : ∀ (s : Setting) (v : Toml.Value), s.given [(name, .table entries)] = some v →
      ∃ x, s.Gives v x) :
    ∃ c', ofDocument document' = .ok c' ∧
      ∀ s : Setting, s.Follows (s.given [(name, .table entries)]) c c' := by
  have hold (s : Setting) : Takes s.decode (s.given document) (s.choice default) (s.choice c) :=
    s.takes_of_ok (distinct_of_perm hdistinct hperm) (htabular s) h
  have htabular' := tabular_of_perm hdistinct hperm htabular
  obtain ⟨c', hc'⟩ : ∃ c', ofDocument document' = .ok c' := by
    refine exists_of_decodes hdistinct htabular' fun s v hv => ?_
    rw [s.given_of_perm hdistinct hperm, Option.or_eq_some_iff] at hv
    rcases hv with hadded | ⟨-, hbefore⟩
    · obtain ⟨x, hx⟩ := hgives s v hadded
      exact ⟨x, Setting.decode_of_gives hx⟩
    · have htakes := hold s
      rw [hbefore] at htakes
      exact ⟨_, htakes⟩
  refine ⟨c', hc', fun s => ?_⟩
  have hnew := s.takes_of_ok hdistinct (htabular' s) hc'
  rw [s.given_of_perm hdistinct hperm] at hnew
  cases hadded : s.given [(name, .table entries)] with
  | none =>
      rw [hadded, Option.none_or] at hnew
      exact hnew.unique (hold s)
  | some v =>
      rw [hadded, Option.some_or] at hnew
      exact Setting.gives_of_decode (hgives s v hadded) hnew

/-! ## Texts -/

/-- A document that was read has distinct keys, and a text is parsed as its document is decoded.
If all that a document gives in tables has the type of its setting, the document is decoded; every
setting then shows what is given for it, or else its default.  A value that does not give a choice
for its setting is a fault, and so is a section that is neither a table nor an array.  Two
documents that give the same for a setting agree on it, and a table that is added, wherever it
stands and whatever it holds besides, changes only the settings it gives. -/
theorem parse_field_by_field :
    (∀ (text : String) (document : Table), Toml.read text = some document →
      document.Distinct ∧ parse text = (ofDocument document).mapError
        fun fault => .configuration "config" (.unparsed (some fault))) ∧
    (∀ document : Table, document.Distinct → Tabular document →
      (∀ (s : Setting) (v : Toml.Value), s.given document = some v → ∃ x, s.Gives v x) →
      ∃ c, ofDocument document = .ok c ∧ ∀ s : Setting, s.Follows (s.given document) default c) ∧
    (∀ document : Table, document.Distinct → ∀ (s : Setting) (v : Toml.Value),
      (s.given document = some v ∧ (¬ ∃ x, s.Gives v x) ∧
          (s = .mode → ∀ entries, v ≠ .table entries) ∨
        Entries.lookup s.table document = some v ∧ v.found ≠ .mapping ∧ v.found ≠ .sequence) →
      ∃ fault, ofDocument document = .error fault) ∧
    (∀ (document document' : Table) (c c' : Configuration),
      document.Distinct → document'.Distinct → Tabular document → Tabular document' →
      ofDocument document = .ok c → ofDocument document' = .ok c' →
      ∀ s : Setting, s.given document = s.given document' → s.choice c = s.choice c') ∧
    (∀ (document document' entries : Table) (name : String) (c : Configuration),
      document'.Distinct → List.Perm document' ((name, .table entries) :: document) →
      Tabular document → ofDocument document = .ok c →
      (∀ (s : Setting) (v : Toml.Value), s.given [(name, .table entries)] = some v →
        ∃ x, s.Gives v x) →
      ∃ c', ofDocument document' = .ok c' ∧
        ∀ s : Setting, s.Follows (s.given [(name, .table entries)]) c c') := by
  refine ⟨?texts, ?given, ?faults, ?agreement, ?added⟩
  case texts =>
    intro text document hread
    refine ⟨Toml.Table.distinct_of_read hread, ?_⟩
    have hlibrary : Toml.Library.read text = some document := hread
    rw [parse, hlibrary]
    dsimp only
    cases ofDocument document <;> rfl
  case given =>
    intro document hdistinct htabular hgives
    obtain ⟨c, hc⟩ := exists_of_decodes hdistinct htabular fun s v hv =>
      (hgives s v hv).imp fun x => Setting.decode_of_gives
    refine ⟨c, hc, fun s => ?_⟩
    have htakes := s.takes_of_ok hdistinct (htabular s) hc
    cases hgiven : s.given document with
    | none =>
        rw [hgiven] at htakes
        exact htakes
    | some v =>
        rw [hgiven] at htakes
        exact Setting.gives_of_decode (hgives s v hgiven) htakes
  case faults =>
    rintro document hdistinct s v (⟨hgiven, hno, htable⟩ | ⟨hlookup, hmapping, hsequence⟩)
    · exact exists_error_of_given hdistinct hgiven fun x hx =>
        hno ⟨x, (Setting.decode_eq_ok_iff htable).mp hx⟩
    · cases h : ofDocument document with
      | error fault => exact ⟨fault, rfl⟩
      | ok c => exact absurd (found_of_ok s hdistinct h hlookup) (not_or.mpr ⟨hmapping, hsequence⟩)
  case agreement =>
    intro document document' c c' hdistinct hdistinct' htabular htabular' hc hc' s hsame
    have htakes := s.takes_of_ok hdistinct (htabular s) hc
    rw [hsame] at htakes
    exact htakes.unique (s.takes_of_ok hdistinct' (htabular' s) hc')
  case added =>
    intro document document' entries name c hdistinct hperm htabular hc hgives
    exact exists_of_table_added htabular hc hdistinct hperm hgives

/-- A table that is not known stands beside one that sets the mode. -/
example : ofDocument [("state", .table [("mode", .string "shared")]), ("log", .integer 5)] =
    .ok { default with mode := .shared } :=
  rfl

end ObjectBridge.Configuration
