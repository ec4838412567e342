import ObjectBridge.Proofs.Documents

/-!
# Configurations that are stored and loaded again

The document of a configuration is plain, so its text is read back as that document.  From
the document every field is decoded again: a directory that is not given stays so, and a
field that holds its default is as good as any other.

Main results:

- Theorem `Configuration.ofDocument_toDocument`: the document of a configuration is decoded
  into that configuration.
- Theorem `Configuration.stored_loaded`: a configuration is stored unless one of its paths
  is no text, and what was stored is loaded again.
-/

namespace ObjectBridge

/-! ## Paths that are texts -/

namespace Path

variable {p : Path} {ps : List Path} {s : String} {texts : List String}

/-- A path whose spelling is a text. -/
def IsText (p : Path) : Prop :=
  ByteArray.IsValidUTF8 ⟨p.bytes.toArray⟩

/-- A path is spelled by its text. -/
theorem ofText_of_text? (h : p.text? = some s) : ofText s = p := by
  rw [text?, String.fromUTF8?] at h
  split at h
  · rw [← Option.some.inj h]
    rfl
  · cases h

/-- A path is a text when it has one. -/
theorem isText_iff : p.IsText ↔ ∃ s, p.text? = some s := by
  rw [text?, String.fromUTF8?]
  constructor
  · intro h
    exact ⟨_, dif_pos h⟩
  · rintro ⟨s, h⟩
    by_cases htext : ByteArray.IsValidUTF8 ⟨p.bytes.toArray⟩
    · exact htext
    · rw [dif_neg htext] at h
      cases h

/-- The texts of several paths, which are all there unless one of the paths is no text. -/
theorem exists_texts (h : ∀ p ∈ ps, p.IsText) : ∃ texts, ps.mapM text? = some texts := by
  induction ps with
  | nil => exact ⟨[], rfl⟩
  | cons p ps ih =>
    rw [List.forall_mem_cons] at h
    obtain ⟨s, hs⟩ := isText_iff.mp h.1
    obtain ⟨texts, htexts⟩ := ih h.2
    exact ⟨s :: texts, by simp [hs, htexts]⟩

/-- Paths are spelled by their texts. -/
theorem mapM_ofText (h : ps.mapM text? = some texts) : texts.map ofText = ps := by
  induction ps generalizing texts with
  | nil =>
    cases h
    rfl
  | cons p ps ih =>
    obtain ⟨s, hs, rest, hrest, rfl⟩ : ∃ s, p.text? = some s ∧
        ∃ rest, ps.mapM text? = some rest ∧ s :: rest = texts := by
      simpa [List.mapM_cons, Option.bind_eq_some_iff] using h
    rw [List.map_cons, ofText_of_text? hs, ih hrest]

/-- With the texts of several paths each of them is a text. -/
theorem isText_of_texts (h : ps.mapM text? = some texts) : ∀ p ∈ ps, p.IsText := by
  rw [← mapM_ofText h]
  intro p hp
  obtain ⟨s, -, rfl⟩ := List.mem_map.mp hp
  exact isText_iff.mpr ⟨s, text?_ofText s⟩

end Path

/-! ## The document of a configuration -/

namespace Configuration

open Toml (Table PlainDocument)

variable {c : Configuration} {document : Table}

/-- The paths that a configuration gives. -/
def givenPaths (c : Configuration) : List Path :=
  c.paths.installDir.toList ++ c.paths.extra

/-- The table of some settings of the search path whose paths have the given texts. -/
def pathTable (s : PathSettings) (installDir : Option String) (extra : List String) : Table :=
  [("include_install_dir", .boolean s.includeInstallDir)] ++
    (installDir.map fun text => ("install_dir", Toml.Value.string text)).toList ++
    [("env_var", .string s.pathVariable), ("extra", .array (extra.map .string))]

/-- The document of a configuration whose paths have the given texts. -/
def documentOf (c : Configuration) (installDir : Option String) (extra : List String) : Table :=
  [("state", .table [("mode", .string c.mode.name)]),
    ("paths", .table (pathTable c.paths installDir extra)),
    ("instantiation", .table [("check_arity", .boolean c.checkArity)])]

/-- A configuration has a document when all of its paths have texts. -/
theorem toDocument_eq_some_iff : c.toDocument = some document ↔
    ∃ installDir extra, c.paths.installDir.mapM Path.text? = some installDir ∧
      c.paths.extra.mapM Path.text? = some extra ∧ documentOf c installDir extra = document := by
  simp [toDocument, documentOf, pathTable, Option.bind_eq_some_iff]

/-- The keys of all tables and fields are written without quotes. -/
theorem isBareKey_of_mem {key : String}
    (h : key ∈ ["state", "paths", "instantiation", "mode", "include_install_dir", "install_dir",
      "env_var", "extra", "check_arity"]) : Toml.IsBareKey key := by
  revert key h
  decide +kernel

/-- A single field is a plain table. -/
theorem plain_single {key : String} {v : Toml.Value}
    (hkey : key ∈ ["state", "paths", "instantiation", "mode", "include_install_dir",
      "install_dir", "env_var", "extra", "check_arity"]) (hv : v.Plain) :
    Table.Plain [(key, v)] where
  keys := List.forall_mem_singleton.mpr (isBareKey_of_mem hkey)
  distinct := List.pairwise_singleton _ _
  values := List.forall_mem_singleton.mpr hv

/-- The table of paths is plain, with an installation directory or without. -/
theorem pathTable_plain (s : PathSettings) (installDir : Option String) (extra : List String) :
    (pathTable s installDir extra).Plain := by
  constructor
  · intro key hkey
    apply isBareKey_of_mem
    cases installDir <;>
      · simp only [pathTable, List.map_append, List.mem_append] at hkey
        grind
  · cases installDir <;> simp [pathTable]
  · cases installDir <;>
      simp [pathTable, Toml.Value.Plain.boolean, Toml.Value.Plain.string, Toml.Value.Plain.array]

/-- The document of a configuration is plain. -/
theorem documentOf_plain (c : Configuration) (installDir : Option String) (extra : List String) :
    PlainDocument (documentOf c installDir extra) := by
  have hstate : Table.Plain [("mode", .string c.mode.name)] :=
    plain_single (by simp) (.string _)
  have hinstantiation : Table.Plain [("check_arity", .boolean c.checkArity)] :=
    plain_single (by simp) (.boolean _)
  constructor
  · intro key hkey
    apply isBareKey_of_mem
    simp only [documentOf, List.map_cons, List.map_nil] at hkey
    grind
  · simp [documentOf]
  · simp only [documentOf, List.forall_mem_cons]
    exact ⟨⟨_, rfl, hstate⟩, ⟨_, rfl, pathTable_plain c.paths installDir extra⟩,
      ⟨_, rfl, hinstantiation⟩, List.forall_mem_nil _⟩

variable {installDir : Option String} {extra : List String}

/-- A mode is read back from its name. -/
theorem readMode_name (mode : StateMode) : readMode (.string mode.name) = .ok mode := by
  cases mode <;> rfl

/-- Extra paths are read back from their texts. -/
theorem readPaths_texts (h : c.paths.extra.mapM Path.text? = some extra) :
    readPaths (.array (extra.map .string)) = .ok c.paths.extra := by
  have hread (extra : List String) :
      (extra.map Toml.Value.string).mapM readPath = .ok (extra.map Path.ofText) := by
    induction extra with
    | nil => rfl
    | cons s extra ih =>
      rw [List.map_cons, List.mapM_cons, ih]
      rfl
  rw [← Path.mapM_ofText h]
  exact hread extra

/-- The settings of the search path are decoded from their table. -/
theorem readRecord_pathTable (hinstall : c.paths.installDir.mapM Path.text? = some installDir)
    (hextra : c.paths.extra.mapM Path.text? = some extra) :
    readRecord "PathsConfig" pathFields default.paths
      (.table (pathTable c.paths installDir extra)) = .ok c.paths := by
  have hpaths := readPaths_texts hextra
  obtain ⟨mode, ⟨includeInstallDir, dir, pathVariable, more⟩, checkArity⟩ := c
  cases dir with
  | none =>
    obtain rfl : installDir = none := by
      simpa using hinstall.symm
    simp [readRecord, readEntries, pathTable, pathFields, readFlag, readText, hpaths]
    rfl
  | some dir =>
    obtain ⟨s, hs, rfl⟩ : ∃ s, dir.text? = some s ∧ some s = installDir := by
      simpa using hinstall
    simp [readRecord, readEntries, pathTable, pathFields, readFlag, readText, readPath, hpaths,
      Path.ofText_of_text? hs]
    rfl

/-- The document of a configuration is decoded into that configuration. -/
theorem ofDocument_toDocument (h : c.toDocument = some document) : ofDocument document = .ok c := by
  obtain ⟨installDir, extra, hinstall, hextra, rfl⟩ := toDocument_eq_some_iff.mp h
  have hmode : readRecord "StateConfig" stateFields default.mode
      (.table [("mode", .string c.mode.name)]) = .ok c.mode := by
    simp [readRecord, readEntries, stateFields, readMode_name]
    rfl
  have hpaths := readRecord_pathTable hinstall hextra
  have hcheck : readRecord "InstantiationConfig" instantiationFields default.checkArity
      (.table [("check_arity", .boolean c.checkArity)]) = .ok c.checkArity := rfl
  simp [ofDocument, documentOf, readEntries, tables, hmode, hpaths, hcheck]
  rfl

/-- A configuration has a document exactly when all of its paths are texts. -/
theorem exists_toDocument_iff :
    (∃ document, c.toDocument = some document) ↔ ∀ p ∈ c.givenPaths, p.IsText := by
  rw [givenPaths, List.forall_mem_append]
  constructor
  · rintro ⟨document, h⟩
    obtain ⟨installDir, extra, hinstall, hextra, -⟩ := toDocument_eq_some_iff.mp h
    refine ⟨?_, Path.isText_of_texts hextra⟩
    intro p hp
    rw [Option.mem_toList] at hp
    rw [hp] at hinstall
    obtain ⟨s, hs, -⟩ : ∃ s, p.text? = some s ∧ some s = installDir := by
      simpa using hinstall
    exact Path.isText_iff.mpr ⟨s, hs⟩
  · rintro ⟨hinstall, hextra⟩
    obtain ⟨extra, hextra⟩ := Path.exists_texts hextra
    obtain ⟨installDir, hinstall⟩ :
        ∃ installDir, c.paths.installDir.mapM Path.text? = some installDir := by
      cases hdir : c.paths.installDir with
      | none => exact ⟨none, rfl⟩
      | some p =>
        obtain ⟨s, hs⟩ := Path.isText_iff.mp (hinstall p (by simp [hdir]))
        exact ⟨some s, by simp [hs]⟩
    exact ⟨_, toDocument_eq_some_iff.mpr ⟨installDir, extra, hinstall, hextra, rfl⟩⟩

/-- Storing a configuration fails exactly when one of its paths is no text; otherwise its text is
loaded as the same configuration, by any library that reads what it has written. -/
theorem stored_loaded [Toml.Library] (hlibrary : Toml.Library.Inverse) (c : Configuration) :
    (c.toText = .error (.configuration "config" .unwritablePath) ↔
      ∃ p ∈ c.givenPaths, ¬ p.IsText) ∧
    (c.toText = .error (.configuration "config" .unwritablePath) ∨
      ∃ text, c.toText = .ok text ∧ parse text = .ok c) := by
  cases h : c.toDocument with
  | none =>
    have herror : c.toText = .error (.configuration "config" .unwritablePath) := by
      rw [toText, h]
    have hnone : ¬ ∀ p ∈ c.givenPaths, p.IsText := by
      rw [← exists_toDocument_iff, h]
      exact nofun
    exact ⟨iff_of_true herror (by simpa using hnone), .inl herror⟩
  | some document =>
    have htext : c.toText = .ok (Toml.Library.write document) := by
      rw [toText, h]
    have hplain : PlainDocument document := by
      obtain ⟨installDir, extra, -, -, rfl⟩ := toDocument_eq_some_iff.mp h
      exact documentOf_plain c installDir extra
    have hparse : parse (Toml.Library.write document) = .ok c := by
      rw [parse, hlibrary document hplain]
      simp only [ofDocument_toDocument h]
    refine ⟨iff_of_false ?_ ?_, .inr ⟨_, htext, hparse⟩⟩
    · rw [htext]
      exact nofun
    · rintro ⟨p, hp, hno⟩
      exact hno (exists_toDocument_iff.mp ⟨document, h⟩ p hp)

/-- Settings without a variable, with a path twice and one that needs quotes and escapes. -/
def awkwardConfiguration : Configuration :=
  ⟨.shared, ⟨false, none, "", [.ofText "a", .ofText "a", .ofText "'\"\n\x07"]⟩, false⟩

/-- This project stores such settings and loads them again. -/
theorem stored_loaded_awkward :
    Toml.Library.Inverse ∧
    ∃ text, awkwardConfiguration.toText = .ok text ∧ parse text = .ok awkwardConfiguration := by
  have hstored := stored_loaded Toml.library_inverse awkwardConfiguration
  refine ⟨Toml.library_inverse, hstored.2.resolve_left fun herror => ?_⟩
  obtain ⟨p, hp, hno⟩ := hstored.1.mp herror
  have htexts : ∀ p ∈ awkwardConfiguration.givenPaths, (Path.text? p).isSome := by decide +kernel
  exact hno (Path.isText_iff.mpr (Option.isSome_iff_exists.mp (htexts p hp)))

end Configuration

end ObjectBridge
