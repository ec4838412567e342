import ObjectBridge.Configuration.Discovery
import ObjectBridge.Proofs.Components
import ObjectBridge.Proofs.Places

/-!
# The configuration that is found

The search for a configuration goes from a directory up to the last directory around it, and the
first candidate that configures something decides.  A candidate that configures nothing can be
deleted, unless it is a directory that the path of the one that decides leads through.  A file to
which none of the candidates tried leads does not matter.  Files above the directory of the one that
decides are such files, unless a step up or a link leads to them.

Main results:

- Theorem `Configuration.directories_lineage`: the search goes through all directories.
- Theorem `Configuration.discoverFrom_remove`: a candidate that configures nothing can be deleted.
- Theorem `Configuration.discoverFrom_beside`: files that were not tried do not matter.
- Theorem `Configuration.locate_ne_of_above`: files above the end of the search were not tried.
- Theorem `Configuration.discoverFrom_settled`: all of this for one search.
-/

open ObjectBridge.Path (Component)

namespace ObjectBridge

/-! ## Paths in a tree -/

namespace FileTree

variable {tree tree' : FileTree} {k directory : Path} {bytes : List UInt8}
  {place outer entry q r : Place} {node : FileNode} {target : Path}

/-- A path by which something can be found, if it is there. -/
structure Fits (k : Path) : Prop where
  nonzero : k.bytes.contains 0 = false
  nonempty : k.bytes ≠ []
  short : k.bytes.length < pathLimit

/-- What is located is where the steps of a path lead. -/
theorem locate_eq_ok_iff : tree.locate k = .ok r ↔
    Fits k ∧ ∃ through, tree.Leads linkLimit (tree.origin k) (steps k) through r := by
  rw [locate]
  by_cases hzero : k.bytes.contains 0 = true
  · rw [if_pos hzero]
    exact ⟨nofun, fun h => absurd h.1.nonzero (by rw [hzero]; decide)⟩
  by_cases hempty : k.bytes = []
  · rw [if_neg hzero, if_pos hempty]
    exact ⟨nofun, fun h => absurd hempty h.1.nonempty⟩
  by_cases hlong : pathLimit ≤ k.bytes.length
  · rw [if_neg hzero, if_neg hempty, if_pos hlong]
    exact ⟨nofun, fun h => absurd h.1.short (Nat.not_lt_of_le hlong)⟩
  have hfits : Fits k := ⟨Bool.eq_false_iff.mpr hzero, hempty, Nat.lt_of_not_le hlong⟩
  rw [if_neg hzero, if_neg hempty, if_neg hlong, walk_eq_ok_iff]
  exact ⟨fun h => ⟨hfits, h⟩, fun h => h.2⟩

/-- What is found is what stands where a path leads. -/
theorem find_eq_ok_iff :
    tree.find k = .ok node ↔ ∃ r, tree.locate k = .ok r ∧ tree.at? r = some node := by
  rw [find]
  cases tree.locate k with
  | error fault => simp [bind, Except.bind]
  | ok r =>
    simp only [bind, Except.bind, Except.ok.injEq, exists_eq_left']
    cases tree.at? r <;> simp

/-- What is read is the text of the file that is found. -/
theorem read_eq_ok_iff {text : String} : tree.read k = .ok text ↔
    ∃ content, tree.find k = .ok (.file content) ∧ (Path.mk content).text? = some text := by
  rw [read]
  cases tree.find k with
  | error fault => simp [bind, Except.bind]
  | ok node =>
    cases node with
    | file content => cases htext : (Path.mk content).text? <;> simp [bind, Except.bind, htext]
    | locked | directory | sealed | link => simp [bind, Except.bind]

/-- A name below a directory leads to the directory and on by the name. -/
theorem steps_join (hname : (Component.name bytes).Proper) :
    steps (directory.join ⟨bytes⟩) = directory.components ++ [.name bytes] := by
  rw [steps, Path.namesDirectory_join hname, Path.components_join hname]
  exact List.append_nil _

/-- A path starts from the root if it says so. -/
theorem origin_eq : tree.origin k =
    if k.components.head? = some .root then [] else tree.working := by
  rw [origin]
  cases k.components with
  | nil => rfl
  | cons component rest => cases component <;> rfl

/-- A name below a directory starts where the directory starts. -/
theorem origin_join (hname : (Component.name bytes).Proper) :
    tree.origin (directory.join ⟨bytes⟩) = tree.origin directory := by
  rw [origin, origin, Path.components_join hname]
  cases directory.components with
  | nil => rfl
  | cons component rest => cases component <;> rfl

/-! ### Entries -/

/-- The place of a name in the directory that a path leads to, whatever stands there. -/
def spot (tree : FileTree) (directory name : Path) : Except ReadFault Place := do
  return (← tree.walk linkLimit (tree.origin directory) directory.components) ++ [name.bytes]

/-- What is found by a name stands at the place of the name, or beyond a link that does. -/
theorem spot_of_find (hname : (Component.name bytes).Proper)
    (hfind : tree.find (directory.join ⟨bytes⟩) = .ok node) :
    ∃ outer, tree.spot directory ⟨bytes⟩ = .ok (outer ++ [bytes]) ∧
      ((tree.at? (outer ++ [bytes]) = some node ∧ (∀ target, node ≠ .link target)) ∨
        ∃ target links through r, tree.at? (outer ++ [bytes]) = some (.link target) ∧
          tree.Leads links outer (steps target) through r ∧ tree.at? r = some node) := by
  obtain ⟨r, hlocate, hr⟩ := find_eq_ok_iff.mp hfind
  obtain ⟨-, through, hleads⟩ := locate_eq_ok_iff.mp hlocate
  rw [steps_join hname, origin_join hname] at hleads
  obtain ⟨outer, links, begun, ended, hbegun, hended⟩ := hleads.split
  refine ⟨outer, ?_, ?_⟩
  · rw [spot, walk_eq_ok_iff.mpr ⟨_, hbegun⟩]
    rfl
  · cases hended with
    | name enter short plain onward =>
      cases onward
      exact .inl ⟨hr, fun target htarget => plain target (htarget ▸ hr)⟩
    | link enter short link onward =>
      rw [List.append_nil] at onward
      exact .inr ⟨_, _, _, r, link, onward, hr⟩

/-! ### Files that configure something -/

section Configures

variable [Toml.Library] {c : Configuration} {j : Path}

/-- A file at a path configures something: it can be read, and its text parses. -/
def Configures (tree : FileTree) (k : Path) (c : Configuration) : Prop :=
  ∃ content text, tree.find k = .ok (.file content) ∧ (Path.mk content).text? = some text ∧
    Configuration.parse text = .ok c

/-- A path leads through an entry or through something below it. -/
def Crosses (tree : FileTree) (k : Path) (entry : Place) : Prop :=
  ∃ through last, tree.Leads linkLimit (tree.origin k) (steps k) through last ∧
    ∃ q ∈ through, entry <+: q

/-- What configures something after a deletion did so before. -/
theorem configures_of_remove (hentry : entry ≠ []) (h : (tree.remove entry).Configures k c) :
    tree.Configures k c := by
  obtain ⟨content, text, hfind, htext, hparse⟩ := h
  obtain ⟨r, hlocate, hr⟩ := find_eq_ok_iff.mp hfind
  obtain ⟨hfits, through, hleads⟩ := locate_eq_ok_iff.mp hlocate
  have hleads := hleads.of_remove hentry (by rw [hr]; exact nofun)
  have hlocate := locate_eq_ok_iff.mpr ⟨hfits, through, hleads⟩
  exact ⟨content, text, find_eq_ok_iff.mpr ⟨r, hlocate, (at?_of_remove hentry hr).1⟩, htext, hparse⟩

/-- What configures something and does not lead through an entry or to it does so without the
entry. -/
theorem configures_remains (hentry : entry ≠ []) (hsteps : steps k ≠ [])
    (h : tree.Configures k c) (hcrosses : ¬ tree.Crosses k entry)
    (hlast : tree.locate k ≠ .ok entry) : (tree.remove entry).Configures k c := by
  obtain ⟨content, text, hfind, htext, hparse⟩ := h
  obtain ⟨r, hlocate, hr⟩ := find_eq_ok_iff.mp hfind
  obtain ⟨hfits, through, hleads⟩ := locate_eq_ok_iff.mp hlocate
  have hthrough : ∀ q ∈ through, ¬ entry <+: q :=
    fun q hq hbelow => hcrosses ⟨through, r, hleads, q, hq, hbelow⟩
  obtain ⟨component, rest, hcons⟩ := List.exists_cons_of_ne_nil hsteps
  have horigin : tree.origin k ∈ through := (hcons ▸ hleads).mem_through
  have hbeside : ¬ entry <+: r := by
    intro hbelow
    obtain rfl := hleads.eq_of_below hthrough (fun h => absurd h (hthrough _ horigin)) hbelow
    exact hlast hlocate
  have hlocate : (tree.remove entry).locate k = .ok r :=
    locate_eq_ok_iff.mpr ⟨hfits, through, hleads.remains hentry hthrough⟩
  refine ⟨content, text, find_eq_ok_iff.mpr ⟨r, hlocate, ?_⟩, htext, hparse⟩
  rw [at?_remove hentry, if_neg hbeside, hr]

/-- What configures something does not lead to the place of a name that configures nothing, and not
through it either, unless a directory is found there. -/
theorem beside_of_configures (hname : (Component.name bytes).Proper)
    (hfind : tree.find (directory.join ⟨bytes⟩) = .ok node)
    (hnone : ∀ d, ¬ tree.Configures (directory.join ⟨bytes⟩) d)
    (hspot : tree.spot directory ⟨bytes⟩ = .ok entry) (h : tree.Configures j c) :
    tree.locate j ≠ .ok entry ∧ (node.isDirectory = false → ¬ tree.Crosses j entry) := by
  obtain ⟨content, text, hj, htext, hparse⟩ := h
  obtain ⟨last, hlocate, hlast⟩ := find_eq_ok_iff.mp hj
  -- What is found by the name is not the file that configures something.
  have hother : some node ≠ some (.file content) := by
    intro heq
    rw [Option.some_inj.mp heq] at hfind
    exact hnone c ⟨content, text, hfind, htext, hparse⟩
  obtain ⟨outer, houter, hstands⟩ := spot_of_find hname hfind
  obtain rfl := Except.ok.inj (houter.symm.trans hspot)
  constructor
  · intro hentry
    obtain rfl := Except.ok.inj (hlocate.symm.trans hentry)
    obtain ⟨hnode, -⟩ | ⟨target, _, _, _, hlink, -⟩ := hstands
    · exact hother (hnode.symm.trans hlast)
    · cases hlink.symm.trans hlast
  · rintro hdirectory ⟨through, last', hleads, q, hq, hbelow⟩
    obtain ⟨-, _, hleads'⟩ := locate_eq_ok_iff.mp hlocate
    obtain ⟨rfl, -⟩ := hleads.unique hleads'
    by_cases heq : outer ++ [bytes] = q
    · subst heq
      obtain ⟨hnode, hplain⟩ | ⟨target, links, begun, r, hlink, hbeyond, hr⟩ := hstands
      · obtain hthere | ⟨target, hthere⟩ := hleads.at?_of_mem_through hq
        · rw [Option.some_inj.mp (hnode.symm.trans hthere)] at hdirectory
          cases hdirectory
        · exact hplain target (Option.some_inj.mp (hnode.symm.trans hthere))
      · -- The path leads on from what is found beyond the link, which is no directory to enter.
        obtain ⟨fewer, rest, ended, honward⟩ := hleads.onward_of_link hq hlink
        obtain ⟨mid, _, _, _, hmid, hrest⟩ := honward.split
        obtain ⟨rfl, -⟩ := hbeyond.unique hmid
        cases rest with
        | nil =>
          cases hrest
          exact hother (hr.symm.trans hlast)
        | cons component rest =>
          rw [Option.some_inj.mp (hr.symm.trans hrest.enter_first)] at hdirectory
          cases hdirectory
    · obtain ⟨found, hfound⟩ : ∃ found, tree.at? q = some found := by
        obtain hthere | ⟨target, hthere⟩ := hleads.at?_of_mem_through hq
        · exact ⟨_, hthere⟩
        · exact ⟨_, hthere⟩
      have habove := isDirectory_of_above hfound hbelow heq
      obtain ⟨hnode, -⟩ | ⟨target, _, _, _, hlink, -⟩ := hstands
      · rw [hnode, Option.any_some, hdirectory] at habove
        cases habove
      · rw [hlink] at habove
        cases habove

end Configures

/-! ### Trees that differ in files -/

/-- Two trees that differ in files only: what stands where they differ is a file in either one, if
anything. -/
structure FilesDiffer (tree tree' : FileTree) : Prop where
  working : tree'.working = tree.working
  before : ∀ r node, tree'.at? r ≠ tree.at? r → tree.at? r = some node → node.isFile = true
  after : ∀ r node, tree'.at? r ≠ tree.at? r → tree'.at? r = some node → node.isFile = true

/-- It does not matter which of two trees comes first. -/
theorem FilesDiffer.symm (h : FilesDiffer tree tree') : FilesDiffer tree' tree :=
  ⟨h.working.symm, fun r node hne => h.after r node (Ne.symm hne),
    fun r node hne => h.before r node (Ne.symm hne)⟩

/-- Files are not on the way to anything. -/
theorem FilesDiffer.locate_of (h : FilesDiffer tree tree') (hlocate : tree.locate k = .ok r) :
    tree'.locate k = .ok r := by
  obtain ⟨hfits, through, hleads⟩ := locate_eq_ok_iff.mp hlocate
  have horigin : tree'.origin k = tree.origin k := by
    rw [origin, origin, h.working]
  refine locate_eq_ok_iff.mpr ⟨hfits, through, ?_⟩
  rw [horigin]
  refine hleads.of_agree (fun q hq => ?_) fun q target hlink => ?_
  · by_contra hne
    obtain hthere | ⟨target, hthere⟩ := hleads.at?_of_mem_through hq
    · cases h.before q _ hne hthere
    · cases h.before q _ hne hthere
  · by_contra hne
    have hdiffer : tree'.at? q ≠ tree.at? q := fun heq => hne (heq.symm.trans hlink)
    cases h.after q _ hdiffer hlink

/-- A path leads to the same place in trees that differ in files. -/
theorem FilesDiffer.locate_iff (h : FilesDiffer tree tree') :
    tree'.locate k = .ok r ↔ tree.locate k = .ok r :=
  ⟨h.symm.locate_of, h.locate_of⟩

/-- Trees before and after a file was written differ in files. -/
theorem filesDiffer_write (hold : ∀ old, tree.at? r = some old → old.isFile = true)
    (hnode : node.isFile = true) : FilesDiffer tree (tree.write r node) where
  working := rfl
  before q old hne hq := by
    by_cases heq : q = r
    · exact hold old (heq ▸ hq)
    · exact absurd (at?_write_of_ne hold hnode heq) hne
  after q found hne hq := by
    by_cases heq : q = r
    · exact isFile_of_at?_write hold hnode (heq ▸ hq)
    · exact absurd (at?_write_of_ne hold hnode heq) hne

/-- A path configures the same in them unless it leads to a file in which they differ. -/
theorem FilesDiffer.configures_iff [Toml.Library] {c : Configuration}
    (h : FilesDiffer tree tree')
    (hbeside : ∀ r, tree'.at? r ≠ tree.at? r → tree.locate k ≠ .ok r) :
    tree'.Configures k c ↔ tree.Configures k c := by
  have hfind (node : FileNode) : tree'.find k = .ok node ↔ tree.find k = .ok node := by
    rw [find_eq_ok_iff, find_eq_ok_iff]
    refine exists_congr fun r => ?_
    rw [h.locate_iff]
    refine and_congr_right fun hlocate => ?_
    by_cases heq : tree'.at? r = tree.at? r
    · rw [heq]
    · exact absurd hlocate (hbeside r heq)
  simp only [Configures, hfind]

end FileTree

/-! ## The candidates -/

namespace Configuration

open FileTree

variable {tree tree' : FileTree} {start k : Path}

/-- A directory with the directories around it, one after another up to one that has none. -/
inductive Lineage : Path → List Path → Prop where
  | last {p : Path} (h : p.parent? = none) : Lineage p [p]
  | step {p q : Path} {outer : List Path} (h : p.parent? = some q) (houter : Lineage q outer) :
      Lineage p (p :: outer)

/-- The components of the directories of a lineage are first components of the innermost one. -/
theorem Lineage.prefix_components {ps : List Path} (h : Lineage start ps) :
    ∀ p ∈ ps, p.components <+: start.components := by
  induction h with
  | last => exact List.forall_mem_singleton.mpr (List.prefix_refl _)
  | step h houter ih =>
    refine List.forall_mem_cons.mpr ⟨List.prefix_refl _, fun p hp => (ih p hp).trans ?_⟩
    rw [Path.parent?_components h]
    exact List.dropLast_prefix _

/-- Directories of a lineage are around those before them. -/
theorem Lineage.pairwise {ps : List Path} (h : Lineage start ps) :
    ps.Pairwise fun p q => q.components <+: p.components := by
  induction h with
  | last => exact List.pairwise_singleton _ _
  | @step p q outer h houter ih =>
    refine List.pairwise_cons.mpr ⟨fun r hr => (houter.prefix_components r hr).trans ?_, ih⟩
    rw [Path.parent?_components h]
    exact List.dropLast_prefix _

/-- The directories of a lineage are all spelled from the root on, or none of them is. -/
theorem Lineage.rooted_iff {ps : List Path} (h : Lineage start ps) :
    ∀ p ∈ ps, (p.components.head? = some .root ↔ start.components.head? = some .root) := by
  induction h with
  | last => exact List.forall_mem_singleton.mpr Iff.rfl
  | @step p q outer hparent houter ih =>
    refine List.forall_mem_cons.mpr ⟨Iff.rfl, fun r hr => (ih r hr).trans ?_⟩
    obtain ⟨hne, hroot, -⟩ := Path.parent?_eq_some_iff.mp hparent
    rw [Path.parent?_components hparent]
    obtain ⟨first, rest, hcons⟩ := List.exists_cons_of_ne_nil hne
    rw [hcons] at hroot ⊢
    cases rest with
    | nil => exact iff_of_false nofun fun h => hroot (by rw [Option.some_inj.mp h])
    | cons second rest => exact Iff.rfl

/-- Paths of a lineage start from the same place. -/
theorem Lineage.origin {ps : List Path} (h : Lineage start ps) :
    ∀ p ∈ ps, tree.origin p = tree.origin start := by
  intro p hp
  have hrooted := h.rooted_iff p hp
  rw [origin_eq, origin_eq]
  simp only [hrooted]

/-- The search goes through all directories. -/
theorem directories_lineage (start : Path) : Lineage start (directories start) := by
  have habove : ∀ fuel (p : Path), p.components.length ≤ fuel →
      Lineage p (p :: directories.above fuel p) := by
    intro fuel
    induction fuel with
    | zero =>
      intro p hp
      cases hparent : p.parent? with
      | none => exact .last hparent
      | some q =>
        exact absurd (List.length_eq_zero_iff.mp (Nat.le_zero.mp hp))
          (Path.parent?_eq_some_iff.mp hparent).1
    | succ fuel ih =>
      intro p hp
      rw [directories.above]
      cases hparent : p.parent? with
      | none => exact .last hparent
      | some q =>
        refine .step hparent (ih q ?_)
        rw [Path.parent?_components hparent, List.length_dropLast]
        omega
  exact habove _ start (Nat.le_refl _)

/-- The names of configuration files are single segments. -/
theorem fileNames_proper : ∀ name ∈ fileNames, (Component.name name.bytes).Proper := by
  refine List.forall_mem_cons.mpr ⟨?_, List.forall_mem_singleton.mpr ?_⟩
  · exact .name (by decide +kernel) (by decide +kernel) (by decide +kernel) (by decide +kernel)
  · exact .name (by decide +kernel) (by decide +kernel) (by decide +kernel) (by decide +kernel)

/-- A candidate is a name below a directory of the search. -/
theorem mem_candidates_iff : k ∈ candidates start ↔
    ∃ directory ∈ directories start, ∃ name ∈ fileNames, directory.join name = k := by
  simp only [candidates, List.mem_flatMap, List.mem_map]

/-- Candidates of the search are in directories around those of the candidates before them. -/
theorem candidates_pairwise (start : Path) : (candidates start).Pairwise fun j k =>
    ∃ inner ∈ directories start, ∃ outer ∈ directories start, ∃ name ∈ fileNames,
      ∃ other ∈ fileNames, inner.join name = j ∧ outer.join other = k ∧
        outer.components <+: inner.components := by
  refine List.pairwise_flatMap.mpr ⟨fun directory hdirectory => ?_, ?_⟩
  · refine List.pairwise_iff_forall_sublist.mpr fun hsublist => ?_
    obtain ⟨name, hname, rfl⟩ := List.mem_map.mp (hsublist.subset List.mem_cons_self)
    obtain ⟨other, hother, rfl⟩ :=
      List.mem_map.mp (hsublist.subset (List.mem_cons_of_mem _ List.mem_cons_self))
    exact ⟨directory, hdirectory, directory, hdirectory, name, hname, other, hother, rfl, rfl,
      List.prefix_refl _⟩
  · refine (directories_lineage start).pairwise.imp_of_mem fun hinner houter hprefix j hj k hk => ?_
    obtain ⟨name, hname, rfl⟩ := List.mem_map.mp hj
    obtain ⟨other, hother, rfl⟩ := List.mem_map.mp hk
    exact ⟨_, hinner, _, houter, name, hname, other, hother, rfl, rfl, hprefix⟩

/-- The steps to a candidate end in its name. -/
theorem steps_candidate (hk : k ∈ candidates start) : steps k ≠ [] := by
  obtain ⟨directory, -, name, hname, rfl⟩ := mem_candidates_iff.mp hk
  rw [steps_join (fileNames_proper name hname)]
  exact List.append_ne_nil_of_right_ne_nil _ (List.cons_ne_nil _ _)

/-- In a tree without links, a name below a directory leads below where the directory leads. -/
theorem exists_leads_of_locate {directory : Path} {bytes : List UInt8} {r : Place}
    (hname : (Component.name bytes).Proper)
    (hlinks : ∀ q target, tree.at? q ≠ some (.link target))
    (h : tree.locate (directory.join ⟨bytes⟩) = .ok r) :
    ∃ through, tree.Leads linkLimit (tree.origin directory) directory.components through
      r.dropLast := by
  obtain ⟨-, through, hleads⟩ := locate_eq_ok_iff.mp h
  rw [steps_join hname, origin_join hname] at hleads
  obtain ⟨place, links, begun, ended, hbegun, hended⟩ := hleads.split
  cases hended with
  | name enter short plain onward =>
    cases onward
    rw [List.dropLast_concat]
    exact ⟨begun, hbegun⟩
  | link enter short link onward => exact absurd link (hlinks _ _)

/-- Files above the directory of a candidate are not those to which the candidates before it lead,
when the path of the start has no step up and the tree has no links. -/
theorem locate_ne_of_above {before after : List Path} {chosen r : Place}
    (hup : Component.up ∉ start.components)
    (hlinks : ∀ q target, tree.at? q ≠ some (.link target))
    (hfiles : candidates start = before ++ k :: after) (hchosen : tree.locate k = .ok chosen)
    (habove : r.dropLast <+: chosen.dropLast) (hne : r.dropLast ≠ chosen.dropLast) :
    ∀ j ∈ before ++ [k], tree.locate j ≠ .ok r := by
  intro j hj hr
  obtain hj | hj := List.mem_append.mp hj
  · have hpairwise := candidates_pairwise start
    rw [hfiles, List.pairwise_append] at hpairwise
    obtain ⟨inner, hinner, outer, houter, ⟨name⟩, hname, ⟨other⟩, hother, rfl, rfl, rest, hrest⟩ :=
      hpairwise.2.2 j hj k List.mem_cons_self
    have hlineage := directories_lineage start
    obtain ⟨_, hmid⟩ := exists_leads_of_locate (fileNames_proper _ hother) hlinks hchosen
    obtain ⟨_, hleads⟩ := exists_leads_of_locate (fileNames_proper _ hname) hlinks hr
    rw [← hrest, hlineage.origin inner hinner, ← hlineage.origin outer houter] at hleads
    obtain ⟨mid, _, _, _, hbegun, hended⟩ := hleads.split
    obtain ⟨rfl, -⟩ := hmid.unique hbegun
    -- From the directory of the later candidate on, the components lead down only.
    have hinside := (hlineage.prefix_components inner hinner).subset
    rw [← hrest] at hinside
    have hroot : Component.root ∉ rest := by
      intro hmem
      have hspelled := Path.components_spelled inner
      rw [← hrest] at hspelled
      obtain ⟨hnil, hhead⟩ := hspelled.eq_nil_of_root hmem
      have hrooted := (hlineage.rooted_iff outer houter).mpr
        ((hlineage.rooted_iff inner hinner).mp (by rw [← hrest, hnil]; exact hhead))
      rw [hnil] at hrooted
      cases hrooted
    have hbelow := hended.prefix_of_down hlinks
      (fun hmem => hup (hinside (List.mem_append_right _ hmem))) hroot
    exact hne (habove.eq_of_length_le hbelow.length_le)
  · obtain rfl := List.mem_singleton.mp hj
    obtain rfl := Except.ok.inj (hr.symm.trans hchosen)
    exact hne rfl

/-! ## The search -/

section Search

variable [Toml.Library] {c d : Configuration}

/-- What a file that can be read configures. -/
theorem load_toOption_eq_some_iff : (load tree k).toOption = some c ↔
    ∃ text, tree.read k = .ok text ∧ parse text = .ok c := by
  rw [load]
  cases tree.read k with
  | error fault => simp [Except.toOption]
  | ok text =>
    cases hparse : parse text with
    | ok d => simp [hparse, Except.toOption]
    | error e => cases e <;> simp [hparse, Except.toOption]

/-- What is loaded from a path is what it configures. -/
theorem loadIfValid_eq_some_iff : loadIfValid tree k = some c ↔ tree.Configures k c := by
  have hload : (load tree k).toOption = some c ↔ tree.Configures k c := by
    simp only [load_toOption_eq_some_iff, read_eq_ok_iff, Configures]
    constructor
    · rintro ⟨text, ⟨content, hfind, htext⟩, hparse⟩
      exact ⟨content, text, hfind, htext, hparse⟩
    · rintro ⟨content, text, hfind, htext, hparse⟩
      exact ⟨text, ⟨content, hfind, htext⟩, hparse⟩
  rw [loadIfValid, holds]
  cases hfind : tree.find k with
  | error fault => simp [Configures, hfind]
  | ok node => exact hload

/-- The first of some files that configures something, with what it configures. -/
def FirstOf (tree : FileTree) (files : List Path) (k : Path) (c : Configuration) : Prop :=
  ∃ before after, files = before ++ k :: after ∧ (∀ j ∈ before, ∀ d, ¬ tree.Configures j d) ∧
    tree.Configures k c

/-- There is one first file that configures something. -/
theorem FirstOf.unique {files : List Path} {k' : Path} (h : FirstOf tree files k c)
    (h' : FirstOf tree files k' d) : k = k' := by
  obtain ⟨before, after, hfiles, hbefore, hk⟩ := h
  obtain ⟨before', after', hfiles', hbefore', hk'⟩ := h'
  obtain ⟨between, rfl, hback⟩ | ⟨between, rfl, hback⟩ :=
    List.append_eq_append_iff.mp (hfiles.symm.trans hfiles')
  · cases between with
    | nil => exact (List.cons_eq_cons.mp hback).1
    | cons j between =>
      obtain ⟨rfl, -⟩ := List.cons_eq_cons.mp hback
      exact absurd hk (hbefore' k (List.mem_append_right _ List.mem_cons_self) c)
  · cases between with
    | nil => exact (List.cons_eq_cons.mp hback).1.symm
    | cons j between =>
      obtain ⟨rfl, -⟩ := List.cons_eq_cons.mp hback
      exact absurd hk' (hbefore k' (List.mem_append_right _ List.mem_cons_self) d)

/-- Nothing is loaded from a path that configures nothing. -/
theorem loadIfValid_eq_none_iff : loadIfValid tree k = none ↔ ∀ d, ¬ tree.Configures k d := by
  rw [Option.eq_none_iff_forall_ne_some]
  exact forall_congr' fun d => not_congr loadIfValid_eq_some_iff

/-- The first candidate that configures something decides. -/
theorem discoverFrom_of_firstOf (h : FirstOf tree (candidates start) k c) :
    discoverFrom tree start = c := by
  obtain ⟨before, after, hfiles, hbefore, hk⟩ := h
  have hfind : (candidates start).findSome? (loadIfValid tree) = some c :=
    List.findSome?_eq_some_iff.mpr ⟨before, k, after, hfiles, loadIfValid_eq_some_iff.mpr hk,
      fun j hj => loadIfValid_eq_none_iff.mpr (hbefore j hj)⟩
  rw [discoverFrom, hfind, Option.getD_some]

/-- Without such a candidate there is the default. -/
theorem discoverFrom_of_none (h : ∀ k ∈ candidates start, ∀ d, ¬ tree.Configures k d) :
    discoverFrom tree start = default := by
  have hfind : (candidates start).findSome? (loadIfValid tree) = none :=
    List.findSome?_eq_none_iff.mpr fun k hk => loadIfValid_eq_none_iff.mpr (h k hk)
  rw [discoverFrom, hfind, Option.getD_none]

/-- Some file is the first that configures something, or none does. -/
theorem firstOf_or_none (tree : FileTree) (files : List Path) :
    (∃ k c, FirstOf tree files k c) ∨ ∀ k ∈ files, ∀ d, ¬ tree.Configures k d := by
  cases hfind : files.findSome? (loadIfValid tree) with
  | none =>
    exact .inr fun k hk => loadIfValid_eq_none_iff.mp (List.findSome?_eq_none_iff.mp hfind k hk)
  | some c =>
    obtain ⟨before, k, after, hfiles, hk, hbefore⟩ := List.findSome?_eq_some_iff.mp hfind
    exact .inl ⟨k, c, before, after, hfiles,
      fun j hj => loadIfValid_eq_none_iff.mp (hbefore j hj), loadIfValid_eq_some_iff.mp hk⟩

/-! ### What does not matter -/

/-- A candidate that configures nothing can be deleted, with all that is below it, unless it is a
directory that the path of the file that decides leads through. -/
theorem discoverFrom_remove {directory name : Path} {node : FileNode} {entry : Place}
    (hname : name ∈ fileNames) (hfind : tree.find (directory.join name) = .ok node)
    (hnone : ∀ d, ¬ tree.Configures (directory.join name) d)
    (hspot : tree.spot directory name = .ok entry)
    (hcrosses : node.isDirectory = true →
      ∀ j c, FirstOf tree (candidates start) j c → ¬ tree.Crosses j entry) :
    discoverFrom (tree.remove entry) start = discoverFrom tree start := by
  have hproper := fileNames_proper name hname
  have hentry : entry ≠ [] := by
    obtain ⟨outer, houter, -⟩ := spot_of_find hproper hfind
    obtain rfl := Except.ok.inj (houter.symm.trans hspot)
    exact List.append_ne_nil_of_right_ne_nil _ (List.cons_ne_nil _ _)
  obtain ⟨j, c, before, after, hfiles, hbefore, hj⟩ | hnothing :=
    firstOf_or_none tree (candidates start)
  · obtain ⟨hlast, hbeside⟩ := beside_of_configures hproper hfind hnone hspot hj
    have hcrosses : ¬ tree.Crosses j entry := by
      cases hdirectory : node.isDirectory with
      | false => exact hbeside hdirectory
      | true => exact hcrosses hdirectory j c ⟨before, after, hfiles, hbefore, hj⟩
    have hcandidate : j ∈ candidates start := by
      rw [hfiles]
      exact List.mem_append_right _ List.mem_cons_self
    rw [discoverFrom_of_firstOf ⟨before, after, hfiles, hbefore, hj⟩]
    exact discoverFrom_of_firstOf ⟨before, after, hfiles,
      fun i hi d hd => hbefore i hi d (configures_of_remove hentry hd),
      configures_remains hentry (steps_candidate hcandidate) hj hcrosses hlast⟩
  · rw [discoverFrom_of_none hnothing]
    exact discoverFrom_of_none fun k hk d hd => hnothing k hk d (configures_of_remove hentry hd)

/-- Files to which none of the candidates tried leads do not matter. -/
theorem discoverFrom_beside {before after : List Path}
    (hfiles : candidates start = before ++ k :: after)
    (hbefore : ∀ j ∈ before, ∀ d, ¬ tree.Configures j d) (hk : tree.Configures k c)
    (hdiffer : FilesDiffer tree tree')
    (hbeside : ∀ r, tree'.at? r ≠ tree.at? r → ∀ j ∈ before ++ [k], tree.locate j ≠ .ok r) :
    discoverFrom tree' start = c := by
  have hsame : ∀ j ∈ before ++ [k], ∀ d, tree'.Configures j d ↔ tree.Configures j d :=
    fun j hj d => hdiffer.configures_iff fun r hr => hbeside r hr j hj
  rw [List.forall_mem_append, List.forall_mem_singleton] at hsame
  exact discoverFrom_of_firstOf ⟨before, after, hfiles,
    fun j hj d hd => hbefore j hj d ((hsame.1 j hj d).mp hd), (hsame.2 c).mpr hk⟩

/-! ### The whole search -/

/-- The search tries two files in a directory and in every directory around it, and the first that
configures something decides.  A candidate that configures nothing does not matter, unless it is a
directory that the path of the one that decides leads through.  Neither does a file to which none of
the candidates leads that were tried; one above the directory of the one that decides is such a
file, unless there is a step up in the path of the start or a link in the tree. -/
theorem discoverFrom_settled (tree : FileTree) (start : Path) :
    (Lineage start (directories start) ∧ candidates start = (directories start).flatMap fun p =>
      [p.join (.ofText "pyproxy.toml"), p.join (.ofText ".pyproxy.toml")]) ∧
    ((∃ k c, FirstOf tree (candidates start) k c ∧ discoverFrom tree start = c) ∨
      (∀ k ∈ candidates start, ∀ c, ¬ tree.Configures k c) ∧
        discoverFrom tree start = default) ∧
    (∀ directory ∈ directories start, ∀ name ∈ fileNames, ∀ node,
      tree.find (directory.join name) = .ok node →
      (∀ c, ¬ tree.Configures (directory.join name) c) →
      ∃ entry, tree.spot directory name = .ok entry ∧
        ((node.isDirectory = true →
          ∀ j c, FirstOf tree (candidates start) j c → ¬ tree.Crosses j entry) →
        discoverFrom (tree.remove entry) start = discoverFrom tree start)) ∧
    ∀ before k after c, candidates start = before ++ k :: after →
      (∀ j ∈ before, ∀ d, ¬ tree.Configures j d) → tree.Configures k c →
        (∀ tree', FilesDiffer tree tree' →
          (∀ r, tree'.at? r ≠ tree.at? r → ∀ j ∈ before ++ [k], tree.locate j ≠ .ok r) →
          discoverFrom tree' start = c) ∧
        (Component.up ∉ start.components → (∀ q target, tree.at? q ≠ some (.link target)) →
          ∀ chosen, tree.locate k = .ok chosen →
          ∀ r, r.dropLast <+: chosen.dropLast → r.dropLast ≠ chosen.dropLast →
            ∀ j ∈ before ++ [k], tree.locate j ≠ .ok r) := by
  refine ⟨⟨directories_lineage start, rfl⟩, ?_, ?_, ?_⟩
  · obtain ⟨k, c, hfirst⟩ | hnone := firstOf_or_none tree (candidates start)
    · exact .inl ⟨k, c, hfirst, discoverFrom_of_firstOf hfirst⟩
    · exact .inr ⟨hnone, discoverFrom_of_none hnone⟩
  · intro directory _ name hname node hfind hnone
    obtain ⟨outer, hspot, -⟩ := spot_of_find (fileNames_proper name hname) hfind
    exact ⟨_, hspot, discoverFrom_remove hname hfind hnone hspot⟩
  · intro before k after c hfiles hbefore hk
    exact ⟨fun tree' => discoverFrom_beside hfiles hbefore hk,
      fun hup hlinks chosen hchosen r => locate_ne_of_above hup hlinks hfiles hchosen⟩

end Search

/-! ### Searches in small trees -/

/-- A file with one setting that is not the default. -/
def sharedFile : FileNode :=
  .file (Path.ofText "[state]\nmode = \"shared\"\n").bytes

/-- The configuration of that file. -/
def sharedConfiguration : Configuration :=
  { Configuration.default with mode := .shared }

/-- A tree with a directory in the place of the first candidate below a directory, a file in that
of the second, and a file above them. -/
def sampleTree : FileTree :=
  .of [(.ofText "d/pyproxy.toml", .directory), (.ofText "d/.pyproxy.toml", sharedFile),
    (.ofText "pyproxy.toml", .file (Path.ofText "[instantiation]").bytes)]

/-- The place of a name in the directory where the search starts. -/
def lowerPlace (name : Path) : Place :=
  [(Path.ofText "d").bytes, name.bytes]

/-- There are no links in this tree. -/
theorem sampleTree_plain (q : Place) (target : Path) : sampleTree.at? q ≠ some (.link target) := by
  intro hlink
  have hnodes : ∀ item ∈ sampleTree.nodes, (item.2.isFile || item.2.isDirectory) = true := by
    decide +kernel
  obtain ⟨-, hroot⟩ | hmem := mem_of_at? hlink
  · cases hroot
  · cases hnodes _ hmem

/-- The directory can be deleted, and the file above can become unreadable. -/
theorem discoverFrom_sampleTree :
    discoverFrom (sampleTree.remove (lowerPlace (.ofText "pyproxy.toml"))) (.ofText "d") =
      discoverFrom sampleTree (.ofText "d") ∧
    discoverFrom (sampleTree.write [(Path.ofText "pyproxy.toml").bytes] .locked) (.ofText "d") =
      sharedConfiguration := by
  obtain ⟨-, -, hremove, hsettled⟩ := discoverFrom_settled sampleTree (.ofText "d")
  have hdirectory : loadIfValid sampleTree (.ofText "d/pyproxy.toml") = none := by
    decide +kernel
  have hshared : loadIfValid sampleTree (.ofText "d/.pyproxy.toml") =
      some sharedConfiguration := by
    decide +kernel
  have hnone := loadIfValid_eq_none_iff.mp hdirectory
  have hfiles : candidates (.ofText "d") = [.ofText "d/pyproxy.toml"] ++
      .ofText "d/.pyproxy.toml" :: [.ofText "pyproxy.toml", .ofText ".pyproxy.toml"] := by
    decide +kernel
  constructor
  · obtain ⟨entry, hspot, hentry⟩ := hremove (.ofText "d") (by decide +kernel)
      (.ofText "pyproxy.toml") (by decide +kernel) .directory rfl hnone
    obtain rfl : lowerPlace (.ofText "pyproxy.toml") = entry := Except.ok.inj hspot
    refine hentry fun _ j c hfirst => ?_
    obtain rfl := hfirst.unique ⟨_, _, hfiles, List.forall_mem_singleton.mpr hnone,
      loadIfValid_eq_some_iff.mp hshared⟩
    rintro ⟨through, last, hleads, q, hq, hbelow⟩
    have hway : sampleTree.Leads linkLimit [] (steps (.ofText "d/.pyproxy.toml"))
        [[], [(Path.ofText "d").bytes]] (lowerPlace (.ofText ".pyproxy.toml")) :=
      .name rfl (by decide +kernel) (sampleTree_plain _)
        (.name rfl (by decide +kernel) (sampleTree_plain _) .done)
    obtain ⟨-, rfl⟩ := hleads.unique hway
    have hbeside : ∀ q ∈ [[], [(Path.ofText "d").bytes]],
        ¬ lowerPlace (.ofText "pyproxy.toml") <+: q := by
      decide +kernel
    exact hbeside q hq hbelow
  · obtain ⟨hbeside, habove⟩ := hsettled _ _ _ sharedConfiguration hfiles
      (List.forall_mem_singleton.mpr hnone) (loadIfValid_eq_some_iff.mp hshared)
    have hold : ∀ old, sampleTree.at? [(Path.ofText "pyproxy.toml").bytes] = some old →
        old.isFile = true := by
      intro old hold
      obtain rfl := Option.some_inj.mp hold
      rfl
    refine hbeside _ (filesDiffer_write hold rfl) fun r hr => ?_
    obtain rfl : r = [(Path.ofText "pyproxy.toml").bytes] :=
      Decidable.byContradiction fun hne => hr (at?_write_of_ne hold rfl hne)
    exact habove (by decide +kernel) sampleTree_plain (lowerPlace (.ofText ".pyproxy.toml")) rfl _
      List.nil_prefix (by decide +kernel)

/-- A tree with a file in a directory that has the name of a candidate. -/
def nestedTree : FileTree :=
  .of [(.ofText "pyproxy.toml/pyproxy.toml", sharedFile)]

/-- A tree with a file in a directory. -/
def lowerTree : FileTree :=
  .of [(.ofText "d/pyproxy.toml", sharedFile)]

/-- A tree with a file in a directory, and a link beside it that leads above the directory. -/
def linkedTree : FileTree :=
  .of [(.ofText "d/pyproxy.toml", .link (.ofText "../target")),
    (.ofText "d/.pyproxy.toml", sharedFile)]

/-- A file with another setting that is not the default. -/
def lenientFile : FileNode :=
  .file (Path.ofText "[instantiation]\ncheck_arity = false\n").bytes

/-- A directory that the search leads through cannot be deleted, and a file above the directory in
which the search ends is found when a step up or a link leads there before. -/
theorem discoverFrom_astray :
    (Path.ofText "pyproxy.toml" ∈ candidates (.ofText "pyproxy.toml") ∧
      nestedTree.find (.ofText "pyproxy.toml") = .ok .directory ∧
        discoverFrom (nestedTree.remove [(Path.ofText "pyproxy.toml").bytes])
          (.ofText "pyproxy.toml") ≠ discoverFrom nestedTree (.ofText "pyproxy.toml")) ∧
    (FirstOf lowerTree (candidates (.ofText "d/..")) (.ofText "d/pyproxy.toml")
      sharedConfiguration ∧
        discoverFrom (lowerTree.write [(Path.ofText "pyproxy.toml").bytes] lenientFile)
          (.ofText "d/..") ≠ discoverFrom lowerTree (.ofText "d/..")) ∧
    FirstOf linkedTree (candidates (.ofText "d")) (.ofText "d/.pyproxy.toml")
      sharedConfiguration ∧
        discoverFrom (linkedTree.write [(Path.ofText "target").bytes] lenientFile)
          (.ofText "d") ≠ discoverFrom linkedTree (.ofText "d") := by
  refine ⟨⟨by decide +kernel, rfl, by decide +kernel⟩, ⟨?_, by decide +kernel⟩, ?_,
    by decide +kernel⟩
  · have hshared : loadIfValid lowerTree (.ofText "d/pyproxy.toml") =
        some sharedConfiguration := by
      decide +kernel
    have hbefore : ∀ k ∈ [Path.ofText "d/../pyproxy.toml", .ofText "d/../.pyproxy.toml"],
        loadIfValid lowerTree k = none := by
      decide +kernel
    exact ⟨[.ofText "d/../pyproxy.toml", .ofText "d/../.pyproxy.toml"], [.ofText "d/.pyproxy.toml",
      .ofText "pyproxy.toml", .ofText ".pyproxy.toml"], by decide +kernel,
      fun k hk => loadIfValid_eq_none_iff.mp (hbefore k hk), loadIfValid_eq_some_iff.mp hshared⟩
  · have hshared : loadIfValid linkedTree (.ofText "d/.pyproxy.toml") =
        some sharedConfiguration := by
      decide +kernel
    have hlink : loadIfValid linkedTree (.ofText "d/pyproxy.toml") = none := by
      decide +kernel
    exact ⟨[.ofText "d/pyproxy.toml"], [.ofText "pyproxy.toml", .ofText ".pyproxy.toml"],
      by decide +kernel, List.forall_mem_singleton.mpr (loadIfValid_eq_none_iff.mp hlink),
      loadIfValid_eq_some_iff.mp hshared⟩

end Configuration
end ObjectBridge
