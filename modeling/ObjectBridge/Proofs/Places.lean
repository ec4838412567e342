import Mathlib.Data.List.Induction
import ObjectBridge.Configuration.Discovery

/-!
# Places in a tree of files

A path leads from place to place.  What it leads to depends on the places that
it leads through, which are directories and links, and on the last one.  So what
stands elsewhere can change, and an entry can be deleted that no path of
interest leads through.

Main results:

- Theorem `FileTree.at?_remove`: what is left after a deletion.
- Theorem `FileTree.walk_eq_ok_iff`: a walk arrives where its components lead.
- Theorem `FileTree.Leads.of_agree`: the places that a walk depends on.
- Theorem `FileTree.Leads.of_remove`: a deletion opens no new ways.
- Theorem `FileTree.Leads.remains`: it leaves the ways beside what was deleted.
-/

open ObjectBridge.Path (Component)

namespace ObjectBridge

/-- Whether something is a file, readable or not. -/
def FileNode.isFile : FileNode → Bool
  | file _ | locked => true
  | _ => false

/-- A file is no directory. -/
theorem FileNode.isDirectory_eq_false_of_isFile {node : FileNode} (h : node.isFile = true) :
    node.isDirectory = false := by
  cases node <;> first | rfl | cases h

namespace FileTree

variable {tree tree' : FileTree} {place outer mid last last' entry q r : Place}
  {bytes : List UInt8} {component : Component} {cs ds rest : List Component}
  {links links' : Nat} {through through' : List Place} {node : FileNode} {target : Path}

/-! ## What stands at a place -/

/-- An entry stands in a directory. -/
theorem at?_concat : tree.at? (place ++ [bytes]) =
    if (tree.at? place).any FileNode.isDirectory then tree.nodes.lookup (place ++ [bytes])
    else none := by
  have hreverse : (bytes :: place.reverse).reverse = place ++ [bytes] := by
    rw [List.reverse_cons, List.reverse_reverse]
  rw [at?, List.reverse_concat, standing, hreverse]
  rfl

/-- Where something stands, every place above is a directory. -/
theorem isDirectory_of_above (hstands : tree.at? r = some node) (habove : q <+: r)
    (hne : q ≠ r) : (tree.at? q).any FileNode.isDirectory = true := by
  induction r using List.reverseRecOn generalizing node with
  | nil => exact absurd (List.prefix_nil.mp habove) hne
  | append_singleton outer bytes ih =>
    have houter : (tree.at? outer).any FileNode.isDirectory = true := by
      by_contra hnot
      rw [at?_concat, if_neg hnot] at hstands
      cases hstands
    by_cases heq : q = outer
    · rw [heq, houter]
    · obtain ⟨node, hnode⟩ := Option.isSome_iff_exists.mp (Option.isSome_of_any houter)
      exact ih hnode ((List.prefix_concat_iff.mp habove).resolve_left hne) heq

/-- What stands somewhere is the root or has been put there. -/
theorem mem_of_at? (h : tree.at? q = some node) :
    q = [] ∧ node = .directory ∨ (q, node) ∈ tree.nodes := by
  induction q using List.reverseRecOn with
  | nil => exact .inl ⟨rfl, (Option.some_inj.mp h).symm⟩
  | append_singleton outer bytes _ =>
    rw [at?_concat] at h
    split at h
    · obtain ⟨before, after, hnodes, -⟩ := List.lookup_eq_some_iff.mp h
      rw [hnodes]
      exact .inr (List.mem_append_right _ List.mem_cons_self)
    · cases h

/-! ### Writing a file -/

/-- The tree with a file in the place of what stood there. -/
def write (tree : FileTree) (place : Place) (node : FileNode) : FileTree :=
  { tree with nodes := (place, node) :: tree.nodes }

/-- Nothing but a file stands where one was written instead of a file or of nothing. -/
theorem isFile_of_at?_write (hold : ∀ old, tree.at? place = some old → old.isFile = true)
    (hnode : node.isFile = true) {found : FileNode}
    (h : (tree.write place node).at? place = some found) : found.isFile = true := by
  cases place using List.reverseRecOn with
  | nil => cases hold _ rfl
  | append_singleton outer bytes =>
    rw [at?_concat, write, List.lookup_cons_self] at h
    split at h
    · rw [← Option.some_inj.mp h, hnode]
    · cases h

/-- Writing a file instead of a file or of nothing leaves everything else where it is. -/
theorem at?_write_of_ne (hold : ∀ old, tree.at? place = some old → old.isFile = true)
    (hnode : node.isFile = true) (hne : q ≠ place) :
    (tree.write place node).at? q = tree.at? q := by
  have hplain (found : Option FileNode) (h : ∀ node, found = some node → node.isFile = true) :
      found.any FileNode.isDirectory = false := by
    cases found with
    | none => rfl
    | some node => exact FileNode.isDirectory_eq_false_of_isFile (h node rfl)
  induction q using List.reverseRecOn with
  | nil => rfl
  | append_singleton outer bytes ih =>
    -- Where the file was written, nothing stood below before and nothing does now.
    have houter : ((tree.write place node).at? outer).any FileNode.isDirectory =
        (tree.at? outer).any FileNode.isDirectory := by
      by_cases heq : outer = place
      · rw [heq, hplain _ hold, hplain _ fun _ => isFile_of_at?_write hold hnode]
      · rw [ih heq]
    rw [at?_concat, at?_concat, houter, write, List.lookup_cons, beq_eq_false_iff_ne.mpr hne]

/-! ### Deletion -/

/-- The tree without an entry and everything below it. -/
def remove (tree : FileTree) (entry : Place) : FileTree :=
  { tree with nodes := tree.nodes.filter fun item => !entry.isPrefixOf item.1 }

/-- Lookups among the entries whose keys are kept. -/
theorem lookup_filter {α β : Type} [BEq α] [LawfulBEq α] (keep : α → Bool) (k : α)
    (entries : List (α × β)) : (entries.filter fun entry => keep entry.1).lookup k =
      if keep k then entries.lookup k else none := by
  induction entries with
  | nil => simp
  | cons entry entries ih =>
    obtain ⟨key, value⟩ := entry
    rw [List.filter_cons]
    by_cases hk : k = key
    · subst hk
      cases hkeep : keep k <;> simp [hkeep, ih]
    · have hne : (k == key) = false := beq_eq_false_iff_ne.mpr hk
      cases hkeep : keep key <;> simp [List.lookup_cons, hne, ih]

/-- What is left after a deletion. -/
theorem at?_remove (hentry : entry ≠ []) : (tree.remove entry).at? q =
    if entry <+: q then none else tree.at? q := by
  induction q using List.reverseRecOn with
  | nil =>
    rw [if_neg fun h => hentry (List.prefix_nil.mp h)]
    rfl
  | append_singleton outer bytes ih =>
    rw [at?_concat, at?_concat, ih]
    by_cases houter : entry <+: outer
    · rw [if_pos houter, if_pos (houter.trans (List.prefix_append _ _))]
      rfl
    · rw [if_neg houter, remove, lookup_filter fun place => !entry.isPrefixOf place]
      by_cases hbelow : entry <+: outer ++ [bytes]
      · simp [hbelow, List.isPrefixOf_iff_prefix.mpr hbelow]
      · simp [hbelow, Bool.eq_false_iff.mpr (mt List.isPrefixOf_iff_prefix.mp hbelow)]

/-- What is left stood there before. -/
theorem at?_of_remove (hentry : entry ≠ []) (h : (tree.remove entry).at? q = some node) :
    tree.at? q = some node ∧ ¬ entry <+: q := by
  rw [at?_remove hentry] at h
  split at h
  · cases h
  · exact ⟨h, ‹_›⟩

/-! ## Ways -/

/-- Components lead from a place to another one, over a number of links at most, and through some
places: each directory that is entered and each link that is followed. -/
inductive Leads (tree : FileTree) :
    Nat → Place → List Component → List Place → Place → Prop where
  | done {links : Nat} {place : Place} : Leads tree links place [] [] place
  | root {links : Nat} {place last : Place} {rest : List Component} {through : List Place}
      (enter : tree.at? place = some .directory)
      (onward : Leads tree links [] rest through last) :
      Leads tree links place (.root :: rest) (place :: through) last
  | here {links : Nat} {place last : Place} {rest : List Component} {through : List Place}
      (enter : tree.at? place = some .directory)
      (onward : Leads tree links place rest through last) :
      Leads tree links place (.here :: rest) (place :: through) last
  | up {links : Nat} {place last : Place} {rest : List Component} {through : List Place}
      (enter : tree.at? place = some .directory)
      (onward : Leads tree links place.dropLast rest through last) :
      Leads tree links place (.up :: rest) (place :: through) last
  | name {links : Nat} {place last : Place} {bytes : List UInt8} {rest : List Component}
      {through : List Place} (enter : tree.at? place = some .directory)
      (short : bytes.length ≤ nameLimit)
      (plain : ∀ target, tree.at? (place ++ [bytes]) ≠ some (.link target))
      (onward : Leads tree links (place ++ [bytes]) rest through last) :
      Leads tree links place (.name bytes :: rest) (place :: through) last
  | link {links : Nat} {place last : Place} {bytes : List UInt8} {rest : List Component}
      {through : List Place} {target : Path} (enter : tree.at? place = some .directory)
      (short : bytes.length ≤ nameLimit)
      (link : tree.at? (place ++ [bytes]) = some (.link target))
      (onward : Leads tree links place (steps target ++ rest) through last) :
      Leads tree (links + 1) place (.name bytes :: rest)
        (place :: (place ++ [bytes]) :: through) last

/-- What is beyond a link: a walk over one link less, if any may still be followed. -/
def beyond (tree : FileTree) : Nat → Place → List Component → Except ReadFault Place
  | 0 => fun _ _ => .error .tooManyLinks
  | links + 1 => tree.walk links

/-- Without components a walk stays where it is. -/
theorem walk_nil : tree.walk links place [] = .ok place := by
  cases links <;> rfl

/-- One step of a walk. -/
theorem walk_cons : tree.walk links place (component :: rest) = (do
    tree.enter place
    match component with
    | .root => tree.walk links [] rest
    | .here => tree.walk links place rest
    | .up => tree.walk links place.dropLast rest
    | .name bytes =>
      if nameLimit < bytes.length then .error .nameTooLong
      else
        match tree.at? (place ++ [bytes]) with
        | some (.link target) => tree.beyond links place (steps target ++ rest)
        | _ => tree.walk links (place ++ [bytes]) rest) := by
  cases links <;> rfl

/-- A directory that may be entered. -/
theorem enter_eq_ok_iff : tree.enter place = .ok () ↔ tree.at? place = some .directory := by
  rw [enter]
  split <;> simp_all

/-- A walk with a step to go has entered the place that it starts from, if it arrives. -/
theorem enter_of_walk (h : tree.walk links place (component :: rest) = .ok last) :
    tree.at? place = some .directory := by
  rw [walk_cons] at h
  cases henter : tree.enter place with
  | error fault =>
    rw [henter] at h
    cases h
  | ok => exact enter_eq_ok_iff.mp henter

/-- One step of a walk from a directory that may be entered. -/
theorem walk_of_enter (henter : tree.at? place = some .directory) :
    tree.walk links place (component :: rest) =
      match component with
      | .root => tree.walk links [] rest
      | .here => tree.walk links place rest
      | .up => tree.walk links place.dropLast rest
      | .name bytes =>
        if nameLimit < bytes.length then .error .nameTooLong
        else
          match tree.at? (place ++ [bytes]) with
          | some (.link target) => tree.beyond links place (steps target ++ rest)
          | _ => tree.walk links (place ++ [bytes]) rest := by
  rw [walk_cons, enter_eq_ok_iff.mpr henter]
  rfl

/-- A step by a name leads beyond a link or to the place of the name. -/
theorem walk_name_eq_ok_iff (henter : tree.at? place = some .directory) :
    tree.walk links place (.name bytes :: rest) = .ok last ↔ bytes.length ≤ nameLimit ∧
      ((∃ target, tree.at? (place ++ [bytes]) = some (.link target) ∧
          tree.beyond links place (steps target ++ rest) = .ok last) ∨
        (∀ target, tree.at? (place ++ [bytes]) ≠ some (.link target)) ∧
          tree.walk links (place ++ [bytes]) rest = .ok last) := by
  rw [walk_of_enter henter]
  by_cases hlimit : nameLimit < bytes.length
  · simp [hlimit, Nat.not_le_of_lt hlimit]
  by_cases hlink : ∃ target, tree.at? (place ++ [bytes]) = some (.link target)
  · obtain ⟨target, hlink⟩ := hlink
    simp [hlimit, Nat.le_of_not_lt hlimit, hlink]
  · have hplain := not_exists.mp hlink
    simp only [if_neg hlimit, Nat.le_of_not_lt hlimit, true_and, hplain, false_and, exists_false,
      false_or, ne_eq, not_false_eq_true, implies_true]

/-- Components lead where a walk arrives, if they do so beyond the first link. -/
theorem exists_leads_of_walk
    (hbeyond : ∀ place cs last, tree.beyond links place cs = .ok last →
      ∃ fewer through, links = fewer + 1 ∧ tree.Leads fewer place cs through last)
    (h : tree.walk links place cs = .ok last) :
    ∃ through, tree.Leads links place cs through last := by
  induction cs generalizing place with
  | nil =>
    obtain rfl := Except.ok.inj (walk_nil.symm.trans h)
    exact ⟨_, .done⟩
  | cons component rest ih =>
    have henter := enter_of_walk h
    cases component with
    | root =>
      obtain ⟨through, honward⟩ := ih ((walk_of_enter henter).symm.trans h)
      exact ⟨_, .root henter honward⟩
    | here =>
      obtain ⟨through, honward⟩ := ih ((walk_of_enter henter).symm.trans h)
      exact ⟨_, .here henter honward⟩
    | up =>
      obtain ⟨through, honward⟩ := ih ((walk_of_enter henter).symm.trans h)
      exact ⟨_, .up henter honward⟩
    | name bytes =>
      obtain ⟨hshort, ⟨target, hlink, honward⟩ | ⟨hplain, honward⟩⟩ :=
        (walk_name_eq_ok_iff henter).mp h
      · obtain ⟨fewer, through, rfl, hleads⟩ := hbeyond _ _ _ honward
        exact ⟨_, .link henter hshort hlink hleads⟩
      · obtain ⟨through, honward⟩ := ih honward
        exact ⟨_, .name henter hshort hplain honward⟩

/-- A walk arrives where its components lead. -/
theorem walk_eq_ok_iff : tree.walk links place cs = .ok last ↔
    ∃ through, tree.Leads links place cs through last := by
  constructor
  · -- The walk follows its components, and beyond each link there is one link less to follow.
    intro h
    induction links generalizing place cs last with
    | zero => exact exists_leads_of_walk nofun h
    | succ links ih =>
      refine exists_leads_of_walk (fun place cs last hbeyond => ?_) h
      obtain ⟨through, honward⟩ := ih hbeyond
      exact ⟨links, through, rfl, honward⟩
  · rintro ⟨through, h⟩
    induction h with
    | done => exact walk_nil
    | root enter onward ih => exact (walk_of_enter enter).trans ih
    | here enter onward ih => exact (walk_of_enter enter).trans ih
    | up enter onward ih => exact (walk_of_enter enter).trans ih
    | name enter short plain onward ih =>
      exact (walk_name_eq_ok_iff enter).mpr ⟨short, .inr ⟨plain, ih⟩⟩
    | link enter short link onward ih =>
      exact (walk_name_eq_ok_iff enter).mpr ⟨short, .inl ⟨_, link, ih⟩⟩

namespace Leads

/-- Components lead to one place only and through the same places, however many links may be
followed. -/
theorem unique (h : tree.Leads links place cs through last)
    (h' : tree.Leads links' place cs through' last') : last = last' ∧ through = through' := by
  induction h generalizing links' through' with
  | done =>
    cases h'
    exact ⟨rfl, rfl⟩
  | root enter onward ih =>
    cases h' with
    | root enter' onward' => exact (ih onward').imp_right (congrArg _)
  | here enter onward ih =>
    cases h' with
    | here enter' onward' => exact (ih onward').imp_right (congrArg _)
  | up enter onward ih =>
    cases h' with
    | up enter' onward' => exact (ih onward').imp_right (congrArg _)
  | name enter short plain onward ih =>
    cases h' with
    | name enter' short' plain' onward' => exact (ih onward').imp_right (congrArg _)
    | link enter' short' link' onward' => exact absurd link' (plain _)
  | link enter short link onward ih =>
    cases h' with
    | name enter' short' plain' onward' => exact absurd link (plain' _)
    | link enter' short' link' onward' =>
      cases link.symm.trans link'
      exact (ih onward').imp_right fun h => by rw [h]

/-- First components lead to a place from which the others lead on. -/
theorem split (h : tree.Leads links place (cs ++ ds) through last) :
    ∃ mid fewer begun ended, tree.Leads links place cs begun mid ∧
      tree.Leads fewer mid ds ended last := by
  generalize hall : cs ++ ds = all at h
  induction h generalizing cs with
  | @done links place =>
    obtain ⟨rfl, rfl⟩ := List.append_eq_nil_iff.mp hall
    exact ⟨_, links, _, _, .done, .done⟩
  | root enter onward ih =>
    obtain ⟨rfl, rfl⟩ | ⟨cs, rfl, rfl⟩ := List.append_eq_cons_iff.mp hall
    · exact ⟨_, _, _, _, .done, .root enter onward⟩
    · obtain ⟨mid, fewer, begun, ended, hbegun, hended⟩ := ih rfl
      exact ⟨mid, fewer, _, _, .root enter hbegun, hended⟩
  | here enter onward ih =>
    obtain ⟨rfl, rfl⟩ | ⟨cs, rfl, rfl⟩ := List.append_eq_cons_iff.mp hall
    · exact ⟨_, _, _, _, .done, .here enter onward⟩
    · obtain ⟨mid, fewer, begun, ended, hbegun, hended⟩ := ih rfl
      exact ⟨mid, fewer, _, _, .here enter hbegun, hended⟩
  | up enter onward ih =>
    obtain ⟨rfl, rfl⟩ | ⟨cs, rfl, rfl⟩ := List.append_eq_cons_iff.mp hall
    · exact ⟨_, _, _, _, .done, .up enter onward⟩
    · obtain ⟨mid, fewer, begun, ended, hbegun, hended⟩ := ih rfl
      exact ⟨mid, fewer, _, _, .up enter hbegun, hended⟩
  | name enter short plain onward ih =>
    obtain ⟨rfl, rfl⟩ | ⟨cs, rfl, rfl⟩ := List.append_eq_cons_iff.mp hall
    · exact ⟨_, _, _, _, .done, .name enter short plain onward⟩
    · obtain ⟨mid, fewer, begun, ended, hbegun, hended⟩ := ih rfl
      exact ⟨mid, fewer, _, _, .name enter short plain hbegun, hended⟩
  | link enter short link onward ih =>
    obtain ⟨rfl, rfl⟩ | ⟨cs, rfl, rfl⟩ := List.append_eq_cons_iff.mp hall
    · exact ⟨_, _, _, _, .done, .link enter short link onward⟩
    · -- The components that are left follow the steps of the target.
      obtain ⟨mid, fewer, begun, ended, hbegun, hended⟩ := ih (List.append_assoc _ _ _)
      exact ⟨mid, fewer, _, _, .link enter short link hbegun, hended⟩

/-- With a component to go, the first place is entered. -/
theorem enter_first (h : tree.Leads links place (component :: rest) through last) :
    tree.at? place = some .directory := by
  cases h <;> assumption

/-- With a component to go, the first place is one that is led through. -/
theorem mem_through (h : tree.Leads links place (component :: rest) through last) :
    place ∈ through := by
  cases h <;> exact List.mem_cons_self

/-- Where components lead, something stands in the first place if it does in the last. -/
theorem stands_first (h : tree.Leads links place cs through last)
    (hlast : tree.at? last ≠ none) : tree.at? place ≠ none := by
  cases h with
  | done => exact hlast
  | root enter | here enter | up enter | name enter | link enter =>
    rw [enter]
    exact nofun

/-- A place that is led through holds a directory or a link. -/
theorem at?_of_mem_through (h : tree.Leads links place cs through last) (hq : q ∈ through) :
    tree.at? q = some .directory ∨ ∃ target, tree.at? q = some (.link target) := by
  induction h with
  | done => cases hq
  | root enter onward ih | here enter onward ih | up enter onward ih
  | name enter short plain onward ih =>
    obtain rfl | hq := List.mem_cons.mp hq
    · exact .inl enter
    · exact ih hq
  | link enter short link onward ih =>
    obtain rfl | hq := List.mem_cons.mp hq
    · exact .inl enter
    obtain rfl | hq := List.mem_cons.mp hq
    · exact .inr ⟨_, link⟩
    · exact ih hq

/-- From a link that is led through, the steps of its target lead on. -/
theorem onward_of_link (h : tree.Leads links place cs through last)
    (hmem : outer ++ [bytes] ∈ through)
    (hlink : tree.at? (outer ++ [bytes]) = some (.link target)) :
    ∃ fewer rest ended, tree.Leads fewer outer (steps target ++ rest) ended last := by
  induction h with
  | done => cases hmem
  | root enter onward ih | here enter onward ih | up enter onward ih
  | name enter short plain onward ih =>
    obtain rfl | hmem := List.mem_cons.mp hmem
    · cases hlink.symm.trans enter
    · exact ih hmem
  | link enter short link onward ih =>
    obtain rfl | hmem := List.mem_cons.mp hmem
    · cases hlink.symm.trans enter
    obtain heq | hmem := List.mem_cons.mp hmem
    · obtain ⟨rfl, hname⟩ := List.append_inj' heq rfl
      obtain rfl := List.singleton_inj.mp hname
      cases hlink.symm.trans link
      exact ⟨_, _, _, onward⟩
    · exact ih hmem

/-- Components lead below an entry through it only. -/
theorem eq_of_below (h : tree.Leads links place cs through last)
    (hthrough : ∀ q ∈ through, ¬ entry <+: q) (hfirst : entry <+: place → entry = place)
    (hlast : entry <+: last) : entry = last := by
  induction h with
  | done => exact hfirst hlast
  | root enter onward ih =>
    exact ih (List.forall_mem_cons.mp hthrough).2 List.prefix_nil.mp hlast
  | here enter onward ih =>
    obtain ⟨hplace, hthrough⟩ := List.forall_mem_cons.mp hthrough
    exact ih hthrough (fun h => absurd h hplace) hlast
  | up enter onward ih =>
    obtain ⟨hplace, hthrough⟩ := List.forall_mem_cons.mp hthrough
    exact ih hthrough (fun h => absurd (h.trans (List.dropLast_prefix _)) hplace) hlast
  | name enter short plain onward ih =>
    obtain ⟨hplace, hthrough⟩ := List.forall_mem_cons.mp hthrough
    exact ih hthrough (fun h => (List.prefix_concat_iff.mp h).resolve_right hplace) hlast
  | link enter short link onward ih =>
    obtain ⟨hplace, hthrough⟩ := List.forall_mem_cons.mp hthrough
    exact ih (List.forall_mem_cons.mp hthrough).2 (fun h => absurd h hplace) hlast

/-- Without links and steps up or to the root, components lead down only. -/
theorem prefix_of_down (h : tree.Leads links place cs through last)
    (hlinks : ∀ q target, tree.at? q ≠ some (.link target)) (hup : Component.up ∉ cs)
    (hroot : Component.root ∉ cs) : place <+: last := by
  induction h with
  | done => exact List.prefix_refl _
  | root enter onward ih => exact absurd List.mem_cons_self hroot
  | here enter onward ih =>
    exact ih (mt (List.mem_cons_of_mem _) hup) (mt (List.mem_cons_of_mem _) hroot)
  | up enter onward ih => exact absurd List.mem_cons_self hup
  | name enter short plain onward ih =>
    exact (List.prefix_append _ _).trans
      (ih (mt (List.mem_cons_of_mem _) hup) (mt (List.mem_cons_of_mem _) hroot))
  | link enter short link onward ih => exact absurd link (hlinks _ _)

/-! ### Other trees -/

/-- Components lead to the same place in a tree that agrees in the places that they lead through,
and has no further links. -/
theorem of_agree (h : tree.Leads links place cs through last)
    (hthrough : ∀ q ∈ through, tree'.at? q = tree.at? q)
    (hlinks : ∀ q target, tree'.at? q = some (.link target) → tree.at? q = some (.link target)) :
    tree'.Leads links place cs through last := by
  induction h with
  | done => exact .done
  | root enter onward ih =>
    obtain ⟨hplace, hthrough⟩ := List.forall_mem_cons.mp hthrough
    exact .root (hplace.trans enter) (ih hthrough)
  | here enter onward ih =>
    obtain ⟨hplace, hthrough⟩ := List.forall_mem_cons.mp hthrough
    exact .here (hplace.trans enter) (ih hthrough)
  | up enter onward ih =>
    obtain ⟨hplace, hthrough⟩ := List.forall_mem_cons.mp hthrough
    exact .up (hplace.trans enter) (ih hthrough)
  | name enter short plain onward ih =>
    obtain ⟨hplace, hthrough⟩ := List.forall_mem_cons.mp hthrough
    exact .name (hplace.trans enter) short (fun target h => plain target (hlinks _ _ h))
      (ih hthrough)
  | link enter short link onward ih =>
    obtain ⟨hplace, hthrough⟩ := List.forall_mem_cons.mp hthrough
    obtain ⟨hlink, hthrough⟩ := List.forall_mem_cons.mp hthrough
    exact .link (hplace.trans enter) short (hlink.trans link) (ih hthrough)

/-- What components lead to after a deletion, they led to before. -/
theorem of_remove (h : (tree.remove entry).Leads links place cs through last)
    (hentry : entry ≠ []) (hlast : (tree.remove entry).at? last ≠ none) :
    tree.Leads links place cs through last := by
  induction h with
  | done => exact .done
  | root enter onward ih => exact .root (at?_of_remove hentry enter).1 (ih hlast)
  | here enter onward ih => exact .here (at?_of_remove hentry enter).1 (ih hlast)
  | up enter onward ih => exact .up (at?_of_remove hentry enter).1 (ih hlast)
  | @name links place last bytes rest through enter short plain onward ih =>
    refine .name (at?_of_remove hentry enter).1 short (fun target h => ?_) (ih hlast)
    -- A link that was deleted leaves nothing that leads on.
    obtain ⟨node, hnode⟩ := Option.ne_none_iff_exists'.mp (onward.stands_first hlast)
    obtain rfl := Option.some_inj.mp (h.symm.trans (at?_of_remove hentry hnode).1)
    exact plain target hnode
  | link enter short link onward ih =>
    exact .link (at?_of_remove hentry enter).1 short (at?_of_remove hentry link).1 (ih hlast)

/-- A deletion leaves the ways that do not lead through what was deleted. -/
theorem remains (h : tree.Leads links place cs through last) (hentry : entry ≠ [])
    (hthrough : ∀ q ∈ through, ¬ entry <+: q) :
    (tree.remove entry).Leads links place cs through last :=
  h.of_agree (fun q hq => by rw [at?_remove hentry, if_neg (hthrough q hq)])
    fun _ _ hlink => (at?_of_remove hentry hlink).1

end Leads

end FileTree
end ObjectBridge
