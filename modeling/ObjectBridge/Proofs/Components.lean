import ObjectBridge.Path

/-!
# Components of paths

A path is the same as the list of its components, but for its spelling.  The path without its
last component and the path of a name below a directory are what they should be in components.

Main results:

- Theorem `Path.components_ofComponents`: the components of a path that is put together.
- Theorem `Path.parent?_components`: those of the directory around a path.
- Theorem `Path.components_join`: those of a name below a directory.
-/

namespace ObjectBridge

/-! ## Segments -/

namespace Text

variable {α : Type} [DecidableEq α] {separator : α} {piece : List α} {pieces : List (List α)}

/-- A piece without separators is one segment. -/
theorem segments_of_not_mem (h : separator ∉ piece) : segments separator piece = [piece] := by
  induction piece with
  | nil => rfl
  | cons c cs ih =>
    rw [List.mem_cons, not_or] at h
    rw [segments, if_neg (Ne.symm h.1), ih h.2]

/-- The segments on both sides of a separator. -/
theorem segments_append (cs ds : List α) :
    segments separator (cs ++ separator :: ds) =
      segments separator cs ++ segments separator ds := by
  induction cs with
  | nil => simp [segments]
  | cons c cs ih =>
    rw [List.cons_append, segments, segments, ih]
    by_cases hc : c = separator
    · rw [if_pos hc, if_pos hc, List.cons_append]
    · rw [if_neg hc, if_neg hc]
      obtain ⟨first, rest, hfirst⟩ := List.exists_cons_of_ne_nil (segments_ne_nil separator cs)
      rw [hfirst]
      rfl

/-- Pieces without separators are told apart again after they were joined. -/
theorem segments_joinSegments (hne : pieces ≠ []) (h : ∀ piece ∈ pieces, separator ∉ piece) :
    segments separator (joinSegments separator pieces) = pieces := by
  induction pieces with
  | nil => exact absurd rfl hne
  | cons piece pieces ih =>
    rw [List.forall_mem_cons] at h
    cases pieces with
    | nil => exact segments_of_not_mem h.1
    | cons next rest =>
      have hjoin : joinSegments separator (piece :: next :: rest) =
          piece ++ separator :: joinSegments separator (next :: rest) := rfl
      rw [hjoin, segments_append, segments_of_not_mem h.1, ih (List.cons_ne_nil _ _) h.2,
        List.singleton_append]

end Text

namespace Path

/-! ## Components -/

/-- A component that stands for a segment of its own wherever it stands. -/
inductive Component.Proper : Component → Prop where
  | up : Proper .up
  | name {bytes : List UInt8} (nonempty : bytes ≠ []) (nothere : bytes ≠ [dot])
      (notup : bytes ≠ [dot, dot]) (single : slash ∉ bytes) : Proper (.name bytes)

/-- Components in an order in which a path has them: what it starts from comes first, if at all. -/
inductive Spelled : List Component → Prop where
  | relative {cs : List Component} (proper : ∀ c ∈ cs, c.Proper) : Spelled cs
  | here {cs : List Component} (proper : ∀ c ∈ cs, c.Proper) : Spelled (.here :: cs)
  | root {cs : List Component} (proper : ∀ c ∈ cs, c.Proper) : Spelled (.root :: cs)

variable {p : Path} {c : Component} {cs ds : List Component}

/-- A segment that makes a component. -/
def counts (segment : List UInt8) : Bool :=
  segment ≠ [] ∧ segment ≠ [dot]

/-- The spelling of a proper component is a segment that makes the component. -/
theorem Component.Proper.bytes_spec (h : c.Proper) :
    counts c.bytes = true ∧ slash ∉ c.bytes ∧ ofSegment c.bytes = c := by
  cases h with
  | up => decide
  | name nonempty nothere notup single =>
    exact ⟨by simp [counts, bytes, nonempty, nothere], single, if_neg notup⟩

/-- A segment that makes a component makes a proper one. -/
theorem Component.proper_ofSegment {segment : List UInt8} (hcounts : counts segment = true)
    (hslash : slash ∉ segment) : (ofSegment segment).Proper := by
  simp only [counts, decide_eq_true_eq] at hcounts
  rw [ofSegment]
  split
  · exact .up
  · rename_i hup
    exact .name hcounts.1 hcounts.2 hup hslash

/-- What a path starts from, if it is said. -/
def lead (p : Path) : List Component :=
  if p.isAbsolute then [.root]
  else if (Text.segments slash p.bytes).head? = some [dot] then [.here]
  else []

/-- The components of a path are what it starts from and its segments. -/
theorem components_eq (p : Path) : p.components =
    p.lead ++ ((Text.segments slash p.bytes).filter counts).map Component.ofSegment :=
  rfl

/-- The components of a path are in order. -/
theorem components_spelled (p : Path) : Spelled p.components := by
  have hproper : ∀ c ∈ ((Text.segments slash p.bytes).filter counts).map Component.ofSegment,
      c.Proper := by
    intro c hc
    obtain ⟨segment, hsegment, rfl⟩ := List.mem_map.mp hc
    obtain ⟨hmem, hcounts⟩ := List.mem_filter.mp hsegment
    exact Component.proper_ofSegment hcounts (Text.not_mem_of_mem_segments hmem)
  rw [components_eq, lead]
  split
  · exact .root hproper
  · split
    · exact .here hproper
    · exact .relative hproper

/-- Components in order are so without the last one. -/
theorem Spelled.dropLast (h : Spelled cs) : Spelled cs.dropLast := by
  have hproper {cs : List Component} (h : ∀ c ∈ cs, c.Proper) : ∀ c ∈ cs.dropLast, c.Proper :=
    fun c hc => h c (List.dropLast_subset cs hc)
  cases h with
  | relative proper => exact .relative (hproper proper)
  | @here cs proper =>
    cases cs with
    | nil => exact .relative nofun
    | cons c cs => exact .here (hproper proper)
  | @root cs proper =>
    cases cs with
    | nil => exact .relative nofun
    | cons c cs => exact .root (hproper proper)

/-- The root comes first, if at all. -/
theorem Spelled.eq_nil_of_root (h : Spelled (cs ++ ds)) (hroot : Component.root ∈ ds) :
    cs = [] ∧ ds.head? = some .root := by
  have himproper : ¬ Component.root.Proper := nofun
  generalize hall : cs ++ ds = all at h
  cases h with
  | relative proper =>
    subst hall
    exact absurd (proper _ (List.mem_append_right _ hroot)) himproper
  | here proper =>
    obtain ⟨rfl, rfl⟩ | ⟨cs, rfl, rfl⟩ := List.append_eq_cons_iff.mp hall
    · obtain hhere | hroot := List.mem_cons.mp hroot
      · cases hhere
      · exact absurd (proper _ hroot) himproper
    · exact absurd (proper _ (List.mem_append_right _ hroot)) himproper
  | root proper =>
    obtain ⟨rfl, rfl⟩ | ⟨cs, rfl, rfl⟩ := List.append_eq_cons_iff.mp hall
    · exact ⟨rfl, rfl⟩
    · exact absurd (proper _ (List.mem_append_right _ hroot)) himproper

/-- Proper components are read off their segments. -/
theorem map_ofSegment (h : ∀ c ∈ cs, c.Proper) :
    ((cs.map Component.bytes).filter counts).map Component.ofSegment = cs := by
  induction cs with
  | nil => rfl
  | cons c cs ih =>
    rw [List.forall_mem_cons] at h
    obtain ⟨hcounts, -, hsegment⟩ := h.1.bytes_spec
    rw [List.map_cons, List.filter_cons_of_pos hcounts, List.map_cons, hsegment, ih h.2]

/-- A segment in front that makes no component does not count. -/
theorem map_ofSegment_cons (hc : counts c.bytes = false) (h : ∀ c ∈ cs, c.Proper) :
    (((c :: cs).map Component.bytes).filter counts).map Component.ofSegment = cs := by
  rw [List.map_cons, List.filter_cons_of_neg (by simp [hc]), map_ofSegment h]

/-- What a path starts from, by its first segment. -/
def leadOf (first : List UInt8) (rest : List (List UInt8)) : List Component :=
  if first = [] ∧ rest ≠ [] then [.root] else if first = [dot] then [.here] else []

/-- What a path starts from is told by its segments. -/
theorem lead_of_segments {first : List UInt8} {rest : List (List UInt8)}
    (h : Text.segments slash p.bytes = first :: rest) : p.lead = leadOf first rest := by
  rw [lead, h, isAbsolute, leadOf]
  cases hbytes : p.bytes with
  | nil =>
    rw [hbytes] at h
    obtain ⟨rfl, rfl⟩ := List.cons_eq_cons.mp h
    decide
  | cons b bs =>
    rw [hbytes, Text.segments] at h
    by_cases hb : b = slash
    · rw [if_pos hb] at h
      obtain ⟨rfl, rfl⟩ := List.cons_eq_cons.mp h
      simp [hb, Text.segments_ne_nil]
    · rw [if_neg hb] at h
      have hfirst : first ≠ [] := by
        split at h <;> obtain ⟨rfl, -⟩ := List.cons_eq_cons.mp h <;> exact List.cons_ne_nil _ _
      simp [hb, hfirst]

/-- So are its components. -/
theorem components_of_segments {first : List UInt8} {rest : List (List UInt8)}
    (h : Text.segments slash p.bytes = first :: rest) : p.components =
      leadOf first rest ++ ((first :: rest).filter counts).map Component.ofSegment := by
  rw [components_eq, lead_of_segments h, h]

/-- The components of spelled components with slashes between them. -/
theorem components_joined (h : ∀ d ∈ c :: cs, slash ∉ d.bytes) :
    (Path.mk (Text.joinSegments slash ((c :: cs).map Component.bytes))).components =
      leadOf c.bytes (cs.map Component.bytes) ++
        (((c :: cs).map Component.bytes).filter counts).map Component.ofSegment := by
  refine components_of_segments (Text.segments_joinSegments (List.cons_ne_nil _ _) ?_)
  intro piece hpiece
  obtain ⟨d, hd, rfl⟩ := List.mem_map.mp hpiece
  exact h d hd

/-- The components of a path that is put together from components in order. -/
theorem components_ofComponents (h : Spelled cs) : (ofComponents cs).components = cs := by
  have hsingle {cs : List Component} (proper : ∀ c ∈ cs, c.Proper) : ∀ c ∈ cs, slash ∉ c.bytes :=
    fun c hc => (proper c hc).bytes_spec.2.1
  cases h with
  | relative proper =>
    cases cs with
    | nil => decide
    | cons c cs =>
      obtain ⟨hcounts, -, -⟩ := (List.forall_mem_cons.mp proper).1.bytes_spec
      rw [counts, decide_eq_true_eq] at hcounts
      have hpath : ofComponents (c :: cs) =
          ⟨Text.joinSegments slash ((c :: cs).map Component.bytes)⟩ := by
        cases (List.forall_mem_cons.mp proper).1 <;> rfl
      rw [hpath, components_joined (hsingle proper), map_ofSegment proper, leadOf,
        if_neg fun hc => hcounts.1 hc.1, if_neg hcounts.2, List.nil_append]
  | @here cs proper =>
    refine (components_joined (List.forall_mem_cons.mpr ⟨by decide, hsingle proper⟩)).trans ?_
    rw [map_ofSegment_cons (by decide) proper]
    rfl
  | @root cs proper =>
    cases cs with
    | nil => decide
    | cons c cs =>
      refine (components_joined (List.forall_mem_cons.mpr ⟨by decide, hsingle proper⟩)).trans ?_
      rw [map_ofSegment_cons (by decide) proper]
      rfl

/-! ## The directory around a path, and names below it -/

/-- A path has a directory around it unless it is empty or the root. -/
theorem parent?_eq_some_iff {q : Path} : p.parent? = some q ↔
    p.components ≠ [] ∧ p.components ≠ [.root] ∧ q = ofComponents p.components.dropLast := by
  rw [parent?]
  split
  · rename_i h
    simp [List.reverse_eq_nil_iff.mp h]
  · rename_i h
    simp [List.reverse_eq_iff.mp h]
  · rename_i c rest hroot h
    have hcs : p.components = rest.reverse ++ [c] := by
      rw [List.reverse_eq_iff.mp h, List.reverse_cons]
    have hne : p.components ≠ [.root] := by
      intro heq
      rw [heq] at h
      cases h
      exact hroot rfl rfl
    rw [hcs] at hne ⊢
    rw [List.dropLast_concat, Option.some_inj, eq_comm]
    exact ⟨fun hq => ⟨by simp, hne, hq⟩, fun hq => hq.2.2⟩

/-- The components of the directory around a path. -/
theorem parent?_components {q : Path} (h : p.parent? = some q) :
    q.components = p.components.dropLast := by
  obtain ⟨-, -, rfl⟩ := parent?_eq_some_iff.mp h
  exact components_ofComponents (components_spelled p).dropLast

/-- A path without slashes is not absolute. -/
theorem isAbsolute_eq_false {bytes : List UInt8} (h : slash ∉ bytes) :
    (Path.mk bytes).isAbsolute = false := by
  cases bytes with
  | nil => rfl
  | cons b bs =>
    rw [List.mem_cons, not_or] at h
    simp [isAbsolute, Ne.symm h.1]

/-- A name behind other segments is a component of its own. -/
theorem components_of_segments_append {bytes first : List UInt8} {rest : List (List UInt8)}
    (hname : (Component.name bytes).Proper)
    (h : Text.segments slash p.bytes = (first :: rest) ++ [bytes]) : p.components =
      leadOf first (rest ++ [bytes]) ++ ((first :: rest).filter counts).map Component.ofSegment ++
        [.name bytes] := by
  have hlast : ([bytes].filter counts).map Component.ofSegment = [.name bytes] :=
    map_ofSegment (List.forall_mem_singleton.mpr hname)
  have hsegments : Text.segments slash p.bytes = first :: (rest ++ [bytes]) := h
  rw [components_of_segments hsegments, ← List.cons_append, List.filter_append, List.map_append,
    hlast, List.append_assoc]

/-- The last segment of a name below a directory is the name. -/
theorem segments_join {bytes : List UInt8} (hslash : slash ∉ bytes) :
    ∃ front, Text.segments slash (p.join ⟨bytes⟩).bytes = front ++ [bytes] := by
  have hpiece : Text.segments slash bytes = [bytes] := Text.segments_of_not_mem hslash
  rw [join, if_neg (by rw [isAbsolute_eq_false hslash]; exact Bool.false_ne_true)]
  by_cases hempty : p.bytes = []
  · rw [if_pos (.inl hempty), hempty]
    exact ⟨[], hpiece⟩
  by_cases hend : p.bytes.getLast? = some slash
  · obtain ⟨bs, hbs⟩ := List.getLast?_eq_some_iff.mp hend
    rw [if_pos (.inr hend), hbs, List.append_assoc, List.singleton_append, Text.segments_append,
      hpiece]
    exact ⟨_, rfl⟩
  · rw [if_neg (not_or.mpr ⟨hempty, hend⟩), Text.segments_append, hpiece]
    exact ⟨_, rfl⟩

/-- A name below a directory does not ask for a directory. -/
theorem namesDirectory_join {bytes : List UInt8} (hname : (Component.name bytes).Proper) :
    (p.join ⟨bytes⟩).namesDirectory = false := by
  cases hname with
  | name nonempty nothere notup single =>
    obtain ⟨front, hfront⟩ := segments_join (p := p) single
    simp [namesDirectory, hfront, nonempty, nothere]

/-- The components of a name below a directory. -/
theorem components_join {bytes : List UInt8} (hname : (Component.name bytes).Proper) :
    (p.join ⟨bytes⟩).components = p.components ++ [.name bytes] := by
  obtain ⟨hne, hhere, hslash⟩ : bytes ≠ [] ∧ bytes ≠ [dot] ∧ slash ∉ bytes := by
    cases hname with
    | name nonempty nothere notup single => exact ⟨nonempty, nothere, single⟩
  have hpiece : Text.segments slash bytes = [bytes] := Text.segments_of_not_mem hslash
  rw [join, if_neg (by rw [isAbsolute_eq_false hslash]; exact Bool.false_ne_true)]
  by_cases hempty : p.bytes = []
  · have hp : p.components = [] := by
      rw [components_eq, lead, isAbsolute, hempty]
      decide
    rw [if_pos (.inl hempty), hempty, List.nil_append, hp,
      components_of_segments (p := ⟨bytes⟩) hpiece, leadOf, if_neg fun h => hne h.1, if_neg hhere]
    exact map_ofSegment (List.forall_mem_singleton.mpr hname)
  by_cases hend : p.bytes.getLast? = some slash
  · -- The last segment of the directory is empty and gives way to the name.
    obtain ⟨bs, hbs⟩ := List.getLast?_eq_some_iff.mp hend
    obtain ⟨first, rest, hfirst⟩ := List.exists_cons_of_ne_nil (Text.segments_ne_nil slash bs)
    have hjoin : Text.segments slash (p.bytes ++ bytes) = (first :: rest) ++ [bytes] := by
      rw [hbs, List.append_assoc, List.singleton_append, Text.segments_append, hfirst, hpiece]
    have hp : Text.segments slash p.bytes = first :: (rest ++ [[]]) := by
      rw [hbs, Text.segments_append, hfirst]
      rfl
    rw [if_pos (.inr hend), components_of_segments_append (p := ⟨_⟩) hname hjoin,
      components_of_segments hp, ← List.cons_append, List.filter_append]
    simp [leadOf, counts]
  · obtain ⟨first, rest, hfirst⟩ := List.exists_cons_of_ne_nil (Text.segments_ne_nil slash p.bytes)
    have hjoin : Text.segments slash (p.bytes ++ slash :: bytes) = (first :: rest) ++ [bytes] := by
      rw [Text.segments_append, hfirst, hpiece]
    have hlead : leadOf first (rest ++ [bytes]) = leadOf first rest := by
      have hrest : first = [] → rest ≠ [] := by
        rintro rfl rfl
        have hbytes := Text.joinSegments_segments slash p.bytes
        rw [hfirst] at hbytes
        exact hempty hbytes.symm
      by_cases hnil : first = []
      · simp [leadOf, hnil, hrest hnil]
      · simp [leadOf, hnil]
    rw [if_neg (not_or.mpr ⟨hempty, hend⟩), components_of_segments_append (p := ⟨_⟩) hname hjoin,
      components_of_segments hfirst, hlead]

end Path
end ObjectBridge
