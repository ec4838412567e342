import ObjectBridge.Declaration

/-!
# Lists with commas

The arguments of a declaration and the kinds among them are lists of tokens with commas between
their parts, and perhaps one behind the last.  They are split at the commas outside of brackets.

Main results:

- Definition `Separated`: how a list is written.
- Theorem `separated_clauses`: every list is written from the parts it is split into.
- Theorem `tokens_clauses`: a list is split into the parts it is written from.
- Theorem `enclosed_flat`: what is in a bracket without further brackets.
-/

namespace ObjectBridge

/-! ## Writing a list -/

/-- A list with commas between its parts, and perhaps one behind the last. -/
def Separated (parts : List (List Token)) (ts : List Token) : Prop :=
  ts = withCommas parts ∨ parts ≠ [] ∧ ts = withCommas parts ++ [.mark ","]

/-- Only no tokens are no parts. -/
theorem separated_nil_iff {ts : List Token} : Separated [] ts ↔ ts = [] := by
  simp [Separated, withCommas]

/-- A single part has no commas around it. -/
theorem withCommas_singleton (part : List Token) : withCommas [part] = part := by
  simp [withCommas]

/-- Each further part comes behind a comma. -/
theorem withCommas_cons {parts : List (List Token)} (hparts : parts ≠ []) (part : List Token) :
    withCommas (part :: parts) = part ++ .mark "," :: withCommas parts := by
  obtain ⟨next, parts, rfl⟩ := List.exists_cons_of_ne_nil hparts
  simp [withCommas]

/-- A last part that is empty leaves a comma at the end. -/
theorem withCommas_concat_nil (parts : List (List Token)) :
    withCommas (parts ++ [[]]) = if parts = [] then [] else withCommas parts ++ [.mark ","] := by
  induction parts with
  | nil => simp [withCommas]
  | cons part parts ih =>
    rw [List.cons_append, withCommas_cons (by simp), ih]
    by_cases hparts : parts = []
    · simp [hparts, withCommas]
    · simp [hparts, withCommas_cons hparts]

/-! ## Splitting a list -/

/-- Splitting leaves one part at least. -/
theorem splitCommas_ne_nil (found : List Token) (brackets : Nat) (ts : List Token) :
    splitCommas found brackets ts ≠ [] := by
  induction ts generalizing found brackets with
  | nil => simp [splitCommas]
  | cons t ts ih =>
    unfold splitCommas
    split
    · simp
    · split
      · exact ih _ _
      · split <;> exact ih _ _

/-- Nothing is lost but the commas a list is split at. -/
theorem withCommas_splitCommas (found : List Token) (brackets : Nat) (ts : List Token) :
    withCommas (splitCommas found brackets ts) = found ++ ts := by
  induction ts generalizing found brackets with
  | nil => simp [splitCommas, withCommas]
  | cons t ts ih =>
    unfold splitCommas
    split
    · rename_i hcomma
      rw [withCommas_cons (splitCommas_ne_nil _ _ _), ih, hcomma.2]
      simp
    · split
      · simp [ih]
      · split <;> simp [ih]

/-- Every list is written from the parts it is split into. -/
theorem separated_clauses (ts : List Token) : Separated ((clauses ts).map Clause.tokens) ts := by
  have hjoined := withCommas_splitCommas [] 0 ts
  obtain ⟨front, last, hparts⟩ :=
    (List.eq_nil_or_concat (splitCommas [] 0 ts)).resolve_left (splitCommas_ne_nil _ _ _)
  rw [hparts, List.concat_eq_append] at hjoined
  unfold clauses
  rw [hparts]
  cases last with
  | nil =>
    rw [withCommas_concat_nil] at hjoined
    by_cases hfront : front = []
    · simp_all [Separated, withCommas]
    · simp_all [Separated, Function.comp_def]
  | cons t last => simp_all [Separated, Function.comp_def]

/-! ## Parts of a list -/

/-- Tokens outside of which a list is split: their commas stand in brackets that are closed. -/
def IsPart (part : List Token) : Prop :=
  part ≠ [] ∧ ∀ found rest, splitCommas found 0 (part ++ rest) = splitCommas (found ++ part) 0 rest

/-- Neither a bracket is opened nor closed. -/
def Flat (ts : List Token) : Prop :=
  ∀ t ∈ ts, t.opens = false ∧ t.closes = false

/-- Flat tokens one after another are flat. -/
theorem Flat.append {ts us : List Token} (hts : Flat ts) (hus : Flat us) : Flat (ts ++ us) :=
  List.forall_mem_append.mpr ⟨hts, hus⟩

/-- A comma is flat by itself. -/
theorem flat_comma : Flat [.mark ","] := by
  intro t ht
  rw [List.mem_singleton.mp ht]
  decide

/-- Flat parts with commas between them are flat. -/
theorem flat_withCommas {parts : List (List Token)} (hparts : ∀ part ∈ parts, Flat part) :
    Flat (withCommas parts) := by
  induction parts with
  | nil => simp [Flat, withCommas]
  | cons part parts ih =>
    obtain ⟨hpart, hparts⟩ := List.forall_mem_cons.mp hparts
    by_cases hlast : parts = []
    · simpa [hlast, withCommas_singleton] using hpart
    · rw [withCommas_cons hlast, List.append_cons]
      exact (hpart.append flat_comma).append (ih hparts)

/-- Commas between parts are no brackets. -/
theorem Separated.flat {parts : List (List Token)} {ts : List Token} (h : Separated parts ts)
    (hparts : ∀ part ∈ parts, Flat part) : Flat ts := by
  rcases h with rfl | ⟨-, rfl⟩
  · exact flat_withCommas hparts
  · exact (flat_withCommas hparts).append flat_comma

/-- Tokens without brackets are found together, and inside of brackets with their commas. -/
theorem splitCommas_flat {ts : List Token} (hts : Flat ts) {brackets : Nat}
    (hcommas : brackets = 0 → .mark "," ∉ ts) (found rest : List Token) :
    splitCommas found brackets (ts ++ rest) = splitCommas (found ++ ts) brackets rest := by
  induction ts generalizing found with
  | nil => simp
  | cons t ts ih =>
    obtain ⟨⟨hopens, hcloses⟩, hts⟩ := List.forall_mem_cons.mp hts
    have hcomma : ¬(brackets = 0 ∧ t = .mark ",") := by
      rintro ⟨hbrackets, rfl⟩
      exact hcommas hbrackets List.mem_cons_self
    have hrest : brackets = 0 → .mark "," ∉ ts := fun h hmem =>
      hcommas h (List.mem_cons_of_mem t hmem)
    rw [List.cons_append, splitCommas, if_neg hcomma, hopens, hcloses]
    simpa using ih hts hrest (found ++ [t])

/-- Flat tokens without a comma are one part. -/
theorem isPart_of_flat {ts : List Token} (hne : ts ≠ []) (hts : Flat ts) (hcomma : .mark "," ∉ ts) :
    IsPart ts :=
  ⟨hne, splitCommas_flat hts fun _ => hcomma⟩

/-- Brackets do not stand for anything else: what opens is no comma, what closes does not open. -/
theorem eq_of_opens {t : Token} (h : t.opens = true) : t ≠ .mark "," ∧ t.closes = false := by
  have ht : t = .mark "(" ∨ t = .mark "[" ∨ t = .mark "\x7b" := by simpa [Token.opens] using h
  rcases ht with rfl | rfl | rfl <;> decide

/-- A mark that closes is neither a comma nor one that opens. -/
theorem eq_of_closes {t : Token} (h : t.closes = true) : t ≠ .mark "," ∧ t.opens = false := by
  have ht : t = .mark ")" ∨ t = .mark "]" ∨ t = .mark "\x7d" := by simpa [Token.closes] using h
  rcases ht with rfl | rfl | rfl <;> decide

/-- A name with something in brackets is one part, whatever commas are inside. -/
theorem isPart_group {front inside : List Token} {first last : Token} (hfront : Flat front)
    (hcomma : .mark "," ∉ front) (hfirst : first.opens = true) (hinside : Flat inside)
    (hlast : last.closes = true) : IsPart (front ++ first :: inside ++ [last]) := by
  refine ⟨by simp, fun found rest => ?_⟩
  have htokens : front ++ first :: inside ++ [last] ++ rest =
      front ++ first :: (inside ++ last :: rest) := by simp
  rw [htokens, splitCommas_flat hfront fun _ => hcomma]
  rw [splitCommas, if_neg fun h => (eq_of_opens hfirst).1 h.2, if_pos hfirst]
  rw [splitCommas_flat hinside (by simp)]
  rw [splitCommas, if_neg (by simp), (eq_of_closes hlast).2, hlast]
  simp

/-- Parts are told apart again after commas were put between them. -/
theorem splitCommas_withCommas {parts : List (List Token)} (hparts : ∀ part ∈ parts, IsPart part)
    (hne : parts ≠ []) :
    splitCommas [] 0 (withCommas parts) = parts ∧
      splitCommas [] 0 (withCommas parts ++ [.mark ","]) = parts ++ [[]] := by
  induction parts with
  | nil => exact absurd rfl hne
  | cons part parts ih =>
    obtain ⟨⟨-, hpart⟩, hparts⟩ := List.forall_mem_cons.mp hparts
    by_cases hlast : parts = []
    · have hend := hpart [] []
      have hcomma := hpart [] [.mark ","]
      simp_all [withCommas_singleton, splitCommas]
    · obtain ⟨hsplit, hcomma⟩ := ih hparts hlast
      simp only [withCommas_cons hlast, List.append_assoc, List.cons_append]
      simp [hpart, splitCommas, hsplit, hcomma]

/-- A list is split into the parts it is written from. -/
theorem tokens_clauses {parts : List (List Token)} {ts : List Token}
    (hparts : ∀ part ∈ parts, IsPart part) (h : Separated parts ts) :
    (clauses ts).map Clause.tokens = parts := by
  by_cases hne : parts = []
  · rw [hne, separated_nil_iff] at h
    simp [hne, h, clauses, splitCommas]
  · obtain ⟨hsplit, hcomma⟩ := splitCommas_withCommas hparts hne
    unfold clauses
    rcases h with rfl | ⟨-, rfl⟩
    · obtain ⟨front, last, rfl⟩ := (List.eq_nil_or_concat parts).resolve_left hne
      rw [hsplit]
      have hlast : last ≠ [] := (hparts last (by simp)).1
      obtain ⟨t, last, rfl⟩ := List.exists_cons_of_ne_nil hlast
      simp [Function.comp_def]
    · rw [hcomma]
      simp [Function.comp_def]

/-! ## Brackets without further brackets -/

/-- What is enclosed ends with the bracket that closes it. -/
theorem exists_of_enclosed {depth : Nat} {ts inside rest : List Token}
    (h : enclosed depth ts = some (inside, rest)) :
    ∃ last, last.closes = true ∧ ts = inside ++ last :: rest := by
  induction ts generalizing depth inside with
  | nil => simp [enclosed] at h
  | cons t ts ih =>
    -- Behind a token that does not close the bracket the rest is enclosed.
    have hnext {depth : Nat}
        (h : (enclosed depth ts).map (fun r => (t :: r.1, r.2)) = some (inside, rest)) :
        ∃ last, last.closes = true ∧ t :: ts = inside ++ last :: rest := by
      obtain ⟨⟨more, behind⟩, hmore, hpair⟩ := Option.map_eq_some_iff.mp h
      obtain ⟨rfl, rfl⟩ := Prod.mk.inj hpair
      obtain ⟨last, hlast, rfl⟩ := ih hmore
      exact ⟨last, hlast, rfl⟩
    unfold enclosed at h
    split at h
    · exact hnext h
    · split at h
      · rename_i hcloses
        split at h
        · obtain ⟨rfl, rfl⟩ := Prod.mk.inj (Option.some.inj h)
          exact ⟨t, hcloses, rfl⟩
        · exact hnext h
      · exact hnext h

/-- Without further brackets, all that stands in front of the first closing one is enclosed. -/
theorem enclosed_flat {inside : List Token} {last : Token} (hinside : Flat inside)
    (hlast : last.closes = true) (rest : List Token) :
    enclosed 0 (inside ++ last :: rest) = some (inside, rest) := by
  induction inside with
  | nil => simp [enclosed, hlast, (eq_of_closes hlast).2]
  | cons t inside ih =>
    obtain ⟨⟨hopens, hcloses⟩, hinside⟩ := List.forall_mem_cons.mp hinside
    simp [enclosed, hopens, hcloses, ih hinside]

end ObjectBridge
