import ObjectBridge.Toml.Token
import ObjectBridge.Toml.Writer

/-!
# Quotations of strings

A string is written in one of four quotations, with escapes in two of them.  In a
quotation of several lines up to two quotes in a row stand for themselves, and three of
them close it.  Whatever quotation is chosen, the string that is read back is the one that
was written.

Main results:

- Theorem `Toml.longestRun_le_iff`: a longest run within a limit, character by character.
- Theorem `Toml.Unescapes.escaped`: an escaped character is read as the character.
- Theorem `Toml.readString_writeString`: a written string is read back.
-/

namespace ObjectBridge.Toml

variable {c q : Char} {cs rest : List Char} {limit run : Nat}

/-! ## Runs of a character -/

/-- Whether no run of a character is longer than a limit, when the text follows a run of some
length. -/
def runsWithin (c : Char) (limit : Nat) : (run : Nat) → List Char → Prop
  | _, [] => True
  | run, d :: ds => if d = c then run < limit ∧ runsWithin c limit (run + 1) ds
      else runsWithin c limit 0 ds

/-- The longest run of a character is within a limit when no run exceeds it. -/
theorem longestRun_le_iff : longestRun c cs ≤ limit ↔ runsWithin c limit 0 cs := by
  -- The longest run so far grows along the text, and so does the one that is not over yet.
  have hscan (run longest : Nat) :
      (cs.foldl (fun runs d =>
        if d = c then (runs.1 + 1, max runs.2 (runs.1 + 1)) else (0, runs.2)) (run, longest)).2 ≤
          limit ↔ longest ≤ limit ∧ runsWithin c limit run cs := by
    induction cs generalizing run longest with
    | nil => simp [runsWithin]
    | cons d ds ih =>
      rw [List.foldl_cons, runsWithin]
      by_cases hd : d = c
      · simp only [if_pos hd]
        rw [ih, Nat.max_le, and_assoc]
        rfl
      · simp only [if_neg hd]
        rw [ih]
  refine (hscan 0 0).trans ?_
  simp

/-- A text without runs of a character is one without the character. -/
theorem not_mem_of_runsWithin (h : runsWithin c 0 run cs) : c ∉ cs := by
  induction cs generalizing run with
  | nil => exact List.not_mem_nil
  | cons d ds ih =>
    rw [runsWithin] at h
    split at h
    · exact absurd h.1 (Nat.not_lt_zero run)
    · rename_i hd
      rw [List.mem_cons, not_or]
      exact ⟨Ne.symm hd, ih h⟩

/-! ## Escapes -/

/-- A character that needs no escape is printable, or the end of a line. -/
theorem isPrintable_of_plain (h : needsEscape c = false) (hline : c ≠ '\n') :
    isPrintable c = true := by
  by_cases htab : c = '\t'
  · simp [htab, isPrintable]
  · simp_all [needsEscape, isPrintable]

/-- A printable character does not end a line. -/
theorem ne_of_isPrintable (h : isPrintable c = true) : c ≠ '\n' ∧ c ≠ '\r' := by
  constructor
  · rintro rfl
    simp [isPrintable] at h
  · rintro rfl
    simp [isPrintable] at h

/-- A character is read back from the four digits of its number. -/
theorem charOfHex?_fourHexDigits {n : Nat} (h : n < 128) :
    ∃ a b c d, fourHexDigits n = [a, b, c, d] ∧
      charOfHex? [a, b, c, d] = some (Char.ofNat n) := by
  have hall : ∀ n < 128, (fourHexDigits n).length = 4 ∧
      charOfHex? (fourHexDigits n) = some (Char.ofNat n) := by
    decide +kernel
  obtain ⟨hlength, hchar⟩ := hall n h
  match hdigits : fourHexDigits n, hlength with
  | [a, b, c, d], _ => exact ⟨a, b, c, d, rfl, hdigits ▸ hchar⟩

/-- A reader of a quotation understands the escapes in it, and takes what is printable for itself.
The end of a line stands for itself unless it has to be escaped. -/
structure Unescapes (read : Reader (List Char)) (escapeLine : Bool) : Prop where
  short : ∀ {d c : Char} {rest : List Char}, charOfEscape? d = some c →
    read ('\\' :: d :: rest) = prepend c (read rest)
  hex : ∀ {a b c d e : Char} {rest : List Char}, charOfHex? [a, b, c, d] = some e →
    read ('\\' :: 'u' :: a :: b :: c :: d :: rest) = prepend e (read rest)
  plain : ∀ {c : Char} {rest : List Char}, isPrintable c = true → c ≠ '"' → c ≠ '\\' →
    read (c :: rest) = prepend c (read rest)
  line : ∀ {rest : List Char}, escapeLine = false → read ('\n' :: rest) = prepend '\n' (read rest)

/-- The reader of a basic string undoes the escapes of one line. -/
theorem unescapes_readBasic : Unescapes readBasic true where
  short h := by
    unfold charOfEscape? at h
    split at h <;> cases h <;> rfl
  hex h := by
    rw [readBasic, h]
    rfl
  plain hprintable hquote hback := by
    rw [readBasic.eq_def]
    split <;> simp_all
  line h := nomatch h

/-- A printable character stands for itself, and so does a quote that two more do not follow. -/
theorem readBasicLines_cons (hprintable : isPrintable c = true) (hback : c ≠ '\\')
    (hquote : c = '"' → ∀ further, rest ≠ '"' :: '"' :: further) :
    readBasicLines .none (c :: rest) = prepend c (readBasicLines .none rest) := by
  obtain ⟨hline, hreturn⟩ := ne_of_isPrintable hprintable
  rw [readBasicLines.eq_def]
  simp only [ne_eq, not_true_eq_false, false_and, if_false]
  split <;> simp_all

/-- The reader of a basic string over lines undoes the escapes of several. -/
theorem unescapes_readBasicLines : Unescapes (readBasicLines .none) false where
  short h := by
    unfold charOfEscape? at h
    split at h <;> cases h <;> rfl
  hex {a b c d e rest} h := by
    have hread : readBasicLines .none ('\\' :: 'u' :: a :: b :: c :: d :: rest) =
        (charOfHex? [a, b, c, d]).bind fun e => prepend e (readBasicLines .none rest) := rfl
    rw [hread, h, Option.bind_some]
  plain hprintable hquote hback := readBasicLines_cons hprintable hback fun h => absurd h hquote
  line _ := rfl

/-- An escaped character is read as the character. -/
theorem Unescapes.escaped {read : Reader (List Char)} {escapeLine : Bool}
    (h : Unescapes read escapeLine) (hquote : c ≠ '"') :
    read (escaped escapeLine c ++ rest) = prepend c (read rest) := by
  unfold Toml.escaped
  split
  · exact h.short rfl
  · exact h.short rfl
  · cases escapeLine with
    | true => exact h.short rfl
    | false => exact h.line rfl
  · exact h.short rfl
  · exact h.short rfl
  · exact h.short rfl
  · rename_i hline _ _ hback
    cases hplain : needsEscape c with
    | false => exact h.plain (isPrintable_of_plain hplain hline) hquote hback
    | true =>
      have hsmall : c.toNat < 128 := by
        simp only [needsEscape, Bool.and_eq_true, Bool.or_eq_true, decide_eq_true_eq,
          beq_iff_eq] at hplain
        omega
      obtain ⟨a, b, c', d, hdigits, hchar⟩ := charOfHex?_fourHexDigits hsmall
      rw [Char.ofNat_toNat] at hchar
      rw [if_pos rfl, hdigits]
      exact h.hex hchar

/-- An escaped character starts with a backslash, or is the character and needs no escape. -/
theorem head?_escaped {d : Char} {escapeLine : Bool}
    (h : (escaped escapeLine c ++ rest).head? = some d) :
    d = '\\' ∨ d = c ∧ needsEscape c = false := by
  unfold Toml.escaped at h
  split at h
  case h_3 =>
    cases escapeLine with
    | true => exact .inl (Option.some.inj h).symm
    | false => exact .inr ⟨(Option.some.inj h).symm, rfl⟩
  case h_7 =>
    split at h
    · exact .inl (Option.some.inj h).symm
    · rename_i hplain
      exact .inr ⟨(Option.some.inj h).symm, Bool.eq_false_iff.mpr hplain⟩
  all_goals exact .inl (Option.some.inj h).symm

/-- An escaped character that is no quote does not begin with one. -/
theorem head?_escaped_ne_quote {escapeLine : Bool} (hquote : c ≠ '"') :
    (escaped escapeLine c ++ rest).head? ≠ some '"' := by
  intro h
  obtain hback | ⟨heq, -⟩ := head?_escaped h
  · exact absurd hback (by decide)
  · exact hquote heq.symm

/-! ## Quotations on one line -/

/-- An escaped text is read back up to the quote behind it. -/
theorem readBasic_escapedText (cs rest : List Char) :
    readBasic (escapedText true 0 0 cs ++ '"' :: rest) = some (cs, rest) := by
  induction cs with
  | nil => rfl
  | cons c cs ih =>
    rw [escapedText]
    by_cases hquote : c = '"'
    · rw [if_pos hquote, if_neg (Nat.lt_irrefl 0), hquote, List.cons_append, List.cons_append,
        unescapes_readBasic.short rfl, ih]
      rfl
    · rw [if_neg hquote, List.append_assoc, unescapes_readBasic.escaped hquote, ih]
      rfl

/-- A plain text is read back up to the quote behind it. -/
theorem readLiteral_plain (hprintable : ∀ c ∈ cs, isPrintable c = true) (hquote : '\'' ∉ cs) :
    readLiteral (cs ++ '\'' :: rest) = some (cs, rest) := by
  induction cs with
  | nil => rfl
  | cons c cs ih =>
    rw [List.forall_mem_cons] at hprintable
    rw [List.mem_cons, not_or] at hquote
    have hread : readLiteral (c :: (cs ++ '\'' :: rest)) =
        prepend c (readLiteral (cs ++ '\'' :: rest)) := by
      rw [readLiteral.eq_def]
      split <;> simp_all
    rw [List.cons_append, hread, ih hprintable.2 hquote.2]
    rfl

/-! ## Quotations on several lines -/

/-- A reader of a quotation of several lines.  Three quotes close it, with up to two more before
them; a quote that is not followed by two more stands for itself. -/
structure Closes (read : Reader (List Char)) (q : Char) : Prop where
  closed : ∀ {run : Nat} {rest : List Char}, run ≤ 2 → rest.head? ≠ some q →
    read (List.replicate run q ++ ([q, q, q] ++ rest)) = some (List.replicate run q, rest)
  quote : ∀ {rest : List Char}, (∀ further, rest ≠ q :: q :: further) →
    read (q :: rest) = prepend q (read rest)

/-- Quotes before the end of a basic string over lines belong to the text. -/
theorem closes_readBasicLines : Closes (readBasicLines .none) '"' where
  closed {run rest} hrun hrest := by
    match run, hrun with
    | 0, _ | 1, _ | 2, _ =>
      cases rest with
      | nil => rfl
      | cons d ds =>
        rw [readBasicLines.eq_def]
        simp only [List.head?_cons, ne_eq, Option.some.injEq] at hrest
        simp [List.replicate, hrest]
  quote hrest := readBasicLines_cons (by decide) (by decide) fun _ => hrest

/-- A printable character stands for itself, and so does a quote that two more do not follow. -/
theorem readLiteralLines_cons (hprintable : isPrintable c = true)
    (hquote : c = '\'' → ∀ further, rest ≠ '\'' :: '\'' :: further) :
    readLiteralLines (c :: rest) = prepend c (readLiteralLines rest) := by
  obtain ⟨hline, hreturn⟩ := ne_of_isPrintable hprintable
  rw [readLiteralLines.eq_def]
  split <;> simp_all

/-- So they do before the end of a literal string over lines. -/
theorem closes_readLiteralLines : Closes readLiteralLines '\'' where
  closed {run rest} hrun hrest := by
    match run, hrun with
    | 0, _ | 1, _ | 2, _ =>
      cases rest with
      | nil => rfl
      | cons d ds =>
        rw [readLiteralLines.eq_def]
        simp only [List.head?_cons, ne_eq, Option.some.injEq] at hrest
        simp [List.replicate, hrest]
  quote hrest := readLiteralLines_cons (by decide) fun _ => hrest

/-- Up to two quotes in a row stand for themselves. -/
theorem Closes.passes {read : Reader (List Char)} (h : Closes read q) (hrun : run ≤ 2)
    (hrest : rest.head? ≠ some q) :
    read (List.replicate run q ++ rest) =
      (read rest).map fun r => (List.replicate run q ++ r.1, r.2) := by
  have hone : read (q :: rest) = prepend q (read rest) := by
    refine h.quote fun further heq => hrest ?_
    rw [heq, List.head?_cons]
  match run, hrun with
  | 0, _ => simp
  | 1, _ => exact hone
  | 2, _ =>
    have htwo : read (q :: q :: rest) = prepend q (read (q :: rest)) := by
      refine h.quote fun further heq => hrest ?_
      rw [List.tail_eq_of_cons_eq heq, List.head?_cons]
    rw [List.replicate_succ, List.replicate_one, List.cons_append, List.singleton_append, htwo,
      hone]
    cases read rest <;> rfl

/-- An escaped text over lines is read back up to the three quotes behind it. -/
theorem readBasicLines_escapedText (cs : List Char) (hrest : rest.head? ≠ some '"')
    (hrun : run ≤ 2) :
    readBasicLines .none
        (List.replicate run '"' ++ (escapedText false 2 run cs ++ (['"', '"', '"'] ++ rest))) =
      some (List.replicate run '"' ++ cs, rest) := by
  -- The quotes of a run that is not over yet stand in front of the text.
  induction cs generalizing run with
  | nil => simpa [escapedText] using closes_readBasicLines.closed hrun hrest
  | cons c cs ih =>
    have hrestart := ih (Nat.zero_le 2)
    simp only [List.replicate_zero, List.nil_append] at hrestart
    rw [escapedText]
    by_cases hquote : c = '"'
    · subst hquote
      rw [if_pos rfl]
      by_cases hlonger : run < 2
      · have hmore : run + 1 ≤ 2 := hlonger
        have hnext := ih hmore
        rw [List.replicate_succ', List.append_assoc, List.append_assoc] at hnext
        rw [if_pos hlonger]
        exact hnext
      · rw [if_neg hlonger, closes_readBasicLines.passes hrun (by simp), List.cons_append,
          List.cons_append, unescapes_readBasicLines.short rfl, hrestart]
        rfl
    · rw [if_neg hquote, List.append_assoc,
        closes_readBasicLines.passes hrun (head?_escaped_ne_quote hquote),
        unescapes_readBasicLines.escaped hquote, hrestart]
      rfl

/-- A plain text over lines is read back up to the three quotes behind it. -/
theorem readLiteralLines_plain (hrest : rest.head? ≠ some '\'') (hrun : run ≤ 2)
    (hruns : runsWithin '\'' 2 run cs) (hplain : ∀ c ∈ cs, needsEscape c = false) :
    readLiteralLines (List.replicate run '\'' ++ (cs ++ (['\'', '\'', '\''] ++ rest))) =
      some (List.replicate run '\'' ++ cs, rest) := by
  induction cs generalizing run with
  | nil => simpa using closes_readLiteralLines.closed hrun hrest
  | cons c cs ih =>
    rw [List.forall_mem_cons] at hplain
    rw [runsWithin] at hruns
    by_cases hquote : c = '\''
    · rw [if_pos hquote] at hruns
      have hmore : run + 1 ≤ 2 := hruns.1
      have hnext := ih hmore hruns.2 hplain.2
      rw [List.replicate_succ', List.append_assoc, List.append_assoc] at hnext
      rw [hquote]
      exact hnext
    · rw [if_neg hquote] at hruns
      have hrestart := ih (Nat.zero_le 2) hruns hplain.2
      simp only [List.replicate_zero, List.nil_append] at hrestart
      have hread : readLiteralLines (c :: (cs ++ (['\'', '\'', '\''] ++ rest))) =
          prepend c (readLiteralLines (cs ++ (['\'', '\'', '\''] ++ rest))) := by
        by_cases hline : c = '\n'
        · rw [hline]
          rfl
        · exact readLiteralLines_cons (isPrintable_of_plain hplain.1 hline) fun h => absurd h hquote
      rw [List.cons_append, closes_readLiteralLines.passes hrun (by simpa using hquote), hread,
        hrestart]
      rfl

/-! ## Strings -/

/-- A basic string is read back. -/
theorem readString_basic (cs : List Char) (hrest : rest.head? ≠ some '"') :
    readString ('"' :: (escapedText true 0 0 cs ++ '"' :: rest)) =
      some (String.ofList cs, rest) := by
  have hone : ∀ further, escapedText true 0 0 cs ++ '"' :: rest ≠ '"' :: '"' :: further := by
    intro further heq
    cases cs with
    | nil =>
      rw [escapedText, List.nil_append, List.cons.injEq] at heq
      rw [heq.2, List.head?_cons] at hrest
      exact hrest rfl
    | cons c cs =>
      rw [escapedText] at heq
      by_cases hquote : c = '"'
      · simp [hquote] at heq
      · rw [if_neg hquote, List.append_assoc] at heq
        exact head?_escaped_ne_quote hquote (congrArg List.head? heq)
  have hread : readString ('"' :: (escapedText true 0 0 cs ++ '"' :: rest)) =
      (readBasic (escapedText true 0 0 cs ++ '"' :: rest)).map
        fun r => (String.ofList r.1, r.2) := by
    rw [readString]
    exact hone
  rw [hread, readBasic_escapedText]
  rfl

/-- A literal string is read back. -/
theorem readString_literal (hprintable : ∀ c ∈ cs, isPrintable c = true) (hquote : '\'' ∉ cs)
    (hcs : cs ≠ []) :
    readString ('\'' :: (cs ++ '\'' :: rest)) = some (String.ofList cs, rest) := by
  obtain ⟨c, cs, rfl⟩ := List.exists_cons_of_ne_nil hcs
  have hc : c ≠ '\'' := fun h => hquote (h ▸ List.mem_cons_self)
  have hread : readString ('\'' :: (c :: cs ++ '\'' :: rest)) =
      (readLiteral (c :: cs ++ '\'' :: rest)).map fun r => (String.ofList r.1, r.2) := by
    rw [readString]
    intro further heq
    exact hc (List.cons.inj heq).1
  rw [hread, readLiteral_plain hprintable hquote]
  rfl

/-- The line end that is put in front of a text of several lines is not part of it, and there is
none to be taken from a text that does not start with one. -/
theorem skipFirstLineEnd_lineBreak (h : cs.contains '\n' = false →
    rest.head? ≠ some '\n' ∧ rest.head? ≠ some '\r') :
    skipFirstLineEnd ((if cs.contains '\n' then ['\n'] else []) ++ rest) = rest := by
  cases hline : cs.contains '\n' with
  | true => rfl
  | false =>
    obtain ⟨hbreak, hreturn⟩ := h hline
    rw [if_neg nofun, List.nil_append]
    unfold skipFirstLineEnd
    split <;> simp_all

/-- An escaped text starts with a line end only if the text itself does. -/
theorem head?_escapedText_ne {tail : List Char} (hline : cs.contains '\n' = false) :
    (escapedText false 2 0 cs ++ (['"', '"', '"'] ++ tail)).head? ≠ some '\n' ∧
      (escapedText false 2 0 cs ++ (['"', '"', '"'] ++ tail)).head? ≠ some '\r' := by
  cases cs with
  | nil => simp [escapedText]
  | cons c cs =>
    have hc : c ≠ '\n' := by
      rintro rfl
      simp at hline
    rw [escapedText]
    by_cases hquote : c = '"'
    · simp [hquote]
    · rw [if_neg hquote, List.append_assoc]
      constructor
      · intro h
        obtain hback | ⟨heq, -⟩ := head?_escaped h
        · exact absurd hback (by decide)
        · exact hc heq.symm
      · intro h
        obtain hback | ⟨rfl, hplain⟩ := head?_escaped h
        · exact absurd hback (by decide)
        · exact absurd hplain (by decide)

/-- A basic string over lines is read back. -/
theorem readString_basicLines (cs : List Char) (hrest : rest.head? ≠ some '"') :
    readString (['"', '"', '"'] ++ (if cs.contains '\n' then ['\n'] else []) ++
        escapedText false 2 0 cs ++ ['"', '"', '"'] ++ rest) = some (String.ofList cs, rest) := by
  have hbreak : skipFirstLineEnd ((if cs.contains '\n' then ['\n'] else []) ++
      (escapedText false 2 0 cs ++ (['"', '"', '"'] ++ rest))) =
        escapedText false 2 0 cs ++ (['"', '"', '"'] ++ rest) :=
    skipFirstLineEnd_lineBreak head?_escapedText_ne
  have hread := readBasicLines_escapedText cs hrest (Nat.zero_le 2)
  rw [List.replicate_zero, List.nil_append, List.nil_append] at hread
  have hopen (text : List Char) : readString (['"', '"', '"'] ++ text) =
      (readBasicLines .none (skipFirstLineEnd text)).map fun r => (String.ofList r.1, r.2) := rfl
  simp only [List.append_assoc]
  rw [hopen, hbreak, hread]
  rfl

/-- A literal string over lines is read back. -/
theorem readString_literalLines (hrest : rest.head? ≠ some '\'')
    (hruns : runsWithin '\'' 2 0 cs) (hplain : ∀ c ∈ cs, needsEscape c = false) :
    readString (['\'', '\'', '\''] ++ (if cs.contains '\n' then ['\n'] else []) ++ cs ++
        ['\'', '\'', '\''] ++ rest) = some (String.ofList cs, rest) := by
  have hbreak : skipFirstLineEnd ((if cs.contains '\n' then ['\n'] else []) ++
      (cs ++ (['\'', '\'', '\''] ++ rest))) = cs ++ (['\'', '\'', '\''] ++ rest) := by
    refine skipFirstLineEnd_lineBreak fun hline => ?_
    cases cs with
    | nil => simp
    | cons c cs =>
      constructor
      · rintro h
        cases Option.some.inj h
        simp at hline
      · rintro h
        cases Option.some.inj h
        exact absurd (hplain '\r' List.mem_cons_self) (by decide)
  have hread := readLiteralLines_plain hrest (Nat.zero_le 2) hruns hplain
  rw [List.replicate_zero, List.nil_append, List.nil_append] at hread
  have hopen (text : List Char) : readString (['\'', '\'', '\''] ++ text) =
      (readLiteralLines (skipFirstLineEnd text)).map fun r => (String.ofList r.1, r.2) := rfl
  simp only [List.append_assoc]
  rw [hopen, hbreak, hread]
  rfl

/-- A written string is read back, unless a quote follows it. -/
theorem readString_writeString (s : String) (hdouble : rest.head? ≠ some '"')
    (hsingle : rest.head? ≠ some '\'') :
    readString ((writeString s).toList ++ rest) = some (s, rest) := by
  obtain ⟨cs, rfl⟩ : ∃ cs, s = String.ofList cs := ⟨s.toList, by rw [String.ofList_toList]⟩
  have hbasic : readString (['"'] ++ escapedText true 0 0 cs ++ ['"'] ++ rest) =
      some (String.ofList cs, rest) := by
    simpa using readString_basic cs hdouble
  have hbasicLines := readString_basicLines cs hdouble
  simp only [writeString, String.toList_ofList]
  split
  · exact hbasic
  · rename_i hescaped
    split
    · rename_i h
      simp only [Bool.and_eq_true, Bool.not_eq_eq_eq_not, Bool.not_true, decide_eq_true_eq,
        List.any_eq_false, Bool.not_eq_true, List.contains_eq_mem, decide_eq_false_iff_not] at h
      obtain ⟨⟨hplain, hquotes⟩, hline⟩ := h
      have hprintable : ∀ c ∈ cs, isPrintable c = true := fun c hc =>
        isPrintable_of_plain (hplain c hc) fun h => hline (h ▸ hc)
      have hquote : '\'' ∉ cs :=
        not_mem_of_runsWithin (longestRun_le_iff.mp (Nat.le_of_eq hquotes))
      have hcs : cs ≠ [] := by
        rintro rfl
        exact hescaped rfl
      simpa using readString_literal hprintable hquote hcs
    · split
      · exact hbasicLines
      · split
        · rename_i h
          simp only [Bool.and_eq_true, Bool.not_eq_eq_eq_not, Bool.not_true, decide_eq_true_eq,
            List.any_eq_false, Bool.not_eq_true] at h
          exact readString_literalLines hsingle (longestRun_le_iff.mp h.2) h.1
        · split
          · rename_i hline
            rwa [if_pos hline] at hbasicLines
          · exact hbasic

end ObjectBridge.Toml
