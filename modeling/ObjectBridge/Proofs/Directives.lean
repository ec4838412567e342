import Mathlib.Data.List.TakeWhile
import ObjectBridge.Logging.Filter
import ObjectBridge.Proofs.Outcomes

/-!
# How directives are written

A directive without a scope is written in one of three ways: as a limit for
everything, as a target, or as a target and its limit with an equals sign between
them.  Every other text is no directive or has a scope.

Main results:

- Definition `Directive.Spelled`: the three ways.
- Theorem `FilterRule.parse_eq_ok_iff`: a text is read as a directive without a scope
  exactly when it is written in one of them.
-/

namespace ObjectBridge

/-! ## Blanks around a text -/

namespace Text

/-- Trimming drops nothing but blanks, at both ends. -/
theorem trim_spec (cs : List Char) :
    ∃ lead trail, cs = lead ++ trim cs ++ trail ∧ (∀ c ∈ lead, isBlank c = true) ∧
      ∀ c ∈ trail, isBlank c = true := by
  have hrest : cs.dropWhile isBlank =
      trim cs ++ ((cs.dropWhile isBlank).reverse.takeWhile isBlank).reverse := by
    rw [trim, ← List.reverse_append, List.takeWhile_append_dropWhile, List.reverse_reverse]
  refine ⟨cs.takeWhile isBlank, ((cs.dropWhile isBlank).reverse.takeWhile isBlank).reverse,
    ?_, ?_, ?_⟩
  · rw [List.append_assoc, ← hrest, List.takeWhile_append_dropWhile]
  · exact fun c hc => List.mem_takeWhile_imp hc
  · exact fun c hc => List.mem_takeWhile_imp (List.mem_reverse.mp hc)

/-- Trimming stops at characters that are not blank: one in front and one further on. -/
theorem trim_append_cons {front : List Char} {c : Char} (hfront : front ≠ [])
    (hhead : ∀ c ∈ front.head?, isBlank c = false) (hc : isBlank c = false) (behind : List Char) :
    ∃ rest, trim (front ++ c :: behind) = front ++ c :: rest := by
  obtain ⟨first, front, rfl⟩ := List.exists_cons_of_ne_nil hfront
  refine ⟨(behind.reverse.dropWhile isBlank).reverse, ?_⟩
  have hfirst : ¬isBlank first = true := by
    simp only [hhead first rfl, Bool.false_eq_true, not_false_eq_true]
  rw [trim, List.cons_append, List.dropWhile_cons_of_neg hfirst, ← List.cons_append,
    List.reverse_append, List.reverse_cons, List.append_assoc, List.dropWhile_append]
  cases hrest : behind.reverse.dropWhile isBlank with
  | nil => simp [hc]
  | cons d rest => simp

end Text

namespace Directive

/-! ## Characters of limits and targets -/

/-- A character that neither ends a target nor begins a scope. -/
def IsPlain (c : Char) : Prop :=
  c ≠ '[' ∧ c ≠ '='
deriving Decidable

/-- A blank is a plain character. -/
theorem isPlain_of_isBlank {c : Char} (h : Text.isBlank c = true) : IsPlain c := by
  constructor <;> rintro rfl <;> revert h <;> decide

/-- So are the characters of a number. -/
theorem isPlain_of_number? {cs : List Char} {n : Nat} (h : number? cs = some n) :
    ∀ c ∈ cs, IsPlain c := by
  have hdigit {c : Char} (hc : c.isDigit = true) : IsPlain c := by
    constructor <;> rintro rfl <;> revert hc <;> decide
  -- The digits may have a plus sign in front.
  rw [number?] at h
  by_cases hplus : cs.head? = some '+'
  · obtain ⟨rest, rfl⟩ := List.head?_eq_some_iff.mp hplus
    rw [if_pos hplus] at h
    have hall := (Option.ite_none_right_eq_some.mp h).1.2
    intro c hc
    obtain rfl | hc := List.mem_cons.mp hc
    · exact ⟨by decide, by decide⟩
    · exact hdigit (List.all_eq_true.mp hall c hc)
  · rw [if_neg hplus] at h
    have hall := (Option.ite_none_right_eq_some.mp h).1.2
    exact fun c hc => hdigit (List.all_eq_true.mp hall c hc)

/-- The name or the number of a limit has plain characters only. -/
theorem isPlain_of_limit? {text : String} {level : Option Level} (h : limit? text = some level) :
    ∀ c ∈ text.toList, IsPlain c := by
  rw [limit?] at h
  split at h
  · rename_i hnumber
    obtain ⟨n, hn, -⟩ := Option.bind_eq_some_iff.mp hnumber
    exact isPlain_of_number? hn
  · obtain ⟨entry, hentry, hname⟩ := List.lookup_isSome_iff.mp (Option.isSome_of_eq_some h)
    have hplain : (limits.all fun entry => entry.1.toList.all fun c => c != '[' && c != '=') := by
      decide +kernel
    have hlower : text.toLower.toList = text.toList.map Char.toLower := String.toList_map
    intro c hc
    have hmem : c.toLower ∈ entry.1.toList := by
      rw [← eq_of_beq hname, hlower]
      exact List.mem_map_of_mem hc
    have hlowered := List.all_eq_true.mp (List.all_eq_true.mp hplain entry hentry) _ hmem
    constructor <;> rintro rfl <;> revert hlowered <;> decide

/-- No directive starts with a blank. -/
theorem isBlank_of_isStart {c : Char} (h : isStart c = true) : Text.isBlank c = false := by
  rw [← Bool.not_eq_true]
  intro hblank
  obtain ⟨range, hrange, hlower, hupper⟩ := Text.Ranges.contains_iff.mp hblank
  have hblanks : (Text.blankRanges.all fun range =>
      (List.range' range.1 (range.2 + 1 - range.1)).all fun n => !isStart (Char.ofNat n)) := by
    decide +kernel
  have hn := List.all_eq_true.mp (List.all_eq_true.mp hblanks range hrange) c.toNat
    (List.mem_range'_1.mpr ⟨hlower, by omega⟩)
  rw [Char.ofNat_toNat, h] at hn
  cases hn

/-- Blanks at the ends do not matter to whether all characters are plain. -/
theorem isPlain_of_trim {cs : List Char} (h : ∀ c ∈ Text.trim cs, IsPlain c) :
    ∀ c ∈ cs, IsPlain c := by
  obtain ⟨lead, trail, hcs, hlead, htrail⟩ := Text.trim_spec cs
  intro c hc
  rw [hcs, List.append_assoc] at hc
  obtain hc | hc := List.mem_append.mp hc
  · exact isPlain_of_isBlank (hlead c hc)
  · obtain hc | hc := List.mem_append.mp hc
    · exact h c hc
    · exact isPlain_of_isBlank (htrail c hc)

/-- What is left by trimming was there before. -/
theorem mem_of_mem_trim {cs : List Char} {c : Char} (h : c ∈ Text.trim cs) : c ∈ cs := by
  obtain ⟨lead, trail, hcs, -, -⟩ := Text.trim_spec cs
  rw [hcs]
  exact List.mem_append_left _ (List.mem_append_right _ h)

/-- Whatever is read as a limit has plain characters only. -/
theorem isPlain_of_limitOf {text : String} {level : Option Level} (h : limitOf text = .ok level) :
    ∀ c ∈ text.toList, IsPlain c := by
  rw [limitOf] at h
  split at h
  · rename_i hempty
    rw [hempty]
    exact fun c hc => absurd hc List.not_mem_nil
  · split at h
    · rename_i hlimit
      exact isPlain_of_limit? hlimit
    · cases h

/-- The characters up to the end of a text. -/
theorem toList_slice_length (text : String) (start : Nat) :
    (slice text start text.length).toList = text.toList.drop start := by
  rw [slice, String.toList_ofList, List.take_of_length_le]
  rw [List.length_drop, String.length_toList]

/-- The two sides of a character. -/
theorem slice_of_toList {text : String} {front behind : List Char} {c : Char}
    (h : text.toList = front ++ c :: behind) :
    slice text 0 front.length = String.ofList front ∧
      slice text (front.length + 1) text.length = String.ofList behind := by
  constructor
  · rw [slice, h, List.drop_zero, Nat.sub_zero, List.take_left]
  · rw [← String.toList_inj, toList_slice_length, h, String.toList_ofList, List.append_cons,
      List.drop_left' (by simp)]

/-! ## The three ways to write a directive -/

/-- Whether some characters begin as a directive may begin. -/
def Begins (cs : List Char) : Prop :=
  cs.head?.any isStart = true

/-- What begins a directive has a first character that starts one. -/
theorem exists_cons_of_begins {cs : List Char} (h : Begins cs) :
    ∃ c rest, cs = c :: rest ∧ isStart c = true := by
  obtain ⟨c, hc, hstart⟩ := Option.any_eq_true _ _ |>.mp h
  obtain ⟨rest, rfl⟩ := List.head?_eq_some_iff.mp hc
  exact ⟨c, rest, rfl, hstart⟩

/-- A sign of equality does not begin a directive. -/
theorem not_begins_equals (cs : List Char) : ¬Begins ('=' :: cs) := by
  rw [Begins, List.head?_cons, Option.any_some]
  decide +kernel

/-- A text stands for a directive without a scope. -/
inductive Spelled : String → Directive → Prop where
  /-- A limit for everything. -/
  | limit {text : String} {level : Option Level} (begins : Begins (Text.trim text.toList))
      (named : limit? text = some level) : Spelled text ⟨"", none, level⟩
  /-- A target, for which everything is let through. -/
  | target {text : String} (begins : Begins (Text.trim text.toList))
      (plain : ∀ c ∈ text.toList, IsPlain c) (unnamed : limit? text = none) :
      Spelled text ⟨text, none, some .trace⟩
  /-- A target and its limit. -/
  | both {target limit : String} {level : Option Level} (begins : Begins target.toList)
      (plain : ∀ c ∈ target.toList, IsPlain c) (named : limitOf limit = .ok level) :
      Spelled (target ++ "=" ++ limit) ⟨target, none, level⟩

/-- What is read as a directive begins like one. -/
theorem begins_of_parse {text : String} {d : Directive} (h : parse text = .ok d) :
    Begins (Text.trim text.toList) := by
  unfold parse at h
  dsimp only at h
  split at h
  · cases h
  · rename_i c rest hinner
    by_cases hc : isStart c = true
    · rw [hinner]
      exact hc
    · rw [if_pos (by simpa using hc)] at h
      cases h

/-- A text without equals signs is a limit or a target. -/
theorem parse_of_not_mem {text : String} (hbegins : Begins (Text.trim text.toList))
    (hequals : '=' ∉ Text.trim text.toList) :
    parse text =
      .ok ((limit? text).elim ⟨text, none, some .trace⟩ fun level => ⟨"", none, level⟩) := by
  obtain ⟨c, rest, hinner, hc⟩ := exists_cons_of_begins hbegins
  have hidx := List.idxOf?_eq_none_iff.mpr hequals
  rw [hinner] at hidx
  rw [parse, hinner]
  dsimp only
  rw [if_neg (by simpa using hc), hidx]
  cases limit? text <;> rfl

/-- A text with an equals sign is a target and its limit. -/
theorem parse_of_equals {text : String} {before rest : List Char}
    (hbegins : Begins (Text.trim text.toList))
    (hinner : Text.trim text.toList = before ++ '=' :: rest) (hbefore : '=' ∉ before) :
    parse text =
      (limitOf (slice text (before.length + 1) text.length)).map fun level =>
        ⟨slice text 0 before.length, none, level⟩ := by
  obtain ⟨c, rest', hcons, hc⟩ := exists_cons_of_begins hbegins
  have hidx : (c :: rest').idxOf? '=' = some before.length := by
    rw [← hcons, hinner]
    refine List.idxOf?_eq_some_iff.mpr ⟨by simp, by simp, fun n hn => ?_⟩
    rw [List.getElem_append_left hn]
    exact fun h => hbefore (h ▸ List.getElem_mem hn)
  rw [parse, hcons]
  dsimp only
  rw [if_neg (by simpa using hc), hidx]
  dsimp only
  cases limitOf (slice text (before.length + 1) text.length) <;> rfl

end Directive

namespace FilterRule

open Directive

/-- The directive without a scope, as it is kept before it is known to have none. -/
def ofDirective (d : Directive) : FilterRule :=
  ⟨⟨d.target, none, none⟩, d.level⟩

/-- The limit behind a scope leaves the scope as it is. -/
theorem scope_of_limit {scope : Scope} {behind : List Char} {r : FilterRule}
    (limit : List Char → Except DirectiveError (Option Level))
    (h : (match behind with
      | [] => Except.ok ⟨scope, some Level.trace⟩
      | '=' :: rest => do
        let level ← limit rest
        return ⟨scope, level⟩
      | _ => Except.error DirectiveError.malformed) = Except.ok r) : r.scope = scope := by
  split at h
  · cases h
    rfl
  · obtain ⟨level, -, hr⟩ := exists_of_bind_eq_ok h
    cases hr
    rfl
  · cases h

/-- What is read as a directive with a scope has one: a span is named or a field is. -/
theorem isSome_scope?_of_parseScoped {text : String} {distance : Nat} {r : FilterRule}
    (h : parseScoped text distance = .ok r) : r.scope?.isSome := by
  suffices hscope : r.scope.span.isSome ∨ r.scope.field.isSome by
    rw [scope?, if_pos (Bool.or_eq_true _ _ ▸ hscope), Option.isSome_some]
  unfold parseScoped at h
  dsimp only at h
  split at h
  · obtain ⟨named, ⟨⟩, h⟩ := exists_of_bind_eq_ok h
    rw [scope_of_limit _ h]
    exact .inl rfl
  · split at h
    · cases h
    · obtain ⟨field, -, h⟩ := exists_of_bind_eq_ok h
      split at h
      · obtain ⟨named, ⟨⟩, h⟩ := exists_of_bind_eq_ok h
        rw [scope_of_limit _ h]
        exact .inr rfl
      · cases h
  · cases h

/-- Every text begins with plain characters, up to the first that is not. -/
theorem exists_plain_append (cs : List Char) :
    ∃ before rest, cs = before ++ rest ∧ (∀ c ∈ before, IsPlain c) ∧
      ∀ c ∈ rest.head?, ¬IsPlain c := by
  induction cs with
  | nil => exact ⟨[], [], rfl, by simp, by simp⟩
  | cons c cs ih =>
    by_cases hc : IsPlain c
    · obtain ⟨before, rest, rfl, hplain, hrest⟩ := ih
      exact ⟨c :: before, rest, rfl, List.forall_mem_cons.mpr ⟨hc, hplain⟩, hrest⟩
    · refine ⟨[], c :: cs, rfl, by simp, fun d hd => ?_⟩
      cases hd
      exact hc

/-- Where a scope would begin in a text. -/
theorem takeWhile_plain {before rest : List Char} (hplain : ∀ c ∈ before, IsPlain c)
    (hrest : ∀ c ∈ rest.head?, ¬IsPlain c) :
    (before ++ rest).takeWhile (fun c => c ≠ '[' ∧ c ≠ '=') = before := by
  change (before ++ rest).takeWhile (fun c => decide (IsPlain c)) = before
  rw [List.takeWhile_append_of_pos fun c hc => decide_eq_true (hplain c hc)]
  cases rest with
  | nil => exact List.append_nil before
  | cons c rest =>
    have hc : ¬decide (IsPlain c) = true := fun h => hrest c rfl (of_decide_eq_true h)
    rw [List.takeWhile_cons_of_neg (p := fun c => decide (IsPlain c)) hc, List.append_nil]

/-- Behind the first characters come the others. -/
theorem getElem?_length_append (before rest : List Char) :
    (before ++ rest)[before.length]? = rest.head? := by
  rw [List.getElem?_append_right (Nat.le_refl _), Nat.sub_self, List.head?_eq_getElem?]

/-- A text without brackets before its first equals sign is read as one without a scope. -/
theorem parse_of_not_bracket {text : String} {before rest : List Char}
    (htext : Text.trim text.toList = before ++ rest) (hplain : ∀ c ∈ before, IsPlain c)
    (hrest : ∀ c ∈ rest.head?, c = '=') :
    parse text = (Directive.parse text).map ofDirective := by
  have hbefore : (before ++ rest).takeWhile (fun c => c ≠ '[' ∧ c ≠ '=') = before :=
    takeWhile_plain hplain fun c hc h => h.2 (hrest c hc)
  rw [parse, htext, hbefore, getElem?_length_append,
    if_neg fun h => absurd (hrest '[' h.1) (by decide)]
  rfl

/-- A directive without a scope has no bracket before its first equals sign. -/
theorem exists_of_parse {text : String} {r : FilterRule} (h : parse text = .ok r)
    (hscope : r.scope? = none) :
    ∃ d before rest, Directive.parse text = .ok d ∧ r = ofDirective d ∧
      Text.trim text.toList = before ++ rest ∧ (∀ c ∈ before, IsPlain c) ∧
      ∀ c ∈ rest.head?, c = '=' := by
  obtain ⟨before, rest, hinner, hplain, hrest⟩ := exists_plain_append (Text.trim text.toList)
  rw [parse, hinner, takeWhile_plain hplain hrest, getElem?_length_append] at h
  split at h
  · have hsome := isSome_scope?_of_parseScoped h
    rw [hscope] at hsome
    cases hsome
  · rename_i hbracket
    obtain ⟨d, hd, rfl⟩ := exists_of_map_eq_ok h
    refine ⟨d, before, rest, hd, rfl, hinner, hplain, fun c hc => ?_⟩
    have hstart : before.head?.all isStart = true := by
      obtain ⟨c, cs, hcons, hc⟩ := exists_cons_of_begins (begins_of_parse hd)
      rw [hinner] at hcons
      cases before with
      | nil => rfl
      | cons b before =>
        obtain ⟨rfl, -⟩ := List.cons.inj hcons
        exact hc
    refine Decidable.by_contra fun hne => hrest c hc ⟨?_, hne⟩
    rintro rfl
    exact hbracket ⟨hc, hstart⟩

/-- A text of plain characters is read as the limit it names or else as a target. -/
theorem parse_of_plain {text : String} (hbegins : Begins (Text.trim text.toList))
    (hplain : ∀ c ∈ text.toList, IsPlain c) :
    parse text = .ok (ofDirective
      ((limit? text).elim ⟨text, none, some .trace⟩ fun level => ⟨"", none, level⟩)) := by
  have hinner (c : Char) (hc : c ∈ Text.trim text.toList) : IsPlain c :=
    hplain c (mem_of_mem_trim hc)
  have hequals : '=' ∉ Text.trim text.toList := fun h => (hinner '=' h).2 rfl
  rw [parse_of_not_bracket (List.append_nil _).symm hinner (by simp),
    Directive.parse_of_not_mem hbegins hequals]
  rfl

/-- A target and its limit are read as what they are. -/
theorem parse_append {target limit : String} {level : Option Level} (hbegins : Begins target.toList)
    (hplain : ∀ c ∈ target.toList, IsPlain c) (hlimit : limitOf limit = .ok level) :
    parse (target ++ "=" ++ limit) = .ok (ofDirective ⟨target, none, level⟩) := by
  have htext : (target ++ "=" ++ limit).toList = target.toList ++ '=' :: limit.toList := by simp
  obtain ⟨c, cs, hcons, hc⟩ := exists_cons_of_begins hbegins
  -- The target has no blanks in front, so that the sign is where it seems to be.
  have hhead : ∀ c ∈ target.toList.head?, Text.isBlank c = false := by
    rw [hcons]
    rintro d ⟨⟩
    exact isBlank_of_isStart hc
  obtain ⟨rest, hinner⟩ := Text.trim_append_cons (by simp [hcons]) hhead
    (by decide : Text.isBlank '=' = false) limit.toList
  rw [← htext] at hinner
  have hinnerBegins : Begins (Text.trim (target ++ "=" ++ limit).toList) := by
    rw [hinner, hcons]
    exact hc
  obtain ⟨htarget, hbehind⟩ := slice_of_toList htext
  rw [parse_of_not_bracket hinner hplain (by rintro d ⟨⟩; rfl),
    Directive.parse_of_equals hinnerBegins hinner fun h => (hplain '=' h).2 rfl, htarget, hbehind,
    String.ofList_toList, String.ofList_toList, hlimit]
  rfl

/-- The equals sign of a directive and the distance it is counted with are in the same place: there
are no blanks in front, since behind them the sign itself would be read as part of the limit. -/
theorem toList_of_parse_equals {text : String} {before rest : List Char} {level : Option Level}
    (hinner : Text.trim text.toList = before ++ '=' :: rest)
    (hlimit : limitOf (slice text (before.length + 1) text.length) = .ok level) :
    ∃ behind, text.toList = before ++ '=' :: behind := by
  obtain ⟨lead, trail, htext, -, -⟩ := Text.trim_spec text.toList
  rw [hinner] at htext
  cases lead with
  | nil => exact ⟨rest ++ trail, by simpa using htext⟩
  | cons b lead =>
    have hmem : '=' ∈ (slice text (before.length + 1) text.length).toList := by
      have hshort : before.length + 1 ≤ (b :: lead ++ before).length := by
        simp only [List.length_append, List.length_cons]
        omega
      rw [toList_slice_length, htext, ← List.append_assoc, List.append_assoc,
        List.drop_append_of_le_length hshort]
      simp
    exact absurd rfl (isPlain_of_limitOf hlimit '=' hmem).2

/-- What is read at an equals sign is a target and its limit. -/
theorem spelled_of_parse_equals {text : String} {before rest : List Char} {d : Directive}
    (hinner : Text.trim text.toList = before ++ '=' :: rest) (hplain : ∀ c ∈ before, IsPlain c)
    (hd : Directive.parse text = .ok d) : Spelled text d := by
  have hbegins := begins_of_parse hd
  rw [Directive.parse_of_equals hbegins hinner fun h => (hplain '=' h).2 rfl] at hd
  obtain ⟨level, hlevel, rfl⟩ := exists_of_map_eq_ok hd
  obtain ⟨behind, htext⟩ := toList_of_parse_equals hinner hlevel
  obtain ⟨htarget, hbehind⟩ := slice_of_toList htext
  rw [hbehind] at hlevel
  have hsplit : text = String.ofList before ++ "=" ++ String.ofList behind := by
    rw [← String.toList_inj, htext]
    simp
  rw [htarget, hsplit]
  refine .both ?_ (by rwa [String.toList_ofList]) hlevel
  rw [String.toList_ofList]
  rw [hinner] at hbegins
  cases before with
  | nil => exact absurd hbegins (not_begins_equals rest)
  | cons c before => exact hbegins

/-- Exactly the texts written in one of the three ways are read as directives without a scope. -/
theorem parse_eq_ok_iff {text : String} {r : FilterRule} :
    parse text = .ok r ∧ r.scope? = none ↔ ∃ d, Spelled text d ∧ r = ofDirective d := by
  constructor
  · rintro ⟨h, hscope⟩
    obtain ⟨d, before, rest, hd, rfl, hinner, hplain, hrest⟩ := exists_of_parse h hscope
    refine ⟨d, ?_, rfl⟩
    cases rest with
    | nil =>
      rw [List.append_nil] at hinner
      rw [← hinner] at hplain
      have hbegins := begins_of_parse hd
      rw [Directive.parse_of_not_mem hbegins fun h => (hplain '=' h).2 rfl] at hd
      obtain rfl := Except.ok.inj hd
      cases hlimit : limit? text with
      | none => exact .target hbegins (isPlain_of_trim hplain) hlimit
      | some level => exact .limit hbegins hlimit
    | cons c rest =>
      obtain rfl := hrest c rfl
      exact spelled_of_parse_equals hinner hplain hd
  · rintro ⟨d, hd, rfl⟩
    refine ⟨?_, rfl⟩
    cases hd with
    | limit hbegins hnamed =>
      rw [parse_of_plain hbegins (isPlain_of_limit? hnamed), hnamed]
      rfl
    | target hbegins hplain hunnamed =>
      rw [parse_of_plain hbegins hplain, hunnamed]
      rfl
    | both hbegins hplain hnamed => exact parse_append hbegins hplain hnamed

/-- Behind a blank the distance of the sign is counted wrong, and the sign is read with the limit. -/
example : parse " shop=2" = .error .unknownLevel := by decide +kernel

end FilterRule

end ObjectBridge
