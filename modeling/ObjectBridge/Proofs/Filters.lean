import Mathlib.Data.Finset.Max
import Mathlib.Data.List.Induction
import ObjectBridge.Logging.Process
import ObjectBridge.Proofs.Directives

/-!
# What a filter lets through

The filter of a log is made of three parts in a row: the directives of an environment
variable, the level of some settings, and the directives of those settings.  Of the
directives for one target the last counts, and of those whose target begins the target of
a report the one with the longest.

The filter itself is left to a library.  What is relied on is that a directive that is
added takes the place of the one with its target, that the longest target decides, and
that the variable is read by the same rules.

Main results:

- Definition `FilterLibrary.View.Lawful`: what is relied on.
- Theorem `Filter.view_lawful`: the filters of this project are such a library.
- Theorem `LogSettings.buildFilter_decides`: what the filter of a variable and of settings
  lets through, and what does not matter to it.
-/

namespace ObjectBridge

/-! ## Limits in a row -/

/-- A target with the most verbose level that is let through for it; none when it is off. -/
structure Limit where
  target : String
  level : Option Level
deriving DecidableEq, Repr

namespace Limit

variable {row row' : List Limit} {d e last : Limit} {target : String}

/-- Whether a level is let through. -/
def allows (d : Limit) (level : Level) : Bool :=
  Directive.isWithin d.level level

/-- The directive of a limit. -/
def directive (d : Limit) : Directive :=
  ⟨d.target, none, d.level⟩

/-- The limit that counts for its target: no later one has the same. -/
def InForce (row : List Limit) (d : Limit) : Prop :=
  ∃ before after, row = before ++ d :: after ∧ ∀ later ∈ after, later.target ≠ d.target

/-- The limit that decides about a target: of those that count and begin it, the longest. -/
structure Decides (row : List Limit) (target : String) (d : Limit) : Prop where
  inForce : InForce row d
  begins : d.target.toList <+: target.toList
  longest : ∀ other, InForce row other → other.target.toList <+: target.toList →
    other.target.length ≤ d.target.length

/-- What counts stands in the row. -/
theorem InForce.mem (h : InForce row d) : d ∈ row := by
  obtain ⟨before, after, rfl, -⟩ := h
  exact List.mem_append_right before List.mem_cons_self

/-- In an empty row nothing counts. -/
theorem not_inForce_nil : ¬InForce [] d :=
  fun h => List.not_mem_nil h.mem

/-- One more limit counts, and takes the place of the one that counted for its target. -/
theorem inForce_concat_iff :
    InForce (row ++ [last]) d ↔ d = last ∨ InForce row d ∧ last.target ≠ d.target := by
  constructor
  · rintro ⟨before, after, hrow, hafter⟩
    obtain rfl | ⟨after, e, rfl⟩ := List.eq_nil_or_concat after
    · obtain ⟨-, hlast⟩ := List.append_inj' hrow rfl
      exact .inl (List.cons.inj hlast).1.symm
    · rw [List.concat_eq_append] at hafter
      rw [List.concat_eq_append, ← List.cons_append, ← List.append_assoc] at hrow
      obtain ⟨rfl, hlast⟩ := List.append_inj' hrow rfl
      obtain ⟨rfl, -⟩ := List.cons.inj hlast
      exact .inr ⟨⟨before, after, rfl, fun later h => hafter later (List.mem_append_left _ h)⟩,
        hafter last (by simp)⟩
  · rintro (rfl | ⟨⟨before, after, rfl, hafter⟩, hlast⟩)
    · exact ⟨row, [], rfl, by simp⟩
    · refine ⟨before, after ++ [last], by simp, fun later h => ?_⟩
      obtain h | h := List.mem_append.mp h
      · exact hafter later h
      · rwa [List.mem_singleton.mp h]

/-- Of two rows one after the other the first counts where the second has nothing to say. -/
theorem inForce_append_iff :
    InForce (row ++ row') d ↔
      InForce row' d ∨ InForce row d ∧ ∀ later ∈ row', later.target ≠ d.target := by
  induction row' using List.reverseRecOn generalizing d with
  | nil => simp [not_inForce_nil]
  | append_singleton row' last ih =>
    rw [← List.append_assoc, inForce_concat_iff, ih, inForce_concat_iff, List.forall_mem_append,
      List.forall_mem_singleton]
    tauto

/-- A limit in front of another one for its target does not count. -/
theorem inForce_cons_iff (h : ∃ e ∈ row, e.target = last.target) :
    InForce (last :: row) d ↔ InForce row d := by
  obtain ⟨e, he, htarget⟩ := h
  rw [← List.singleton_append, inForce_append_iff]
  refine or_iff_left ?_
  rintro ⟨hd, hothers⟩
  have hlast : d = last := List.mem_singleton.mp hd.mem
  exact hothers e he (htarget.trans (hlast ▸ rfl))

/-- A limit counts among those for certain targets if it counts among all. -/
theorem inForce_filter_iff {p : String → Bool} (hd : p d.target = true) :
    InForce (row.filter fun e => p e.target) d ↔ InForce row d := by
  induction row using List.reverseRecOn with
  | nil => rfl
  | append_singleton row last ih =>
    rw [List.filter_append, inForce_concat_iff]
    by_cases hlast : p last.target = true
    · rw [List.filter_singleton, hlast, cond_true, inForce_concat_iff, ih]
    · have hne : last.target ≠ d.target := fun h => hlast (h ▸ hd)
      have hother : d ≠ last := fun h => hne (h ▸ rfl)
      rw [List.filter_singleton, Bool.eq_false_of_not_eq_true hlast, cond_false, List.append_nil,
        ih]
      exact ⟨fun h => .inr ⟨h, hne⟩, fun h => (h.resolve_left hother).1⟩

/-- Some limit counts for each target in a row. -/
theorem exists_inForce (h : d ∈ row) : ∃ e, InForce row e ∧ e.target = d.target := by
  induction row using List.reverseRecOn with
  | nil => exact absurd h List.not_mem_nil
  | append_singleton row last ih =>
    by_cases hlast : last.target = d.target
    · exact ⟨last, inForce_concat_iff.mpr (.inl rfl), hlast⟩
    · obtain h | h := List.mem_append.mp h
      · obtain ⟨e, he, htarget⟩ := ih h
        exact ⟨e, inForce_concat_iff.mpr (.inr ⟨he, htarget ▸ hlast⟩), htarget⟩
      · exact absurd (List.mem_singleton.mp h ▸ rfl) hlast

/-- At most one limit counts for a target. -/
theorem InForce.unique (hd : InForce row d) (he : InForce row e) (h : d.target = e.target) :
    d = e := by
  induction row using List.reverseRecOn with
  | nil => exact absurd hd not_inForce_nil
  | append_singleton row last ih =>
    obtain rfl | ⟨hd, hlast⟩ := inForce_concat_iff.mp hd
    · obtain rfl | ⟨-, hlast⟩ := inForce_concat_iff.mp he
      · rfl
      · exact absurd h hlast
    · obtain rfl | ⟨he, -⟩ := inForce_concat_iff.mp he
      · exact absurd h.symm hlast
      · exact ih hd he

/-- Two targets that begin a third are the same if they are equally long. -/
theorem eq_of_begin (hd : d.target.toList <+: target.toList)
    (he : e.target.toList <+: target.toList) (h : d.target.length = e.target.length) :
    d.target = e.target := by
  rw [← String.length_toList, ← String.length_toList] at h
  exact String.toList_inj.mp ((List.prefix_of_prefix_length_le hd he h.le).eq_of_length h)

/-- At most one limit decides about a target. -/
theorem Decides.unique (hd : Decides row target d) (he : Decides row target e) : d = e := by
  have hlength : d.target.length = e.target.length :=
    Nat.le_antisymm (he.longest d hd.inForce hd.begins) (hd.longest e he.inForce he.begins)
  exact hd.inForce.unique he.inForce (eq_of_begin hd.begins he.begins hlength)

/-- Some limit decides about every target, if there is one for everything. -/
theorem exists_decides (hall : ∃ d ∈ row, d.target = "") (target : String) :
    ∃ d, Decides row target d := by
  classical
  obtain ⟨everything, hmem, hempty⟩ := hall
  obtain ⟨default, hdefault, htarget⟩ := exists_inForce hmem
  let counting := row.toFinset.filter fun d =>
    InForce row d ∧ d.target.toList <+: target.toList
  have hcounting (d : Limit) :
      d ∈ counting ↔ InForce row d ∧ d.target.toList <+: target.toList := by
    rw [Finset.mem_filter, List.mem_toFinset]
    exact and_iff_right_of_imp fun h => h.1.mem
  have hsome : counting.Nonempty :=
    ⟨default, (hcounting default).mpr ⟨hdefault, by simp [htarget, hempty]⟩⟩
  obtain ⟨d, hd, hlongest⟩ := counting.exists_max_image (fun d => d.target.length) hsome
  obtain ⟨hforce, hbegins⟩ := (hcounting d).mp hd
  exact ⟨d, hforce, hbegins, fun other ho hb => hlongest other ((hcounting other).mpr ⟨ho, hb⟩)⟩

/-- The same limits decide in rows in which the same ones count. -/
theorem decides_congr (h : ∀ d, InForce row d ↔ InForce row' d) :
    Decides row target d ↔ Decides row' target d := by
  have hcount : InForce row = InForce row' := funext fun d => propext (h d)
  constructor
  · rintro ⟨hforce, hbegins, hlongest⟩
    exact ⟨hcount ▸ hforce, hbegins, hcount ▸ hlongest⟩
  · rintro ⟨hforce, hbegins, hlongest⟩
    exact ⟨hcount ▸ hforce, hbegins, hcount ▸ hlongest⟩

end Limit

open Limit (InForce Decides)

/-! ## Libraries of filters -/

/-- The texts an environment variable gives to a filter. -/
def variableTexts (variableText : Option String) : List String :=
  Text.textSegments ',' (variableText.getD "")

/-- The texts some settings give to a filter. -/
def settingsTexts (s : LogSettings) : List String :=
  s.filter.elim [] fun text => (Text.textSegments ',' text).map Text.trimText

namespace FilterLibrary

/-- A view of the directives and the filters of a library, as far as they are about nothing but
targets and levels. -/
structure View [FilterLibrary] where
  /-- The limit of a directive, if it is about nothing else. -/
  limit? : Rule → Option Limit
  /-- Whether all directives of a filter are of this kind. -/
  IsPlain : Filter → Prop
  /-- Whether a limit is in force in a filter. -/
  Holds : Filter → Limit → Prop

variable [FilterLibrary]

/-- The texts that a library can read. -/
def readable (texts : List String) : List String :=
  texts.filter fun text => (parse text).isSome

/-- The limits that stand in some texts, in their order: each text is a level, a target or both, or
it cannot be read. -/
inductive Listed : List String → List Limit → Prop where
  | nil : Listed [] []
  | spelled {text : String} {d : Limit} {texts : List String} {row : List Limit}
      (h : Directive.Spelled text d.directive) (rest : Listed texts row) :
      Listed (text :: texts) (d :: row)
  | unread {text : String} {texts : List String} {row : List Limit}
      (h : parse text = none) (rest : Listed texts row) : Listed (text :: texts) row

namespace View

variable (v : View)

/-- The limits that are read from some texts. -/
def limits (texts : List String) : List Limit :=
  texts.filterMap fun text => (parse text).bind v.limit?

/-- Each of some texts is a directive about a target and a level, or cannot be read. -/
def Plain (texts : List String) : Prop :=
  ∀ text ∈ texts, ∀ rule, parse text = some rule → (v.limit? rule).isSome

/-- What is relied on of a library of filters. -/
structure Lawful : Prop where
  /-- A level, a target, and both with an equals sign between them are directives. -/
  spelled : ∀ text d, Directive.Spelled text (Limit.directive d) →
    (parse text).bind v.limit? = some d
  /-- A text of blanks is none. -/
  blank : ∀ text, Text.isBlankText text = true → parse text = none
  /-- The directive of a level has the empty target. -/
  ofLevel : ∀ level, v.limit? (FilterLibrary.ofLevel level) = some ⟨"", some level⟩
  /-- From an environment variable all directives are taken that can be read, the last one for each
  target; for everything there may be another if there are none. -/
  ofVariable : ∀ variableText, v.Plain (variableTexts variableText) →
    v.IsPlain (FilterLibrary.ofVariable variableText) ∧
      ∀ d : Limit, d.target ≠ "" → (v.Holds (FilterLibrary.ofVariable variableText) d ↔
        InForce (v.limits (variableTexts variableText)) d)
  /-- A directive that is added takes the place of the one with its target. -/
  addRule : ∀ f rule d, v.IsPlain f → v.limit? rule = some d →
    v.IsPlain (FilterLibrary.addRule f rule) ∧
      ∀ e, v.Holds (FilterLibrary.addRule f rule) e ↔ e = d ∨ v.Holds f e ∧ d.target ≠ e.target
  /-- Of the targets that begin the one of a report the longest decides. -/
  allowsInside : ∀ f d target, v.IsPlain f → v.Holds f d → d.target.toList <+: target.toList →
    (∀ e, v.Holds f e → e.target.toList <+: target.toList →
      e.target.length ≤ d.target.length) →
    ∀ span level fields,
      FilterLibrary.allowsInside f span level target fields = d.allows level

variable {v} {f : Filter} {row : List Limit}

/-- A text with a limit is read before the others. -/
theorem limits_cons_of_some {text : String} {d : Limit} (h : (parse text).bind v.limit? = some d)
    (texts : List String) : v.limits (text :: texts) = d :: v.limits texts := by
  rw [limits, List.filterMap_cons, h]
  rfl

/-- A text that cannot be read is left out. -/
theorem limits_cons_of_none {text : String} (h : parse text = none) (texts : List String) :
    v.limits (text :: texts) = v.limits texts := by
  rw [limits, List.filterMap_cons, h]
  rfl

/-- A filter in which the limits of a row are in force. -/
structure Keeps (v : View) (f : Filter) (row : List Limit) : Prop where
  plain : v.IsPlain f
  holds : ∀ d, v.Holds f d ↔ InForce row d

/-- One more directive is one more limit at the end of the row. -/
theorem Keeps.addRule (hv : v.Lawful) (h : v.Keeps f row) {rule : Rule} {d : Limit}
    (hd : v.limit? rule = some d) : v.Keeps (FilterLibrary.addRule f rule) (row ++ [d]) := by
  obtain ⟨hplain, hholds⟩ := hv.addRule f rule d h.plain hd
  refine ⟨hplain, fun e => ?_⟩
  rw [hholds, h.holds, Limit.inForce_concat_iff]

/-- So are the directives of some texts, one after another; what cannot be read is left out. -/
theorem Keeps.foldl_addText (hv : v.Lawful) (h : v.Keeps f row) {texts : List String}
    (htexts : v.Plain texts) :
    v.Keeps (texts.foldl LogSettings.addText f) (row ++ v.limits texts) := by
  induction texts generalizing f row with
  | nil =>
    rw [limits, List.filterMap_nil, List.append_nil]
    exact h
  | cons text texts ih =>
    obtain ⟨htext, htexts⟩ := List.forall_mem_cons.mp htexts
    rw [List.foldl_cons, LogSettings.addText]
    cases hread : parse text with
    | none =>
      rw [limits_cons_of_none hread]
      exact ih h htexts
    | some rule =>
      obtain ⟨d, hd⟩ := Option.isSome_iff_exists.mp (htext rule hread)
      rw [limits_cons_of_some (by rw [hread, Option.bind_some, hd]), List.append_cons]
      exact ih (h.addRule hv hd) htexts

/-- Once there is a level for everything, the limits of the variable are in force but for those
that are for everything themselves. -/
theorem keeps_ofVariable (hv : v.Lawful) {variableText : Option String}
    (hvariable : v.Plain (variableTexts variableText)) (level : Level) :
    v.Keeps
      (FilterLibrary.addRule (FilterLibrary.ofVariable variableText) (FilterLibrary.ofLevel level))
      (v.limits (variableTexts variableText) ++ [⟨"", some level⟩]) := by
  obtain ⟨hplain, hholds⟩ := hv.ofVariable variableText hvariable
  obtain ⟨hplain', hholds'⟩ := hv.addRule _ _ _ hplain (hv.ofLevel level)
  refine ⟨hplain', fun e => ?_⟩
  rw [hholds', Limit.inForce_concat_iff]
  exact or_congr_right (and_congr_left fun hne => hholds e (Ne.symm hne))

/-- The limit that decides says what is let through. -/
theorem Keeps.allowsInside_eq (hv : v.Lawful) (h : v.Keeps f row) {target : String} {d : Limit}
    (hd : Decides row target d) (span : Option CallSpan) (level : Level) (fields : List String) :
    FilterLibrary.allowsInside f span level target fields = d.allows level := by
  refine hv.allowsInside f d target h.plain ((h.holds d).mpr hd.inForce) hd.begins ?_ span level
    fields
  exact fun e he hbegins => hd.longest e ((h.holds e).mp he) hbegins

/-- Filters in which the same limits count let through the same. -/
theorem Keeps.allowsInside_congr (hv : v.Lawful) {f' : Filter} {row' : List Limit}
    (h : v.Keeps f row) (h' : v.Keeps f' row') (hall : ∃ d ∈ row, d.target = "")
    (hcount : ∀ d, InForce row d ↔ InForce row' d) :
    FilterLibrary.allowsInside f = FilterLibrary.allowsInside f' := by
  funext span level target fields
  obtain ⟨d, hd⟩ := Limit.exists_decides hall target
  rw [h.allowsInside_eq hv hd, h'.allowsInside_eq hv ((Limit.decides_congr hcount).mp hd)]

/-- What stands in some texts is what is read from them. -/
theorem plain_of_listed (hv : v.Lawful) {texts : List String} (h : Listed texts row) :
    v.Plain texts ∧ v.limits texts = row := by
  induction h with
  | nil => exact ⟨fun text hmem => absurd hmem List.not_mem_nil, rfl⟩
  | spelled h _ ih =>
    have hread := hv.spelled _ _ h
    refine ⟨List.forall_mem_cons.mpr ⟨fun rule hrule => ?_, ih.1⟩, ?_⟩
    · rw [hrule, Option.bind_some] at hread
      rw [hread, Option.isSome_some]
    · rw [limits_cons_of_some hread, ih.2]
  | unread h _ ih =>
    refine ⟨List.forall_mem_cons.mpr ⟨fun rule hrule => ?_, ih.1⟩, ?_⟩
    · cases h.symm.trans hrule
    · rw [limits_cons_of_none h, ih.2]

/-- What cannot be read has no limit. -/
theorem limits_readable (texts : List String) : v.limits (readable texts) = v.limits texts := by
  rw [limits, readable, List.filterMap_filter, limits]
  refine List.filterMap_congr fun text _ => ?_
  cases parse text <;> rfl

/-- It does not matter to the kind of the others either. -/
theorem plain_readable {texts : List String} : v.Plain (readable texts) ↔ v.Plain texts := by
  refine ⟨fun h text hmem rule hread => h text ?_ rule hread,
    fun h text hmem => h text (List.mem_of_mem_filter hmem)⟩
  exact List.mem_filter.mpr ⟨hmem, by rw [hread, Option.isSome_some]⟩

end View

end FilterLibrary

/-! ## The filter of a log -/

namespace LogSettings

open FilterLibrary

variable [FilterLibrary] {v : View} {variableText : Option String} {s : LogSettings}

/-- Nothing is lost with the texts of blanks. -/
theorem foldl_directiveTexts (hv : v.Lawful) (s : LogSettings) (f : FilterLibrary.Filter) :
    s.directiveTexts.foldl addText f = (settingsTexts s).foldl addText f := by
  have hskip (texts : List String) (f : FilterLibrary.Filter) :
      (texts.filter fun piece => piece ≠ "").foldl addText f = texts.foldl addText f := by
    induction texts generalizing f with
    | nil => rfl
    | cons text texts ih =>
      by_cases hempty : text = ""
      · have hread : addText f text = f := by
          rw [addText, hempty, hv.blank "" rfl]
        rw [List.filter_cons_of_neg (by simp [hempty]), ih, List.foldl_cons, hread]
      · rw [List.filter_cons_of_pos (by simp [hempty]), List.foldl_cons, List.foldl_cons, ih]
  rw [directiveTexts, settingsTexts]
  cases s.filter with
  | none => rfl
  | some text => exact hskip _ f

/-- In the filter of a variable and of settings all of their limits are in force, in their order,
with the level of the settings between them. -/
theorem keeps_buildFilter (hv : v.Lawful) (hvariable : v.Plain (variableTexts variableText))
    (hsettings : v.Plain (settingsTexts s)) :
    v.Keeps (s.buildFilter variableText)
      (v.limits (variableTexts variableText) ++
        ⟨"", some s.level⟩ :: v.limits (settingsTexts s)) := by
  rw [buildFilter, foldl_directiveTexts hv, List.append_cons]
  exact (View.keeps_ofVariable hv hvariable s.level).foldl_addText hv hsettings

/-- The limits that are in force are those that stand in the texts. -/
theorem keeps_of_listed (hv : v.Lawful) {named own : List Limit}
    (hvariable : Listed (variableTexts variableText) named)
    (hsettings : Listed (settingsTexts s) own) :
    v.Keeps (s.buildFilter variableText) (named ++ ⟨"", some s.level⟩ :: own) := by
  obtain ⟨hplain, rfl⟩ := View.plain_of_listed hv hvariable
  obtain ⟨hplain', rfl⟩ := View.plain_of_listed hv hsettings
  exact keeps_buildFilter hv hplain hplain'

end LogSettings

/-! ## The filters of this project -/

namespace Filter

open Directive FilterLibrary

/-- The directive of a limit as it is read. -/
def ruleOfLimit (d : Limit) : FilterRule :=
  .ofDirective d.directive

/-- A filter without scopes and fields, with one directive for each target. -/
structure Plain (f : Filter) : Prop where
  scopes : f.scopes = []
  fields : ∀ d ∈ f.directives, d.field = none
  unique : ∀ d ∈ f.directives, ∀ e ∈ f.directives, d.target = e.target → d = e

/-- The directives without scopes, and the filters made of them. -/
def view : View where
  limit? rule := if rule.scope?.isNone then some ⟨rule.scope.target, rule.level⟩ else none
  IsPlain := Plain
  Holds f d := d.directive ∈ f.directives

variable {f : Filter} {d e : Limit} {row : List Limit}

/-- Different limits have different directives. -/
theorem directive_inj : d.directive = e.directive ↔ d = e := by
  obtain ⟨target, level⟩ := d
  obtain ⟨target', level'⟩ := e
  simp [Limit.directive]

/-- A directive has a limit if it has no scope. -/
theorem limit?_eq_some_iff {rule : FilterRule} :
    view.limit? rule = some d ↔ rule = ruleOfLimit d := by
  obtain ⟨⟨target, span, field⟩, level⟩ := rule
  obtain ⟨target', level'⟩ := d
  cases span <;> cases field <;>
    simp [view, FilterRule.scope?, ruleOfLimit, FilterRule.ofDirective, Limit.directive]

/-- A directive without a scope is read from the texts that are written as one. -/
theorem parse_bind_limit?_iff {text : String} :
    (FilterLibrary.parse text).bind view.limit? = some d ↔ Spelled text d.directive := by
  constructor
  · intro h
    obtain ⟨rule, hread, hd⟩ := Option.bind_eq_some_iff.mp h
    obtain rfl := limit?_eq_some_iff.mp hd
    obtain ⟨d', hspelled, hrule⟩ := FilterRule.parse_eq_ok_iff.mp ⟨eq_ok_of_toOption hread, rfl⟩
    have hlimit : d' = d.directive := by
      obtain ⟨target, field, level⟩ := d'
      have hfield : field = none := by cases hspelled <;> rfl
      cases hrule
      rw [hfield]
      rfl
    rwa [← hlimit]
  · intro h
    have hread := (FilterRule.parse_eq_ok_iff.mpr ⟨_, h, rfl⟩).1
    exact Option.bind_eq_some_iff.mpr
      ⟨_, congrArg Except.toOption hread, limit?_eq_some_iff.mpr rfl⟩

/-- A text of blanks is no directive. -/
theorem parse_of_isBlankText {text : String} (h : Text.isBlankText text = true) :
    FilterRule.parse text = .error .malformed := by
  have htrim : Text.trim text.toList = [] := Text.trim_eq_nil_iff.mpr h
  have hempty : Text.trim text.toList = [] ++ [] := htrim
  rw [FilterRule.parse_of_not_bracket hempty (by simp) (by simp), Directive.parse, htrim]
  rfl

/-! ### Directives that are added -/

/-- A directive that is added takes the place of the one with its target. -/
theorem mem_addDirective_iff :
    e.directive ∈ (f.addDirective d.directive).directives ↔
      e = d ∨ e.directive ∈ f.directives ∧ d.target ≠ e.target := by
  change e.directive ∈ d.directive :: List.filter _ _ ↔ _
  rw [List.mem_cons, directive_inj, List.mem_filter, decide_eq_true_iff]
  refine or_congr_right (and_congr_right fun _ => ?_)
  simp [Limit.directive, eq_comm]

/-- A plain filter stays plain. -/
theorem Plain.addDirective (h : f.Plain) (d : Limit) : (f.addDirective d.directive).Plain := by
  have hothers (x : Directive) (hx : x ∈ (f.addDirective d.directive).directives) :
      x = d.directive ∨ x ∈ f.directives ∧ x.target ≠ d.target := by
    obtain rfl | hx := List.mem_cons.mp hx
    · exact .inl rfl
    · obtain ⟨hmem, hne⟩ := List.mem_filter.mp hx
      exact .inr ⟨hmem, (of_decide_eq_true hne).resolve_right fun hfield =>
        hfield (h.fields x hmem)⟩
  refine ⟨h.scopes, fun x hx => ?_, fun x hx y hy htarget => ?_⟩
  · obtain rfl | ⟨hmem, -⟩ := hothers x hx
    · rfl
    · exact h.fields x hmem
  · obtain rfl | ⟨hx, hxd⟩ := hothers x hx
    · obtain rfl | ⟨-, hyd⟩ := hothers y hy
      · rfl
      · exact absurd htarget.symm hyd
    · obtain rfl | ⟨hy, -⟩ := hothers y hy
      · exact absurd htarget hxd
      · exact h.unique x hx y hy htarget

/-- In a filter that is made of directives for some limits these are in force. -/
theorem keeps_foldl (row : List Limit) :
    view.Keeps (row.foldl (fun f d => f.addDirective d.directive) empty) row := by
  induction row using List.reverseRecOn with
  | nil => exact ⟨⟨rfl, by simp [empty], by simp [empty]⟩, fun d => iff_of_false
      (List.not_mem_nil (a := d.directive)) Limit.not_inForce_nil⟩
  | append_singleton row last ih =>
    rw [List.foldl_append]
    refine ⟨Plain.addDirective ih.plain last, fun d => ?_⟩
    rw [Limit.inForce_concat_iff, ← ih.holds]
    exact mem_addDirective_iff

/-! ### The environment variable -/

/-- From texts that are directives without scopes, or cannot be read, their limits are read. -/
theorem filterMap_variablePieces {variableText : Option String}
    (h : view.Plain (variableTexts variableText)) :
    ((variablePieces (variableText.getD "")).filterMap fun p => p.2.toOption) =
      (view.limits (variableTexts variableText)).map ruleOfLimit := by
  rw [variablePieces, List.filterMap_map, List.filterMap_filter, View.limits, List.map_filterMap]
  refine List.filterMap_congr fun text hmem => ?_
  by_cases hempty : text = ""
  · rw [hempty]
    rfl
  · have hkept : decide (text ≠ "") = true := decide_eq_true hempty
    simp only [hkept, if_true, Function.comp_apply]
    cases hread : FilterRule.parse text with
    | error e =>
      have hnone : FilterLibrary.parse text = none := congrArg Except.toOption hread
      rw [hnone]
      rfl
    | ok rule =>
      have hsome : FilterLibrary.parse text = some rule := congrArg Except.toOption hread
      obtain ⟨d, hd⟩ := Option.isSome_iff_exists.mp (h text hmem rule hsome)
      rw [hsome, Option.bind_some, hd, limit?_eq_some_iff.mp hd]
      rfl

/-- The filter of a variable has the limits of its texts in force, and another one for everything
if there are none. -/
theorem holds_ofVariable {variableText : Option String}
    (h : view.Plain (variableTexts variableText)) :
    (ofVariable variableText).Plain ∧ ∀ d : Limit, d.target ≠ "" →
      (view.Holds (ofVariable variableText) d ↔
        InForce (view.limits (variableTexts variableText)) d) := by
  rw [ofVariable, filterMap_variablePieces h]
  generalize view.limits (variableTexts variableText) = row
  cases row with
  | nil =>
    have hkeeps := keeps_foldl [⟨"", some .error⟩]
    refine ⟨hkeeps.plain, fun d htarget => ?_⟩
    refine (hkeeps.holds d).trans (iff_of_false (fun hd => ?_) Limit.not_inForce_nil)
    exact htarget (congrArg Limit.target (List.mem_singleton.mp hd.mem))
  | cons d row =>
    have hkeeps := keeps_foldl (d :: row)
    have hfold : ((d :: row).map ruleOfLimit).foldl addFromVariable empty =
        (d :: row).foldl (fun f d => f.addDirective d.directive) empty := List.foldl_map
    simp only [List.map_cons, reduceCtorEq, if_false]
    rw [← List.map_cons, hfold]
    exact ⟨hkeeps.plain, fun d _ => hkeeps.holds d⟩

/-! ### What is let through -/

/-- A directive without a field is about everything its target begins, whatever the fields. -/
theorem covers_iff {d : Directive} (hd : d.field = none) (target : String) (fields : List String) :
    d.covers target (some fields) = true ↔ d.target.toList <+: target.toList := by
  simp [covers, hd]

/-- Of two directives without fields the first with the longest target is kept. -/
theorem exists_finer (best : Directive) {next : Directive} (hnext : next.field = none) :
    ∃ d, finer (some best) next = some d ∧ (d = best ∨ d = next) ∧
      best.target.length ≤ d.target.length ∧ next.target.length ≤ d.target.length := by
  have hfiner : next.isMoreSpecific best = decide (best.target.length < next.target.length) := by
    simp [isMoreSpecific, isFinerField, hnext]
  rw [finer, hfiner]
  by_cases hlonger : best.target.length < next.target.length
  · exact ⟨next, if_pos (decide_eq_true hlonger), .inr rfl, hlonger.le, Nat.le_refl _⟩
  · exact ⟨best, if_neg (mt of_decide_eq_true hlonger), .inl rfl, Nat.le_refl _,
      Nat.le_of_not_lt hlonger⟩

/-- Of a row of directives without fields one with the longest target is kept. -/
theorem exists_foldl_finer (best : Directive) {row : List Directive}
    (hrow : ∀ d ∈ row, d.field = none) :
    ∃ d, row.foldl finer (some best) = some d ∧ d ∈ best :: row ∧
      ∀ other ∈ best :: row, other.target.length ≤ d.target.length := by
  induction row generalizing best with
  | nil => exact ⟨best, rfl, List.mem_singleton_self best, by simp⟩
  | cons next row ih =>
    obtain ⟨hnext, hrow⟩ := List.forall_mem_cons.mp hrow
    obtain ⟨longer, hfiner, hlonger, hbest, hnext⟩ := exists_finer best hnext
    obtain ⟨d, hd, hmem, hlongest⟩ := ih longer hrow
    rw [List.foldl_cons, hfiner]
    obtain ⟨hlongest, hothers⟩ := List.forall_mem_cons.mp hlongest
    refine ⟨d, hd, ?_, ?_⟩
    · obtain rfl | hmem := List.mem_cons.mp hmem
      · obtain rfl | rfl := hlonger <;> simp
      · exact List.mem_cons_of_mem best (List.mem_cons_of_mem next hmem)
    · rw [List.forall_mem_cons, List.forall_mem_cons]
      exact ⟨hbest.trans hlongest, hnext.trans hlongest, hothers⟩

/-- In a plain filter the longest target that covers another one decides about it. -/
theorem Plain.decisive_eq (h : f.Plain) {d : Directive} {target : String} (fields : List String)
    (hmem : d ∈ f.directives) (hbegins : d.target.toList <+: target.toList)
    (hlongest : ∀ e ∈ f.directives, e.target.toList <+: target.toList →
      e.target.length ≤ d.target.length) :
    f.decisive target (some fields) = some d := by
  have hcovering (e : Directive) :
      e ∈ f.directives.filter (·.covers target (some fields)) ↔
        e ∈ f.directives ∧ e.target.toList <+: target.toList := by
    rw [List.mem_filter]
    exact and_congr_right fun he => covers_iff (h.fields e he) target fields
  have hd := (hcovering d).mpr ⟨hmem, hbegins⟩
  rw [decisive]
  generalize List.filter _ _ = covering at hcovering hd ⊢
  cases covering with
  | nil => exact absurd hd List.not_mem_nil
  | cons best covering =>
    have hfields (e : Directive) (he : e ∈ covering) : e.field = none :=
      h.fields e ((hcovering e).mp (List.mem_cons_of_mem best he)).1
    obtain ⟨e, he, hmem', hlongest'⟩ := exists_foldl_finer best hfields
    obtain ⟨hmem', hbegins'⟩ := (hcovering e).mp hmem'
    have hlength : e.target.length = d.target.length :=
      Nat.le_antisymm (hlongest e hmem' hbegins') (hlongest' d hd)
    have htarget : e.target = d.target :=
      Limit.eq_of_begin (d := ⟨e.target, e.level⟩) (e := ⟨d.target, d.level⟩) hbegins' hbegins
        hlength
    exact he.trans (congrArg some (h.unique e hmem' d hmem htarget))

/-- A plain filter lets through what the directive does that decides. -/
theorem Plain.allowsInside_eq (h : f.Plain) {target : String} (hmem : d.directive ∈ f.directives)
    (hbegins : d.target.toList <+: target.toList)
    (hlongest : ∀ e : Limit, e.directive ∈ f.directives → e.target.toList <+: target.toList →
      e.target.length ≤ d.target.length)
    (span : Option CallSpan) (level : Level) (fields : List String) :
    f.allowsInside span level target fields = d.allows level := by
  have hdecisive : f.decisive target (some fields) = some d.directive := by
    refine h.decisive_eq fields hmem hbegins fun e he hb => hlongest ⟨e.target, e.level⟩ ?_ hb
    rwa [Limit.directive, ← h.fields e he]
  have hopens (s : CallSpan) : f.opens s level = false := by
    rw [opens, h.scopes]
    rfl
  have hspan : (span.any fun s => f.opens s level) = false := by
    cases span with
    | none => rfl
    | some s => exact hopens s
  rw [allowsInside, allows, hdecisive, Option.any_some, hspan, Bool.or_false]
  rfl

/-- The filters of this project are a library of the kind that is relied on. -/
theorem view_lawful : view.Lawful where
  spelled _ _ h := parse_bind_limit?_iff.mpr h
  blank _ h := congrArg Except.toOption (parse_of_isBlankText h)
  ofLevel _ := rfl
  ofVariable _ := holds_ofVariable
  addRule f rule d hplain hd := by
    obtain rfl := limit?_eq_some_iff.mp hd
    exact ⟨Plain.addDirective hplain d, fun e => mem_addDirective_iff⟩
  allowsInside f d target hplain hd hbegins hlongest :=
    Plain.allowsInside_eq hplain hd hbegins hlongest

/-- What is read from texts that are directives without scopes, or cannot be read, stands in them. -/
theorem listed_limits {texts : List String} (h : view.Plain texts) :
    Listed texts (view.limits texts) := by
  induction texts with
  | nil => exact .nil
  | cons text texts ih =>
    obtain ⟨htext, htexts⟩ := List.forall_mem_cons.mp h
    cases hread : FilterLibrary.parse text with
    | none =>
      rw [View.limits_cons_of_none hread]
      exact .unread hread (ih htexts)
    | some rule =>
      obtain ⟨d, hd⟩ := Option.isSome_iff_exists.mp (htext rule hread)
      have hlimit : (FilterLibrary.parse text).bind view.limit? = some d := by
        rw [hread, Option.bind_some, hd]
      rw [View.limits_cons_of_some hlimit]
      exact .spelled (parse_bind_limit?_iff.mp hlimit) (ih htexts)

instance (texts : List String) : Decidable (view.Plain texts) :=
  decidable_of_iff
    (∀ text ∈ texts, ((FilterLibrary.parse text).all fun r => (view.limit? r).isSome) = true) <|
    forall₂_congr fun _ _ => Option.all_eq_true _ _

end Filter

end ObjectBridge
