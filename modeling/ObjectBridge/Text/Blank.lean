import ObjectBridge.Text.Ranges

/-!
# Blank characters and trimming

The blank characters are those with the White_Space property.  Names given by
a caller count as missing when nothing but blanks is left of them.

Main results:

- Definition `trimText`: a text without the blanks at its ends.
- Theorem `trim_eq_nil_iff`: trimming leaves nothing exactly when every
  character is blank.
-/

namespace ObjectBridge.Text

/-- The code points with the White_Space property. -/
def blankRanges : Ranges :=
  [(9, 13), (32, 32), (133, 133), (160, 160), (5760, 5760), (8192, 8202), (8232, 8233),
    (8239, 8239), (8287, 8287), (12288, 12288)]

/-- Whether a character has the White_Space property. -/
def isBlank (c : Char) : Bool :=
  blankRanges.contains c

/-- The characters left after blanks are dropped from both ends. -/
def trim (cs : List Char) : List Char :=
  ((cs.dropWhile isBlank).reverse.dropWhile isBlank).reverse

/-- A text without the blanks at its ends. -/
def trimText (s : String) : String :=
  String.ofList (trim s.toList)

/-- Whether a text is empty or holds blank characters only. -/
def isBlankText (s : String) : Bool :=
  s.toList.all isBlank

/-! ## Laws -/

/-- Dropping from the front leaves nothing of a list of which every item is to be dropped. -/
private theorem dropWhile_eq_nil_iff_all {p : Char → Bool} {cs : List Char} :
    cs.dropWhile p = [] ↔ cs.all p = true := by
  induction cs with
  | nil => simp
  | cons c cs ih => by_cases h : p c <;> simp [h, ih]

/-- Trimming leaves nothing exactly when every character is blank. -/
theorem trim_eq_nil_iff {cs : List Char} : trim cs = [] ↔ cs.all isBlank = true := by
  constructor
  · intro h
    have h' : (cs.dropWhile isBlank).all isBlank = true := by
      have := (List.reverse_eq_nil_iff.1 h)
      rw [dropWhile_eq_nil_iff_all] at this
      simpa using this
    clear h
    induction cs with
    | nil => rfl
    | cons c cs ih =>
      by_cases hc : isBlank c
      · rw [List.dropWhile_cons_of_pos hc] at h'
        simp [hc, ih h']
      · rw [List.dropWhile_cons_of_neg hc] at h'
        exact h'
  · intro h
    have : cs.dropWhile isBlank = [] := dropWhile_eq_nil_iff_all.2 h
    simp [trim, this]

end ObjectBridge.Text
