/-!
# Segments between separators

Splitting a list at every occurrence of one separator, and joining the pieces
again.  Dotted names, path lists and filter texts are all read this way.

Main results:

- Theorem `joinSegments_segments`: joining the segments restores the list.
- Theorem `not_mem_of_mem_segments`: no segment holds the separator.
- Theorem `segments_ne_nil`: there is always at least one segment.
-/

namespace ObjectBridge.Text

variable {α : Type} [DecidableEq α]

/-- The pieces of a list between the occurrences of a separator. -/
def segments (separator : α) : List α → List (List α)
  | [] => [[]]
  | c :: cs =>
    if c = separator then [] :: segments separator cs
    else
      match segments separator cs with
      | [] => [[c]]
      | piece :: pieces => (c :: piece) :: pieces

/-- The pieces written one after the other with the separator between them. -/
def joinSegments (separator : α) : List (List α) → List α
  | [] => []
  | [piece] => piece
  | piece :: pieces => piece ++ separator :: joinSegments separator pieces

/-- The segments of a text. -/
def textSegments (separator : Char) (s : String) : List String :=
  (segments separator s.toList).map String.ofList

/-! ## Laws -/

/-- There is always at least one segment. -/
theorem segments_ne_nil (separator : α) (cs : List α) : segments separator cs ≠ [] := by
  cases cs with
  | nil => simp [segments]
  | cons c cs =>
    simp only [segments]
    split
    · simp
    · split <;> simp

/-- Joining the segments restores the list. -/
theorem joinSegments_segments (separator : α) (cs : List α) :
    joinSegments separator (segments separator cs) = cs := by
  induction cs with
  | nil => rfl
  | cons c cs ih =>
    simp only [segments]
    split
    · rename_i h
      cases hs : segments separator cs with
      | nil => exact absurd hs (segments_ne_nil _ _)
      | cons piece pieces => simp [joinSegments, ← hs, ih, h]
    · cases hs : segments separator cs with
      | nil => exact absurd hs (segments_ne_nil _ _)
      | cons piece pieces =>
        rw [hs] at ih
        cases pieces with
        | nil => simp_all [joinSegments]
        | cons next rest => simp_all [joinSegments]

/-- No segment contains the separator. -/
theorem not_mem_of_mem_segments {separator : α} {cs piece : List α}
    (h : piece ∈ segments separator cs) : separator ∉ piece := by
  induction cs generalizing piece with
  | nil => simp_all [segments]
  | cons c cs ih =>
    simp only [segments] at h
    split at h
    · rcases List.mem_cons.1 h with rfl | h
      · simp
      · exact ih h
    · rename_i hc
      split at h
      · rename_i hs
        exact absurd hs (segments_ne_nil _ _)
      · rename_i first rest hs
        rcases List.mem_cons.1 h with rfl | h
        · simp only [List.mem_cons, not_or]
          exact ⟨fun e => hc e.symm, ih (by simp [hs])⟩
        · exact ih (by simp [hs, h])

end ObjectBridge.Text
