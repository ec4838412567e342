/-!
# Ranges of code points

Properties of characters are given by tables of closed ranges of code points.
This module holds the shape of such a table and the membership test.

Main results:

- Theorem `Ranges.contains_iff`: the test finds exactly the characters of some
  range of the table.
-/

namespace ObjectBridge.Text

/-- A table of closed ranges of code points. -/
abbrev Ranges := List (Nat × Nat)

/-- Whether the code point of a character lies in some range of the table. -/
def Ranges.contains (table : Ranges) (c : Char) : Bool :=
  table.any fun range => range.1 ≤ c.toNat && c.toNat ≤ range.2

/-- The search for a character finds it exactly when one of the ranges holds it. -/
theorem Ranges.contains_iff {table : Ranges} {c : Char} :
    table.contains c = true ↔ ∃ range ∈ table, range.1 ≤ c.toNat ∧ c.toNat ≤ range.2 := by
  simp [Ranges.contains]

end ObjectBridge.Text
