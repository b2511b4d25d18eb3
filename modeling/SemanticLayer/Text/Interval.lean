/-!
# Sets of characters given by intervals

A character property of the Unicode standard is stored as the increasing list of its maximal
intervals of code points, and membership is a search through that list. A property's module holds
the table and gives it a name; nothing else looks inside a table.
-/

namespace SemanticLayer.Text

/-- A set of characters: inclusive code-point intervals, in increasing order. -/
abbrev Intervals := List (Nat × Nat)

namespace Intervals

/-- Whether a character lies in one of the intervals. -/
def contains (table : Intervals) (c : Char) : Bool :=
  table.any fun interval ↦ interval.1 ≤ c.toNat && c.toNat ≤ interval.2

theorem contains_iff {table : Intervals} {c : Char} :
    table.contains c = true ↔ ∃ interval ∈ table, interval.1 ≤ c.toNat ∧ c.toNat ≤ interval.2 := by
  simp [contains]

end Intervals

end SemanticLayer.Text
