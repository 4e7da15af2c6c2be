/-!
# Ranges of characters

A property of characters given as a table of closed ranges of code points.
-/

namespace Conform.Text

/-- Closed ranges of code points. -/
abbrev Ranges := List (Nat × Nat)

/-- One of the ranges holds the character. -/
def Ranges.has (table : Ranges) (c : Char) : Bool :=
  table.any fun (first, last) => first ≤ c.toNat && c.toNat ≤ last

theorem Ranges.has_iff {table : Ranges} {c : Char} :
    table.has c = true ↔ ∃ r ∈ table, r.1 ≤ c.toNat ∧ c.toNat ≤ r.2 := by
  simp [Ranges.has]

end Conform.Text
