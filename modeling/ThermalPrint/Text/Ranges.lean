/-! Sets of characters given as inclusive ranges of code points. -/

namespace ThermalPrint.Text

/-- Inclusive ranges of code points, ascending. -/
abbrev Ranges := List (Nat × Nat)

namespace Ranges

def contains (table : Ranges) (c : Char) : Bool :=
  table.any fun r => decide (r.1 ≤ c.toNat) && decide (c.toNat ≤ r.2)

theorem contains_iff {table : Ranges} {c : Char} :
    table.contains c = true ↔ ∃ r ∈ table, r.1 ≤ c.toNat ∧ c.toNat ≤ r.2 := by
  simp [contains]

end Ranges

end ThermalPrint.Text
