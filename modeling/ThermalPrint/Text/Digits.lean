/-! Unsigned decimal numbers written with ASCII digits. -/

namespace ThermalPrint.Text

/-- The value of a run of digits, most significant first. -/
def digitsValue (cs : List Char) : Nat :=
  cs.foldl (fun n c => 10 * n + (c.toNat - '0'.toNat)) 0

/-- A run of digits that is not empty. -/
def isDigits (cs : List Char) : Bool := !cs.isEmpty && cs.all Char.isDigit

theorem isDigits_iff {cs : List Char} : isDigits cs = true ↔ cs ≠ [] ∧ ∀ c ∈ cs, c.isDigit = true := by
  simp [isDigits]

/-- The number that a run of digits writes, with any leading zeros, if it is below `limit`. -/
def readBelow (limit : Nat) (cs : List Char) : Option Nat :=
  if isDigits cs ∧ digitsValue cs < limit then some (digitsValue cs) else none

theorem readBelow_eq_some_iff {limit n : Nat} {cs : List Char} :
    readBelow limit cs = some n ↔ isDigits cs = true ∧ digitsValue cs = n ∧ n < limit := by
  unfold readBelow
  split
  · next h =>
    simp only [Option.some.injEq]
    exact ⟨fun e => ⟨h.1, e, e ▸ h.2⟩, fun e => e.2.1⟩
  · next h =>
    simp only [reduceCtorEq, false_iff]
    rintro ⟨h₁, rfl, h₂⟩
    exact h ⟨h₁, h₂⟩

end ThermalPrint.Text
