/-! The fewest decimal digits that identify a binary floating-point value, chosen by exact integer
arithmetic on its mantissa and exponent. -/

namespace ThermalPrint.Decimal

/-- A positive value `mantissa * 2 ^ exponent` of a binary format. `narrow` says that the value
below is only half as far away as the value above, as it is at a power of two. -/
structure Binary where
  mantissa : Nat
  exponent : Int
  narrow : Bool
deriving DecidableEq, Repr

/-- The magnitude of a finite double; zero has mantissa zero. -/
def Binary.ofFloat (f : Float) : Binary :=
  let bits : Nat := f.toBits.toNat
  let fraction : Nat := bits % 0x10000000000000
  let field : Nat := bits / 0x10000000000000 % 0x800
  if field = 0 then ⟨fraction, -1074, false⟩
  else ⟨fraction + 0x10000000000000, (field : Int) - 1075, fraction = 0 ∧ field ≠ 1⟩

/-- A decimal value `digits * 10 ^ exponent`. -/
structure Digits where
  digits : Nat
  exponent : Int
deriving DecidableEq, Repr

/-- The order of `d * 10 ^ k` and `n * 2 ^ s`, by cross-multiplication. -/
def compareScaled (d : Nat) (k : Int) (n : Nat) (s : Int) : Ordering :=
  compare (d * Nat.pow 10 k.toNat * Nat.pow 2 (-s).toNat) (n * Nat.pow 2 s.toNat * Nat.pow 10 (-k).toNat)

namespace Binary

/-- Whether `d * 10 ^ k` reads back to the value: it lies between the two points halfway to the
neighbouring values, and on one of them only if the mantissa is even. -/
def identifiedBy (b : Binary) (d : Nat) (k : Int) : Bool :=
  let low := compareScaled d k (4 * b.mantissa - if b.narrow then 1 else 2) (b.exponent - 2)
  let high := compareScaled d k (4 * b.mantissa + 2) (b.exponent - 2)
  if b.mantissa % 2 = 0 then low != .lt && high != .gt else low == .gt && high == .lt

/-- The least `k` with the value below `10 ^ k`: an estimate from the binary logarithm, which is at
most one too small. -/
def scale (b : Binary) : Int :=
  let k := Int.fdiv (((Nat.log2 b.mantissa : Nat) + b.exponent) * 30103) 100000 + 1
  if compareScaled 1 k b.mantissa b.exponent == .gt then k else k + 1

/-- The greatest multiple of `10 ^ k` that the value reaches, as a multiple. -/
def floorAt (b : Binary) (k : Int) : Nat :=
  (b.mantissa * Nat.pow 2 b.exponent.toNat * Nat.pow 10 (-k).toNat) /
    (Nat.pow 10 k.toNat * Nat.pow 2 (-b.exponent).toNat)

/-- The multiple of `10 ^ k` beside the value that identifies it, if one does; of two the nearer,
and of two equally near the even one. -/
def nearestAt (b : Binary) (k : Int) : Option Nat :=
  let below := b.floorAt k
  match b.identifiedBy below k, b.identifiedBy (below + 1) k with
  | false, false => none
  | true, false => some below
  | false, true => some (below + 1)
  | true, true =>
    match compareScaled (2 * below + 1) k (2 * b.mantissa) b.exponent with
    | .gt => some below
    | .lt => some (below + 1)
    | .eq => some (if below % 2 = 0 then below else below + 1)

/-- Tries grids of one digit more each time, `fuel` of them, from `10 ^ k` on; the exact value when
none fits. -/
def search (b : Binary) : Nat → Int → Digits
  | 0, _ => ⟨b.mantissa * Nat.pow 2 b.exponent.toNat * Nat.pow 5 (-b.exponent).toNat, min b.exponent 0⟩
  | fuel + 1, k =>
    match b.nearestAt k with
    | some d => ⟨d, k⟩
    | none => b.search fuel (k - 1)

end Binary

/-- Moves up to `fuel` trailing zeros of the digits into the exponent. -/
def Digits.strip : Nat → Digits → Digits
  | 0, d => d
  | fuel + 1, d => if d.digits ≠ 0 ∧ d.digits % 10 = 0 then strip fuel ⟨d.digits / 10, d.exponent + 1⟩ else d

/-- The fewest digits that identify a positive value; seventeen always do. -/
def shortest (b : Binary) : Digits := (b.search 17 (b.scale - 1)).strip 20

example : shortest (.ofFloat 0.1) = ⟨1, -1⟩ ∧ shortest (.ofFloat 5e-324) = ⟨5, -324⟩ ∧
    shortest (.ofFloat (0.1 + 0.2)) = ⟨30000000000000004, -17⟩ := by decide +kernel

end ThermalPrint.Decimal
