import ThermalPrint.Decimal.Layout

/-! The numbers of a JSON text. A numeral without fraction and exponent stays an integer as long as
64 bits hold it; every other numeral is a double, read from at most 64 bits of its digits. -/

namespace ThermalPrint.Json

/-- The integers that are kept exactly. -/
def Exact (n : Int) : Prop := -0x8000000000000000 ≤ n ∧ n < 0x10000000000000000

instance (n : Int) : Decidable (Exact n) := inferInstanceAs (Decidable (_ ∧ _))

inductive Number
  | integer (n : Int) (exact : Exact n)
  | float (f : Float)
deriving DecidableEq

/-- Numbers are the same when they are of one kind and compare equal. -/
instance : BEq Number where
  beq
    | .integer m _, .integer n _ => m == n
    | .float f, .float g => f == g
    | _, _ => false

/-- Digits of an integer, with its sign. -/
def integerText (n : Int) : List Char :=
  if n < 0 then '-' :: Decimal.digitChars n.natAbs else Decimal.digitChars n.natAbs

def Number.text : Number → List Char
  | .integer n _ => integerText n
  | .float f => Decimal.Layout.json.text f

/-- The parts of a written number: its digits, most significant first, and its signs. -/
structure Numeral where
  negative : Bool
  whole : List Nat
  fraction : List Nat
  /-- The written exponent, if any: whether it is negative, and its digits. -/
  exponent : Option (Bool × List Nat)
deriving DecidableEq, Repr

namespace Numeral

/-- The greatest number of 64 bits, which the digits that are read may not pass. -/
def digitLimit : Nat := 0xFFFFFFFFFFFFFFFF

/-- Reads digits onto `n` until one would pass the limit; that one and all after it are left. -/
def readDigits : Nat → List Nat → Nat × List Nat
  | n, [] => (n, [])
  | n, d :: ds => if n * 10 + d ≤ digitLimit then readDigits (n * 10 + d) ds else (n, d :: ds)

/-- Whether a numeral is written as an integer. -/
def isWhole (x : Numeral) : Bool := x.fraction.isEmpty && x.exponent.isNone

/-- The digits of a written exponent, unless they pass 31 bits. -/
def readExponent : Nat → List Nat → Option Nat
  | n, [] => some n
  | n, d :: ds => if n * 10 + d ≤ 0x7FFFFFFF then readExponent (n * 10 + d) ds else none

/-- Divides by `10 ^ 308` until the exponent is at least `-308`. Two divisions leave zero of any
64-bit integer, so that two rounds are enough. -/
def shrink : Nat → Float → Int → Float × Int
  | 0, f, e => (f, e)
  | rounds + 1, f, e =>
    if e < -308 && f != 0.0 then shrink rounds (f / Float.ofScientific 1 false 308) (e + 308)
    else (f, e)

/-- `significand * 10 ^ exponent` by one multiplication or division with a power of ten, which is
not always the nearest double. There is none beyond the range of doubles. -/
def scaled (significand : Nat) (exponent : Int) : Option Float :=
  let f := (UInt64.ofNat significand).toFloat
  if 308 < exponent then (if f == 0.0 then some f else none)
  else if 0 ≤ exponent then
    let g := f * Float.ofScientific 1 false exponent.toNat
    if g.isInf then none else some g
  else
    let (g, e) := shrink 2 f exponent
    if g == 0.0 then some g else some (g / Float.ofScientific 1 false (-e).toNat)

/-- The magnitude of a numeral that is not kept as an integer. -/
def magnitude (x : Numeral) : Option Float :=
  let (n, beyond) := readDigits 0 x.whole
  let (m, ignored) := readDigits n x.fraction
  let point : Int := beyond.length - (x.fraction.length - ignored.length : Nat)
  match x.exponent with
  | none => scaled m point
  | some (negative, digits) =>
    match readExponent 0 digits with
    | some e => scaled m (if negative then point - e else point + e)
    | none => if m = 0 ∨ negative then some 0.0 else none

/-- The integer that a whole numeral is kept as. Minus zero is not kept. -/
def integer? (x : Numeral) : Option Number :=
  if !x.isWhole then none
  else
    let (n, beyond) := readDigits 0 x.whole
    let value : Int := if x.negative then -n else n
    if beyond.isEmpty ∧ ¬ (x.negative ∧ n = 0) then
      if h : Exact value then some (.integer value h) else none
    else none

/-- The number that a numeral writes; there is none beyond the range of doubles. -/
def read (x : Numeral) : Option Number :=
  match x.integer? with
  | some n => some n
  | none => x.magnitude.map fun f => .float (if x.negative then -f else f)

end Numeral

example : (Numeral.read ⟨false, [9, 2], [], none⟩).map Number.text = some ['9', '2'] ∧
    (Numeral.read ⟨true, [0], [], none⟩).map Number.text = some ['-', '0', '.', '0'] ∧
    (Numeral.read ⟨false, [1], [], some (false, [4, 0, 0])⟩) = none := by decide +kernel

end ThermalPrint.Json
