import ThermalPrint.Decimal.Shortest

/-! How a floating-point value is written once its digits are chosen: where positional writing ends,
how an exponent looks, and what zero and the values without digits are called. -/

namespace ThermalPrint.Decimal

/-- The decisions of one written form. A value whose leading digit counts `10 ^ e` is positional when
`least ≤ e ≤ greatest`, and for every `e` where no bounds are given. -/
structure Layout where
  positional : Option (Int × Int)
deriving DecidableEq, Repr

/-- The digits of `n` in base ten. -/
def digitChars (n : Nat) : List Char := Nat.toDigits 10 n

/-- Positional writing, always with a fraction, which is `.0` for an integer. -/
def positionalText (digits : List Char) (exponent : Int) : List Char :=
  if 0 ≤ exponent then digits ++ List.replicate exponent.toNat '0' ++ ['.', '0']
  else
    let places := (-exponent).toNat
    let padded := List.replicate (places + 1 - digits.length) '0' ++ digits
    padded.take (padded.length - places) ++ ['.'] ++ padded.drop (padded.length - places)

/-- One digit before the point, and a signed exponent. -/
def scientificText (digits : List Char) (leading : Int) : List Char :=
  let mantissa := match digits with
    | d :: d' :: ds => d :: '.' :: d' :: ds
    | ds => ds
  mantissa ++ ['e', if leading < 0 then '-' else '+'] ++ digitChars leading.natAbs

/-- A double in a layout. -/
def Layout.text (layout : Layout) (f : Float) : List Char :=
  if f.isNaN then ['N', 'a', 'N']
  else
    let sign := if f.toBits.toNat / 0x8000000000000000 = 1 then ['-'] else []
    if f.isInf then sign ++ ['i', 'n', 'f']
    else
      let binary := Binary.ofFloat f
      if binary.mantissa = 0 then sign ++ ['0', '.', '0']
      else
        let d := shortest binary
        let digits := digitChars d.digits
        let leading := d.exponent + digits.length - 1
        let positional := match layout.positional with
          | some (least, greatest) => least ≤ leading && leading ≤ greatest
          | none => true
        sign ++ if positional then positionalText digits d.exponent else scientificText digits leading

/-- Numbers of a JSON text are positional from `10 ^ -5` to below `10 ^ 16`. -/
def Layout.json : Layout := ⟨some (-5, 15)⟩

/-- Numbers in the messages about settings are always positional. -/
def Layout.plain : Layout := ⟨none⟩

example : String.ofList (Layout.json.text 1e16) = "1e+16" ∧
    String.ofList (Layout.json.text (-0.00001)) = "-0.00001" ∧
    String.ofList (Layout.json.text 1.5e-6) = "1.5e-6" ∧
    String.ofList (Layout.json.text 123.0) = "123.0" := by decide +kernel

end ThermalPrint.Decimal
