import ThermalPrint.Failure
import ThermalPrint.Ipv4
import ThermalPrint.Text.Blank
import ThermalPrint.Text.Quoted

/-! Ranges of 254 neighbouring addresses, written as their first three octets. -/

namespace ThermalPrint.Network

/-- The addresses that share three octets. -/
structure Range where
  a : UInt8
  b : UInt8
  c : UInt8
deriving DecidableEq, Repr

namespace Range

/-- The part of a range before `/24`, which may be left out. -/
def base? (cs : List Char) : Option (List Char) :=
  match Text.splitFirst '/' cs with
  | none => some cs
  | some (base, ['2', '4']) => some base
  | some _ => none

/-- The range that three octets write, perhaps followed by `.0` and by `/24`. -/
def read? (cs : List Char) : Option Range := do
  match Text.split '.' (← base? cs) with
  | [a, b, c] | [a, b, c, ['0']] =>
    return ⟨← Ipv4.octet? a, ← Ipv4.octet? b, ← Ipv4.octet? c⟩
  | _ => none

/-- Reads a range; blanks around it do not matter. -/
def ofText (s : String) : Except Failure Range :=
  match read? (Text.trim s.toList) with
  | some range => .ok range
  | none => .error (.badConfiguration s!"Invalid network range {Text.quoted s}")

def address (r : Range) (d : UInt8) : Ipv4 := ⟨r.a, r.b, r.c, d⟩

/-- Every address of the range but the first and the last, ascending. -/
def hosts (r : Range) : List Ipv4 := (List.range 254).map fun i => r.address (UInt8.ofNat (i + 1))

end Range

end ThermalPrint.Network
