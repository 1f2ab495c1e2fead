import ThermalPrint.Decimal.Layout
import ThermalPrint.Text.Digits
import ThermalPrint.Text.Split

/-! IPv4 addresses and their dotted quads. -/

namespace ThermalPrint

structure Ipv4 where
  a : UInt8
  b : UInt8
  c : UInt8
  d : UInt8
deriving DecidableEq, Repr

namespace Ipv4

/-- The octets as one number, by which addresses are ordered. -/
def toNat (ip : Ipv4) : Nat :=
  ((ip.a.toNat * 256 + ip.b.toNat) * 256 + ip.c.toNat) * 256 + ip.d.toNat

instance : LE Ipv4 := ⟨fun x y => x.toNat ≤ y.toNat⟩

instance (x y : Ipv4) : Decidable (x ≤ y) := inferInstanceAs (Decidable (x.toNat ≤ y.toNat))

/-- The octet that a run of digits writes, with any leading zeros. -/
def octet? (cs : List Char) : Option UInt8 := (Text.readBelow 256 cs).map UInt8.ofNat

/-- The address that four octets between three dots write. -/
def ofText? (s : String) : Option Ipv4 :=
  match Text.split '.' s.toList with
  | [a, b, c, d] => do return ⟨← octet? a, ← octet? b, ← octet? c, ← octet? d⟩
  | _ => none

def octetText (n : UInt8) : List Char := Decimal.digitChars n.toNat

/-- The dotted quad, without leading zeros. -/
def text (ip : Ipv4) : String :=
  String.ofList (Text.join '.' [octetText ip.a, octetText ip.b, octetText ip.c, octetText ip.d])

end Ipv4

end ThermalPrint
