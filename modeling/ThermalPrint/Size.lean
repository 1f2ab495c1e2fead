import ThermalPrint.Json.Decode

/-! Character sizes as a request states them. A size keeps whatever the caller gave; the printer's
code for it comes from a fixed table, in which everything unknown has the normal size. -/

namespace ThermalPrint

inductive Size
  | level (n : Int64)
  | named (name : String)
  | other (value : Json.Value)
deriving BEq

namespace Size

def normal : Size := .named "normal"

def large : Size := .named "large"

def xlarge : Size := .named "xlarge"

/-- The printer's code for a size: levels one to four and three names have one. -/
def code : Size → UInt8
  | .level n =>
    match n.toInt with
    | 2 => 0x11
    | 3 => 0x22
    | 4 => 0x33
    | _ => 0x00
  | .named "large" => 0x11
  | .named "xlarge" => 0x22
  | .named _ => 0x00
  | .other _ => 0x00

theorem exact_toInt (n : Int64) : Json.Exact n.toInt :=
  ⟨Int64.le_toInt n, Int.lt_trans (Int64.toInt_lt n) (by decide)⟩

/-- The JSON form of a size is the value that it was read from. -/
def toJson : Size → Json.Value
  | .level n => .number (.integer n.toInt (exact_toInt n))
  | .named name => .string name
  | .other value => value

/-- The size that a JSON value states. -/
def ofJson : Json.Value → Size
  | .number (.integer n exact) =>
    if n < 0x8000000000000000 then .level (Int64.ofInt n) else .other (.number (.integer n exact))
  | .string name => .named name
  | value => .other value

/-- Any JSON value is a size. -/
def decoder : Json.Decoder Size := fun origin node => (node.resolve origin).map ofJson

end Size

end ThermalPrint
