import ThermalPrint.Identifier
import ThermalPrint.Json.Decode

/-! The ways in which a printer is reached, and the life of one connection. -/

namespace ThermalPrint.Transport

inductive Kind
  /-- A radio channel to the printer's serial port. -/
  | bluetooth
  /-- A stream to the printer's raw-print port. -/
  | network
deriving DecidableEq, Repr

namespace Kind

def name : Kind → String
  | .bluetooth => "bluetooth"
  | .network => "network"

def variants : List (String × Kind) := [("bluetooth", .bluetooth), ("network", .network)]

def decoder : Json.Decoder Kind := .variant variants

/-- A dotted quad is reached through the network, any other identifier by radio. -/
def ofIdentifier (id : Identifier) : Kind := if id.isNetworkAddress then .network else .bluetooth

end Kind

/-- A connection is open from the start, and once closed it stays closed. -/
inductive Phase
  | opened
  | closed
deriving DecidableEq, Repr

namespace Phase

instance : Inhabited Phase := ⟨.opened⟩

def isOpen (p : Phase) : Bool := p = .opened

/-- Only an open connection takes bytes. -/
def canWrite (p : Phase) : Bool := p.isOpen

def close (_ : Phase) : Phase := .closed

def name : Phase → String
  | .opened => "Open"
  | .closed => "Closed"

def variants : List (String × Phase) := [("Open", .opened), ("Closed", .closed)]

def decoder : Json.Decoder Phase := .variant variants

end Phase

end ThermalPrint.Transport
