import ThermalPrint.Discovery.Candidate
import ThermalPrint.Discovery.Name
import ThermalPrint.Network.Range

/-! The search for printers among the wireless devices that are already known and on a range of
addresses. Nothing is connected to. -/

namespace ThermalPrint.Discovery

inductive Bond
  | bonded | bonding | notBonded
deriving DecidableEq, Repr

/-- A device that the wireless adapter knows. -/
structure Device where
  address : String
  name : Option String
  bond : Bond
deriving DecidableEq, Repr

/-- A device whose bond is complete can be reached. -/
def Bond.reachability : Bond → Reachability
  | .bonded => .ready
  | .bonding | .notBonded => .offline

/-- The candidate that a device is: it must have the name of a printer and a sound address. -/
def Device.candidate? (d : Device) : Option Candidate := do
  let name ← d.name
  guard (isPrinterName name)
  let id ← (Identifier.ofText d.address).toOption
  return ⟨id, name, d.bond.reachability, .bluetooth⟩

/-- The candidate that answers at an address. -/
def hostCandidate? (ip : Ipv4) : Option Candidate := do
  let id ← (Identifier.ofText ip.text).toOption
  return ⟨id, s!"Network Printer ({ip.text})", .ready, .wifi⟩

/-- What a search can ask: the wireless adapter and, perhaps, a scanner of ranges. -/
structure Sources where
  bonded : Except Failure (List Device)
  scanner : Option (String → Except Failure (List Ipv4))

/-- The adapter of a build without wireless support. -/
def noAdapter : Except Failure (List Device) :=
  .error (.adapterUnavailable "built without Bluetooth support")

namespace Sources

/-- The printers among the known wireless devices. Without an adapter there are none. -/
def wireless (s : Sources) : Except Failure (List Candidate) :=
  match s.bonded with
  | .ok devices => .ok (devices.filterMap Device.candidate?)
  | .error (.adapterUnavailable _) => .ok []
  | .error f => .error f

/-- The ranges for which the scanner is asked when a search names a range. -/
def asked (s : Sources) (range : Option String) : List String :=
  if s.scanner.isSome then range.toList else []

/-- The printers that answer on a range. Without a range or a scanner there are none. -/
def network (s : Sources) (range : Option String) : Except Failure (List Candidate) :=
  match range, s.scanner with
  | some range, some scan => (scan range).map fun hosts => hosts.filterMap hostCandidate?
  | _, _ => .ok []

/-- Both searches together. One that fails adds nothing. -/
def all (s : Sources) (range : Option String) : List Candidate :=
  s.wireless.toOption.getD [] ++ (s.network range).toOption.getD []

end Sources

end ThermalPrint.Discovery
