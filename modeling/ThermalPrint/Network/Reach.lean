import ThermalPrint.Settings.Basic
import ThermalPrint.Transport.Connector

/-! The network around a host: what becomes of attempts to connect to printers and of writes to them,
and the connector for the printers that are reached through it. -/

namespace ThermalPrint.Network

/-- What becomes of an attempt to connect. -/
inductive Answer
  | accepted
  | refused
  /-- There is no way to the address. -/
  | unreachable
  /-- The host may not connect to the address. -/
  | forbidden
  /-- Nothing came back in time. -/
  | silence
  /-- The system gave another reason. -/
  | failed (failure : Failure)
deriving DecidableEq, Repr

/-- The failure that an attempt to connect ends with, if it does. -/
def Answer.failure? (ip : Ipv4) (port : UInt16) : Answer → Option Failure
  | .accepted => none
  | .refused => some (.connectionFailed "Connection refused (os error 111)")
  | .unreachable => some (.connectionFailed "Network is unreachable (os error 101)")
  | .forbidden => some (.permissionDenied "Permission denied (os error 13)")
  | .silence => some (.connectionFailed s!"Connection to {ip.text}:{port} timed out")
  | .failed f => some f

structure Surroundings where
  answer : Ipv4 → UInt16 → Answer
  /-- The failure of writes, when they fail. A write that does delivers nothing. -/
  writeFailure : Option Failure := none
  /-- Which of the probes under way ends next, by the number of those that are still to end. -/
  nextProbe : Nat → Nat := fun _ => 0

/-- The surroundings of a host that has no network: there is no way to any address. -/
def noRoute : Surroundings where
  answer _ _ := .unreachable

namespace Surroundings

/-- Whether a host takes connections on a port. -/
def responds (s : Surroundings) (port : UInt16) (ip : Ipv4) : Bool := s.answer ip port = .accepted

/-- The failure of an attempt to reach a printer, which must be named by its address. -/
def openFailure (s : Surroundings) (port : UInt16) (id : Identifier) : Option Failure :=
  match id.ipv4? with
  | none => some (.connectionFailed s!"{id.text} is not an IPv4 address")
  | some ip => (s.answer ip port).failure? ip port

/-- The connector for printers on the network. -/
def connector (s : Surroundings) (n : Settings.Network) : Transport.Connector where
  kind := .network
  reports := .network
  openFailure := s.openFailure n.port
  writeFailure := s.writeFailure

theorem openFailure_eq_none_iff {s : Surroundings} {port : UInt16} {id : Identifier} :
    s.openFailure port id = none ↔ ∃ ip, id.ipv4? = some ip ∧ s.responds port ip = true := by
  unfold openFailure responds
  cases id.ipv4? with
  | none => simp
  | some ip => cases h : s.answer ip port <;> simp [Answer.failure?, h]

end Surroundings

end ThermalPrint.Network
