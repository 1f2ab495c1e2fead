import ThermalPrint.Identifier
import ThermalPrint.Json.Decode

/-! Printers that a search has found. -/

namespace ThermalPrint

open Json

/-- An identifier is written as its text, and only a sound text is read. -/
def Identifier.decoder : Decoder Identifier := fun origin node => do
  let text ← Decoder.string origin node
  (Identifier.ofText text).mapError fun failure => .refused failure.message

def Identifier.toJson (id : Identifier) : Value := .string id.text

namespace Discovery

inductive Reachability
  | ready | offline
deriving DecidableEq, Repr

/-- How a candidate is reached. -/
inductive Medium
  | bluetooth | wifi
deriving DecidableEq, Repr

structure Candidate where
  identifier : Identifier
  name : String
  state : Reachability
  medium : Medium
deriving DecidableEq

namespace Reachability

def name : Reachability → String
  | .ready => "ready"
  | .offline => "offline"

def variants : List (String × Reachability) := [("ready", .ready), ("offline", .offline)]

def decoder : Decoder Reachability := .variant variants

end Reachability

namespace Medium

def name : Medium → String
  | .bluetooth => "bluetooth"
  | .wifi => "wifi"

def variants : List (String × Medium) := [("bluetooth", .bluetooth), ("wifi", .wifi)]

def decoder : Decoder Medium := .variant variants

end Medium

namespace Candidate

/-- The fields of a candidate as far as they have been given. -/
structure Draft where
  identifier : Option Identifier := none
  name : Option String := none
  state : Option Reachability := none
  medium : Option Medium := none

def form : RecordForm Draft Candidate where
  name := "DiscoveredPrinter"
  fields := [
    .of "identifier" Draft.identifier (fun v d => { d with identifier := some v })
      Identifier.decoder,
    .of "name" Draft.name (fun v d => { d with name := some v }) Decoder.string,
    .of "state" Draft.state (fun v d => { d with state := some v }) Reachability.decoder,
    .of "connectionType" Draft.medium (fun v d => { d with medium := some v }) Medium.decoder]
  empty := {}
  complete d := do
    let some identifier := d.identifier | .error "identifier"
    let some name := d.name | .error "name"
    let some state := d.state | .error "state"
    let some medium := d.medium | .error "connectionType"
    return ⟨identifier, name, state, medium⟩

def decoder : Decoder Candidate := form.decoder

def toJson (c : Candidate) : Value := .object [
  ("identifier", c.identifier.toJson), ("name", .string c.name),
  ("state", .string c.state.name), ("connectionType", .string c.medium.name)]

end Candidate

end Discovery

end ThermalPrint
