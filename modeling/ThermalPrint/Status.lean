import ThermalPrint.Json.Decode

/-! The coarse status of a printer: what can be told from whether an inquiry could be sent. -/

namespace ThermalPrint

open Json

inductive PrinterState
  | ready | offline | error
deriving DecidableEq, Repr

inductive PaperState
  | ok | unknown
deriving DecidableEq, Repr

structure Status where
  state : PrinterState
  paper : PaperState
  connected : Bool
deriving DecidableEq, Repr

namespace PrinterState

def name : PrinterState → String
  | .ready => "ready"
  | .offline => "offline"
  | .error => "error"

def variants : List (String × PrinterState) :=
  [("ready", .ready), ("offline", .offline), ("error", .error)]

def decoder : Decoder PrinterState := .variant variants

end PrinterState

namespace PaperState

def name : PaperState → String
  | .ok => "ok"
  | .unknown => "unknown"

def variants : List (String × PaperState) := [("ok", .ok), ("unknown", .unknown)]

def decoder : Decoder PaperState := .variant variants

end PaperState

namespace Status

/-- No connection is registered for the printer. -/
def offline : Status := ⟨.offline, .unknown, false⟩

/-- The inquiry was written. -/
def ready : Status := ⟨.ready, .ok, true⟩

/-- The inquiry could not be written; the connection stays registered. -/
def writeError : Status := ⟨.error, .unknown, true⟩

/-- The fields of a status as far as they have been given. -/
structure Draft where
  state : Option PrinterState := none
  paper : Option PaperState := none
  connected : Option Bool := none

def form : RecordForm Draft Status where
  name := "PrinterStatus"
  fields := [
    .of "state" Draft.state (fun v d => { d with state := some v }) PrinterState.decoder,
    .of "paperState" Draft.paper (fun v d => { d with paper := some v }) PaperState.decoder,
    .of "connected" Draft.connected (fun v d => { d with connected := some v }) Decoder.bool]
  empty := {}
  complete d := do
    let some state := d.state | .error "state"
    let some paper := d.paper | .error "paperState"
    let some connected := d.connected | .error "connected"
    return ⟨state, paper, connected⟩

def decoder : Decoder Status := form.decoder

def toJson (s : Status) : Value := .object [
  ("state", .string s.state.name), ("paperState", .string s.paper.name),
  ("connected", .bool s.connected)]

end Status

end ThermalPrint
