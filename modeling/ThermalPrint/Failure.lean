/-! The failures of printing. Every operation that fails does so with one of these, and none of them
touches another printer than the one it is about. -/

namespace ThermalPrint

inductive Failure
  /-- The wireless adapter is missing or switched off. -/
  | adapterUnavailable (reason : String)
  | permissionDenied (reason : String)
  | invalidIdentifier (reason : String)
  /-- Every way of reaching the printer failed. -/
  | connectionFailed (reason : String)
  | notConnected
  | writeFailed (reason : String)
  /-- The print request is malformed; nothing was sent. -/
  | badRequest (reason : String)
  | badConfiguration (reason : String)
deriving DecidableEq, Repr

namespace Failure

/-- The short name of the kind of failure. -/
def kind : Failure → String
  | .adapterUnavailable _ => "adapter_unavailable"
  | .permissionDenied _ => "permission_denied"
  | .invalidIdentifier _ => "invalid_identifier"
  | .connectionFailed _ => "connection_failed"
  | .notConnected => "not_connected"
  | .writeFailed _ => "write_failed"
  | .badRequest _ => "encoding"
  | .badConfiguration _ => "invalid_config"

def message : Failure → String
  | .adapterUnavailable reason => s!"Wireless adapter unavailable: {reason}"
  | .permissionDenied reason => s!"Permission denied: {reason}"
  | .invalidIdentifier reason => s!"Invalid printer identifier: {reason}"
  | .connectionFailed reason => s!"Connection failed: {reason}"
  | .notConnected => "Printer not connected"
  | .writeFailed reason => s!"Write failed: {reason}"
  | .badRequest reason => s!"Invalid print request: {reason}"
  | .badConfiguration reason => s!"Invalid configuration: {reason}"

end Failure

end ThermalPrint
