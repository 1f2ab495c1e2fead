import ThermalPrint.Job
import ThermalPrint.Registry.Basic
import ThermalPrint.Status

/-! The calls that printing is made of. The calls of a service name printers by any text, which is
checked first; the registry's own are made with the texts of identifiers. -/

namespace ThermalPrint

open Transport

namespace Registry

/-- Runs an operation on the printer that a text names. -/
def withIdentifier {α : Type} (r : Registry) (id : String)
    (operation : Identifier → Except Failure α × Registry) : Except Failure α × Registry :=
  match Identifier.ofText id with
  | .error f => (.error f, r)
  | .ok id => operation id

/-- Sends the bytes of a job. -/
def print (r : Registry) (id : Identifier) (job : Job) : Except Failure Unit × Registry :=
  r.send id (Escpos.encode job)

/-- Sends the status inquiry, and tells the status from how that went. -/
def probe (r : Registry) (id : Identifier) : Status × Registry :=
  match r.send id Escpos.statusInquiry with
  | (.ok (), r) => (.ready, r)
  | (.error .notConnected, r) => (.offline, r)
  | (.error _, r) => (.writeError, r)

/-- The status of the printer that a text names. A text that names none is offline. -/
def status (r : Registry) (id : String) : Status × Registry :=
  match Identifier.ofText id with
  | .error _ => (.offline, r)
  | .ok id => r.probe id

end Registry

/-- A call, or a change of how connectors and channels behave. -/
inductive Call
  | connect (id : String)
  | disconnect (id : String)
  | print (id : String) (job : Job)
  | status (id : String)
  | shutdown
  | send (id : String) (bytes : Bytes)
  | isConnected (id : String)
  | connected
  | closeAll
  /-- From now on attempts of a connector fail, or succeed again. -/
  | failOpening (connector : Nat) (failure : Option Failure)
  /-- From now on writes on a connector's channels fail, or reach the channels again. -/
  | failWriting (connector : Nat) (failure : Option Failure)
  /-- Sets a switch of a channel, by default of the one that was opened last. -/
  | failWrites (connector : Nat) (line : Option Nat) (on : Bool)
  | failClose (connector : Nat) (line : Option Nat) (on : Bool)

inductive Reply
  | done
  | kind (kind : Kind)
  | status (status : Status)
  | answer (yes : Bool)
  | identifiers (ids : List Identifier)
  | count (n : Nat)
  | noSuchLine
  | failure (f : Failure)
deriving DecidableEq

namespace Registry

def reply {α : Type} (encode : α → Reply) : Except Failure α × Registry → Reply × Registry
  | (.ok a, r) => (encode a, r)
  | (.error f, r) => (.failure f, r)

/-- Changes the channel of a connector that has the given number, or was opened last. -/
def adjust (r : Registry) (connector : Nat) (line : Option Nat) (s : Channel.Step) :
    Reply × Registry :=
  match r.connectors[connector]? with
  | none => (.noSuchLine, r)
  | some c =>
    let i := line.getD (c.lines.length - 1)
    if i < c.lines.length then
      (.done, r.updateConnector connector (c.updateChannel i fun ch => (ch.step s).2))
    else (.noSuchLine, r)

/-- Changes a connector. -/
def reconfigure (r : Registry) (connector : Nat) (f : Connector → Connector) : Reply × Registry :=
  (.done, { r with connectors := r.connectors.modify connector f })

/-- Makes a call. -/
def call (r : Registry) : Call → Reply × Registry
  | .connect id => reply .kind (r.withIdentifier id r.connect)
  | .disconnect id => reply (fun _ => .done) (r.withIdentifier id r.disconnect)
  | .print id job => reply (fun _ => .done) (r.withIdentifier id (r.print · job))
  | .status id =>
    let (status, r) := r.status id
    (.status status, r)
  | .shutdown => (.done, r.closeAll.2)
  | .send id bytes => reply (fun _ => .done) (r.withIdentifier id (r.send · bytes))
  | .isConnected id =>
    reply .answer (r.withIdentifier id fun id =>
      let (yes, r) := r.isConnected id
      (.ok yes, r))
  | .connected =>
    let (ids, r) := r.connected
    (.identifiers ids, r)
  | .closeAll =>
    let (n, r) := r.closeAll
    (.count n, r)
  | .failOpening connector failure =>
    r.reconfigure connector fun c => { c with openFailure := fun _ => failure }
  | .failWriting connector failure => r.reconfigure connector fun c => { c with writeFailure := failure }
  | .failWrites connector line on => r.adjust connector line (.failWrites on)
  | .failClose connector line on => r.adjust connector line (.failClose on)

/-- Makes calls one after another; their replies, and the registry after the last. -/
def calls (r : Registry) : List Call → List Reply × Registry
  | [] => ([], r)
  | c :: cs =>
    let (reply, r) := r.call c
    let (replies, r) := r.calls cs
    (reply :: replies, r)

end Registry

end ThermalPrint
