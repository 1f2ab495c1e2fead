import ThermalPrint.CommandLine.Request
import ThermalPrint.Discovery.Search
import ThermalPrint.Environment.File
import ThermalPrint.Network.Scan
import ThermalPrint.Registry.Call
import ThermalPrint.Settings.Load

/-! A run of the program: one request is carried out, every connection that it opened is closed, and
what it found is written as JSON. -/

namespace ThermalPrint.CommandLine

open Json

/-- Why a request came to nothing. -/
inductive Trouble
  | settings (fault : Settings.LoadFault)
  | failure (failure : Failure)
  /-- A receipt was to be printed, but none was given. -/
  | noTemplate
  | unreadableTemplate (path : String) (why : Files.Unreadable)
deriving DecidableEq

def Trouble.text : Trouble → String
  | .settings fault => fault.text
  | .failure f => f.message
  | .noTemplate => "Either --json or --file is required"
  | .unreadableTemplate path why =>
    s!"Failed to read receipt template {path}\n\nCaused by:\n    {why.message}"

/-! ### Commands -/

/-- The receipt that a template describes. -/
def Template.receipt (files : Files) : Option Template → Except Trouble Receipt
  | none => .error .noTemplate
  | some (.inline json) => (Receipt.ofText json).mapError .failure
  | some (.file path) =>
    match files.read path with
    | .ok json => (Receipt.ofText json).mapError .failure
    | .error why => .error (.unreadableTemplate path why)

def candidatesJson (cs : List Discovery.Candidate) : Value := .array (cs.map (·.toJson))

/-- What is written of a job that was sent. -/
def printedJson (kind : Transport.Kind) : Value :=
  .object [("printed", .bool true), ("transport", .string kind.name)]

/-- Connects to the printer that a text names and sends a job. -/
def printJob (r : Registry) (id : String) (job : Job) : Except Failure Value × Registry :=
  match r.withIdentifier id r.connect with
  | (.error f, r) => (.error f, r)
  | (.ok kind, r) =>
    let (sent, r) := r.withIdentifier id (r.print · job)
    (sent.map fun () => printedJson kind, r)

namespace Command

/-- Carries a command out. A receipt is read before anything is connected to, and a printer that
cannot be connected to still has a status. -/
def run (files : Files) (sources : Discovery.Sources) (r : Registry) :
    Command → Except Trouble Value × Registry
  | .discover range => (.ok (candidatesJson (sources.all range)), r)
  | .scan range => (((sources.network (some range)).map candidatesJson).mapError .failure, r)
  | .printText id text =>
    let (result, r) := printJob r id (.plainText text)
    (result.mapError .failure, r)
  | .printReceipt id template =>
    match Template.receipt files template with
    | .error trouble => (.error trouble, r)
    | .ok receipt =>
      let (result, r) := printJob r id (.receipt receipt)
      (result.mapError .failure, r)
  | .status id =>
    let (_, r) := r.withIdentifier id r.connect
    let (found, r) := r.status id
    (.ok found.toJson, r)

end Command

/-! ### Runs -/

/-- What a run finds where it is started. -/
structure Place where
  files : Files
  environment : Environment
  network : Network.Surroundings

namespace Request

/-- Carries out a request over the settings that were loaded, and closes every connection. -/
def perform (files : Files) (network : Network.Surroundings) (loaded : Settings) (q : Request) :
    Except Trouble Value × Registry :=
  let settings := q.options.applyTo loaded
  match settings.validate with
  | .error f => (.error (.failure f), { connectors := [] })
  | .ok () =>
    let sources : Discovery.Sources :=
      ⟨Discovery.noAdapter, some (network.scan settings.network settings.scan)⟩
    let r : Registry := { connectors := [network.connector settings.network] }
    let (result, r) := q.command.run files sources r
    (result, r.closeAll.2)

/-- Where a working copy of the program keeps it. -/
def workingCopy : String := "crates/zyprint"

/-- The directory that holds the settings: that of a working copy, if the run is started in one. -/
def configDirectory (files : Files) (o : Options) : String :=
  o.configDirectory.getD (if files.isPresent workingCopy then workingCopy ++ "/config" else "config")

/-- Loads the settings and carries out a request. -/
def run (p : Place) (q : Request) : Except Trouble Value × Registry :=
  match Settings.load p.files p.environment (configDirectory p.files q.options) with
  | .error fault => (.error (.settings fault), { connectors := [] })
  | .ok loaded => q.perform p.files p.network loaded

end Request

/-- What is seen of a run. -/
structure Report where
  exitCode : UInt8
  output : String := ""
  /-- The reason for which the run failed. -/
  critical : Option String := none
  /-- The connections that were opened. -/
  lines : List Transport.Line := []

def versionText : String := "zyprint 0.1.0\n"

def usageText : String :=
  "Usage: zyprint [--config-dir DIRECTORY] [--port PORT] [--channel CHANNEL] COMMAND\n\n" ++
  "discover [--range RANGE]\nscan RANGE\nprint-text IDENTIFIER TEXT\n" ++
  "print-receipt IDENTIFIER [--json JSON | --file PATH]\nstatus IDENTIFIER\n"

def Notice.report : Notice → Report
  | .help => { exitCode := 0, output := usageText }
  | .version => { exitCode := 0, output := versionText }
  | .misuse => { exitCode := 2 }

/-- The environment with what the file `.env` adds to it. -/
def Place.completeEnvironment (p : Place) : Environment :=
  (p.files.find? ".env").elim p.environment p.environment.withFile

/-- Runs the program. -/
def run (p : Place) (args : List String) : Report :=
  match Request.ofArguments args with
  | .error notice => notice.report
  | .ok q =>
    let (result, r) := q.run { p with environment := p.completeEnvironment }
    let lines := r.connectors.flatMap (·.lines)
    match result with
    | .ok v => { exitCode := 0, output := v.canonical.indented ++ "\n", lines }
    | .error trouble => { exitCode := 1, critical := some trouble.text, lines }

/-- The files that a run may read, apart from `.env`. -/
def mayRead (p : Place) (args : List String) : List String :=
  match Request.ofArguments args with
  | .error _ => []
  | .ok q =>
    let directory := Request.configDirectory p.files q.options
    let names := Settings.layerNames p.completeEnvironment directory
    let layers := names.flatMap fun name =>
      [name, Files.tidy name ++ ".toml", Files.tidy name ++ ".json"]
    match q.command with
    | .printReceipt _ (some (.file path)) => layers ++ [path]
    | _ => layers

end ThermalPrint.CommandLine
