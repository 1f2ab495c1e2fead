import ThermalPrint.Environment.Basic
import ThermalPrint.Files
import ThermalPrint.Json.Place
import ThermalPrint.Settings.Basic
import ThermalPrint.Settings.Layer
import ThermalPrint.Text.Digits
import ThermalPrint.Text.Lowercase

/-! Loading of settings from four layers: the built-in port, the default file of a directory, the file
of the run mode, and the environment. -/

namespace ThermalPrint.Settings

inductive LoadFault
  /-- A value is not of the type that is read, perhaps at a key and with an origin. -/
  | wrongType (found expected : String) (key origin : Option String)
  /-- A file is not what its name says. -/
  | unreadableFile (path detail : String)
  | message (text : String)
deriving DecidableEq, Repr

namespace LoadFault

def text : LoadFault → String
  | .wrongType found expected key origin =>
    let key := key.elim "" fun k => s!" for key `{k}`"
    let origin := origin.elim "" fun o => s!" in {o}"
    s!"invalid type: {found}, expected {expected}" ++ key ++ origin
  | .unreadableFile path detail => s!"{detail} in {path}"
  | .message text => text

/-- Puts a key in front of the key of a fault. -/
def under (name : String) : LoadFault → LoadFault
  | .wrongType found expected key origin =>
    let key := match key with
      | none => name
      | some k => if k.startsWith "[" then name ++ k else s!"{name}.{k}"
    .wrongType found expected (some key) origin
  | f => f

/-- Puts the place in a list in front of the key of a fault. -/
def atPlace (i : Nat) : LoadFault → LoadFault
  | .wrongType found expected key origin =>
    .wrongType found expected (some (s!"[{i}]" ++ key.getD "")) origin
  | f => f

end LoadFault

/-! ### Reading values -/

/-- An unsigned number in a text, where a plus may come first. -/
def readUnsigned (s : String) : Option Nat :=
  match s.toList with
  | '+' :: cs => Text.readBelow 0x10000000000000000 cs
  | cs => Text.readBelow 0x10000000000000000 cs

/-- An unsigned number of 64 bits. Some words stand for one and zero; a fraction is rounded, a half
away from zero, and what is out of range is moved to its end. -/
def unsigned : Given → Except LoadFault UInt64
  | .scalar _ (.bool b) => .ok (if b then 1 else 0)
  | .scalar _ (.float f) => .ok f.round.toUInt64
  | .scalar origin (.integer n) =>
    if 0 ≤ n then .ok (UInt64.ofNat n.toNat)
    else .error (.wrongType s!"integer 64 bit `{n}`" "an unsigned 64 bit or less integer" none origin)
  | .scalar origin (.text s) =>
    match String.ofList (Text.lowercase s.toList) with
    | "true" | "on" | "yes" => .ok 1
    | "false" | "off" | "no" => .ok 0
    | _ =>
      match readUnsigned s with
      | some n => .ok (UInt64.ofNat n)
      | none => .error (.wrongType s!"string {Text.quoted s}" "an integer" none origin)
  | .scalar origin .nothing => .error (.wrongType "unit value" "an integer" none origin)
  | .list origin _ => .error (.wrongType "sequence" "an integer" none origin)
  | .table origin _ => .error (.wrongType "map" "an integer" none origin)

/-- How a scalar is called where a section is expected. -/
def Scalar.name : Scalar → String
  | .nothing => "unit value"
  | .bool b => s!"boolean `{b}`"
  | .integer n => s!"integer `{n}`"
  | .float f => s!"floating point `{String.ofList (Decimal.Layout.plain.text f)}`"
  | .text s => s!"string {Text.quoted s}"

/-- Reads a field, which keeps its built-in value when it is not given. Numbers that do not fit lose
their high bits. -/
def field {α : Type} (given : String → Option Given) (read : Given → Except LoadFault α)
    (name : String) (builtIn : α) : Except LoadFault α :=
  match given name with
  | none => .ok builtIn
  | some v => read v

/-- How the fields of a section are given: by name in a table, and in their order in a list. -/
def fieldsOf (form : String) (names : List String) (v : Given) :
    Except LoadFault ((String → Option Given) × (String → LoadFault → LoadFault)) :=
  match v with
  | .table _ ms => .ok (fun name => (ms.find? (·.1 = name)).map (·.2), LoadFault.under)
  | .list _ es =>
    .ok (fun name => es[names.idxOf name]?, fun name f => f.atPlace (names.idxOf name))
  | .scalar _ s => .error (.message s!"invalid type: {s.name}, expected struct {form}")

/-- Reads the fields of a section, each with faults that name it. -/
def readSection {α : Type} (form : String) (names : List String) (v : Given)
    (read : (∀ {β : Type}, (Given → Except LoadFault β) → String → β → Except LoadFault β) →
      Except LoadFault α) : Except LoadFault α := do
  let (given, blame) ← fieldsOf form names v
  read fun r name builtIn => (field given r name builtIn).mapError (blame name)

def Network.ofGiven (v : Given) : Except LoadFault Network :=
  let d : Network := {}
  readSection "NetworkSettings" ["port", "connect_timeout_ms", "write_timeout_ms"] v fun get => do
    return ⟨← get (fun v => (unsigned v).map (·.toUInt16)) "port" d.port,
      ← get unsigned "connect_timeout_ms" d.connectTimeout,
      ← get unsigned "write_timeout_ms" d.writeTimeout⟩

def Bluetooth.ofGiven (v : Given) : Except LoadFault Bluetooth :=
  let d : Bluetooth := {}
  readSection "BluetoothSettings" ["channel", "connect_timeout_ms", "write_timeout_ms"] v fun get => do
    return ⟨← get channel "channel" d.channel,
      ← get unsigned "connect_timeout_ms" d.connectTimeout,
      ← get unsigned "write_timeout_ms" d.writeTimeout⟩
where
  channel : Given → Except LoadFault (Option UInt8)
    | .scalar _ .nothing => .ok none
    | v => (unsigned v).map fun n => some n.toUInt8

def Scan.ofGiven (v : Given) : Except LoadFault Scan :=
  let d : Scan := {}
  readSection "ScanSettings" ["probe_timeout_ms", "concurrency"] v fun get => do
    return ⟨← get unsigned "probe_timeout_ms" d.probeTimeout,
      ← get unsigned "concurrency" d.concurrency⟩

/-- Reads settings from their layers. Whatever is not a setting is passed over. -/
def ofGiven (root : Given) : Except LoadFault Settings := do
  let part {α : Type} (name : String) (builtIn : α) (read : Given → Except LoadFault α) :
      Except LoadFault α :=
    match root.members.find? (·.1 = name) with
    | none => .ok builtIn
    | some (_, v) => (read v).mapError (·.under name)
  let network ← part "network" {} Network.ofGiven
  let bluetooth ← part "bluetooth" {} Bluetooth.ofGiven
  let scan ← part "scan" {} Scan.ofGiven
  return { network, bluetooth, scan }

/-! ### Layers -/

/-- The table of a settings file. A file that holds anything else gives nothing. -/
def readFile (json : Bool) (path text : String) : Except LoadFault (List (String × Given)) :=
  if json then
    match Json.readValue text with
    | .ok v => .ok (Given.ofJson path v).members
    | .error f =>
      let (line, column) := Json.problemPlace text.toList
      .error (.unreadableFile path s!"{f.message} at line {line} column {column}")
  else
    match Toml.parse text.toList with
    | .ok v => .ok (Given.ofToml path v).members
    | .error f => .error (.unreadableFile path (f.message text.toList))

/-- The ending of a file name after its last period, if something comes before that. -/
def extension? (name : String) : Option String :=
  match (name.toList.reverse.span (· ≠ '.')) with
  | (ending, _ :: stem) => if stem.isEmpty then none else some (String.ofList ending.reverse)
  | (_, []) => none

/-- Whether a name ends in the name of a file, to which an ending can be put: not if its last part
leads out of a directory, and not if it names the working directory or the root. -/
def takesEnding (name : String) : Bool :=
  (Files.parts name).getLast?.any fun part => part ≠ ".." && part ≠ "/"

/-- The layer of the file with a name: the file itself if there is one, else the one with an ending. A
file without a known ending, and one that does not exist, give nothing. -/
def fileLayer (files : Files) (name : String) : Except LoadFault (List (String × Given)) :=
  let path := Files.tidy name
  match files.find? name with
  | some text =>
    match extension? ((Files.parts name).getLast?.getD "") with
    | some "toml" => readFile false path text
    | some "json" => readFile true path text
    | _ => .ok []
  | none =>
    if !takesEnding name then .ok []
    else match files.find? (path ++ ".toml"), files.find? (path ++ ".json") with
      | some text, _ => readFile false (path ++ ".toml") text
      | none, some text => readFile true (path ++ ".json") text
      | none, none => .ok []

/-- Puts a period for every double underscore. -/
def dotted : List Char → List Char
  | '_' :: '_' :: cs => '.' :: dotted cs
  | c :: cs => c :: dotted cs
  | [] => []

/-- The variables of the environment that are settings, by their lower-case paths. -/
def environmentLayer (env : Environment) : List (String × Given) :=
  env.filterMap fun (name, value) =>
    let cs := Text.lowercase name.toList
    let start := "zyprint__".toList
    if start.isPrefixOf cs then
      some (String.ofList (dotted (cs.drop start.length)),
        .scalar "the environment" (.text value))
    else none

/-- The settings that nothing has to give. -/
def builtInLayer : List (String × Given) := [("network.port", .scalar none (.integer 9100))]

/-- The names of the files that are read, without their endings: the built-in name and the mode of the
run. -/
def layerNames (env : Environment) (directory : String) : List String :=
  [s!"{directory}/default", directory ++ "/" ++ (env.get? "RUN_MODE").getD "development"]

/-- Loads the settings of a directory in an environment. -/
def load (files : Files) (env : Environment) (directory : String) : Except LoadFault Settings := do
  let layers ← (layerNames env directory).mapM (fileLayer files)
  let given := stack (layers ++ [environmentLayer env])
  let settings ← ofGiven (overlay given (overlay builtInLayer Given.emptyTable))
  match settings.validate with
  | .ok () => return settings
  | .error f => .error (.message f.message)

end ThermalPrint.Settings
