import ThermalPrint.CommandLine.Word
import ThermalPrint.Settings.Basic
import ThermalPrint.Text.Digits

/-! What a command line asks for. Arguments are read from left to right, and the first that settles the
matter does so: a request for help is heeded although a later argument makes no sense. -/

namespace ThermalPrint.CommandLine

/-- Why a command line is not carried out. -/
inductive Notice
  | help
  | version
  | misuse
deriving DecidableEq, Repr

/-- Where the template of a receipt comes from. -/
inductive Template
  | inline (json : String)
  | file (path : String)
deriving DecidableEq, Repr

inductive Command
  | discover (range : Option String)
  | scan (range : String)
  | printText (id text : String)
  | printReceipt (id : String) (template : Option Template)
  | status (id : String)
deriving DecidableEq, Repr

/-- What is given before the command, and goes over the loaded settings. -/
structure Options where
  configDirectory : Option String := none
  port : Option UInt16 := none
  channel : Option UInt8 := none
deriving DecidableEq, Repr

structure Request where
  options : Options
  command : Command
deriving DecidableEq, Repr

/-! ### Options -/

/-- A whole number below `limit`, perhaps with a sign. -/
def readWhole (limit : Nat) (s : String) : Option Nat :=
  match s.toList with
  | '+' :: cs => Text.readBelow limit cs
  | '-' :: cs => Text.readBelow 1 cs
  | cs => Text.readBelow limit cs

namespace Options

def names : List String := ["config-dir", "port", "channel"]

/-- Gives an option its value, which it must not have yet. -/
def put (name value : String) (o : Options) : Except Notice Options :=
  match name with
  | "config-dir" =>
    if o.configDirectory.isSome then .error .misuse else .ok { o with configDirectory := some value }
  | "port" =>
    match o.port, readWhole 0x10000 value with
    | none, some n => .ok { o with port := some (UInt16.ofNat n) }
    | _, _ => .error .misuse
  | "channel" =>
    match o.channel, readWhole 0x100 value with
    | none, some n => .ok { o with channel := some (UInt8.ofNat n) }
    | _, _ => .error .misuse
  | _ => .error .misuse

/-- Gives the option its value that was read last. -/
def settle (pending : Option (String × String)) (o : Options) : Except Notice Options :=
  match pending with
  | none => .ok o
  | some (name, value) => o.put name value

/-- The settings with what was given in their place. -/
def applyTo (o : Options) (s : Settings) : Settings :=
  { s with
    network := { s.network with port := o.port.getD s.network.port }
    bluetooth := { s.bluetooth with channel := o.channel.or s.bluetooth.channel } }

end Options

/-! ### Commands -/

/-- The arguments of a command. -/
structure Operands where
  plain : List String := []
  options : List (String × String) := []

namespace Operands

def option? (o : Operands) (name : String) : Option String :=
  (o.options.find? (·.1 = name)).map (·.2)

/-- Gives one of the options of a command its value, which it must not have yet. -/
def put (names : List String) (name value : String) (o : Operands) : Except Notice Operands :=
  if name ∈ names ∧ (o.option? name).isNone then
    .ok { o with options := o.options ++ [(name, value)] }
  else .error .misuse

/-- Reads the arguments of a command that has options of the given names and takes no more than
`limit` operands. -/
def read (limit : Nat) (names : List String) (o : Operands) : List String → Except Notice Operands
  | [] => .ok o
  | arg :: args =>
    match Word.ofText arg, args with
    | .separator, args =>
      if o.plain.length + args.length ≤ limit then .ok { o with plain := o.plain ++ args }
      else .error .misuse
    | .long "help" none, _ => .error .help
    | .long name (some value), args => do read limit names (← o.put names name value) args
    | .long name none, value :: args =>
      if isValue value then do read limit names (← o.put names name value) args else .error .misuse
    | .long _ none, [] => .error .misuse
    | .short 'h' _, _ => .error .help
    | .short _ _, _ => .error .misuse
    | .plain s, args =>
      if o.plain.length < limit then read limit names { o with plain := o.plain ++ [s] } args
      else .error .misuse

end Operands

namespace Command

def names : List String := ["discover", "scan", "print-text", "print-receipt", "status"]

/-- The template that a command names: not two of them. -/
def template (o : Operands) : Except Notice (Option Template) :=
  match o.option? "json", o.option? "file" with
  | none, none => .ok none
  | some json, none => .ok (some (.inline json))
  | none, some path => .ok (some (.file path))
  | some _, some _ => .error .misuse

/-- Reads the command of a name. Every operand must be given. -/
def read (name : String) (args : List String) : Except Notice Command :=
  match name with
  | "discover" => do
    let o ← Operands.read 0 ["range"] {} args
    return .discover (o.option? "range")
  | "scan" => do
    let ⟨[range], _⟩ ← Operands.read 1 [] {} args | .error .misuse
    return .scan range
  | "print-text" => do
    let ⟨[id, text], _⟩ ← Operands.read 2 [] {} args | .error .misuse
    return .printText id text
  | "print-receipt" => do
    let o ← Operands.read 1 ["json", "file"] {} args
    let [id] := o.plain | .error .misuse
    return .printReceipt id (← template o)
  | "status" => do
    let ⟨[id], _⟩ ← Operands.read 1 [] {} args | .error .misuse
    return .status id
  | _ => .error .misuse

end Command

namespace Request

/-- Help is asked for as a whole or for one command. -/
def helpFor (args : List String) : Notice :=
  match args with
  | [] => .help
  | [name] => if name ∈ "help" :: Command.names then .help else .misuse
  | _ => .misuse

/-- Reads options and then a command. The value of an option is looked at when the argument after it
turns out to be no command, or when the command has been read. -/
def read (o : Options) (pending : Option (String × String)) : List String → Except Notice Request
  | [] => .error .misuse
  | arg :: args =>
    match Word.ofText arg, args with
    | .separator, _ => .error .misuse
    | .long "help" none, _ => (o.settle pending).bind fun _ => .error .help
    | .long "version" none, _ => (o.settle pending).bind fun _ => .error .version
    | .long name (some value), args => do
      let o ← o.settle pending
      read (← o.put name value) none args
    | .long name none, value :: args => do
      let o ← o.settle pending
      if name ∈ Options.names ∧ isValue value then read o (some (name, value)) args
      else .error .misuse
    | .long _ none, [] => .error .misuse
    | .short 'h' _, _ => (o.settle pending).bind fun _ => .error .help
    | .short 'V' _, _ => (o.settle pending).bind fun _ => .error .version
    | .short _ _, _ => .error .misuse
    | .plain "help", args => .error (helpFor args)
    | .plain name, args => do
      let command ← Command.read name args
      return ⟨← o.settle pending, command⟩

/-- The request that a command line makes. -/
def ofArguments (args : List String) : Except Notice Request := read {} none args

end Request

end ThermalPrint.CommandLine
