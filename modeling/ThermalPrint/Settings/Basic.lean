import ThermalPrint.Failure

/-! The settings of transports and searches, their built-in values, and what makes them usable. -/

namespace ThermalPrint

namespace Settings

structure Network where
  port : UInt16 := 9100
  connectTimeout : UInt64 := 5000
  writeTimeout : UInt64 := 5000
deriving DecidableEq, Repr

structure Bluetooth where
  /-- A channel that is dialled without looking the printer's service up. -/
  channel : Option UInt8 := none
  connectTimeout : UInt64 := 5000
  writeTimeout : UInt64 := 5000
deriving DecidableEq, Repr

structure Scan where
  probeTimeout : UInt64 := 300
  /-- How many hosts are probed at the same time. -/
  concurrency : UInt64 := 64
deriving DecidableEq, Repr

/-- The printer's serial port: a fixed channel, or the service under which it is looked up. -/
inductive Target
  | service (id : Nat)
  | channel (n : UInt8)
deriving DecidableEq, Repr

/-- The class of serial-port services. -/
def serialPortService : Nat := 0x0000110100001000800000805F9B34FB

def Bluetooth.target (b : Bluetooth) : Target :=
  b.channel.elim (.service serialPortService) .channel

end Settings

/-- Timeouts are in milliseconds. -/
structure Settings where
  network : Settings.Network := {}
  bluetooth : Settings.Bluetooth := {}
  scan : Settings.Scan := {}
deriving DecidableEq, Repr

namespace Settings

/-- The timeouts with their names, in the order in which they are checked. -/
def timeouts (s : Settings) : List (String × UInt64) := [
  ("network.connect_timeout_ms", s.network.connectTimeout),
  ("network.write_timeout_ms", s.network.writeTimeout),
  ("bluetooth.connect_timeout_ms", s.bluetooth.connectTimeout),
  ("bluetooth.write_timeout_ms", s.bluetooth.writeTimeout),
  ("scan.probe_timeout_ms", s.scan.probeTimeout)]

/-- The first reason for which settings cannot be used. -/
def problem? (s : Settings) : Option String :=
  if s.network.port = 0 then some "network.port must be non-zero"
  else match s.bluetooth.channel.filter fun c => !(1 ≤ c && c ≤ 30) with
    | some c => some s!"bluetooth.channel must be within 1..=30, got {c}"
    | none =>
      if s.scan.concurrency = 0 then some "scan.concurrency must be at least 1"
      else (s.timeouts.find? (·.2 = 0)).map fun (name, _) => s!"{name} must be non-zero"

def validate (s : Settings) : Except Failure Unit :=
  match s.problem? with
  | some reason => .error (.badConfiguration reason)
  | none => .ok ()

end Settings

end ThermalPrint
