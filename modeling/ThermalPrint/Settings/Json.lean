import ThermalPrint.Json.Decode
import ThermalPrint.Settings.Basic

/-! The JSON form of settings. Whatever is not given keeps its built-in value. -/

namespace ThermalPrint.Settings

open Json

/-- A number of milliseconds. -/
def milliseconds : Decoder UInt64 := fun origin node =>
  (Decoder.natural "u64" 0x10000000000000000 origin node).map UInt64.ofNat

theorem exact_ofNat {n : Nat} (h : n < 0x10000000000000000) : Exact n :=
  ⟨Int.le_trans (by decide) (Int.natCast_nonneg n), Int.ofNat_lt.2 h⟩

def naturalJson (n : Nat) (h : n < 0x10000000000000000) : Value := .number (.integer n (exact_ofNat h))

def word64Json (n : UInt64) : Value := naturalJson n.toNat n.toNat_lt

namespace Network

structure Draft where
  port : Option UInt16 := none
  connectTimeout : Option UInt64 := none
  writeTimeout : Option UInt64 := none

def form : RecordForm Draft Network where
  name := "NetworkSettings"
  fields := [
    .of "port" Draft.port (fun v d => { d with port := some v }) port,
    .of "connect_timeout_ms" Draft.connectTimeout (fun v d => { d with connectTimeout := some v })
      milliseconds,
    .of "write_timeout_ms" Draft.writeTimeout (fun v d => { d with writeTimeout := some v })
      milliseconds]
  empty := {}
  complete d :=
    let default : Network := {}
    .ok ⟨d.port.getD default.port, d.connectTimeout.getD default.connectTimeout,
      d.writeTimeout.getD default.writeTimeout⟩
where
  port : Decoder UInt16 := fun origin node =>
    (Decoder.natural "u16" 0x10000 origin node).map UInt16.ofNat

def decoder : Decoder Network := form.decoder

def toJson (n : Network) : Value := .object [
  ("port", naturalJson n.port.toNat (Nat.lt_trans n.port.toNat_lt (by decide))),
  ("connect_timeout_ms", word64Json n.connectTimeout),
  ("write_timeout_ms", word64Json n.writeTimeout)]

end Network

namespace Bluetooth

structure Draft where
  channel : Option (Option UInt8) := none
  connectTimeout : Option UInt64 := none
  writeTimeout : Option UInt64 := none

def form : RecordForm Draft Bluetooth where
  name := "BluetoothSettings"
  fields := [
    .of "channel" Draft.channel (fun v d => { d with channel := some v }) (.option channel),
    .of "connect_timeout_ms" Draft.connectTimeout (fun v d => { d with connectTimeout := some v })
      milliseconds,
    .of "write_timeout_ms" Draft.writeTimeout (fun v d => { d with writeTimeout := some v })
      milliseconds]
  empty := {}
  complete d :=
    let default : Bluetooth := {}
    .ok ⟨d.channel.getD default.channel, d.connectTimeout.getD default.connectTimeout,
      d.writeTimeout.getD default.writeTimeout⟩
where
  channel : Decoder UInt8 := fun origin node =>
    (Decoder.natural "u8" 0x100 origin node).map UInt8.ofNat

def decoder : Decoder Bluetooth := form.decoder

def toJson (b : Bluetooth) : Value := .object [
  ("channel", b.channel.elim .null fun c =>
    naturalJson c.toNat (Nat.lt_trans c.toNat_lt (by decide))),
  ("connect_timeout_ms", word64Json b.connectTimeout),
  ("write_timeout_ms", word64Json b.writeTimeout)]

end Bluetooth

namespace Scan

structure Draft where
  probeTimeout : Option UInt64 := none
  concurrency : Option UInt64 := none

def form : RecordForm Draft Scan where
  name := "ScanSettings"
  fields := [
    .of "probe_timeout_ms" Draft.probeTimeout (fun v d => { d with probeTimeout := some v })
      milliseconds,
    .of "concurrency" Draft.concurrency (fun v d => { d with concurrency := some v }) concurrency]
  empty := {}
  complete d :=
    let default : Scan := {}
    .ok ⟨d.probeTimeout.getD default.probeTimeout, d.concurrency.getD default.concurrency⟩
where
  concurrency : Decoder UInt64 := fun origin node =>
    (Decoder.natural "usize" 0x10000000000000000 origin node).map UInt64.ofNat

def decoder : Decoder Scan := form.decoder

def toJson (s : Scan) : Value := .object [
  ("probe_timeout_ms", word64Json s.probeTimeout), ("concurrency", word64Json s.concurrency)]

end Scan

structure Draft where
  network : Option Network := none
  bluetooth : Option Bluetooth := none
  scan : Option Scan := none

def form : RecordForm Draft Settings where
  name := "PrinterSettings"
  fields := [
    .of "network" Draft.network (fun v d => { d with network := some v }) Network.decoder,
    .of "bluetooth" Draft.bluetooth (fun v d => { d with bluetooth := some v }) Bluetooth.decoder,
    .of "scan" Draft.scan (fun v d => { d with scan := some v }) Scan.decoder]
  empty := {}
  complete d := .ok ⟨d.network.getD {}, d.bluetooth.getD {}, d.scan.getD {}⟩

def decoder : Decoder Settings := form.decoder

def toJson (s : Settings) : Value := .object [
  ("network", s.network.toJson), ("bluetooth", s.bluetooth.toJson), ("scan", s.scan.toJson)]

end ThermalPrint.Settings
