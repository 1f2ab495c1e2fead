import ThermalPrint.Transport.Channel

/-! Connectors open channels of one kind, and remember every channel that they opened. -/

namespace ThermalPrint.Transport

/-- A channel with the identifier that it was opened for. -/
structure Line where
  owner : Identifier
  channel : Channel
deriving DecidableEq

structure Connector where
  /-- The kind of transport for which the connector is asked. -/
  kind : Kind
  /-- The kind that its channels report. -/
  reports : Kind
  /-- The failure of every attempt to reach a printer. -/
  openFailure : Identifier → Option Failure := fun _ => none
  /-- The failure of every write on a channel of this connector, before the channel is reached. -/
  writeFailure : Option Failure := none
  /-- How often a printer was to be reached. -/
  attempts : Nat := 0
  /-- The channels that were opened, oldest first. -/
  lines : List Line := []

namespace Connector

/-- Opens a channel for a printer. -/
def connect (id : Identifier) (c : Connector) : Except Failure Channel × Connector :=
  let tried := { c with attempts := c.attempts + 1 }
  match c.openFailure id with
  | some f => (.error f, tried)
  | none =>
    let channel : Channel := { kind := c.reports }
    (.ok channel, { tried with lines := c.lines ++ [⟨id, channel⟩] })

/-- Changes the channel that was opened as number `i`, if there is one. -/
def updateChannel (i : Nat) (f : Channel → Channel) (c : Connector) : Connector :=
  { c with lines := c.lines.modify i fun line => { line with channel := f line.channel } }

/-- Writes on the channel that was opened as number `i`. -/
def writeOn (i : Nat) (bytes : Bytes) (c : Connector) : Except Failure Unit × Connector :=
  match c.writeFailure, c.lines[i]? with
  | some f, _ => (.error f, c)
  | none, some line =>
    let (result, channel) := line.channel.write bytes
    (result, c.updateChannel i fun _ => channel)
  | none, none => (.error .notConnected, c)

/-- Closes the channel that was opened as number `i`. A failure to close it does not matter. -/
def closeChannel (i : Nat) (c : Connector) : Connector := c.updateChannel i fun ch => ch.close.2

end Connector

end ThermalPrint.Transport
