import ThermalPrint.Escpos.Command
import ThermalPrint.Transport.Kind

/-! A channel to one printer, and the log that whoever watches it keeps seeing after the channel
itself is gone. -/

namespace ThermalPrint.Transport

/-- What is seen of a channel from outside, with the two switches that make its operations fail. -/
structure Log where
  /-- Every byte that was taken, in order. -/
  sent : Bytes := []
  /-- How often something was to be written, with or without success. -/
  writes : Nat := 0
  closed : Bool := false
  failWrites : Bool := false
  failClose : Bool := false
deriving DecidableEq, Repr

structure Channel where
  kind : Kind
  phase : Phase := .opened
  log : Log := {}
deriving DecidableEq, Repr

namespace Channel

/-- Writes all bytes or none. -/
def write (bytes : Bytes) (ch : Channel) : Except Failure Unit × Channel :=
  let counted := { ch.log with writes := ch.log.writes + 1 }
  if !ch.phase.canWrite then (.error (.writeFailed "transport is closed"), { ch with log := counted })
  else if ch.log.failWrites then (.error (.writeFailed "broken pipe"), { ch with log := counted })
  else (.ok (), { ch with log := { counted with sent := ch.log.sent ++ bytes } })

/-- Closes the channel for good, also when that is reported as failed. -/
def close (ch : Channel) : Except Failure Unit × Channel :=
  (if ch.log.failClose then .error (.connectionFailed "close failed") else .ok (),
    { ch with phase := ch.phase.close, log := { ch.log with closed := true } })

/-- What can be done to a channel and its switches. -/
inductive Step
  | write (bytes : Bytes)
  | close
  | failWrites (on : Bool)
  | failClose (on : Bool)
deriving DecidableEq, Repr

def step (ch : Channel) : Step → Except Failure Unit × Channel
  | .write bytes => ch.write bytes
  | .close => ch.close
  | .failWrites on => (.ok (), { ch with log := { ch.log with failWrites := on } })
  | .failClose on => (.ok (), { ch with log := { ch.log with failClose := on } })

/-- The results of steps one after another, each with the channel as it is then. -/
def run (ch : Channel) : List Step → List (Except Failure Unit × Channel)
  | [] => []
  | s :: ss => ch.step s :: run (ch.step s).2 ss

end Channel

end ThermalPrint.Transport
