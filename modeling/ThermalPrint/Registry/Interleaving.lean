import ThermalPrint.Registry.Call

/-! Registry calls that are under way at the same time. Every call is cut into the steps that nothing
can come between: getting hold of a slot, taking its lock, each thing done to a channel, changing what
the slot holds, giving up the lock, letting go of the slot, and dropping the slot if it is of no more
use. A schedule says which call takes the next step; a call that cannot take it stays where it is. -/

namespace ThermalPrint.Interleaving

open Transport

/-- A slot as calls share it. The map's own hold on it is not counted. -/
structure Cell where
  /-- The number of the channel that is held. -/
  content : Option Nat := none
  locked : Bool := false
  /-- How many calls have got hold of the slot. -/
  handles : Nat := 0
deriving DecidableEq, Repr

/-- Nobody waits for the slot or works on it, and it holds nothing. -/
def Cell.isUnused (c : Cell) : Bool := c.handles = 0 && !c.locked && c.content.isNone

/-- What the calls work on. Slots and channels are numbered in the order in which they came into
being, and are never taken off these lists. -/
structure Shared where
  cells : List Cell := []
  /-- The slots that identifiers have now. -/
  entries : List (Identifier × Nat) := []
  /-- The channels that were ever opened, with the identifiers that they were opened for. -/
  channels : List Line := []
deriving DecidableEq

namespace Shared

def entry? (s : Shared) (id : Identifier) : Option Nat := (s.entries.find? (·.1 = id)).map (·.2)

def updateCell (s : Shared) (cell : Nat) (f : Cell → Cell) : Shared :=
  { s with cells := s.cells.modify cell f }

def updateChannel (s : Shared) (channel : Nat) (f : Channel → Channel) : Shared :=
  { s with channels := s.channels.modify channel fun l => { l with channel := f l.channel } }

def content (s : Shared) (cell : Nat) : Option Nat := (s.cells[cell]?).bind (·.content)

def isLocked (s : Shared) (cell : Nat) : Bool := (s.cells[cell]?).any (·.locked)

def hold (s : Shared) (cell : Nat) : Shared :=
  s.updateCell cell fun c => { c with handles := c.handles + 1 }

def letGo (s : Shared) (cell : Nat) : Shared :=
  s.updateCell cell fun c => { c with handles := c.handles - 1 }

def setLock (s : Shared) (cell : Nat) (locked : Bool) : Shared :=
  s.updateCell cell fun c => { c with locked }

def setContent (s : Shared) (cell : Nat) (content : Option Nat) : Shared :=
  s.updateCell cell fun c => { c with content }

/-- Gets hold of the slot of an identifier, which comes into being if there is none. -/
def obtain (s : Shared) (id : Identifier) : Nat × Shared :=
  match s.entry? id with
  | some cell => (cell, s.hold cell)
  | none =>
    (s.cells.length,
      { s with
        cells := s.cells ++ [{ handles := 1 }]
        entries := s.entries ++ [(id, s.cells.length)] })

/-- Gets hold of every slot. -/
def holdAll (s : Shared) : Shared := s.entries.foldl (fun s (_, cell) => s.hold cell) s

def openChannel (s : Shared) (id : Identifier) : Nat × Shared :=
  (s.channels.length,
    { s with channels := s.channels ++ [⟨id, { kind := Kind.ofIdentifier id }⟩] })

/-- Begins a write: it is counted, and refused where a channel refuses it. -/
def beginWrite (s : Shared) (channel : Nat) : Option Failure × Shared :=
  match s.channels[channel]? with
  | none => (some .notConnected, s)
  | some line =>
    let (result, ch) := line.channel.write []
    (match result with
      | .ok () => none
      | .error f => some (Registry.asWriteFailure f),
      s.updateChannel channel fun _ => ch)

/-- Writes one byte of what has been begun. -/
def writeByte (s : Shared) (channel : Nat) (byte : UInt8) : Shared :=
  s.updateChannel channel fun ch => { ch with log := { ch.log with sent := ch.log.sent ++ [byte] } }

def closeChannel (s : Shared) (channel : Nat) : Shared := s.updateChannel channel fun ch => ch.close.2

def isUnused (s : Shared) (cell : Nat) : Bool := (s.cells[cell]?).all Cell.isUnused

/-- Drops the slot of an identifier if it is of no more use. -/
def prune (s : Shared) (id : Identifier) : Shared :=
  { s with entries := s.entries.filter fun (k, cell) => k ≠ id || !s.isUnused cell }

/-- Drops every slot that is of no more use. -/
def pruneAll (s : Shared) : Shared :=
  { s with entries := s.entries.filter fun (_, cell) => !s.isUnused cell }

end Shared

inductive Operation
  | connect (id : Identifier)
  | disconnect (id : Identifier)
  | send (id : Identifier) (bytes : Bytes)
  | isConnected (id : Identifier)
  | connected
  | closeAll
deriving DecidableEq

def Operation.identifier? : Operation → Option Identifier
  | .connect id | .disconnect id | .send id _ | .isConnected id => some id
  | .connected | .closeAll => none

/-- How far a call has come: what its next step is. -/
inductive Stage
  | start
  /-- It has got hold of the slot, and takes the lock. -/
  | waiting (cell : Nat)
  /-- It has the lock, and does what it is about. -/
  | working (cell : Nat)
  /-- It has opened a channel, and makes room for it. -/
  | opened (cell new : Nat)
  /-- It has taken a channel out of the slot, and closes it; another may be due in its place. -/
  | closing (cell old : Nat) (new : Option Nat)
  | storing (cell new : Nat)
  | writing (cell channel : Nat) (rest : Bytes)
  | unlocking (cell : Nat) (reply : Reply) (prunes : Bool)
  | lettingGo (cell : Nat) (reply : Reply) (prunes : Bool)
  | pruning (reply : Reply)
  /-- It goes through slots that it has got hold of, and takes the lock of the next one. -/
  | visiting (rest : List (Identifier × Nat)) (seen : List Identifier)
  | inspecting (id : Identifier) (cell : Nat) (rest : List (Identifier × Nat)) (seen : List Identifier)
  /-- It gives up the lock, and may have taken a channel out of the slot. -/
  | releasing (id : Identifier) (cell : Nat) (taken : Option Nat) (rest : List (Identifier × Nat))
    (seen : List Identifier)
  /-- It closes a channel without having the lock. -/
  | closingTaken (id : Identifier) (cell channel : Nat) (rest : List (Identifier × Nat))
    (seen : List Identifier)
  | leaving (id : Identifier) (cell : Nat) (rest : List (Identifier × Nat)) (seen : List Identifier)
  | sweeping (seen : List Identifier)
  | done (reply : Reply)
deriving DecidableEq

namespace Stage

/-- The slots that a call at this stage has got hold of. -/
def handles : Stage → List Nat
  | .waiting cell | .working cell | .opened cell _ | .closing cell _ _ | .storing cell _
  | .writing cell _ _ | .unlocking cell _ _ | .lettingGo cell _ _ => [cell]
  | .visiting rest _ => rest.map (·.2)
  | .inspecting _ cell rest _ | .releasing _ cell _ rest _ | .closingTaken _ cell _ rest _
  | .leaving _ cell rest _ => cell :: rest.map (·.2)
  | .start | .pruning _ | .sweeping _ | .done _ => []

/-- The slot whose lock a call at this stage has. -/
def locked? : Stage → Option Nat
  | .working cell | .opened cell _ | .closing cell _ _ | .storing cell _ | .writing cell _ _
  | .unlocking cell _ _ | .inspecting _ cell _ _ | .releasing _ cell _ _ _ => some cell
  | _ => none

/-- The channels that are in no slot because a call at this stage has them. -/
def owned : Stage → List Nat
  | .opened _ new | .storing _ new => [new]
  | .closing _ old new => old :: new.toList
  | .releasing _ _ taken _ _ => taken.toList
  | .closingTaken _ _ channel _ _ => [channel]
  | _ => []

/-- The channel to which a call at this stage does something next. -/
def touched? : Stage → Option Nat
  | .closing _ old _ => some old
  | .writing _ channel _ => some channel
  | .closingTaken _ _ channel _ _ => some channel
  | _ => none

/-- What a call that went through all slots answers. -/
def tally (seen : List Identifier) : Operation → Reply
  | .closeAll => .count seen.length
  | _ => .identifiers (seen.mergeSort fun a b => decide (a.text ≤ b.text))

end Stage

/-- The step of a call that has the lock of its slot. A channel that is to be opened fails to with
`openFailure`. -/
def work (op : Operation) (openFailure : Option Failure) (cell : Nat) (s : Shared) :
    Option (Stage × Shared) :=
  match op, s.content cell with
  | .connect id, content =>
    match openFailure with
    | some f => some (.unlocking cell (.failure f) content.isNone, s)
    | none =>
      let (new, s) := s.openChannel id
      some (.opened cell new, s)
  | .disconnect _, some channel => some (.closing cell channel none, s.setContent cell none)
  | .send _ bytes, some channel =>
    match s.beginWrite channel with
    | (some f, s) => some (.unlocking cell (.failure f) true, s)
    | (none, s) => some (.writing cell channel bytes, s)
  | .disconnect _, none | .send _ _, none => some (.unlocking cell (.failure .notConnected) true, s)
  | .isConnected _, content => some (.unlocking cell (.answer content.isSome) content.isNone, s)
  | .connected, _ | .closeAll, _ => none

/-- The next step of a call, if it can take it. -/
def advance (op : Operation) (openFailure : Option Failure) (s : Shared) :
    Stage → Option (Stage × Shared)
  | .start =>
    match op with
    | .connect id =>
      let (cell, s) := s.obtain id
      some (.waiting cell, s)
    | .disconnect id | .send id _ =>
      match s.entry? id with
      | some cell => some (.waiting cell, s.hold cell)
      | none => some (.done (.failure .notConnected), s)
    | .isConnected id =>
      match s.entry? id with
      | some cell => some (.waiting cell, s.hold cell)
      | none => some (.done (.answer false), s)
    | .connected | .closeAll => some (.visiting s.entries [], s.holdAll)
  | .waiting cell =>
    if s.isLocked cell then none else some (.working cell, s.setLock cell true)
  | .working cell => work op openFailure cell s
  | .opened cell new =>
    match s.content cell with
    | some old => some (.closing cell old (some new), s.setContent cell none)
    | none => some (.storing cell new, s)
  | .closing cell old new =>
    match new with
    | some new => some (.storing cell new, s.closeChannel old)
    | none => some (.unlocking cell .done true, s.closeChannel old)
  | .storing cell new =>
    let kind := (s.channels[new]?.map (·.channel.kind)).getD .network
    some (.unlocking cell (.kind kind) false, s.setContent cell (some new))
  | .writing cell channel rest =>
    match rest with
    | byte :: rest => some (.writing cell channel rest, s.writeByte channel byte)
    | [] => some (.unlocking cell .done true, s)
  | .unlocking cell reply prunes => some (.lettingGo cell reply prunes, s.setLock cell false)
  | .lettingGo cell reply prunes =>
    some (if prunes then .pruning reply else .done reply, s.letGo cell)
  | .pruning reply => some (.done reply, (op.identifier?.elim s s.prune))
  | .visiting [] seen => some (.sweeping seen, s)
  | .visiting ((id, cell) :: rest) seen =>
    if s.isLocked cell then none else some (.inspecting id cell rest seen, s.setLock cell true)
  | .inspecting id cell rest seen =>
    match op, s.content cell with
    | .closeAll, some channel =>
      some (.releasing id cell (some channel) rest seen, s.setContent cell none)
    | .closeAll, none => some (.releasing id cell none rest seen, s)
    | _, content =>
      some (.releasing id cell none rest (if content.isSome then seen ++ [id] else seen), s)
  | .releasing id cell taken rest seen =>
    match taken with
    | some channel => some (.closingTaken id cell channel rest seen, s.setLock cell false)
    | none => some (.leaving id cell rest seen, s.setLock cell false)
  | .closingTaken id cell channel rest seen =>
    some (.leaving id cell rest (seen ++ [id]), s.closeChannel channel)
  | .leaving _ cell rest seen => some (.visiting rest seen, s.letGo cell)
  | .sweeping seen => some (.done (Stage.tally seen op), s.pruneAll)
  | .done _ => none

/-- Calls that are under way, and what they work on. -/
structure World where
  shared : Shared := {}
  calls : List (Operation × Stage)
deriving DecidableEq

/-- What happens next. -/
inductive Turn
  /-- A call takes its next step. If that is to open a channel, it may fail. -/
  | call (i : Nat) (openFailure : Option Failure := none)
  /-- The switches of a channel are set. -/
  | switch (channel : Nat) (failWrites failClose : Bool)
deriving DecidableEq

namespace World

/-- No call has begun. -/
def start (ops : List Operation) : World := { calls := ops.map fun op => (op, .start) }

def take (w : World) : Turn → World
  | .call i openFailure =>
    match w.calls[i]? with
    | none => w
    | some (op, stage) =>
      match advance op openFailure w.shared stage with
      | none => w
      | some (stage, shared) => { shared, calls := w.calls.set i (op, stage) }
  | .switch channel failWrites failClose =>
    { w with
      shared := w.shared.updateChannel channel fun ch =>
        { ch with log := { ch.log with failWrites, failClose } } }

def run (w : World) (schedule : List Turn) : World := schedule.foldl take w

/-- Every call has its reply. -/
def isSettled (w : World) : Bool :=
  w.calls.all fun (_, stage) => match stage with
    | .done _ => true
    | _ => false

end World

/-- Two sends on one printer, the second of which waits for the first. -/
example :
    let id : Identifier := ⟨"p", by decide +kernel⟩
    let w := World.start [.connect id, .send id [1, 2], .send id [3]]
    let connecting := List.replicate 7 (Turn.call 0)
    let sending := (List.replicate 9 [Turn.call 1, .call 2]).flatten ++ List.replicate 8 (.call 2)
    let w := w.run (connecting ++ sending)
    w.isSettled = true ∧ w.shared.channels.map (·.channel.log.sent) = [[1, 2, 3]] := by
  decide +kernel

end ThermalPrint.Interleaving
