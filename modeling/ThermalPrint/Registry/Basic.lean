import ThermalPrint.Transport.Connector

/-! The registry of connections: at most one channel for every identifier. An identifier has a slot
while an operation on it is under way or a channel is held for it. -/

namespace ThermalPrint

open Transport

/-- A channel by its connector and its number among that connector's channels. -/
structure Handle where
  connector : Nat
  line : Nat
deriving DecidableEq, Repr

/-- Slots by identifier. No identifier has two. -/
structure Slots where
  entries : List (Identifier × Option Handle) := []
  keys_nodup : (entries.map (·.1)).Nodup := by simp

namespace Slots

def get? (slots : Slots) (id : Identifier) : Option (Option Handle) :=
  (slots.entries.find? (·.1 = id)).map (·.2)

/-- Entries with a content at an identifier: in its place, or after all others. -/
def putEntry (id : Identifier) (content : Option Handle) :
    List (Identifier × Option Handle) → List (Identifier × Option Handle)
  | [] => [(id, content)]
  | (k, h) :: rest => if k = id then (id, content) :: rest else (k, h) :: putEntry id content rest

theorem mem_keys_putEntry {id k : Identifier} {content : Option Handle}
    {entries : List (Identifier × Option Handle)} :
    k ∈ (putEntry id content entries).map (·.1) ↔ k = id ∨ k ∈ entries.map (·.1) := by
  induction entries with
  | nil => simp [putEntry]
  | cons e rest ih =>
    unfold putEntry
    split
    · next h =>
      subst h
      simp
    · simp only [List.map_cons, List.mem_cons, ih]
      exact or_left_comm

theorem keys_nodup_putEntry {id : Identifier} {content : Option Handle}
    {entries : List (Identifier × Option Handle)} (h : (entries.map (·.1)).Nodup) :
    ((putEntry id content entries).map (·.1)).Nodup := by
  induction entries with
  | nil => simp [putEntry]
  | cons e rest ih =>
    rw [List.map_cons, List.nodup_cons] at h
    unfold putEntry
    split
    · next he =>
      subst he
      simpa using h
    · next he =>
      rw [List.map_cons, List.nodup_cons, mem_keys_putEntry]
      exact ⟨fun hm => hm.elim he h.1, ih h.2⟩

/-- Puts a content into the slot of an identifier, which is created if there is none. -/
def put (slots : Slots) (id : Identifier) (content : Option Handle) : Slots :=
  ⟨putEntry id content slots.entries, keys_nodup_putEntry slots.keys_nodup⟩

/-- The slot of an identifier, created empty if there is none. -/
def ensure (slots : Slots) (id : Identifier) : Slots :=
  match slots.get? id with
  | some _ => slots
  | none => slots.put id none

/-- The slots that satisfy a condition. -/
def filter (slots : Slots) (p : Identifier × Option Handle → Bool) : Slots :=
  ⟨slots.entries.filter p, slots.keys_nodup.sublist (List.filter_sublist.map _)⟩

/-- Drops the slot of an identifier if it is empty. -/
def prune (slots : Slots) (id : Identifier) : Slots := slots.filter fun (k, h) => k ≠ id || h.isSome

/-- Drops every empty slot. -/
def pruneAll (slots : Slots) : Slots := slots.filter (·.2.isSome)

theorem get?_eq_some_iff {slots : Slots} {id : Identifier} {content : Option Handle} :
    slots.get? id = some content ↔ (id, content) ∈ slots.entries := by
  obtain ⟨entries, nodup⟩ := slots
  simp only [get?]
  induction entries with
  | nil => simp
  | cons e rest ih =>
    rw [List.map_cons, List.nodup_cons] at nodup
    obtain ⟨k, h⟩ := e
    by_cases hk : k = id
    · subst hk
      have hout : (k, content) ∉ rest := fun hm => nodup.1 (List.mem_map.2 ⟨_, hm, rfl⟩)
      simp [hout, eq_comm]
    · have hne : (id, content) ≠ (k, h) := fun e => hk (congrArg Prod.fst e).symm
      simp [hk, hne, ih nodup.2]

theorem get?_put (slots : Slots) (id k : Identifier) (content : Option Handle) :
    (slots.put id content).get? k = if k = id then some content else slots.get? k := by
  obtain ⟨entries, nodup⟩ := slots
  simp only [get?, put]
  clear nodup
  induction entries with
  | nil => by_cases h : k = id <;> simp [putEntry, h, eq_comm]
  | cons e rest ih =>
    unfold putEntry
    split
    · next he =>
      subst he
      by_cases h : k = e.1 <;> simp [h, eq_comm]
    · next he =>
      by_cases h : e.1 = k
      · have hk : k ≠ id := fun hk => he (h.trans hk)
        simp [h, hk]
      · simp only [List.find?_cons_of_neg, h, decide_false, Bool.false_eq_true, not_false_eq_true]
        exact ih

theorem get?_filter (slots : Slots) (p : Identifier × Option Handle → Bool) (k : Identifier) :
    (slots.filter p).get? k = (slots.get? k).filter fun h => p (k, h) := by
  ext content
  rw [get?_eq_some_iff, Option.filter_eq_some_iff, get?_eq_some_iff]
  exact List.mem_filter

end Slots

structure Registry where
  connectors : List Connector
  slots : Slots := {}

namespace Registry

/-- The position of the connector that serves a kind: the last one given for it. -/
def connectorFor (r : Registry) (kind : Kind) : Option Nat :=
  (r.connectors.zipIdx.filter (·.1.kind = kind)).getLast?.map (·.2)

def updateConnector (r : Registry) (i : Nat) (c : Connector) : Registry :=
  { r with connectors := r.connectors.set i c }

/-- The channel held for an identifier. -/
def held (r : Registry) (id : Identifier) : Option Handle := (r.slots.get? id).join

/-- Closes a channel. -/
def closeHandle (r : Registry) (h : Handle) : Registry :=
  match r.connectors[h.connector]? with
  | some c => r.updateConnector h.connector (c.closeChannel h.line)
  | none => r

/-- Closes the channel held for an identifier, if there is one. It stays registered. -/
def closeHeld (r : Registry) (id : Identifier) : Registry :=
  match r.held id with
  | some h => r.closeHandle h
  | none => r

/-- Opens a channel of the one kind that fits the identifier. A refused permission is reported as it
is, every other failure with the way that was tried. -/
def openChannel (r : Registry) (id : Identifier) : Except Failure (Handle × Kind) × Registry :=
  let kind := Kind.ofIdentifier id
  let failed (why : String) : Except Failure (Handle × Kind) :=
    .error (.connectionFailed s!"{id.text}: {kind.name}: {why}")
  match r.connectorFor kind with
  | none => (failed "transport not available", r)
  | some i =>
    match r.connectors[i]? with
    | none => (failed "transport not available", r)
    | some c =>
      let (result, c') := c.connect id
      let r' := r.updateConnector i c'
      match result with
      | .ok channel => (.ok (⟨i, c.lines.length⟩, channel.kind), r')
      | .error (.permissionDenied reason) => (.error (.permissionDenied reason), r')
      | .error f => (failed f.message, r')

/-- Opens a channel and registers it in place of a previous one, which is closed. When no channel
can be opened, whatever is registered stays. -/
def connect (r : Registry) (id : Identifier) : Except Failure Kind × Registry :=
  let r := { r with slots := r.slots.ensure id }
  match r.openChannel id with
  | (.error f, r) => (.error f, { r with slots := r.slots.prune id })
  | (.ok (h, kind), r) =>
    let r := r.closeHeld id
    (.ok kind, { r with slots := r.slots.put id (some h) })

/-- Removes and closes the channel of an identifier. -/
def disconnect (r : Registry) (id : Identifier) : Except Failure Unit × Registry :=
  match r.slots.get? id with
  | none => (.error .notConnected, r)
  | some none => (.error .notConnected, { r with slots := r.slots.prune id })
  | some (some h) =>
    let r := { r with slots := r.slots.put id none }
    let r := r.closeHandle h
    (.ok (), { r with slots := r.slots.prune id })

/-- A failure to write, whatever its cause. -/
def asWriteFailure : Failure → Failure
  | .writeFailed reason => .writeFailed reason
  | f => .writeFailed f.message

/-- Writes bytes on the channel of an identifier. A failed write leaves the channel registered. -/
def send (r : Registry) (id : Identifier) (bytes : Bytes) : Except Failure Unit × Registry :=
  match r.slots.get? id with
  | none => (.error .notConnected, r)
  | some none => (.error .notConnected, { r with slots := r.slots.prune id })
  | some (some h) =>
    match r.connectors[h.connector]? with
    | none => (.error .notConnected, r)
    | some c =>
      let (result, c') := c.writeOn h.line bytes
      let r := r.updateConnector h.connector c'
      (result.mapError asWriteFailure, { r with slots := r.slots.prune id })

/-- Whether a channel is held for an identifier; an empty slot is dropped. -/
def isConnected (r : Registry) (id : Identifier) : Bool × Registry :=
  match r.slots.get? id with
  | none => (false, r)
  | some none => (false, { r with slots := r.slots.prune id })
  | some (some _) => (true, r)

/-- The number of slots. -/
def size (r : Registry) : Nat := r.slots.entries.length

def isEmpty (r : Registry) : Bool := r.slots.entries.isEmpty

/-- The identifiers that hold a channel, in the order of their texts. -/
def connected (r : Registry) : List Identifier × Registry :=
  let ids := r.slots.pruneAll.entries.map (·.1)
  (ids.mergeSort fun a b => decide (a.text ≤ b.text), { r with slots := r.slots.pruneAll })

/-- Closes the channels of slots one after another; the number of channels closed. -/
def closeSlots (r : Registry) : List (Identifier × Option Handle) → Nat × Registry
  | [] => (0, r)
  | (id, some h) :: rest =>
    let r := { r with slots := r.slots.put id none }
    let (n, r) := (r.closeHandle h).closeSlots rest
    (n + 1, r)
  | (_, none) :: rest => r.closeSlots rest

/-- Closes every channel that is held; the number of them. -/
def closeAll (r : Registry) : Nat × Registry :=
  let (n, r) := r.closeSlots r.slots.entries
  (n, { r with slots := r.slots.pruneAll })

end Registry

end ThermalPrint
