import ThermalPrint.Proofs.Interleaving.Shared

/-! What one step of a call does: it changes what the calls share, and what the call has of it, in one of
a few ways. Everything else about calls that are under way is told from these. -/

namespace ThermalPrint.Interleaving

open Transport

/-- A write that is under way. -/
structure Pen where
  channel : Nat
  payload : Bytes
  /-- What is not written yet. -/
  rest : Bytes

/-- What a call has of what is shared. -/
structure Kit where
  /-- The slots that it has got hold of, with the identifiers that they are for. -/
  grips : List (Identifier × Nat) := []
  /-- The slot whose lock it has. -/
  lock : Option Nat := none
  /-- The channels that are in no slot because the call has them. -/
  owned : List Nat := []
  pen : Option Pen := none

def Operation.payload : Operation → Bytes
  | .send _ bytes => bytes
  | _ => []

def Operation.grips (op : Operation) (cell : Nat) : List (Identifier × Nat) :=
  op.identifier?.toList.map (·, cell)

theorem Operation.grips_eq {op : Operation} {id : Identifier} (h : op.identifier? = some id)
    (cell : Nat) : op.grips cell = [(id, cell)] := by
  rw [Operation.grips, h]
  rfl

/-- What a call has at a stage. -/
def Stage.kit (op : Operation) : Stage → Kit
  | .waiting cell | .lettingGo cell _ _ => { grips := op.grips cell }
  | .working cell | .unlocking cell _ _ => { grips := op.grips cell, lock := some cell }
  | .opened cell new | .storing cell new =>
    { grips := op.grips cell, lock := some cell, owned := [new] }
  | .closing cell old new =>
    { grips := op.grips cell, lock := some cell, owned := old :: new.toList }
  | .writing cell channel rest =>
    { grips := op.grips cell, lock := some cell, pen := some ⟨channel, op.payload, rest⟩ }
  | .visiting rest _ => { grips := rest }
  | .inspecting id cell rest _ => { grips := (id, cell) :: rest, lock := some cell }
  | .releasing id cell taken rest _ =>
    { grips := (id, cell) :: rest, lock := some cell, owned := taken.toList }
  | .closingTaken id cell channel rest _ => { grips := (id, cell) :: rest, owned := [channel] }
  | .leaving id cell rest _ => { grips := (id, cell) :: rest }
  | .start | .pruning _ | .sweeping _ | .done _ => {}

/-- The ways in which a step changes what is shared. -/
inductive Move
  | stay
  | hold (cell : Nat)
  | create (id : Identifier)
  | holdAll
  | letGo (cell : Nat)
  | lock (cell : Nat)
  | unlock (cell : Nat)
  | openChannel (id : Identifier)
  | take (cell : Nat)
  | store (cell channel : Nat)
  | close (channel : Nat)
  | beginWrite (channel : Nat)
  | write (channel : Nat) (byte : UInt8)
  | prune (id : Identifier)
  | pruneAll

namespace Move

def apply (s : Shared) : Move → Shared
  | stay => s
  | hold cell => s.hold cell
  | create id => s.create id
  | holdAll => s.holdAll
  | letGo cell => s.letGo cell
  | lock cell => s.setLock cell true
  | unlock cell => s.setLock cell false
  | openChannel id => (s.openChannel id).2
  | take cell => s.setContent cell none
  | store cell channel => s.setContent cell (some channel)
  | close channel => s.closeChannel channel
  | beginWrite channel => (s.beginWrite channel).2
  | write channel byte => s.writeByte channel byte
  | prune id => s.prune id
  | pruneAll => s.pruneAll

/-- When a step may change what is shared in a way, and how what the call has changes with it. -/
inductive Changes (s : Shared) : Move → Kit → Kit → Prop
  | stay {k : Kit} : Changes s .stay k k
  | hold {id : Identifier} {cell : Nat} (entry : s.entry? id = some cell) :
    Changes s (.hold cell) {} { grips := [(id, cell)] }
  | create {id : Identifier} (new : s.entry? id = none) :
    Changes s (.create id) {} { grips := [(id, s.cells.length)] }
  | holdAll : Changes s .holdAll {} { grips := s.entries }
  | letGo {id : Identifier} {cell : Nat} {rest : List (Identifier × Nat)} :
    Changes s (.letGo cell) { grips := (id, cell) :: rest } { grips := rest }
  | lock {id : Identifier} {cell : Nat} {grips : List (Identifier × Nat)} (grip : (id, cell) ∈ grips)
    (free : s.isLocked cell = false) : Changes s (.lock cell) { grips } { grips, lock := some cell }
  | unlock {grips : List (Identifier × Nat)} {cell : Nat} {owned : List Nat} :
    Changes s (.unlock cell) { grips, lock := some cell, owned } { grips, owned }
  | openChannel {id : Identifier} {cell : Nat} {grips : List (Identifier × Nat)} :
    Changes s (.openChannel id) { grips, lock := some cell }
      { grips, lock := some cell, owned := [s.channels.length] }
  | take {grips : List (Identifier × Nat)} {cell channel : Nat} {owned : List Nat}
    (content : s.content cell = some channel) :
    Changes s (.take cell) { grips, lock := some cell, owned }
      { grips, lock := some cell, owned := channel :: owned }
  | store {id : Identifier} {grips : List (Identifier × Nat)} {cell channel : Nat}
    (grip : (id, cell) ∈ grips) (empty : s.content cell = none)
    (owner : s.owner? channel = some id) :
    Changes s (.store cell channel) { grips, lock := some cell, owned := [channel] }
      { grips, lock := some cell }
  | close {grips : List (Identifier × Nat)} {lock : Option Nat} {channel : Nat} {owned : List Nat} :
    Changes s (.close channel) { grips, lock, owned := channel :: owned } { grips, lock, owned }
  /-- A write is refused. -/
  | refuse {k : Kit} {channel : Nat} : Changes s (.beginWrite channel) k k
  | beginWrite {grips : List (Identifier × Nat)} {cell channel : Nat} {payload : Bytes}
    (content : s.content cell = some channel) :
    Changes s (.beginWrite channel) { grips, lock := some cell }
      { grips, lock := some cell, pen := some ⟨channel, payload, payload⟩ }
  | write {grips : List (Identifier × Nat)} {lock : Option Nat} {channel : Nat}
    {payload rest : Bytes} {byte : UInt8} :
    Changes s (.write channel byte) { grips, lock, pen := some ⟨channel, payload, byte :: rest⟩ }
      { grips, lock, pen := some ⟨channel, payload, rest⟩ }
  /-- A write has come to its end. -/
  | finish {grips : List (Identifier × Nat)} {lock : Option Nat} {channel : Nat} {payload : Bytes} :
    Changes s .stay { grips, lock, pen := some ⟨channel, payload, []⟩ } { grips, lock }
  | prune {id : Identifier} : Changes s (.prune id) {} {}
  | pruneAll : Changes s .pruneAll {} {}

end Move

/-- What a call relies on at a stage: no other call changes it. -/
def Stage.Fits (op : Operation) (s : Shared) : Stage → Prop
  | .start | .done _ => True
  | .waiting _ | .working _ | .lettingGo _ _ _ | .pruning _ => ∃ id, op.identifier? = some id
  | .unlocking cell _ prunes =>
    (∃ id, op.identifier? = some id) ∧ (prunes = false → s.content cell ≠ none)
  | .opened _ new => ∃ id, op = .connect id ∧ s.owner? new = some id
  | .closing cell _ none => s.content cell = none ∧ ∃ id, op = .disconnect id
  | .closing cell _ (some new) => s.content cell = none ∧ ∃ id, op = .connect id ∧ s.owner? new = some id
  | .storing cell new => s.content cell = none ∧ ∃ id, op = .connect id ∧ s.owner? new = some id
  | .writing _ _ _ => ∃ id bytes, op = .send id bytes
  | .visiting _ _ | .inspecting _ _ _ _ | .releasing _ _ _ _ _ | .closingTaken _ _ _ _ _
  | .leaving _ _ _ _ | .sweeping _ => op = .connected ∨ op = .closeAll

variable {op : Operation} {s s' : Shared} {st st' : Stage} {openFailure : Option Failure} {cell : Nat}

/-- What a step of a call comes to. -/
def Steps (op : Operation) (s : Shared) (st st' : Stage) (s' : Shared) : Prop :=
  ∃ m : Move, m.Changes s (st.kit op) (st'.kit op) ∧ s' = m.apply s ∧ st'.Fits op s'

/-- A call on a slot that there is waits for it; on one that is not there it has its reply. -/
theorem steps_of_entry {id : Identifier} {reply : Reply} (hid : op.identifier? = some id)
    (h : (match s.entry? id with
      | some cell => some (Stage.waiting cell, s.hold cell)
      | none => some (.done reply, s)) = some (st', s')) : Steps op s .start st' s' := by
  cases he : s.entry? id with
  | none =>
    rw [he] at h
    cases h
    exact ⟨.stay, .stay, rfl, trivial⟩
  | some cell =>
    rw [he] at h
    cases h
    refine ⟨.hold cell, ?_, rfl, id, hid⟩
    simp only [Stage.kit, Operation.grips_eq hid]
    exact .hold he

/-- The first step of a call. -/
theorem start_steps (h : advance op openFailure s .start = some (st', s')) :
    Steps op s .start st' s' := by
  cases op with
  | connect id =>
    simp only [advance] at h
    cases he : s.entry? id with
    | none =>
      rw [Shared.obtain_of_none he] at h
      cases h
      exact ⟨.create id, .create he, rfl, id, rfl⟩
    | some cell =>
      rw [Shared.obtain_of_some he] at h
      cases h
      exact ⟨.hold cell, .hold he, rfl, id, rfl⟩
  | disconnect id => exact steps_of_entry rfl h
  | send id bytes => exact steps_of_entry rfl h
  | isConnected id => exact steps_of_entry rfl h
  | connected =>
    cases h
    exact ⟨.holdAll, .holdAll, rfl, .inl rfl⟩
  | closeAll =>
    cases h
    exact ⟨.holdAll, .holdAll, rfl, .inr rfl⟩

/-- A step of a call that has the lock of its slot. -/
theorem work_steps (hop : ∃ id, op.identifier? = some id)
    (h : work op openFailure cell s = some (st', s')) : Steps op s (.working cell) st' s' := by
  obtain ⟨id, hid⟩ := hop
  cases op with
  | connect id =>
    simp only [work] at h
    cases openFailure with
    | some f =>
      cases h
      refine ⟨.stay, .stay, rfl, ⟨id, rfl⟩, fun hp hc => ?_⟩
      rw [hc] at hp
      cases hp
    | none =>
      cases h
      refine ⟨.openChannel id, .openChannel, rfl, id, rfl, ?_⟩
      simp [Shared.owner?, Shared.openChannel]
  | disconnect id =>
    cases hc : s.content cell with
    | none =>
      simp only [work, hc] at h
      cases h
      exact ⟨.stay, .stay, rfl, ⟨id, rfl⟩, fun hp => absurd hp (by simp)⟩
    | some channel =>
      simp only [work, hc] at h
      cases h
      refine ⟨.take cell, .take hc, rfl, ?_, id, rfl⟩
      rw [Shared.content_setContent (Shared.lt_of_content hc), if_pos rfl]
  | send id bytes =>
    cases hc : s.content cell with
    | none =>
      simp only [work, hc] at h
      cases h
      exact ⟨.stay, .stay, rfl, ⟨id, rfl⟩, fun hp => absurd hp (by simp)⟩
    | some channel =>
      simp only [work, hc] at h
      have hs : (s.beginWrite channel).2 = (Move.beginWrite channel).apply s := rfl
      generalize s.beginWrite channel = begun at h hs
      obtain ⟨_ | f, s₁⟩ := begun
      · cases h
        exact ⟨.beginWrite channel, .beginWrite hc, hs, id, bytes, rfl⟩
      · cases h
        exact ⟨.beginWrite channel, .refuse, hs, ⟨id, rfl⟩, fun hp => absurd hp (by simp)⟩
  | isConnected id =>
    simp only [work] at h
    cases h
    refine ⟨.stay, .stay, rfl, ⟨id, rfl⟩, fun hp hc => ?_⟩
    rw [hc] at hp
    cases hp
  | connected => cases hid
  | closeAll => cases hid

/-- A step of a call is one of the moves. -/
theorem advance_steps (hlt : ∀ c, st.locked? = some c → c < s.cells.length) (hfits : st.Fits op s)
    (h : advance op openFailure s st = some (st', s')) : Steps op s st st' s' := by
  cases st with
  | start => exact start_steps h
  | waiting cell =>
    simp only [advance] at h
    split at h
    · cases h
    · next hfree =>
      cases h
      obtain ⟨id, hid⟩ := hfits
      have hgrip : (id, cell) ∈ op.grips cell :=
        Operation.grips_eq hid cell ▸ List.mem_singleton.2 rfl
      exact ⟨.lock cell, .lock hgrip (by simpa using hfree), rfl, id, hid⟩
  | working cell => exact work_steps hfits h
  | opened cell new =>
    obtain ⟨id, rfl, howner⟩ := hfits
    cases hc : s.content cell with
    | none =>
      simp only [advance, hc] at h
      cases h
      exact ⟨.stay, .stay, rfl, hc, id, rfl, howner⟩
    | some old =>
      simp only [advance, hc] at h
      cases h
      refine ⟨.take cell, .take hc, rfl, ?_, id, rfl, howner⟩
      rw [Shared.content_setContent (Shared.lt_of_content hc), if_pos rfl]
  | closing cell old new =>
    cases new with
    | none =>
      obtain ⟨-, id, rfl⟩ := hfits
      cases h
      exact ⟨.close old, .close, rfl, ⟨id, rfl⟩, fun hp => nomatch hp⟩
    | some new =>
      obtain ⟨hempty, id, rfl, howner⟩ := hfits
      cases h
      refine ⟨.close old, .close, rfl, hempty, id, rfl, ?_⟩
      exact (Shared.owner?_updateChannel _ new).trans howner
  | storing cell new =>
    obtain ⟨hempty, id, rfl, howner⟩ := hfits
    cases h
    have hgrip : (id, cell) ∈ (Operation.connect id).grips cell := List.mem_singleton.2 rfl
    refine ⟨.store cell new, .store hgrip hempty howner, rfl, ⟨id, rfl⟩, fun _ => ?_⟩
    rw [Shared.content_setContent (hlt cell rfl), if_pos rfl]
    exact Option.some_ne_none new
  | writing cell channel rest =>
    obtain ⟨id, bytes, rfl⟩ := hfits
    cases rest with
    | nil =>
      cases h
      exact ⟨.stay, .finish, rfl, ⟨id, rfl⟩, fun hp => nomatch hp⟩
    | cons byte rest =>
      cases h
      exact ⟨.write channel byte, .write, rfl, id, bytes, rfl⟩
  | unlocking cell reply prunes =>
    obtain ⟨hop, -⟩ := hfits
    cases h
    exact ⟨.unlock cell, .unlock, rfl, hop⟩
  | lettingGo cell reply prunes =>
    obtain ⟨id, hid⟩ := hfits
    have hgrips := Operation.grips_eq hid cell
    cases prunes with
    | true =>
      cases h
      refine ⟨.letGo cell, ?_, rfl, id, hid⟩
      simp only [Stage.kit, hgrips]
      exact .letGo
    | false =>
      cases h
      refine ⟨.letGo cell, ?_, rfl, trivial⟩
      simp only [Stage.kit, hgrips]
      exact .letGo
  | pruning reply =>
    obtain ⟨id, hid⟩ := hfits
    simp only [advance, hid] at h
    cases h
    exact ⟨.prune id, .prune, rfl, trivial⟩
  | visiting rest seen =>
    cases rest with
    | nil =>
      cases h
      exact ⟨.stay, .stay, rfl, hfits⟩
    | cons e rest =>
      obtain ⟨id, cell⟩ := e
      simp only [advance] at h
      split at h
      · cases h
      · next hfree =>
        cases h
        have hgrip : (id, cell) ∈ (id, cell) :: rest := List.mem_cons_self
        exact ⟨.lock cell, .lock hgrip (by simpa using hfree), rfl, hfits⟩
  | inspecting id cell rest seen =>
    rcases hfits with rfl | rfl
    · cases h
      exact ⟨.stay, .stay, rfl, .inl rfl⟩
    · cases hc : s.content cell with
      | none =>
        simp only [advance, hc] at h
        cases h
        exact ⟨.stay, .stay, rfl, .inr rfl⟩
      | some channel =>
        simp only [advance, hc] at h
        cases h
        exact ⟨.take cell, .take hc, rfl, .inr rfl⟩
  | releasing id cell taken rest seen =>
    cases taken with
    | none =>
      cases h
      exact ⟨.unlock cell, .unlock, rfl, hfits⟩
    | some channel =>
      cases h
      exact ⟨.unlock cell, .unlock, rfl, hfits⟩
  | closingTaken id cell channel rest seen =>
    cases h
    exact ⟨.close channel, .close, rfl, hfits⟩
  | leaving id cell rest seen =>
    cases h
    exact ⟨.letGo cell, .letGo, rfl, hfits⟩
  | sweeping seen =>
    cases h
    exact ⟨.pruneAll, .pruneAll, rfl, trivial⟩
  | done reply => cases h

end ThermalPrint.Interleaving
