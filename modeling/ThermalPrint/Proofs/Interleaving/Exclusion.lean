import ThermalPrint.Proofs.Interleaving.Writing

/-! Calls on one identifier exclude each other, whatever the schedule: they use one slot and its lock,
no two of them use one channel, and no channel is lost or in two hands. -/

namespace ThermalPrint.Interleaving

open Transport

/-- A channel is in the slot of the identifier that it was opened for. -/
def Shared.Registered (s : Shared) (channel : Nat) : Prop :=
  ∃ id cell, s.owner? channel = some id ∧ s.entry? id = some cell ∧ s.content cell = some channel

namespace World

variable {w : World} {i j cell channel : Nat} {id : Identifier} {op : Operation} {st : Stage}
  {log : List Delivery}

/-- A call has got hold of a slot for an identifier. -/
def Holds (w : World) (i : Nat) (id : Identifier) (cell : Nat) : Prop :=
  ∃ op st, w.calls[i]? = some (op, st) ∧ (id, cell) ∈ (st.kit op).grips

/-- A call has the lock of a slot. -/
def Locks (w : World) (i cell : Nat) : Prop :=
  ∃ op st, w.calls[i]? = some (op, st) ∧ st.locked? = some cell

/-- A call has a channel that is in no slot. -/
def Owns (w : World) (i channel : Nat) : Prop :=
  ∃ op st, w.calls[i]? = some (op, st) ∧ channel ∈ st.owned

/-- The next step of a call writes to a channel or closes it, or begins to write to it. -/
def Uses (w : World) (i channel : Nat) : Prop :=
  ∃ op st, w.calls[i]? = some (op, st) ∧ (st.touched? = some channel ∨
    ∃ id bytes cell, op = .send id bytes ∧ st = .working cell ∧ w.shared.content cell = some channel)

/-- Calls that are under way, and the deliveries up to then, keep the rules. -/
structure Excluding (log : List Delivery) (w : World) : Prop where
  /-- Every slot that a call has got hold of is held for an identifier. -/
  named : ∀ i op st, w.calls[i]? = some (op, st) → ∀ cell ∈ st.handles, ∃ id, w.Holds i id cell
  /-- It is the one that the map has for it. -/
  current : ∀ i id cell, w.Holds i id cell → w.shared.entry? id = some cell
  /-- No two calls have the locks of slots that they hold for one identifier. -/
  exclusive : ∀ id i j cell cell', w.Holds i id cell → w.Locks i cell → w.Holds j id cell' →
    w.Locks j cell' → i = j
  one_user : ∀ channel i j, w.Uses i channel → w.Uses j channel → i = j
  /-- While a call writes, its channel has what was delivered, and the beginning of its payload. -/
  writing : ∀ (i : Nat) (op : Operation) cell channel rest,
    w.calls[i]? = some (op, .writing cell channel rest) →
    ∃ written, op.payload = written ++ rest ∧
      w.shared.sentOn channel = bytesOn log channel ++ written
  /-- While no call writes on it, a channel has what was delivered. -/
  resting : ∀ channel,
    (∀ (i : Nat) (op : Operation) cell rest, w.calls[i]? ≠ some (op, .writing cell channel rest)) →
      w.shared.sentOn channel = bytesOn log channel
  filed : Filed log w
  /-- A channel is in the slot of its identifier, or with one call, or closed. -/
  whereabouts : ∀ channel l, w.shared.channels[channel]? = some l →
    (l.isOpen = true ∧ l.channel.log.closed = false ∧ w.shared.Registered channel ∧
      ∀ i, ¬w.Owns i channel) ∨
    (l.isOpen = true ∧ l.channel.log.closed = false ∧ ¬w.shared.Registered channel ∧
      ∃ i, w.Owns i channel ∧ ∀ j, w.Owns j channel → j = i) ∨
    (l.isOpen = false ∧ l.channel.log.closed = true ∧ ¬w.shared.Registered channel ∧
      ∀ i, ¬w.Owns i channel)

namespace Consistent

theorem entry?_of_holds (hw : w.Consistent) (h : w.Holds i id cell) :
    w.shared.entry? id = some cell := by
  obtain ⟨op, st, hi, hgrip⟩ := h
  refine (Shared.entry?_eq_some_iff hw.balanced.keys_nodup).2 ?_
  exact hw.balanced.grips _ (List.mem_of_getElem? (getElem?_kits hi)) _ hgrip

theorem locks_inj (hw : w.Consistent) (h : w.Locks i cell) (h' : w.Locks j cell) : i = j := by
  obtain ⟨op, st, hi, hlock⟩ := h
  obtain ⟨op', st', hj, hlock'⟩ := h'
  exact hw.balanced.lock_inj (getElem?_kits hi) (getElem?_kits hj) ((st.kit_lock op).trans hlock)
    ((st'.kit_lock op').trans hlock')

theorem owns_inj (hw : w.Consistent) (h : w.Owns i channel) (h' : w.Owns j channel) : i = j := by
  obtain ⟨op, st, hi, hn⟩ := h
  obtain ⟨op', st', hj, hn'⟩ := h'
  rw [← st.kit_owned op] at hn
  rw [← st'.kit_owned op'] at hn'
  exact hw.balanced.owned_inj (getElem?_kits hi) (getElem?_kits hj) hn hn'

/-- A call that uses a channel has it, or has the lock of the slot that does. -/
theorem owns_or_locks_of_uses (hw : w.Consistent) (h : w.Uses i channel) :
    w.Owns i channel ∨ ∃ cell, w.Locks i cell ∧ w.shared.content cell = some channel := by
  obtain ⟨op, st, hi, htouched | ⟨id, bytes, cell, rfl, rfl, hc⟩⟩ := h
  · cases st with
    | closing cell old new =>
      cases htouched
      exact .inl ⟨op, _, hi, List.mem_cons_self⟩
    | closingTaken id cell taken rest seen =>
      cases htouched
      exact .inl ⟨op, _, hi, List.mem_singleton.2 rfl⟩
    | writing cell channel rest =>
      cases htouched
      have hk := List.mem_of_getElem? (getElem?_kits hi)
      obtain ⟨c, hlock, hc⟩ := hw.balanced.pen _ hk _ rfl
      exact .inr ⟨c, ⟨op, _, hi, (Stage.kit_lock op _).symm.trans hlock⟩, hc⟩
    | start | waiting | working | opened | storing | unlocking | lettingGo | pruning | visiting
    | inspecting | releasing | leaving | sweeping | done => cases htouched
  · exact .inr ⟨cell, ⟨_, _, hi, rfl⟩, hc⟩

theorem not_owns_of_content (hw : w.Consistent) (hc : w.shared.content cell = some channel) :
    ¬w.Owns i channel := by
  rintro ⟨op, st, hi, hn⟩
  rw [← st.kit_owned op] at hn
  exact hw.balanced.not_owned_of_content hc (List.mem_of_getElem? (getElem?_kits hi)) hn

theorem uses_inj (hw : w.Consistent) (h : w.Uses i channel) (h' : w.Uses j channel) : i = j := by
  rcases hw.owns_or_locks_of_uses h with howns | ⟨c, hlock, hc⟩
  · rcases hw.owns_or_locks_of_uses h' with howns' | ⟨c', -, hc'⟩
    · exact hw.owns_inj howns howns'
    · exact absurd howns (hw.not_owns_of_content hc')
  · rcases hw.owns_or_locks_of_uses h' with howns' | ⟨c', hlock', hc'⟩
    · exact absurd howns' (hw.not_owns_of_content hc)
    · cases hw.balanced.content_inj hc hc'
      exact hw.locks_inj hlock hlock'

/-- The slot that holds a channel is that of the identifier that it was opened for. -/
theorem registered_iff (hw : w.Consistent) :
    w.shared.Registered channel ↔ ∃ cell, w.shared.content cell = some channel := by
  constructor
  · rintro ⟨id, cell, -, -, hc⟩
    exact ⟨cell, hc⟩
  · rintro ⟨cell, hc⟩
    obtain ⟨id, howner, he⟩ := hw.balanced.content_owner cell channel hc
    exact ⟨id, cell, howner, (Shared.entry?_eq_some_iff hw.balanced.keys_nodup).2 he, hc⟩

theorem isOpen_of_owns (hw : w.Consistent) (h : w.Owns i channel) :
    w.shared.isOpen channel = true := by
  obtain ⟨op, st, hi, hn⟩ := h
  rw [← st.kit_owned op] at hn
  exact (hw.balanced.isOpen_of_owned (List.mem_of_getElem? (getElem?_kits hi)) hn).1

/-- An open channel is in a slot, or a call has it. -/
theorem registered_or_owns (hw : w.Consistent) (h : w.shared.isOpen channel = true) :
    w.shared.Registered channel ∨ ∃ i, w.Owns i channel := by
  have hcount := hw.balanced.channels channel
  rw [h, Bool.toNat_true] at hcount
  by_cases hzero : w.shared.contents.count channel = 0
  · have hpos : 0 < total Kit.owned w.kits channel := by omega
    obtain ⟨k, hk, hn⟩ := List.mem_flatMap.1 (List.count_pos_iff.1 hpos)
    obtain ⟨op, st, hmem, rfl⟩ := exists_of_mem_kits hk
    obtain ⟨i, hi⟩ := List.mem_iff_getElem?.1 hmem
    exact .inr ⟨i, op, st, hi, st.kit_owned op ▸ hn⟩
  · obtain ⟨x, hx, hn⟩ := List.mem_flatMap.1 (List.count_pos_iff.1 (Nat.pos_of_ne_zero hzero))
    obtain ⟨c, hc⟩ := List.mem_iff_getElem?.1 hx
    refine .inl (hw.registered_iff.2 ⟨c, ?_⟩)
    rw [Shared.content, hc]
    exact Option.mem_toList.1 hn

theorem whereabouts (hw : w.Consistent) {l : Line} (hl : w.shared.channels[channel]? = some l) :
    (l.isOpen = true ∧ l.channel.log.closed = false ∧ w.shared.Registered channel ∧
      ∀ i, ¬w.Owns i channel) ∨
    (l.isOpen = true ∧ l.channel.log.closed = false ∧ ¬w.shared.Registered channel ∧
      ∃ i, w.Owns i channel ∧ ∀ j, w.Owns j channel → j = i) ∨
    (l.isOpen = false ∧ l.channel.log.closed = true ∧ ¬w.shared.Registered channel ∧
      ∀ i, ¬w.Owns i channel) := by
  have hclosed : l.channel.log.closed = !l.isOpen := hw.balanced.sound l (List.mem_of_getElem? hl)
  have hopen : w.shared.isOpen channel = l.isOpen := by
    rw [Shared.isOpen, hl]
    rfl
  have hregistered (hr : w.shared.Registered channel) : l.isOpen = true ∧ ∀ i, ¬w.Owns i channel := by
    obtain ⟨c, hc⟩ := hw.registered_iff.1 hr
    exact ⟨hopen ▸ (hw.balanced.isOpen_of_content hc).1, fun i => hw.not_owns_of_content hc⟩
  cases ho : l.isOpen with
  | true =>
    rw [ho] at hclosed hopen
    rcases hw.registered_or_owns hopen with hr | ⟨i, hi⟩
    · exact .inl ⟨rfl, hclosed, hr, (hregistered hr).2⟩
    · refine .inr (.inl ⟨rfl, hclosed, fun hr => (hregistered hr).2 i hi, i, hi, fun j hj => ?_⟩)
      exact hw.owns_inj hj hi
  | false =>
    rw [ho] at hclosed hopen hregistered
    have hnot : ¬w.shared.Registered channel := fun hr => absurd (hregistered hr).1 Bool.false_ne_true
    refine .inr (.inr ⟨rfl, hclosed, hnot, fun i hi => ?_⟩)
    cases hopen.symm.trans (hw.isOpen_of_owns hi)

end Consistent

theorem excluding_of_consistent (hw : w.Consistent)
    (hwritten : Written (fun _ => []) log w.shared w.kits) (hfiled : Filed log w) :
    Excluding log w where
  named i op st hi cell hc := by
    have hfits := hw.fits _ (List.mem_of_getElem? hi)
    rw [← Stage.kit_cells hfits] at hc
    obtain ⟨⟨id, cell⟩, hgrip, rfl⟩ := List.mem_map.1 hc
    exact ⟨id, op, st, hi, hgrip⟩
  current i id cell h := hw.entry?_of_holds h
  exclusive id i j cell cell' h hlock h' hlock' := by
    cases (hw.entry?_of_holds h).symm.trans (hw.entry?_of_holds h')
    exact hw.locks_inj hlock hlock'
  one_user channel i j h h' := hw.uses_inj h h'
  writing i op cell channel rest hi := hwritten.during i _ (getElem?_kits hi) _ rfl
  resting channel h := by
    refine hwritten.between channel fun j k hj p hp hch => ?_
    rw [kits, List.getElem?_map, Option.map_eq_some_iff] at hj
    obtain ⟨⟨op, st⟩, hi, rfl⟩ := hj
    cases st with
    | writing cell channel rest =>
      cases hp
      exact h j op cell rest (hch ▸ hi)
    | start | waiting | working | opened | closing | storing | unlocking | lettingGo | pruning | visiting
    | inspecting | releasing | closingTaken | leaving | sweeping | done => cases hp
  filed := hfiled
  whereabouts channel l hl := hw.whereabouts hl

/-- Whatever calls are made at the same time, and in whatever order they take their steps, they keep the
rules. -/
theorem excluding_after (ops : List Operation) (schedule : List Turn) :
    Excluding ((start ops).deliveries schedule) ((start ops).run schedule) := by
  have hw := consistent_start ops
  have hwritten := written_run hw (written_launch {} ops) schedule
  exact excluding_of_consistent (hw.run schedule) hwritten ((filed_launch {} ops).run hw schedule)

end World

end ThermalPrint.Interleaving
