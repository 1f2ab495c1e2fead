import Mathlib.Data.List.Nodup
import ThermalPrint.Proofs.Registry.Routing

/-! Changes of one channel or one slot at a time, and the calls on an identifier as such changes. -/

namespace ThermalPrint

open Transport

namespace Transport.Channel

/-- Takes bytes. -/
def deliver (bytes : Bytes) (ch : Channel) : Channel :=
  { ch with log := { ch.log with sent := ch.log.sent ++ bytes } }

theorem deliver_comp (first rest : Bytes) : deliver rest ∘ deliver first = deliver (first ++ rest) := by
  funext ch
  simp only [Function.comp, deliver, List.append_assoc]

theorem deliver_nil : deliver [] = id := by
  funext ch
  simp only [deliver, List.append_nil, id]

/-- What is to be written does not matter for whether it is taken. -/
theorem write_eq_of_nil (bytes : Bytes) (ch : Channel) :
    (∃ f, (ch.write []).1 = .error f ∧ ch.write bytes = (.error f, (ch.write []).2)) ∨
      (ch.write []).1 = .ok () ∧ ch.write bytes = (.ok (), (ch.write []).2.deliver bytes) := by
  by_cases hphase : ch.phase.canWrite = true
  · by_cases hfail : ch.log.failWrites = true
    · exact .inl ⟨.writeFailed "broken pipe", by simp [write, hphase, hfail]⟩
    · exact .inr (by simp [write, deliver, hphase, hfail])
  · exact .inl ⟨.writeFailed "transport is closed", by simp [write, hphase]⟩

end Transport.Channel

namespace Slots

variable {slots : Slots} {id : Identifier} {content : Option Handle}

theorem putEntry_of_mem {entries : List (Identifier × Option Handle)}
    (hs : (entries.map (·.1)).Nodup) (h : id ∈ entries.map (·.1)) :
    putEntry id content entries = entries.map fun e => if e.1 = id then (e.1, content) else e := by
  induction entries with
  | nil => cases h
  | cons e rest ih =>
    rw [List.map_cons, List.nodup_cons] at hs
    rw [putEntry, List.map_cons]
    split
    · next he =>
      subst he
      have hrest : rest.map (fun e' => if e'.1 = e.1 then (e'.1, content) else e') = rest := by
        refine (List.map_congr_left fun e' he' => if_neg fun hk => hs.1 ?_).trans (List.map_id rest)
        exact List.mem_map.2 ⟨e', he', hk⟩
      rw [hrest]
    · next he =>
      rw [ih hs.2 ((List.mem_cons.1 h).resolve_left fun hk => he hk.symm)]

/-- Of two contents that are put into one slot the second stays. -/
theorem put_put (slots : Slots) (id : Identifier) (before after : Option Handle) :
    (slots.put id before).put id after = slots.put id after := by
  refine Slots.ext ?_
  change putEntry id after (putEntry id before slots.entries) = putEntry id after slots.entries
  induction slots.entries with
  | nil => simp [putEntry]
  | cons e rest ih =>
    by_cases he : e.1 = id
    · simp [putEntry, he]
    · simp [putEntry, he, ih]

theorem ensure_of_some (h : slots.get? id = some content) : slots.ensure id = slots := by
  rw [ensure, h]

theorem ensure_ensure (slots : Slots) (id : Identifier) :
    (slots.ensure id).ensure id = slots.ensure id := by
  have hsome : (slots.ensure id).get? id = some (slots.held id) := by rw [get?_ensure, if_pos rfl]
  exact ensure_of_some hsome

/-- A slot that holds a channel is not dropped. -/
theorem prune_of_some {h : Handle} (hs : slots.get? id = some (some h)) : slots.prune id = slots := by
  refine Slots.ext (List.filter_eq_self.2 fun e he => ?_)
  by_cases hid : e.1 = id
  · have hget := get?_eq_some_iff.2 (show (e.1, e.2) ∈ slots.entries from he)
    rw [hid, hs] at hget
    simp [← Option.some.inj hget]
  · simp [hid]

end Slots

namespace Registry

variable {r : Registry} {id : Identifier} {h k : Handle} {content : Option Handle}
  {f g : Channel → Channel}

/-- Every connector opens channels of its own kind, and only their own switches make writes fail. -/
def Plain (r : Registry) : Prop := ∀ c ∈ r.connectors, c.reports = c.kind ∧ c.writeFailure = none

/-- Changes the channel that a handle stands for. -/
def alter (r : Registry) (h : Handle) (f : Channel → Channel) : Registry :=
  { r with connectors := r.connectors.modify h.connector (·.updateChannel h.line f) }

theorem updateConnector_updateChannel {c : Connector} (hc : r.connectors[h.connector]? = some c) :
    r.updateConnector h.connector (c.updateChannel h.line f) = r.alter h f := by
  unfold updateConnector alter
  rw [List.set_eq_modify]
  exact congrArg (Registry.mk · r.slots) (modify_congr hc rfl)

theorem closeHandle_eq_alter (r : Registry) (h : Handle) :
    r.closeHandle h = r.alter h fun ch => ch.close.2 := by
  unfold closeHandle
  cases hc : r.connectors[h.connector]? with
  | some c => exact updateConnector_updateChannel hc
  | none =>
    rw [alter, List.modify_eq_self (List.getElem?_eq_none_iff.1 hc)]

theorem line?_alter (r : Registry) (h k : Handle) (f : Channel → Channel) :
    (r.alter h f).line? k =
      if k = h then (r.line? k).map fun l => { l with channel := f l.channel } else r.line? k := by
  cases hc : r.connectors[h.connector]? with
  | some c =>
    rw [← updateConnector_updateChannel hc]
    exact line?_updateLine hc rfl k
  | none =>
    rw [alter, List.modify_eq_self (List.getElem?_eq_none_iff.1 hc)]
    split
    · next hk => simp [line?, hk, hc]
    · rfl

theorem alter_alter (r : Registry) (h : Handle) (f g : Channel → Channel) :
    (r.alter h f).alter h g = r.alter h (g ∘ f) := by
  have hupdate : (·.updateChannel h.line g) ∘ (·.updateChannel h.line f) =
      fun c : Connector => c.updateChannel h.line (g ∘ f) := by
    funext c
    simp only [Function.comp, Connector.updateChannel, List.modify_modify_eq]
    rfl
  simp only [alter, List.modify_modify_eq, hupdate]

/-- A change of a channel is told by what it makes of that channel. -/
theorem alter_congr {l : Line} (hl : r.line? h = some l) (hfg : f l.channel = g l.channel) :
    r.alter h f = r.alter h g := by
  obtain ⟨c, hc, hl⟩ := Option.bind_eq_some_iff.1 hl
  have hsame : c.updateChannel h.line f = c.updateChannel h.line g := by
    unfold Connector.updateChannel
    rw [modify_congr hl (g := fun l => { l with channel := g l.channel }) (by rw [hfg])]
  unfold alter
  rw [modify_congr hc (g := (·.updateChannel h.line g)) hsame]

theorem Plain.alter (hr : r.Plain) (h : Handle) (f : Channel → Channel) : (r.alter h f).Plain := by
  intro c hc
  obtain ⟨i, hi⟩ := List.mem_iff_getElem?.1 hc
  rw [Registry.alter, List.getElem?_modify] at hi
  obtain ⟨c', hc', rfl⟩ := Option.map_eq_some_iff.1 hi
  have hplain := hr c' (List.mem_of_getElem? hc')
  split
  · exact hplain
  · exact hplain

/-! What opening a channel comes to. -/

theorem openChannel_withSlots (r : Registry) (slots : Slots) (id : Identifier) :
    ({ r with slots } : Registry).openChannel id =
      ((r.openChannel id).1, { (r.openChannel id).2 with slots }) := by
  cases h : (r.connectorFor (.ofIdentifier id)).bind fun i => r.connectors[i]? with
  | none => rw [openChannel_unavailable h, openChannel_unavailable (r := { r with slots }) h]
  | some c =>
    obtain ⟨i, hi, hc⟩ := Option.bind_eq_some_iff.1 h
    cases hf : c.openFailure id with
    | none =>
      rw [openChannel_opened_eq hi hc hf, openChannel_opened_eq (r := { r with slots }) hi hc hf]
      rfl
    | some f =>
      rw [openChannel_refused hi hc hf, openChannel_refused (r := { r with slots }) hi hc hf]
      rfl

theorem Plain.updateConnector {i : Nat} {c : Connector} (hr : r.Plain) (hc : c.reports = c.kind)
    (hw : c.writeFailure = none) : (r.updateConnector i c).Plain := by
  intro c' hc'
  rcases List.mem_or_eq_of_mem_set hc' with hc' | rfl
  · exact hr c' hc'
  · exact ⟨hc, hw⟩

/-- Plain connectors stay plain, and open channels of the kind that fits the identifier. -/
theorem Plain.openChannel (hr : r.Plain) (id : Identifier) : (r.openChannel id).2.Plain ∧
    ∀ k kind, (r.openChannel id).1 = .ok (k, kind) → kind = .ofIdentifier id := by
  cases h : (r.connectorFor (.ofIdentifier id)).bind fun i => r.connectors[i]? with
  | none =>
    rw [openChannel_unavailable h]
    exact ⟨hr, fun k kind h => by cases h⟩
  | some c =>
    obtain ⟨i, hi, hc⟩ := Option.bind_eq_some_iff.1 h
    obtain ⟨hreports, hw⟩ := hr c (List.mem_of_getElem? hc)
    cases hf : c.openFailure id with
    | none =>
      rw [openChannel_opened_eq hi hc hf]
      refine ⟨hr.updateConnector hreports hw, fun k kind h => ?_⟩
      obtain ⟨c', hlast⟩ := lastFor_of_connectorFor hi
      cases h
      cases hc.symm.trans hlast.connector
      exact hreports.trans hlast.serves
    | some f =>
      rw [openChannel_refused hi hc hf]
      exact ⟨hr.updateConnector hreports hw, fun k kind h => by cases h⟩

/-- The failure that an attempt to open a channel ends with, if it does. -/
def openingFailure? (r : Registry) (id : Identifier) : Option Failure :=
  match (r.openChannel id).1 with
  | .ok _ => none
  | .error f => some f

/-- A registry without the slot of an identifier, where that is empty and to be dropped. -/
def pruned (r : Registry) (id : Identifier) (prunes : Bool) : Registry :=
  if prunes then { r with slots := r.slots.prune id } else r

theorem alter_deliver_nil (r : Registry) (h : Handle) : r.alter h (Channel.deliver []) = r := by
  have hupdate : (fun c : Connector => c.updateChannel h.line id) = id := by
    funext c
    exact congrArg (fun lines => { c with lines }) (List.modify_id h.line c.lines)
  rw [Channel.deliver_nil, alter, hupdate, List.modify_id]

theorem send_eq_alter (hr : r.Plain) (hget : r.slots.get? id = some (some h)) {l : Line}
    (hl : r.line? h = some l) (bytes : Bytes) :
    r.send id bytes = ((l.channel.write bytes).1.mapError asWriteFailure,
      (r.alter h fun ch => (ch.write bytes).2).pruned id true) := by
  obtain ⟨c, hc, hline⟩ := Option.bind_eq_some_iff.1 hl
  have hw := (hr c (List.mem_of_getElem? hc)).2
  rw [alter_congr (g := fun _ => (l.channel.write bytes).2) hl rfl, ← updateConnector_updateChannel hc]
  simp only [send, hget, hc, Connector.writeOn, hw, hline]
  rfl

theorem withIdentifier_text {α : Type} (r : Registry) (id : Identifier)
    (operation : Identifier → Except Failure α × Registry) :
    r.withIdentifier id.text operation = operation id := by
  rw [withIdentifier, Identifier.ofText_eq_ok_iff.2 rfl]

theorem connect_withEnsured (r : Registry) (id : Identifier) :
    ({ r with slots := r.slots.ensure id } : Registry).connect id = r.connect id := by
  simp only [connect, Slots.ensure_ensure]

theorem openingFailure?_withSlots (r : Registry) (slots : Slots) (id : Identifier) :
    ({ r with slots } : Registry).openingFailure? id = r.openingFailure? id := by
  rw [openingFailure?, openChannel_withSlots]
  rfl

theorem closeHeld_of_held (hh : r.held id = some h) : r.closeHeld id = r.closeHandle h := by
  rw [closeHeld, hh]

theorem closeHeld_of_not_held (hh : r.held id = none) : r.closeHeld id = r := by
  rw [closeHeld, hh]

/-! Connecting an identifier that has a slot. -/

theorem connect_of_refused {f : Failure} (hget : r.slots.get? id = some content)
    (hf : (r.openChannel id).1 = .error f) :
    r.connect id = (.error f, (r.openChannel id).2.pruned id true) := by
  refine connect_eq_of_error ?_
  rw [Slots.ensure_of_some hget]
  exact Prod.ext hf rfl

theorem connect_of_opened {kind : Kind} (hget : r.slots.get? id = some content)
    (hf : (r.openChannel id).1 = .ok (h, kind)) :
    r.connect id = (.ok kind, { (r.openChannel id).2.closeHeld id with
      slots := (r.openChannel id).2.slots.put id (some h) }) := by
  have hslots : ((r.openChannel id).2.closeHeld id).slots = (r.openChannel id).2.slots := slots_closeHeld
  rw [← hslots]
  refine connect_eq_of_ok ?_
  rw [Slots.ensure_of_some hget]
  exact Prod.ext hf rfl

/-- A slot that holds a channel stays. -/
theorem pruned_of_held (hget : r.slots.get? id = some (some h)) (prunes : Bool) :
    r.pruned id prunes = r := by
  cases prunes with
  | false => rfl
  | true =>
    rw [pruned, if_pos rfl, Slots.prune_of_some hget]

end Registry

end ThermalPrint
