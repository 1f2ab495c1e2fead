import ThermalPrint.Proofs.Interleaving.Mirror

/-! What a call that is alone has left to do, stage by stage, as something that a registry does at once. A
step of the call changes what is left in such a way that it comes to the same reply and the same
registry in the end. -/

namespace ThermalPrint

open Transport

namespace Interleaving

open Registry

/-- The call that an operation is. -/
def Operation.call : Operation → Call
  | .connect id => .connect id.text
  | .disconnect id => .disconnect id.text
  | .send id bytes => .send id.text bytes
  | .isConnected id => .isConnected id.text
  | .connected => .connected
  | .closeAll => .closeAll

/-- An attempt to open a channel, if the operation makes one, ends on the registry as it is said to. -/
def Operation.Answered (openFailure : Option Failure) (r : Registry) : Operation → Prop
  | .connect id => r.openingFailure? id = openFailure
  | _ => True

/-- What a call that goes through all slots comes to, when it has counted `seen` and the slots of `rest`
are still before it. -/
def Operation.tour (r : Registry) (seen : List Identifier) (rest : List (Identifier × Option Handle)) :
    Operation → Reply × Registry
  | .closeAll =>
    let (n, r) := r.closeSlots rest
    (.count (seen.length + n), { r with slots := r.slots.pruneAll })
  | op =>
    (Stage.tally (seen ++ (rest.filter (·.2.isSome)).map (·.1)) op, { r with slots := r.slots.pruneAll })

/-- What slots hold, by handles. -/
def Shared.listing (s : Shared) (handles : List Handle) (slots : List (Identifier × Nat)) :
    List (Identifier × Option Handle) := slots.map fun e => (e.1, s.handle? handles e.2)

section
variable (openFailure : Option Failure) (handles : List Handle) (s : Shared) (r : Registry)

/-- What a call at a stage has left to do, done by a registry: the reply, and the registry afterwards. -/
inductive Left : Operation → Stage → Reply × Registry → Prop
  | start {op : Operation} (answered : op.Answered openFailure r) :
    Left op .start (r.call op.call)
  /-- Until it has the lock a call has done nothing that a registry could tell. -/
  | waiting {op : Operation} {cell : Nat} (answered : op.Answered openFailure r) :
    Left op (.waiting cell) (r.call op.call)
  | working {op : Operation} {cell : Nat} (answered : op.Answered openFailure r) :
    Left op (.working cell) (r.call op.call)
  | opened {id : Identifier} {cell new : Nat} {h : Handle} (new_eq : handles[new]? = some h)
    (kind : (s.channels[new]?).map (·.channel.kind) = some (.ofIdentifier id)) :
    Left (.connect id) (.opened cell new)
      (.kind (.ofIdentifier id), { r.closeHeld id with slots := r.slots.put id (some h) })
  | replacing {id : Identifier} {cell old new : Nat} {k h : Handle} (old_eq : handles[old]? = some k)
    (new_eq : handles[new]? = some h)
    (kind : (s.channels[new]?).map (·.channel.kind) = some (.ofIdentifier id)) :
    Left (.connect id) (.closing cell old (some new))
      (.kind (.ofIdentifier id), { r.closeHandle k with slots := r.slots.put id (some h) })
  | storing {id : Identifier} {cell new : Nat} {h : Handle} (new_eq : handles[new]? = some h)
    (kind : (s.channels[new]?).map (·.channel.kind) = some (.ofIdentifier id)) :
    Left (.connect id) (.storing cell new)
      (.kind (.ofIdentifier id), { r with slots := r.slots.put id (some h) })
  | closing {id : Identifier} {cell old : Nat} {k : Handle} (old_eq : handles[old]? = some k) :
    Left (.disconnect id) (.closing cell old none) (.done, (r.closeHandle k).pruned id true)
  | writing {id : Identifier} {bytes rest : Bytes} {cell channel : Nat} {h : Handle}
    (channel_eq : handles[channel]? = some h) :
    Left (.send id bytes) (.writing cell channel rest)
      (.done, (r.alter h (Channel.deliver rest)).pruned id true)
  | unlocking {op : Operation} {id : Identifier} {cell : Nat} {reply : Reply} {prunes : Bool}
    (subject : op.identifier? = some id) :
    Left op (.unlocking cell reply prunes) (reply, r.pruned id prunes)
  | lettingGo {op : Operation} {id : Identifier} {cell : Nat} {reply : Reply} {prunes : Bool}
    (subject : op.identifier? = some id) :
    Left op (.lettingGo cell reply prunes) (reply, r.pruned id prunes)
  | pruning {op : Operation} {id : Identifier} {reply : Reply} (subject : op.identifier? = some id) :
    Left op (.pruning reply) (reply, r.pruned id true)
  | visiting {op : Operation} {rest : List (Identifier × Nat)} {seen : List Identifier}
    (distinct : (rest.map (·.2)).Nodup) :
    Left op (.visiting rest seen) (op.tour r seen (s.listing handles rest))
  | inspecting {op : Operation} {id : Identifier} {cell : Nat} {rest : List (Identifier × Nat)}
    {seen : List Identifier} (distinct : (((id, cell) :: rest).map (·.2)).Nodup) :
    Left op (.inspecting id cell rest seen) (op.tour r seen (s.listing handles ((id, cell) :: rest)))
  | releasing {op : Operation} {id : Identifier} {cell : Nat} {rest : List (Identifier × Nat)}
    {seen : List Identifier} (distinct : (rest.map (·.2)).Nodup) :
    Left op (.releasing id cell none rest seen) (op.tour r seen (s.listing handles rest))
  | releasingTaken {id : Identifier} {cell channel : Nat} {rest : List (Identifier × Nat)}
    {seen : List Identifier} {h : Handle} (distinct : (rest.map (·.2)).Nodup)
    (channel_eq : handles[channel]? = some h) :
    Left .closeAll (.releasing id cell (some channel) rest seen)
      (Operation.tour (r.closeHandle h) (seen ++ [id]) (s.listing handles rest) .closeAll)
  | closingTaken {id : Identifier} {cell channel : Nat} {rest : List (Identifier × Nat)}
    {seen : List Identifier} {h : Handle} (distinct : (rest.map (·.2)).Nodup)
    (channel_eq : handles[channel]? = some h) :
    Left .closeAll (.closingTaken id cell channel rest seen)
      (Operation.tour (r.closeHandle h) (seen ++ [id]) (s.listing handles rest) .closeAll)
  | leaving {op : Operation} {id : Identifier} {cell : Nat} {rest : List (Identifier × Nat)}
    {seen : List Identifier} (distinct : (rest.map (·.2)).Nodup) :
    Left op (.leaving id cell rest seen) (op.tour r seen (s.listing handles rest))
  | sweeping {op : Operation} {seen : List Identifier} :
    Left op (.sweeping seen) (op.tour r seen [])
  | done {op : Operation} {reply : Reply} : Left op (.done reply) (reply, r)

end

variable {openFailure : Option Failure} {handles : List Handle} {s s' : Shared} {r r' : Registry}
  {op : Operation} {st st' : Stage} {out : Reply × Registry} {id : Identifier} {cell n : Nat}

/-- What is left to do at a stage comes to the same, on registries that hold what is shared now. -/
def Onward (openFailure : Option Failure) (handles : List Handle) (s' : Shared) (op : Operation)
    (st' : Stage) (out : Reply × Registry) : Prop :=
  ∃ handles' r', handles <+: handles' ∧ Mirrors s' r' handles' ∧
    Left openFailure handles' s' r' op st' out

theorem Onward.of_mirrors (hm : Mirrors s' r' handles) (hl : Left openFailure handles s' r' op st' out) :
    Onward openFailure handles s' op st' out := ⟨handles, r', List.prefix_rfl, hm, hl⟩

theorem Shared.beginWrite_of_refused {l : Line} {f : Failure} (hl : s.channels[n]? = some l)
    (h : (l.channel.write []).1 = .error f) :
    s.beginWrite n = (some (asWriteFailure f), (s.beginWrite n).2) := by
  simp only [beginWrite, hl, h]

theorem Shared.beginWrite_of_taken {l : Line} (hl : s.channels[n]? = some l)
    (h : (l.channel.write []).1 = .ok ()) : s.beginWrite n = (none, (s.beginWrite n).2) := by
  simp only [beginWrite, hl, h]

/-- A call on a slot that there is gets hold of it; on one that is not there it has its reply. -/
theorem onward_of_entry {reply : Reply} (id : Identifier) (hm : Mirrors s r handles)
    (answered : op.Answered openFailure r)
    (hreply : r.slots.get? id = none → r.call op.call = (reply, r))
    (h : (match s.entry? id with
      | some cell => some (Stage.waiting cell, s.hold cell)
      | none => some (.done reply, s)) = some (st', s')) :
    Onward openFailure handles s' op st' (r.call op.call) := by
  cases he : s.entry? id with
  | none =>
    rw [he] at h
    cases h
    rw [hreply (by rw [hm.get?_eq, he]; rfl)]
    exact .of_mirrors hm .done
  | some cell =>
    rw [he] at h
    cases h
    exact .of_mirrors (hm.frame rfl rfl fun _ => Shared.content_hold) (.waiting answered)

/-- A call that goes through all slots has all of them before it. -/
theorem tour_entries (hop : op = .connected ∨ op = .closeAll) (r : Registry) :
    op.tour r [] r.slots.entries = r.call op.call := by
  rcases hop with rfl | rfl
  · rfl
  · simp only [Operation.tour, Operation.call, call, closeAll, List.length_nil, Nat.zero_add]

theorem onward_of_holdAll (hb : Balanced s [{}]) (hm : Mirrors s r handles)
    (hop : op = .connected ∨ op = .closeAll) :
    Onward openFailure handles s.holdAll op (.visiting s.entries []) (r.call op.call) := by
  obtain ⟨hentries, hchannels, -, -, hcontent, -⟩ := Shared.holdEach_frame (s := s) s.entries
  have hm' : Mirrors s.holdAll r handles := hm.frame hentries hchannels hcontent
  have hlisting : s.holdAll.listing handles s.entries = r.slots.entries := by
    rw [hm'.slots, s.holdAll_eq, hentries]
    rfl
  refine .of_mirrors hm' ?_
  rw [← tour_entries hop, ← hlisting]
  exact .visiting hb.cells_nodup

theorem onward_start (hb : Balanced s [{}]) (hm : Mirrors s r handles)
    (answered : op.Answered openFailure r) (h : advance op openFailure s .start = some (st', s')) :
    Onward openFailure handles s' op st' (r.call op.call) := by
  cases op with
  | connect id =>
    simp only [advance] at h
    cases he : s.entry? id with
    | none =>
      rw [Shared.obtain_of_none he] at h
      cases h
      have hcall : r.call (.connect id.text) =
          ({ r with slots := r.slots.ensure id } : Registry).call (.connect id.text) := by
        simp only [call, withIdentifier_text, connect_withEnsured]
      refine .of_mirrors (hm.create he) ?_
      rw [Operation.call, hcall]
      exact .waiting ((openingFailure?_withSlots r _ id).trans answered)
    | some cell =>
      rw [Shared.obtain_of_some he] at h
      cases h
      exact .of_mirrors (hm.frame rfl rfl fun _ => Shared.content_hold) (.waiting answered)
  | disconnect id =>
    refine onward_of_entry id hm answered (fun hnone => ?_) h
    simp only [Operation.call, call, withIdentifier_text, disconnect, hnone, reply]
  | send id bytes =>
    refine onward_of_entry id hm answered (fun hnone => ?_) h
    simp only [Operation.call, call, withIdentifier_text, send, hnone, reply]
  | isConnected id =>
    refine onward_of_entry id hm answered (fun hnone => ?_) h
    simp only [Operation.call, call, withIdentifier_text, isConnected, hnone, reply]
  | connected =>
    cases h
    exact onward_of_holdAll hb hm (.inl rfl)
  | closeAll =>
    cases h
    exact onward_of_holdAll hb hm (.inr rfl)

/-! Steps of a call that has the lock of its slot. -/

section work
variable {kits : List Kit} (hb : Balanced s kits) (hm : Mirrors s r handles) (he : (id, cell) ∈ s.entries)
include hb hm he

theorem onward_connect (answered : r.openingFailure? id = openFailure)
    (h : work (.connect id) openFailure cell s = some (st', s')) :
    Onward openFailure handles s' (.connect id) st' (r.call (.connect id.text)) := by
  have hget := hm.get?_of_mem he
  have hslots : (r.openChannel id).2.slots = r.slots :=
    congrArg (·.2.slots) (openChannel_withSlots r r.slots id)
  rw [call, withIdentifier_text]
  cases hopened : (r.openChannel id).1 with
  | error f =>
    rw [openingFailure?, hopened] at answered
    subst answered
    cases h
    rw [connect_of_refused hget hopened]
    refine .of_mirrors (hm.refused hopened) ?_
    cases hc : s.content cell with
    | none => exact .unlocking rfl
    | some n =>
      -- the slot stays, for it holds a channel
      obtain ⟨k, -, hk⟩ := hm.exists_handle hb hc
      have hheld : (r.openChannel id).2.slots.get? id = some (some k) := by rw [hslots, hget, hk]
      rw [pruned_of_held hheld, ← pruned_of_held hheld false]
      exact .unlocking rfl
  | ok opened =>
    obtain ⟨k, kind⟩ := opened
    rw [openingFailure?, hopened] at answered
    subst answered
    cases h
    obtain rfl := (hm.plain.openChannel id).2 k kind hopened
    rw [connect_of_opened hget hopened]
    refine ⟨_, _, List.prefix_append handles [k], hm.opened (fun _ _ => hb.lt_channels) hopened, ?_⟩
    refine .opened ?_ ?_
    · rw [← hm.length_eq]
      simp
    · simp

theorem onward_opened {new : Nat} {k : Handle} (new_eq : handles[new]? = some k)
    (kind : (s.channels[new]?).map (·.channel.kind) = some (.ofIdentifier id))
    (h : advance (.connect id) openFailure s (.opened cell new) = some (st', s')) :
    Onward openFailure handles s' (.connect id) st'
      (.kind (.ofIdentifier id), { r.closeHeld id with slots := r.slots.put id (some k) }) := by
  have hget := hm.get?_of_mem he
  cases hc : s.content cell with
  | none =>
    simp only [advance, hc] at h
    cases h
    have hheld : r.held id = none := by rw [held, hget, Shared.handle?_of_none hc]; rfl
    rw [closeHeld_of_not_held hheld]
    exact .of_mirrors hm (.storing new_eq kind)
  | some old =>
    simp only [advance, hc] at h
    cases h
    obtain ⟨k', hold, hk'⟩ := hm.exists_handle hb hc
    have hheld : r.held id = some k' := by rw [held, hget, hk']; rfl
    have hempty := hm.setContent hb.cells_nodup he (hb.cell_lt _ he) none
    refine .of_mirrors hempty ?_
    rw [closeHeld_of_held hheld, closeHandle_eq_alter, ← Slots.put_put r.slots id none (some k)]
    -- the slot is emptied first, which does not show once the new channel is in it
    have hleft : Left openFailure handles (s.setContent cell none)
      { r with slots := r.slots.put id none } (.connect id) (.closing cell old (some new)) _ :=
        .replacing hold new_eq kind
    rwa [closeHandle_eq_alter] at hleft

theorem onward_disconnect (h : work (.disconnect id) openFailure cell s = some (st', s')) :
    Onward openFailure handles s' (.disconnect id) st' (r.call (.disconnect id.text)) := by
  have hget := hm.get?_of_mem he
  rw [call, withIdentifier_text]
  cases hc : s.content cell with
  | none =>
    simp only [work, hc] at h
    cases h
    rw [Shared.handle?_of_none hc] at hget
    simp only [disconnect, hget]
    exact .of_mirrors hm (.unlocking rfl)
  | some n =>
    simp only [work, hc] at h
    cases h
    obtain ⟨k, hn, hk⟩ := hm.exists_handle hb hc
    rw [hk] at hget
    simp only [disconnect, hget]
    have hempty := hm.setContent hb.cells_nodup he (hb.cell_lt _ he) none
    exact .of_mirrors hempty (.closing hn)

theorem onward_send {bytes : Bytes}
    (h : work (.send id bytes) openFailure cell s = some (st', s')) :
    Onward openFailure handles s' (.send id bytes) st' (r.call (.send id.text bytes)) := by
  have hget := hm.get?_of_mem he
  rw [call, withIdentifier_text]
  cases hc : s.content cell with
  | none =>
    simp only [work, hc] at h
    cases h
    rw [Shared.handle?_of_none hc] at hget
    simp only [send, hget]
    exact .of_mirrors hm (.unlocking rfl)
  | some n =>
    obtain ⟨k, hn, hk⟩ := hm.exists_handle hb hc
    rw [hk] at hget
    have hlt := hb.lt_channels hc
    have hchannel : s.channels[n]? = some s.channels[n] := List.getElem?_eq_getElem hlt
    have hl : r.line? k = some s.channels[n] := (hm.line?_eq hn).trans hchannel
    have hbegun := hm.alter hn fun ch => (ch.write []).2
    rw [← Shared.beginWrite_snd] at hbegun
    simp only [work, hc] at h
    rw [send_eq_alter hm.plain hget hl]
    rcases Channel.write_eq_of_nil bytes s.channels[n].channel with ⟨f, hnil, hwrite⟩ | ⟨hnil, hwrite⟩
    · rw [Shared.beginWrite_of_refused hchannel hnil] at h
      cases h
      rw [hwrite, alter_congr (g := fun ch => (ch.write []).2) hl (congrArg Prod.snd hwrite)]
      exact .of_mirrors hbegun (.unlocking rfl)
    · rw [Shared.beginWrite_of_taken hchannel hnil] at h
      cases h
      have hsplit : (r.alter k fun ch => (ch.write bytes).2) =
          (r.alter k fun ch => (ch.write []).2).alter k (Channel.deliver bytes) := by
        rw [alter_alter]
        exact alter_congr hl (congrArg Prod.snd hwrite)
      rw [hwrite, hsplit]
      exact .of_mirrors hbegun (.writing hn)

theorem onward_isConnected (h : work (.isConnected id) openFailure cell s = some (st', s')) :
    Onward openFailure handles s' (.isConnected id) st' (r.call (.isConnected id.text)) := by
  have hget := hm.get?_of_mem he
  rw [call, withIdentifier_text]
  simp only [work] at h
  cases h
  cases hc : s.content cell with
  | none =>
    rw [Shared.handle?_of_none hc] at hget
    simp only [isConnected, hget]
    exact .of_mirrors hm (.unlocking rfl)
  | some n =>
    obtain ⟨k, -, hk⟩ := hm.exists_handle hb hc
    rw [hk] at hget
    simp only [isConnected, hget]
    exact .of_mirrors hm (.unlocking rfl)

end work

/-! Steps of a call that goes through all slots. -/

section tours
variable {rest : List (Identifier × Nat)} {seen : List Identifier}

theorem listing_congr (hcontent : ∀ e ∈ rest, s'.content e.2 = s.content e.2) :
    s'.listing handles rest = s.listing handles rest := by
  refine List.map_congr_left fun e he => ?_
  rw [Shared.handle?, hcontent e he, Shared.handle?]

theorem listing_setLock (s : Shared) (cell : Nat) (locked : Bool) :
    (s.setLock cell locked).listing handles rest = s.listing handles rest :=
  listing_congr fun _ _ => Shared.content_setLock

theorem listing_letGo (s : Shared) (cell : Nat) :
    (s.letGo cell).listing handles rest = s.listing handles rest :=
  listing_congr fun _ _ => Shared.content_letGo

theorem tour_nil (hop : op = .connected ∨ op = .closeAll) (r : Registry) (seen : List Identifier) :
    op.tour r seen [] = (Stage.tally seen op, { r with slots := r.slots.pruneAll }) := by
  rcases hop with rfl | rfl
  · simp only [Operation.tour, List.filter_nil, List.map_nil, List.append_nil]
  · rfl

/-- Whether a slot is counted is told by what it holds. -/
theorem tour_cons_connected {content : Option Handle} (r : Registry) (seen : List Identifier)
    (id : Identifier) (listing : List (Identifier × Option Handle)) :
    Operation.tour r seen ((id, content) :: listing) .connected =
      Operation.tour r (if content.isSome then seen ++ [id] else seen) listing .connected := by
  cases content with
  | none => rfl
  | some h => simp only [Operation.tour, List.filter_cons, Option.isSome_some, if_true, List.map_cons,
      List.append_assoc, List.singleton_append]

theorem tour_cons_closeAll {h : Handle} (r : Registry) (seen : List Identifier) (id : Identifier)
    (listing : List (Identifier × Option Handle)) :
    Operation.tour r seen ((id, some h) :: listing) .closeAll =
      Operation.tour (({ r with slots := r.slots.put id none } : Registry).closeHandle h) (seen ++ [id])
        listing .closeAll := by
  simp only [Operation.tour, closeSlots, List.length_append, List.length_singleton, Nat.add_assoc,
    Nat.add_comm 1]

theorem onward_inspecting {kits : List Kit} (hb : Balanced s kits) (hm : Mirrors s r handles)
    (hop : op = .connected ∨ op = .closeAll) (he : (id, cell) ∈ s.entries)
    (distinct : (((id, cell) :: rest).map (·.2)).Nodup)
    (h : advance op openFailure s (.inspecting id cell rest seen) = some (st', s')) :
    Onward openFailure handles s' op st'
      (op.tour r seen (s.listing handles ((id, cell) :: rest))) := by
  obtain ⟨hcell, hrest⟩ := List.nodup_cons.1 distinct
  change Onward _ _ _ _ _ (op.tour r seen ((id, s.handle? handles cell) :: s.listing handles rest))
  rcases hop with rfl | rfl
  · cases h
    rw [tour_cons_connected, hm.isSome_handle? hb]
    exact .of_mirrors hm (.releasing hrest)
  · cases hc : s.content cell with
    | none =>
      simp only [advance, hc] at h
      cases h
      rw [Shared.handle?_of_none hc]
      exact .of_mirrors hm (.releasing hrest)
    | some n =>
      simp only [advance, hc] at h
      cases h
      obtain ⟨k, hn, hk⟩ := hm.exists_handle hb hc
      have hlt := hb.cell_lt _ he
      have hempty := hm.setContent hb.cells_nodup he hlt none
      have hlisting : (s.setContent cell none).listing handles rest = s.listing handles rest := by
        refine listing_congr fun e hmem => ?_
        have hne : e.2 ≠ cell := fun hsame => hcell (List.mem_map.2 ⟨e, hmem, hsame⟩)
        rw [Shared.content_setContent hlt, if_neg hne]
      rw [hk, tour_cons_closeAll, ← hlisting]
      exact .of_mirrors hempty (.releasingTaken hrest hn)

end tours

/-- What is left to do comes to the same after a step. -/
theorem Left.step (hb : Balanced s [st.kit op]) (hfits : st.Fits op s) (hm : Mirrors s r handles)
    (hl : Left openFailure handles s r op st out)
    (h : advance op openFailure s st = some (st', s')) : Onward openFailure handles s' op st' out := by
  cases hl with
  | start answered => exact onward_start hb hm answered h
  | waiting answered =>
    simp only [advance] at h
    split at h
    · cases h
    · cases h
      exact .of_mirrors (hm.frame rfl rfl fun _ => Shared.content_setLock) (.working answered)
  | working answered =>
    obtain ⟨id, hid⟩ := hfits
    have he := hb.mem_entries _ hid rfl
    cases op with
    | connect => cases hid; exact onward_connect hb hm he answered h
    | disconnect => cases hid; exact onward_disconnect hb hm he h
    | send => cases hid; exact onward_send hb hm he h
    | isConnected => cases hid; exact onward_isConnected hb hm he h
    | connected => cases hid
    | closeAll => cases hid
  | opened new_eq kind =>
    exact onward_opened hb hm (hb.mem_entries (.connect _) rfl rfl) new_eq kind h
  | replacing old_eq new_eq kind =>
    cases h
    refine .of_mirrors (hm.alter old_eq fun ch => ch.close.2) ?_
    rw [closeHandle_eq_alter]
    exact .storing new_eq ((Shared.map_updateChannel (fun _ => rfl) _).trans kind)
  | @storing id cell new k new_eq kind =>
    simp only [advance, kind, Option.getD_some] at h
    cases h
    have he := hb.mem_entries (.connect id) rfl rfl
    have hstored := hm.setContent hb.cells_nodup he (hb.cell_lt _ he) (some new)
    rw [Option.bind_some, new_eq] at hstored
    exact .of_mirrors hstored (.unlocking rfl)
  | closing old_eq =>
    cases h
    rw [closeHandle_eq_alter]
    exact .of_mirrors (hm.alter old_eq fun ch => ch.close.2) (.unlocking rfl)
  | @writing id bytes rest cell channel k channel_eq =>
    cases rest with
    | nil =>
      cases h
      rw [alter_deliver_nil]
      exact .of_mirrors hm (.unlocking rfl)
    | cons byte rest =>
      cases h
      have hsplit : r.alter k (Channel.deliver (byte :: rest)) =
          (r.alter k (Channel.deliver [byte])).alter k (Channel.deliver rest) := by
        rw [alter_alter, Channel.deliver_comp, List.singleton_append]
      rw [hsplit]
      exact .of_mirrors (hm.alter channel_eq (Channel.deliver [byte])) (.writing channel_eq)
  | unlocking subject =>
    cases h
    exact .of_mirrors (hm.frame rfl rfl fun _ => Shared.content_setLock) (.lettingGo subject)
  | @lettingGo _ id cell reply prunes subject =>
    have hletGo : Mirrors (s.letGo cell) r handles := hm.frame rfl rfl fun _ => Shared.content_letGo
    cases prunes with
    | true =>
      cases h
      exact .of_mirrors hletGo (.pruning subject)
    | false =>
      cases h
      exact .of_mirrors hletGo .done
  | @pruning _ id reply subject =>
    simp only [advance, subject] at h
    cases h
    exact .of_mirrors (hm.prune hb id) .done
  | @visiting _ rest seen distinct =>
    cases rest with
    | nil =>
      cases h
      exact .of_mirrors hm .sweeping
    | cons e rest =>
      simp only [advance] at h
      split at h
      · cases h
      · cases h
        rw [← listing_setLock s e.2 true]
        exact .of_mirrors (hm.frame rfl rfl fun _ => Shared.content_setLock) (.inspecting distinct)
  | @inspecting _ id cell rest seen distinct =>
    refine onward_inspecting hb hm hfits ?_ distinct h
    exact hb.grips _ (List.mem_singleton_self _) _ List.mem_cons_self
  | @releasing _ id cell rest seen distinct =>
    cases h
    rw [← listing_setLock s cell false]
    exact .of_mirrors (hm.frame rfl rfl fun _ => Shared.content_setLock) (.leaving distinct)
  | @releasingTaken id cell channel rest seen k distinct channel_eq =>
    cases h
    rw [← listing_setLock s cell false]
    exact .of_mirrors (hm.frame rfl rfl fun _ => Shared.content_setLock)
      (.closingTaken distinct channel_eq)
  | closingTaken distinct channel_eq =>
    cases h
    rw [closeHandle_eq_alter]
    exact .of_mirrors (hm.alter channel_eq fun ch => ch.close.2) (.leaving distinct)
  | @leaving _ id cell rest seen distinct =>
    cases h
    rw [← listing_letGo s cell]
    exact .of_mirrors (hm.frame rfl rfl fun _ => Shared.content_letGo) (.visiting distinct)
  | sweeping =>
    cases h
    rw [tour_nil hfits]
    exact .of_mirrors (hm.pruneAll hb) .done
  | done => cases h

end Interleaving

end ThermalPrint
