import ThermalPrint.Proofs.Registry.Effect

/-! The order in which the slots of a registry are gone through makes no difference: two registries
that differ in nothing else give the same replies to the same calls. -/

namespace ThermalPrint

open Transport

theorem Slots.perm_iff {slots slots' : Slots} :
    slots.entries.Perm slots'.entries ↔ ∀ id, slots.get? id = slots'.get? id := by
  have nodup (s : Slots) : s.entries.Nodup := List.Pairwise.of_map (·.1)
    (fun _ _ hne e => hne (congrArg _ e)) s.keys_nodup
  rw [List.perm_ext_iff_of_nodup (nodup slots) (nodup slots')]
  constructor
  · intro h id
    ext content
    rw [get?_eq_some_iff, get?_eq_some_iff]
    exact h (id, content)
  · intro h ⟨id, content⟩
    rw [← get?_eq_some_iff, ← get?_eq_some_iff, h]

namespace Registry

/-- The registries differ at most in the order of their slots. -/
structure Alike (r s : Registry) : Prop where
  connectors : r.connectors = s.connectors
  entries : r.slots.entries.Perm s.slots.entries

/-- The replies to calls if the slots may be put into another order before every call. -/
inductive RepliesInAnyOrder : Registry → List Call → List Reply → Prop
  | nil {r : Registry} : RepliesInAnyOrder r [] []
  | cons {r s : Registry} {c : Call} {cs : List Call} {replies : List Reply} (alike : r.Alike s)
    (rest : RepliesInAnyOrder (s.call c).2 cs replies) :
    RepliesInAnyOrder r (c :: cs) ((s.call c).1 :: replies)

/-- Equal results, and registries that differ at most in the order of their slots. -/
structure Agree {α : Type} (x y : α × Registry) : Prop where
  result : x.1 = y.1
  alike : x.2.Alike y.2

variable {r s t : Registry} {id : Identifier}

namespace Alike

theorem of_get? (hc : r.connectors = s.connectors) (hs : ∀ id, r.slots.get? id = s.slots.get? id) :
    r.Alike s := ⟨hc, Slots.perm_iff.2 hs⟩

theorem get? (h : r.Alike s) (id : Identifier) : r.slots.get? id = s.slots.get? id :=
  Slots.perm_iff.1 h.entries id

theorem refl (r : Registry) : r.Alike r := ⟨rfl, .refl _⟩

theorem symm (h : r.Alike s) : s.Alike r := ⟨h.connectors.symm, h.entries.symm⟩

theorem trans (h : r.Alike s) (h' : s.Alike t) : r.Alike t :=
  ⟨h.connectors.trans h'.connectors, h.entries.trans h'.entries⟩

theorem held (h : r.Alike s) (id : Identifier) : r.held id = s.held id :=
  congrArg Option.join (h.get? id)

theorem ensure (h : r.Alike s) (id : Identifier) :
    ({ r with slots := r.slots.ensure id } : Registry).Alike { s with slots := s.slots.ensure id } :=
  .of_get? h.connectors fun k => by
    rw [Slots.get?_ensure, Slots.get?_ensure, h.get?, show r.slots.held id = _ from h.held id]
    rfl

theorem put (h : r.Alike s) (id : Identifier) (content : Option Handle) :
    ({ r with slots := r.slots.put id content } : Registry).Alike
      { s with slots := s.slots.put id content } :=
  .of_get? h.connectors fun k => by rw [Slots.get?_put, Slots.get?_put, h.get?]

theorem prune (h : r.Alike s) (id : Identifier) :
    ({ r with slots := r.slots.prune id } : Registry).Alike { s with slots := s.slots.prune id } :=
  .of_get? h.connectors fun k => by rw [Slots.get?_prune, Slots.get?_prune, h.get?]

theorem pruneAll (h : r.Alike s) :
    ({ r with slots := r.slots.pruneAll } : Registry).Alike { s with slots := s.slots.pruneAll } :=
  .of_get? h.connectors fun k => by rw [Slots.get?_pruneAll, Slots.get?_pruneAll, h.get?]

theorem updateConnector (h : r.Alike s) (i : Nat) (c : Connector) :
    (r.updateConnector i c).Alike (s.updateConnector i c) :=
  ⟨congrArg (·.set i c) h.connectors, h.entries⟩

theorem closeHandle (h : r.Alike s) (k : Handle) : (r.closeHandle k).Alike (s.closeHandle k) := by
  unfold Registry.closeHandle
  rw [h.connectors]
  split
  · exact h.updateConnector _ _
  · exact h

theorem closeHeld (h : r.Alike s) (id : Identifier) : (r.closeHeld id).Alike (s.closeHeld id) := by
  unfold Registry.closeHeld
  rw [h.held]
  split
  · exact h.closeHandle _
  · exact h

/-! ## The operations -/

theorem openChannel (h : r.Alike s) (id : Identifier) :
    Agree (r.openChannel id) (s.openChannel id) := by
  have hkind (kind : Kind) : r.connectorFor kind = s.connectorFor kind := by
    unfold connectorFor
    rw [h.connectors]
  unfold Registry.openChannel
  extract_lets kind failed
  rw [hkind]
  split
  · exact ⟨rfl, h⟩
  · next i _ =>
    rw [show r.connectors[i]? = s.connectors[i]? by rw [h.connectors]]
    split
    · exact ⟨rfl, h⟩
    · next c _ =>
      have hu := h.updateConnector i (c.connect id).2
      generalize c.connect id = result at hu ⊢
      obtain ⟨f | channel, c'⟩ := result
      · cases f <;> exact ⟨rfl, hu⟩
      · exact ⟨rfl, hu⟩

theorem connect (h : r.Alike s) (id : Identifier) : Agree (r.connect id) (s.connect id) := by
  unfold Registry.connect
  extract_lets r₀ s₀
  obtain ⟨hresult, halike⟩ := (h.ensure id).openChannel id
  change (r₀.openChannel id).1 = (s₀.openChannel id).1 at hresult
  change (r₀.openChannel id).2.Alike (s₀.openChannel id).2 at halike
  generalize r₀.openChannel id = x at hresult halike ⊢
  generalize s₀.openChannel id = y at hresult halike ⊢
  obtain ⟨result, r₁⟩ := x
  obtain ⟨_, s₁⟩ := y
  cases hresult
  cases result with
  | error f => exact ⟨rfl, halike.prune id⟩
  | ok opened => exact ⟨rfl, (halike.closeHeld id).put id _⟩

theorem disconnect (h : r.Alike s) (id : Identifier) : Agree (r.disconnect id) (s.disconnect id) := by
  unfold Registry.disconnect
  rw [h.get?]
  split
  · exact ⟨rfl, h⟩
  · exact ⟨rfl, h.prune id⟩
  · exact ⟨rfl, ((h.put id none).closeHandle _).prune id⟩

theorem send (h : r.Alike s) (id : Identifier) (bytes : Bytes) :
    Agree (r.send id bytes) (s.send id bytes) := by
  unfold Registry.send
  rw [h.get?]
  split
  · exact ⟨rfl, h⟩
  · exact ⟨rfl, h.prune id⟩
  · next k _ =>
    rw [show r.connectors[k.connector]? = s.connectors[k.connector]? by rw [h.connectors]]
    split
    · exact ⟨rfl, h⟩
    · exact ⟨rfl, (h.updateConnector _ _).prune id⟩

theorem isConnected (h : r.Alike s) (id : Identifier) :
    Agree (r.isConnected id) (s.isConnected id) := by
  unfold Registry.isConnected
  rw [h.get?]
  split
  · exact ⟨rfl, h⟩
  · exact ⟨rfl, h.prune id⟩
  · exact ⟨rfl, h⟩

end Alike

/-- The order of answers goes by the texts of identifiers. -/
theorem pairwise_mergeSort_text (ids : List Identifier) :
    (ids.mergeSort fun a b => decide (a.text ≤ b.text)).Pairwise fun a b => a.text ≤ b.text := by
  refine (List.pairwise_mergeSort (fun a b c hab hbc => ?_) (fun a b => ?_) ids).imp
    fun h => of_decide_eq_true h
  · exact decide_eq_true (String.le_trans (of_decide_eq_true hab) (of_decide_eq_true hbc))
  · simpa using String.le_total a.text b.text

theorem connected_nodup (r : Registry) : r.connected.1.Nodup :=
  (List.mergeSort_perm _ _).symm.nodup r.slots.pruneAll.keys_nodup

/-- The answer to which identifiers are connected is told by its members. -/
theorem connected_eq_of_perm (h : r.connected.1.Perm s.connected.1) :
    r.connected.1 = s.connected.1 :=
  h.eq_of_pairwise (fun _ _ _ _ hab hba => Identifier.ext (String.le_antisymm hab hba))
    (pairwise_mergeSort_text _) (pairwise_mergeSort_text _)

theorem Alike.connected (h : r.Alike s) : Agree r.connected s.connected := by
  refine ⟨connected_eq_of_perm ?_, h.pruneAll⟩
  exact (List.mergeSort_perm _ _).trans
    ((h.pruneAll.entries.map (·.1)).trans (List.mergeSort_perm _ _).symm)

/-! ## Closing all channels -/

/-- Closes the channel of a connector that a handle stands for. -/
def closeLine (connectors : List Connector) (h : Handle) : List Connector :=
  connectors.modify h.connector (·.closeChannel h.line)

theorem connectors_closeHandle (h : Handle) :
    (r.closeHandle h).connectors = closeLine r.connectors h := by
  unfold closeHandle closeLine
  split
  · next c hc =>
    obtain ⟨hi, -⟩ := List.getElem?_eq_some_iff.1 hc
    refine List.ext_getElem? fun i => ?_
    change (r.connectors.set h.connector _)[i]? = _
    rw [List.getElem?_set, List.getElem?_modify]
    split
    · next he => rw [← he, hc]; rfl
    · rw [Option.map_eq_map, Option.map_id']
  · next hc => exact (List.modify_eq_self (List.getElem?_eq_none_iff.1 hc)).symm

/-- Closing two channels comes to the same in either order. -/
theorem closeLine_comm (connectors : List Connector) (h k : Handle) :
    closeLine (closeLine connectors h) k = closeLine (closeLine connectors k) h := by
  unfold closeLine
  by_cases hc : h.connector = k.connector
  · rw [hc, List.modify_modify_eq, List.modify_modify_eq]
    congr 1
    funext c
    by_cases hl : h.line = k.line
    · rw [hl]
    · simp only [Function.comp_apply, Connector.closeChannel, Connector.updateChannel,
        List.modify_modify_ne _ _ _ hl]
  · exact List.modify_modify_ne _ _ _ hc

theorem connectors_closeSlots (entries : List (Identifier × Option Handle)) :
    (r.closeSlots entries).2.connectors = (heldIn entries).foldl closeLine r.connectors := by
  induction entries generalizing r with
  | nil => rfl
  | cons e rest ih =>
    obtain ⟨id, _ | h⟩ := e
    · exact ih
    · exact ih.trans (by rw [connectors_closeHandle]; rfl)

/-- No slot is left after closing all channels. -/
theorem get?_closeAll (r : Registry) (id : Identifier) : r.closeAll.2.slots.get? id = none := by
  have hheld : (r.closeSlots r.slots.entries).2.slots.held id = none :=
    closeSlots_held fun h hh => Slots.get?_eq_some_iff.1 (Option.join_eq_some_iff.1 hh)
  change Slots.get? (Slots.pruneAll _) id = none
  rw [(Slots.Filled.pruneAll _).get?_eq, Slots.held_pruneAll, hheld]
  rfl

theorem Alike.closeAll (h : r.Alike s) : Agree r.closeAll s.closeAll := by
  have hheld : (heldIn r.slots.entries).Perm (heldIn s.slots.entries) := h.entries.filterMap _
  refine ⟨?_, .of_get? ?_ fun id => by rw [get?_closeAll, get?_closeAll]⟩
  · rw [closeAll_fst, closeAll_fst, hheld.length_eq]
  · change (r.closeSlots _).2.connectors = (s.closeSlots _).2.connectors
    rw [connectors_closeSlots, connectors_closeSlots, h.connectors]
    exact hheld.foldl_eq' (fun h _ k _ connectors => closeLine_comm connectors h k) _

/-! ## The calls -/

theorem Agree.withIdentifier {α : Type} (h : r.Alike s) (text : String)
    {operation operation' : Identifier → Except Failure α × Registry}
    (ho : ∀ id, Agree (operation id) (operation' id)) :
    Agree (r.withIdentifier text operation) (s.withIdentifier text operation') := by
  unfold Registry.withIdentifier
  split
  · exact ⟨rfl, h⟩
  · exact ho _

theorem Agree.reply {α : Type} {x y : Except Failure α × Registry} (h : Agree x y)
    (encode : α → Reply) : Agree (Registry.reply encode x) (Registry.reply encode y) := by
  obtain ⟨result, r⟩ := x
  obtain ⟨_, s⟩ := y
  obtain ⟨rfl, halike⟩ := h
  cases result <;> exact ⟨rfl, halike⟩

theorem Alike.status (h : r.Alike s) (text : String) : Agree (r.status text) (s.status text) := by
  unfold Registry.status
  split
  · exact ⟨rfl, h⟩
  · next id _ =>
    obtain ⟨hresult, halike⟩ := h.send id Escpos.statusInquiry
    unfold Registry.probe
    generalize r.send id Escpos.statusInquiry = x at hresult halike ⊢
    generalize s.send id Escpos.statusInquiry = y at hresult halike ⊢
    obtain ⟨result, r'⟩ := x
    obtain ⟨_, s'⟩ := y
    cases hresult
    obtain f | _ := result
    · cases f <;> exact ⟨rfl, halike⟩
    · exact ⟨rfl, halike⟩

theorem Alike.adjust (h : r.Alike s) (connector : Nat) (line : Option Nat) (step : Channel.Step) :
    Agree (r.adjust connector line step) (s.adjust connector line step) := by
  unfold Registry.adjust
  rw [show r.connectors[connector]? = s.connectors[connector]? by rw [h.connectors]]
  split
  · exact ⟨rfl, h⟩
  · extract_lets i
    split
    · exact ⟨rfl, h.updateConnector _ _⟩
    · exact ⟨rfl, h⟩

theorem Alike.reconfigure (h : r.Alike s) (connector : Nat) (f : Connector → Connector) :
    Agree (r.reconfigure connector f) (s.reconfigure connector f) :=
  ⟨rfl, congrArg (·.modify connector f) h.connectors, h.entries⟩

theorem Alike.call (h : r.Alike s) (c : Call) : Agree (r.call c) (s.call c) := by
  cases c with
  | connect text => exact (Agree.withIdentifier h text h.connect).reply _
  | disconnect text => exact (Agree.withIdentifier h text h.disconnect).reply _
  | print text job => exact (Agree.withIdentifier h text fun id => h.send id _).reply _
  | status text => exact ⟨congrArg Reply.status (h.status text).result, (h.status text).alike⟩
  | shutdown => exact ⟨rfl, h.closeAll.alike⟩
  | send text bytes => exact (Agree.withIdentifier h text fun id => h.send id bytes).reply _
  | isConnected text =>
    refine (Agree.withIdentifier h text fun id => ?_).reply _
    exact ⟨congrArg Except.ok (h.isConnected id).result, (h.isConnected id).alike⟩
  | connected => exact ⟨congrArg Reply.identifiers h.connected.result, h.connected.alike⟩
  | closeAll => exact ⟨congrArg Reply.count h.closeAll.result, h.closeAll.alike⟩
  | failOpening connector failure => exact h.reconfigure connector _
  | failWriting connector failure => exact h.reconfigure connector _
  | failWrites connector line on => exact h.adjust connector line _
  | failClose connector line on => exact h.adjust connector line _

theorem RepliesInAnyOrder.eq_of_alike {cs : List Call} {replies : List Reply}
    (h : r.RepliesInAnyOrder cs replies) (hs : r.Alike s) : replies = (s.calls cs).1 := by
  induction h generalizing s with
  | nil => rfl
  | @cons r t c cs replies alike rest ih =>
    obtain ⟨hreply, halike⟩ := (alike.symm.trans hs).call c
    exact congr (congrArg List.cons hreply) (ih halike)

end Registry

end ThermalPrint
