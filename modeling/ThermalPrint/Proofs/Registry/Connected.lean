import ThermalPrint.Proofs.Registry.Order
import ThermalPrint.Proofs.Registry.Ownership
import ThermalPrint.Proofs.Text.Order

/-! A registry answers for a set of identifiers: those whose latest successful connect came after their
latest successful disconnect and after the latest closing of all. -/

namespace ThermalPrint

open Transport

/-- Calls that write on a channel or ask for something. -/
def Call.onlyUses : Call → Bool
  | .print _ _ | .status _ | .send _ _ | .isConnected _ | .connected => true
  | _ => false

namespace Registry

variable {r : Registry} {e : Event} {effect : Effect} {id : Identifier}

/-- Whether a channel is held afterwards is what the event decides, or as it was. -/
theorem Effect.isSome_held_apply (he : effect.Explains e) (id : Identifier) :
    ((effect.apply e.before.view).held id).isSome =
      (e.decides? id).getD (e.before.held id).isSome := by
  cases he with
  | quiet _ decides => rw [decides]; rfl
  | @opened k h kind call reply new =>
    simp only [Effect.apply, Event.decides?, call, reply]
    by_cases hk : id = k
    · simp [hk]
    · have htext : k.text ≠ id.text := fun e => hk (Identifier.ext e.symm)
      simp [hk, htext, view]
  | @closed k h call reply held =>
    simp only [Effect.apply, Event.decides?, call, reply]
    by_cases hk : id = k
    · simp [hk]
    · have htext : k.text ≠ id.text := fun e => hk (Identifier.ext e.symm)
      simp [hk, htext, view]
  | wrote _ _ _ decides => rw [decides]; rfl
  | cleared call =>
    rcases call with ⟨call, reply⟩ | ⟨call, reply⟩ <;> simp [Effect.apply, Event.decides?, call, reply]
  | switched _ _ decides => rw [decides]; rfl

theorem isSome_held_call (hr : r.slots.Filled) (c : Call) (id : Identifier) :
    ((r.call c).2.held id).isSome =
      ((⟨r, c, (r.call c).1⟩ : Event).decides? id).getD (r.held id).isSome := by
  obtain ⟨effect, he, -, hview⟩ := call_shows hr c
  rw [show (r.call c).2.held id = (r.call c).2.view.held id from rfl, hview]
  exact effect.isSome_held_apply he id

/-- The last event that decides it tells whether a channel is held. -/
theorem Tidy.isSome_held_after (hr : r.Tidy) (cs : List Call) (id : Identifier) :
    ((r.after cs).held id).isSome =
      (((r.history cs).filterMap (·.decides? id)).getLast?).getD (r.held id).isSome := by
  induction cs generalizing r with
  | nil => rfl
  | cons c cs ih =>
    refine (ih (hr.call c)).trans ?_
    rw [isSome_held_call hr.filled c id, history, List.filterMap_cons]
    cases (⟨r, c, (r.call c).1⟩ : Event).decides? id with
    | none => rfl
    | some yes => simp [List.getLast?_cons]

theorem IsNew.isSome_held_after (hr : r.IsNew) (cs : List Call) (id : Identifier) :
    ((r.after cs).held id).isSome = connectedBy (r.history cs) id := by
  rw [hr.tidy.isSome_held_after cs, held, hr.get?]
  rfl

/-! ## Answers -/

theorem isConnected_reply (hr : r.slots.Filled) {text : String} (ht : Identifier.ofText text = .ok id) :
    (r.call (.isConnected text)).1 = .answer (r.held id).isSome := by
  simp only [call, withIdentifier, ht, isConnected_eq hr]
  rfl

theorem disconnect_reply (hr : r.slots.Filled) {text : String} (ht : Identifier.ofText text = .ok id) :
    (r.call (.disconnect text)).1 = if (r.held id).isSome then .done else .failure .notConnected := by
  simp only [call, withIdentifier, ht, disconnect, hr.get?_eq]
  change _ = if (r.slots.held id).isSome = true then _ else _
  cases r.slots.held id <;> rfl

theorem mem_connected_iff (r : Registry) : id ∈ r.connected.1 ↔ (r.held id).isSome = true := by
  change id ∈ List.mergeSort _ _ ↔ ((r.slots.get? id).join).isSome = true
  rw [List.mem_mergeSort, Slots.mem_keys_iff, Slots.get?_pruneAll]
  rcases r.slots.get? id with _ | _ | _ <;> simp

/-- The answer to which identifiers are connected is in the order of their bytes. -/
theorem connected_pairwise (r : Registry) :
    r.connected.1.Pairwise fun a b => utf8 a.text < utf8 b.text := by
  refine (r.connected_nodup.and (pairwise_mergeSort_text _)).imp fun ⟨hne, hle⟩ => utf8_lt_of_lt ?_
  exact String.not_le.1 fun hge => hne (Identifier.ext (String.le_antisymm hle hge))

theorem closeAll_eq_length_connected (r : Registry) : r.closeAll.1 = r.connected.1.length := by
  rw [closeAll_fst]
  change _ = (List.mergeSort _ _).length
  rw [List.length_mergeSort, List.length_map, heldIn, List.length_filterMap_eq_countP,
    List.countP_eq_length_filter]
  rfl

theorem closeAll_closeAll (r : Registry) : r.closeAll.2.closeAll.1 = 0 := by
  have hentries : r.closeAll.2.slots.entries = [] := by
    refine List.eq_nil_iff_forall_not_mem.2 fun ⟨id, content⟩ hm => ?_
    rw [← Slots.get?_eq_some_iff, get?_closeAll] at hm
    cases hm
  rw [closeAll_fst, hentries]
  rfl

/-- The answers of a registry go by what the events before decided. -/
structure Reports (r : Registry) (events : List Event) : Prop where
  isConnected : ∀ text id, Identifier.ofText text = .ok id →
    (r.call (.isConnected text)).1 = .answer (connectedBy events id)
  /-- The identifiers are in ascending order, and closing all counts them. -/
  connected : ∃ ids, (r.call .connected).1 = .identifiers ids ∧
    (∀ id, id ∈ ids ↔ connectedBy events id = true) ∧
    (ids.Pairwise fun a b => utf8 a.text < utf8 b.text) ∧
    (r.call .closeAll).1 = .count ids.length
  disconnect : ∀ text id, Identifier.ofText text = .ok id →
    (r.call (.disconnect text)).1 =
      if connectedBy events id then .done else .failure .notConnected
  closeAll_again : ∀ c, c = .closeAll ∨ c = .shutdown →
    ((r.call c).2.call .closeAll).1 = .count 0
  /-- Nothing changes by a call that fails, writes or asks. -/
  steady : ∀ c, c.onlyUses = true ∨ (∃ f, (r.call c).1 = .failure f) →
    ∀ text, ((r.call c).2.call (.isConnected text)).1 = (r.call (.isConnected text)).1

theorem decides?_of_onlyUses {c : Call} (hc : c.onlyUses = true) (reply : Reply) (id : Identifier) :
    (⟨r, c, reply⟩ : Event).decides? id = none := by
  cases c <;> first | rfl | cases hc

theorem Tidy.reports (hr : r.Tidy) {events : List Event}
    (hevents : ∀ id, (r.held id).isSome = connectedBy events id) : r.Reports events where
  isConnected text id ht := by rw [isConnected_reply hr.filled ht, hevents]
  connected := by
    refine ⟨r.connected.1, rfl, fun id => ?_, connected_pairwise r, ?_⟩
    · rw [mem_connected_iff, hevents]
    · exact congrArg Reply.count (closeAll_eq_length_connected r)
  disconnect text id ht := by rw [disconnect_reply hr.filled ht, hevents]
  closeAll_again c hc := by
    rcases hc with rfl | rfl <;> exact congrArg Reply.count (closeAll_closeAll r)
  steady c hc text := by
    have hnone (id : Identifier) : (⟨r, c, (r.call c).1⟩ : Event).decides? id = none := by
      rcases hc with hc | ⟨f, hf⟩
      · exact decides?_of_onlyUses hc _ id
      · rw [hf]
        exact decides?_failure c f id
    cases ht : Identifier.ofText text with
    | error f => simp only [Registry.call, withIdentifier, ht, reply]
    | ok id =>
      rw [isConnected_reply (hr.call c).filled ht, isConnected_reply hr.filled ht,
        isSome_held_call hr.filled, hnone]
      rfl

/-- After any calls the answers go by the calls and their replies, and neither those replies nor
these answers depend on the order of the slots. -/
theorem reports_after (hr : r.IsNew) (cs : List Call) :
    (r.after cs).Reports (r.history cs) ∧
      ∀ replies, r.RepliesInAnyOrder cs replies → replies = (r.calls cs).1 :=
  ⟨(hr.tidy.after cs).reports (hr.isSome_held_after cs), fun _ h => h.eq_of_alike (.refl r)⟩

/-- Of two printers one is disconnected, and an attempt to connect it again fails. -/
theorem reports_after_disconnecting :
    let r : Registry := { connectors := [⟨.bluetooth, .bluetooth, fun _ => none, none, 0, []⟩] }
    let cs : List Call := [.connect "q", .connect "p", .disconnect "q",
      .failOpening 0 (some .notConnected), .connect "q"]
    r.IsNew ∧ (r.after cs).Reports (r.history cs) ∧
      connectedBy (r.history cs) ⟨"p", rfl⟩ = true ∧
      connectedBy (r.history cs) ⟨"q", rfl⟩ = false := by
  intro r cs
  have hr : r.IsNew := ⟨rfl, by simp [r]⟩
  exact ⟨hr, (reports_after hr cs).1, by decide +kernel, by decide +kernel⟩

end Registry

end ThermalPrint
