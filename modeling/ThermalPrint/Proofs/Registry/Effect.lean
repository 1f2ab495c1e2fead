import ThermalPrint.Proofs.Registry.View

/-! What calls do. Every call has one of six effects on what is seen of a registry, and its reply tells
which one it was. -/

namespace ThermalPrint

open Transport

namespace Registry

/-- What a call does. -/
inductive Effect
  | quiet
  /-- A channel is opened for an identifier and held in place of the one held before. -/
  | opened (id : Identifier) (h : Handle) (kind : Kind)
  | closed (id : Identifier) (h : Handle)
  | wrote (id : Identifier) (h : Handle) (bytes : Bytes)
  | cleared (hs : List Handle)
  | switched (h : Handle) (s : Channel.Step)

namespace Effect

def apply (v : View) : Effect → View
  | .quiet => v
  | .opened id h kind =>
    { held := fun k => if k = id then some h else v.held k
      seen := fun k =>
        let line := if k = h then some ⟨id, { kind }⟩ else v.seen k
        if v.held id = some k then line.map Line.close else line }
  | .closed id h =>
    { v.update h Line.close with held := fun k => if k = id then none else v.held k }
  | .wrote _ h bytes => v.update h (Line.deliver bytes)
  | .cleared hs =>
    { held := fun _ => none
      seen := fun k => if k ∈ hs then (v.seen k).map Line.close else v.seen k }
  | .switched h s => v.update h (Line.step s)

/-- When a call has an effect, and what it then replies. -/
inductive Explains (e : Event) : Effect → Prop
  | quiet (payload : e.payload = []) (decides : ∀ id, e.decides? id = none) : Explains e .quiet
  | opened {id : Identifier} {h : Handle} {kind : Kind} (call : e.call = .connect id.text)
    (reply : e.reply = .kind kind) (new : e.before.line? h = none) :
    Explains e (.opened id h kind)
  | closed {id : Identifier} {h : Handle} (call : e.call = .disconnect id.text)
    (reply : e.reply = .done) (held : e.before.held id = some h) : Explains e (.closed id h)
  | wrote {id : Identifier} {h : Handle} {bytes : Bytes} (subject : e.subject? = some id.text)
    (payload : e.payload = bytes) (held : e.before.held id = some h)
    (decides : ∀ id, e.decides? id = none) : Explains e (.wrote id h bytes)
  | cleared {hs : List Handle}
    (call : e.call = .shutdown ∧ e.reply = .done ∨ e.call = .closeAll ∧ e.reply = .count hs.length)
    (held : ∀ h, h ∈ hs ↔ ∃ id, e.before.held id = some h) : Explains e (.cleared hs)
  | switched {h : Handle} {s : Channel.Step} (switch : ∃ on, s = .failWrites on ∨ s = .failClose on)
    (payload : e.payload = []) (decides : ∀ id, e.decides? id = none) :
    Explains e (.switched h s)

end Effect

variable {r : Registry} {id : Identifier}

/-- What an operation comes to: a failure without effect, or a result with an effect. -/
inductive Outcome (r : Registry) {α : Type} (effect : α → Effect → Prop) :
    Except Failure α × Registry → Prop
  | failed (f : Failure) {r' : Registry} (filled : r'.slots.Filled) (view : r'.view = r.view) :
    Outcome r effect (.error f, r')
  | done {a : α} {e : Effect} {r' : Registry} (took : effect a e) (filled : r'.slots.Filled)
    (view : r'.view = e.apply r.view) : Outcome r effect (.ok a, r')

/-! ## The operations -/

/-- What opening a channel comes to. -/
inductive Opened (r : Registry) (id : Identifier) : Except Failure (Handle × Kind) × Registry → Prop
  | failed (f : Failure) {r' : Registry} (slots : r'.slots = r.slots)
    (lines : ∀ k, r'.line? k = r.line? k) : Opened r id (.error f, r')
  | opened {h : Handle} {kind : Kind} {r' : Registry} (slots : r'.slots = r.slots)
    (new : r.line? h = none)
    (lines : ∀ k, r'.line? k = if k = h then some ⟨id, { kind }⟩ else r.line? k) :
    Opened r id (.ok (h, kind), r')

theorem openChannel_opened (r : Registry) (id : Identifier) : Opened r id (r.openChannel id) := by
  unfold openChannel
  extract_lets kind failed
  split
  · exact .failed _ rfl fun _ => rfl
  · next i _ =>
    split
    · exact .failed _ rfl fun _ => rfl
    · next c hc =>
      unfold Connector.connect
      cases hf : c.openFailure id with
      | some f =>
        let c' : Connector := { c with attempts := c.attempts + 1 }
        have hlines : c'.lines = c.lines := rfl
        have same := line?_sameLines hc hlines
        cases f <;> exact .failed _ rfl same
      | none =>
        refine .opened rfl ?_ (line?_append hc rfl)
        rw [line?_of_connector hc]
        exact List.getElem?_eq_none (Nat.le_refl _)

theorem connect_outcome (hr : r.slots.Filled) (id : Identifier) :
    r.Outcome (fun kind e => ∃ h, e = .opened id h kind ∧ r.line? h = none) (r.connect id) := by
  unfold connect
  extract_lets r₀
  have ho := openChannel_opened r₀ id
  generalize r₀.openChannel id = result at ho ⊢
  cases ho with
  | @failed f r₁ hs hl =>
    refine .failed f ?_ (view_eq_iff.2 ⟨fun k => ?_, fun k => congrArg _ (hl k)⟩)
    · exact .prune (by rw [hs]; exact hr.ne_of_ensure)
    · rw [held_withSlots, Slots.held_prune, hs]
      exact Slots.held_ensure
  | @opened h kind r₁ hs hn hl =>
    have hheld : r₁.held id = r.held id := by
      change r₁.slots.held id = _
      rw [hs]
      exact Slots.held_ensure
    refine .done ⟨h, rfl, hn⟩ ?_ (View.ext (funext fun k => ?_) (funext fun k => ?_))
    · exact .put (by rw [slots_closeHeld, hs]; exact hr.ne_of_ensure)
    · change ((r₁.closeHeld id).slots.put id _).held k = if k = id then _ else r.slots.held k
      rw [slots_closeHeld, hs, Slots.held_put, Slots.held_ensure]
    · change ((r₁.closeHeld id).line? k).map _ = _
      rw [line?_closeHeld, hheld, hl]
      simp only [Effect.apply, view]
      split <;> split
      · rfl
      · exact Line.map_uncounted_close _
      · rfl
      · rfl

theorem disconnect_outcome (hr : r.slots.Filled) (id : Identifier) :
    r.Outcome (fun _ e => ∃ h, e = .closed id h ∧ r.held id = some h) (r.disconnect id) := by
  unfold disconnect
  rw [hr.get?_eq]
  cases hh : r.slots.held id with
  | none => exact .failed _ hr rfl
  | some h =>
    refine .done ⟨h, rfl, hh⟩ ?_ (View.ext (funext fun k => ?_) (funext fun k => ?_))
    · exact .prune (by rw [slots_closeHandle]; exact hr.ne_of_put)
    · change (Slots.prune _ _).held k = if k = id then none else r.slots.held k
      rw [slots_closeHandle, Slots.held_prune, Slots.held_put]
    · change (Registry.line? _ k).map _ = _
      rw [line?_withSlots, line?_closeHandle, line?_withSlots]
      simp only [Effect.apply, View.update, view]
      split
      · exact Line.map_uncounted_close _
      · rfl

/-- A write that fails changes nothing but the count. -/
theorem write_cases (bytes : Bytes) (l : Line) :
    (∃ f, (l.channel.write bytes).1 = .error f ∧
      Line.uncounted { l with channel := (l.channel.write bytes).2 } = l.uncounted) ∨
    (l.channel.write bytes).1 = .ok () ∧
      Line.uncounted { l with channel := (l.channel.write bytes).2 } =
        l.uncounted.deliver bytes := by
  unfold Channel.write
  extract_lets counted
  split
  · exact .inl ⟨_, rfl, rfl⟩
  · split
    · exact .inl ⟨_, rfl, rfl⟩
    · exact .inr ⟨rfl, rfl⟩

/-- What writing on a connector's channel comes to. -/
theorem writeOn_cases {h : Handle} {c : Connector} (hc : r.connectors[h.connector]? = some c)
    (bytes : Bytes) :
    (∃ f, (c.writeOn h.line bytes).1 = .error f ∧
      (r.updateConnector h.connector (c.writeOn h.line bytes).2).view = r.view) ∨
    (c.writeOn h.line bytes).1 = .ok () ∧
      (r.updateConnector h.connector (c.writeOn h.line bytes).2).view =
        r.view.update h (Line.deliver bytes) := by
  unfold Connector.writeOn
  split
  · exact .inl ⟨_, rfl, view_sameLines hc rfl⟩
  · next line _ hline =>
    rcases write_cases bytes line with ⟨f, hres, hw⟩ | ⟨hres, hw⟩
    · refine .inl ⟨f, hres, ?_⟩
      exact (view_updateLine (f := fun line => line) hc hline rfl hw).trans (update_self _ _)
    · exact .inr ⟨hres, view_updateLine hc hline rfl hw⟩
  · exact .inl ⟨_, rfl, view_sameLines hc rfl⟩

theorem send_outcome (hr : r.slots.Filled) (id : Identifier) (bytes : Bytes) :
    r.Outcome (fun _ e => ∃ h, e = .wrote id h bytes ∧ r.held id = some h) (r.send id bytes) := by
  unfold send
  rw [hr.get?_eq]
  cases hh : r.slots.held id with
  | none => exact .failed _ hr rfl
  | some h =>
    simp only [Option.map_some]
    split
    · exact .failed _ hr rfl
    · next c hc =>
      have hf : (r.slots.prune id).Filled := .prune fun k _ => hr k
      rcases writeOn_cases hc bytes with ⟨f, hres, hv⟩ | ⟨hres, hv⟩
      · rw [hres]
        exact .failed _ hf (view_prune.trans hv)
      · rw [hres]
        exact .done ⟨h, rfl, hh⟩ hf (view_prune.trans hv)

/-- The channels in a list of entries. -/
def heldIn (entries : List (Identifier × Option Handle)) : List Handle := entries.filterMap (·.2)

theorem closeSlots_fst (r : Registry) (entries : List (Identifier × Option Handle)) :
    (r.closeSlots entries).1 = (heldIn entries).length := by
  induction entries generalizing r with
  | nil => rfl
  | cons e rest ih =>
    obtain ⟨id, _ | h⟩ := e
    · exact ih r
    · exact congrArg (· + 1) (ih _)

theorem closeSlots_line? (r : Registry) (entries : List (Identifier × Option Handle)) (k : Handle) :
    (r.closeSlots entries).2.line? k =
      if k ∈ heldIn entries then (r.line? k).map Line.close else r.line? k := by
  induction entries generalizing r with
  | nil => rfl
  | cons e rest ih =>
    obtain ⟨id, _ | h⟩ := e
    · exact ih r
    · change (closeSlots _ rest).2.line? k = if k ∈ h :: heldIn rest then _ else _
      rw [ih, line?_closeHandle, line?_withSlots]
      by_cases hk : k = h
      · rw [if_pos hk, if_pos (List.mem_cons.2 (.inl hk)), Option.map_map]
        split <;> rfl
      · simp only [List.mem_cons, hk, false_or, if_false]

theorem closeSlots_held {entries : List (Identifier × Option Handle)}
    (he : ∀ h, r.held id = some h → (id, some h) ∈ entries) :
    (r.closeSlots entries).2.held id = none := by
  induction entries generalizing r with
  | nil => exact Option.eq_none_iff_forall_ne_some.2 fun h hh => nomatch he h hh
  | cons e rest ih =>
    obtain ⟨k, content⟩ := e
    cases content with
    | none => exact ih fun h hh => (List.mem_cons.1 (he h hh)).resolve_left (fun e => nomatch e)
    | some h =>
      refine ih (r := { r with slots := r.slots.put k none }.closeHandle h) fun h' hh => ?_
      change Slots.held (closeHandle _ _).slots id = _ at hh
      rw [slots_closeHandle, Slots.held_put] at hh
      split at hh
      · cases hh
      · next hne =>
        refine (List.mem_cons.1 (he h' hh)).resolve_left fun e => ?_
        exact hne (congrArg Prod.fst e)

theorem mem_heldIn_entries (hr : r.slots.Filled) {h : Handle} :
    h ∈ heldIn r.slots.entries ↔ ∃ id, r.held id = some h := by
  simp only [heldIn, List.mem_filterMap]
  constructor
  · rintro ⟨⟨id, _⟩, he, rfl⟩
    obtain ⟨h, e, hh⟩ := hr.mem_entries_iff.1 he
    cases e
    exact ⟨id, hh⟩
  · rintro ⟨id, hh⟩
    exact ⟨_, hr.mem_entries_iff.2 ⟨h, rfl, hh⟩, rfl⟩

theorem closeAll_fst (r : Registry) : r.closeAll.1 = (heldIn r.slots.entries).length :=
  closeSlots_fst r _

theorem closeAll_view (hr : r.slots.Filled) :
    r.closeAll.2.view = (Effect.cleared (heldIn r.slots.entries)).apply r.view := by
  refine View.ext (funext fun id => ?_) (funext fun k => ?_)
  · change Slots.held (Slots.pruneAll _) id = none
    rw [Slots.held_pruneAll]
    exact closeSlots_held fun h hh => hr.mem_entries_iff.2 ⟨h, rfl, hh⟩
  · change Option.map _ ((r.closeSlots _).2.line? k) = _
    rw [closeSlots_line?]
    simp only [Effect.apply, view]
    split
    · exact Line.map_uncounted_close _
    · rfl

theorem isConnected_eq (hr : r.slots.Filled) (id : Identifier) :
    r.isConnected id = ((r.held id).isSome, r) := by
  unfold isConnected
  rw [hr.get?_eq]
  change _ = ((r.slots.held id).isSome, r)
  cases r.slots.held id <;> rfl

/-! ## The calls -/

theorem Outcome.withIdentifier {α : Type} {effect : Identifier → α → Effect → Prop} {text : String}
    {operation : Identifier → Except Failure α × Registry} (hr : r.slots.Filled)
    (ho : ∀ id, r.Outcome (effect id) (operation id)) :
    r.Outcome (fun a e => ∃ id, id.text = text ∧ effect id a e)
      (r.withIdentifier text operation) := by
  unfold Registry.withIdentifier
  split
  · exact .failed _ hr rfl
  · next id hid =>
    have htext := Identifier.ofText_eq_ok_iff.1 hid
    have ho := ho id
    generalize operation id = result at ho
    cases ho with
    | failed f filled view => exact .failed f filled view
    | done took filled view => exact .done ⟨id, htext, took⟩ filled view

/-- A reply and a registry that an effect accounts for. -/
def Shows (r : Registry) (c : Call) (result : Reply × Registry) : Prop :=
  ∃ e : Effect, e.Explains ⟨r, c, result.1⟩ ∧ result.2.slots.Filled ∧ result.2.view = e.apply r.view

theorem payload_failure (c : Call) (f : Failure) : (Event.mk r c (.failure f)).payload = [] := by
  cases c <;> rfl

theorem decides?_failure (c : Call) (f : Failure) (id : Identifier) :
    (Event.mk r c (.failure f)).decides? id = none := by
  cases c <;> rfl

theorem Outcome.shows {α : Type} {effect : α → Effect → Prop} {c : Call} {encode : α → Reply}
    {result : Except Failure α × Registry} (ho : r.Outcome effect result)
    (he : ∀ a e, effect a e → e.Explains ⟨r, c, encode a⟩) : r.Shows c (reply encode result) := by
  cases ho with
  | failed f filled view =>
    exact ⟨_, .quiet (payload_failure c f) (decides?_failure c f), filled, view⟩
  | done took filled view => exact ⟨_, he _ _ took, filled, view⟩

theorem status_shows (hr : r.slots.Filled) (text : String) :
    r.Shows (.status text) (.status (r.status text).1, (r.status text).2) := by
  unfold status
  split
  · exact ⟨_, .quiet rfl fun _ => rfl, hr, rfl⟩
  · next id hid =>
    have htext := Identifier.ofText_eq_ok_iff.1 hid
    have ho := send_outcome hr id [0x10, 0x04, 0x01]
    rw [probe, Escpos.statusInquiry_eq]
    generalize r.send id [0x10, 0x04, 0x01] = result at ho ⊢
    cases ho with
    | failed f filled view => cases f <;> exact ⟨_, .quiet rfl fun _ => rfl, filled, view⟩
    | done took filled view =>
      obtain ⟨h, rfl, hh⟩ := took
      exact ⟨_, .wrote (congrArg some htext.symm) rfl hh fun _ => rfl, filled, view⟩

theorem adjust_shows (hr : r.slots.Filled) {c : Call} {connector : Nat} {line : Option Nat}
    {s : Channel.Step} (hs : ∃ on, s = .failWrites on ∨ s = .failClose on)
    (hc : ∀ reply, (Event.mk r c reply).payload = [] ∧
      ∀ id, (Event.mk r c reply).decides? id = none) :
    r.Shows c (r.adjust connector line s) := by
  unfold adjust
  split
  · exact ⟨_, .quiet (hc _).1 (hc _).2, hr, rfl⟩
  · next co hco =>
    extract_lets i
    split
    · next hi =>
      refine ⟨_, .switched (h := ⟨connector, i⟩) hs (hc _).1 (hc _).2, hr, ?_⟩
      refine view_updateLine (h := ⟨connector, i⟩) hco (List.getElem?_eq_getElem hi) rfl ?_
      obtain ⟨on, rfl | rfl⟩ := hs <;> rfl
    · exact ⟨_, .quiet (hc _).1 (hc _).2, hr, rfl⟩

theorem reconfigure_view (r : Registry) (connector : Nat) {f : Connector → Connector}
    (hf : ∀ c, (f c).lines = c.lines) : (r.reconfigure connector f).2.view = r.view := by
  refine View.ext rfl (funext fun k => congrArg (Option.map _) ?_)
  simp only [reconfigure, line?, List.getElem?_modify]
  split
  · cases r.connectors[k.connector]? <;> simp [hf]
  · cases r.connectors[k.connector]? <;> simp

/-- A call has one of the effects, as its reply tells. -/
theorem call_shows (hr : r.slots.Filled) (c : Call) : r.Shows c (r.call c) := by
  cases c with
  | connect text =>
    refine (Outcome.withIdentifier hr (connect_outcome hr)).shows ?_
    rintro kind _ ⟨id, rfl, h, rfl, hn⟩
    exact .opened rfl rfl hn
  | disconnect text =>
    refine (Outcome.withIdentifier hr (disconnect_outcome hr)).shows ?_
    rintro _ _ ⟨id, rfl, h, rfl, hh⟩
    exact .closed rfl rfl hh
  | print text job =>
    refine (Outcome.withIdentifier hr fun id => send_outcome hr id _).shows ?_
    rintro _ _ ⟨id, rfl, h, rfl, hh⟩
    exact .wrote rfl rfl hh fun _ => rfl
  | status text => exact status_shows hr text
  | shutdown =>
    refine ⟨_, .cleared (.inl ⟨rfl, rfl⟩) fun h => mem_heldIn_entries hr, .pruneAll _, ?_⟩
    exact closeAll_view hr
  | send text bytes =>
    refine (Outcome.withIdentifier hr fun id => send_outcome hr id _).shows ?_
    rintro _ _ ⟨id, rfl, h, rfl, hh⟩
    exact .wrote rfl rfl hh fun _ => rfl
  | isConnected text =>
    have ho (id : Identifier) :
        r.Outcome (fun _ e => e = .quiet) (.ok (r.isConnected id).1, (r.isConnected id).2) := by
      rw [isConnected_eq hr]
      exact .done rfl hr rfl
    refine (Outcome.withIdentifier hr ho).shows ?_
    rintro _ _ ⟨id, -, rfl⟩
    exact .quiet rfl fun _ => rfl
  | connected =>
    refine ⟨_, .quiet rfl fun _ => rfl, .pruneAll _, ?_⟩
    exact View.ext (funext fun _ => Slots.held_pruneAll) rfl
  | closeAll =>
    have hcount := congrArg Reply.count (closeAll_fst r)
    refine ⟨_, .cleared (.inr ⟨rfl, hcount⟩) fun h => mem_heldIn_entries hr, .pruneAll _, ?_⟩
    exact closeAll_view hr
  | failOpening connector failure =>
    exact ⟨_, .quiet rfl fun _ => rfl, hr, reconfigure_view r connector fun _ => rfl⟩
  | failWriting connector failure =>
    exact ⟨_, .quiet rfl fun _ => rfl, hr, reconfigure_view r connector fun _ => rfl⟩
  | failWrites connector line on =>
    exact adjust_shows hr ⟨on, .inl rfl⟩ fun reply => ⟨rfl, fun _ => rfl⟩
  | failClose connector line on =>
    exact adjust_shows hr ⟨on, .inr rfl⟩ fun reply => ⟨rfl, fun _ => rfl⟩

end Registry

end ThermalPrint
