import ThermalPrint.Proofs.Registry.Connected

/-! A call that fails leaves everything as it was, except for how often a connector was asked for a
channel and how often something was to be written. -/

namespace ThermalPrint

open Transport

/-- Whether a reply tells of a failure; that of a status does unless the printer is ready. -/
def Reply.isFailure : Reply → Bool
  | .failure _ => true
  | .status s => s ≠ Status.ready
  | _ => false

/-- The text that names the printer of a call. -/
def Call.subject? : Call → Option String
  | .connect id | .disconnect id | .print id _ | .status id | .send id _ | .isConnected id => some id
  | _ => none

/-- A connector without its counts. -/
def Transport.Connector.uncounted (c : Connector) : Connector :=
  { c with attempts := 0, lines := c.lines.map Line.uncounted }

namespace Registry

/-- A registry without the counts of attempts and of writes. -/
def uncounted (r : Registry) : Registry := { r with connectors := r.connectors.map Connector.uncounted }

variable {r r' : Registry} {id : Identifier} {h : Handle}

theorem getElem?_uncounted (r : Registry) (i : Nat) :
    r.uncounted.connectors[i]? = r.connectors[i]?.map Connector.uncounted := List.getElem?_map

theorem line?_uncounted (r : Registry) (h : Handle) :
    r.uncounted.line? h = (r.line? h).map Line.uncounted := by
  simp only [line?, getElem?_uncounted]
  cases r.connectors[h.connector]? with
  | none => rfl
  | some c => exact List.getElem?_map

/-- A change of one connector that is one of its counts only. -/
theorem uncounted_updateConnector {i : Nat} {c c' : Connector} (hc : r.connectors[i]? = some c)
    (h : c'.uncounted = c.uncounted) : (r.updateConnector i c').uncounted = r.uncounted := by
  have hmap : (r.connectors.set i c').map Connector.uncounted =
      r.connectors.map Connector.uncounted := by
    refine List.ext_getElem? fun j => ?_
    rw [List.map_set, h, List.getElem?_set, List.getElem?_map]
    split
    · next hj =>
      subst hj
      obtain ⟨hi, -⟩ := List.getElem?_eq_some_iff.1 hc
      rw [List.length_map, if_pos hi, hc]
      rfl
    · rfl
  simp only [uncounted, updateConnector, hmap]

/-! ## Operations that fail -/

/-- A failed operation has changed nothing but counts. -/
def Frames {α : Type} (r : Registry) (x : Except Failure α × Registry) : Prop :=
  ∀ f, x.1 = .error f → x.2.uncounted = r.uncounted

theorem openChannel_frames (r : Registry) (id : Identifier) : r.Frames (r.openChannel id) := by
  unfold openChannel
  extract_lets kind failed
  split
  · exact fun _ _ => rfl
  · next i _ =>
    split
    · exact fun _ _ => rfl
    · next c hc =>
      unfold Connector.connect
      cases hf : c.openFailure id with
      | some f =>
        have hcount : (r.updateConnector i { c with attempts := c.attempts + 1 }).uncounted = r.uncounted :=
          uncounted_updateConnector hc rfl
        cases f <;> exact fun _ _ => hcount
      | none => exact fun _ h => nomatch h

theorem connect_frames (hr : r.slots.Filled) (id : Identifier) : r.Frames (r.connect id) := by
  unfold connect
  extract_lets r₀
  have ho := openChannel_frames r₀ id
  generalize r₀.openChannel id = result at ho ⊢
  obtain ⟨f | opened, r₁⟩ := result
  · intro _ _
    have h₁ : r₁.uncounted = r₀.uncounted := ho f rfl
    have hslots : r₁.slots = r.slots.ensure id := congrArg (fun r : Registry => r.slots) h₁
    calc ({ r₁ with slots := r₁.slots.prune id } : Registry).uncounted
      _ = { r₁.uncounted with slots := r.slots } := by rw [hslots, hr.prune_ensure]; rfl
      _ = r.uncounted := by rw [h₁]; rfl
  · exact fun _ h => nomatch h

theorem disconnect_frames (hr : r.slots.Filled) (id : Identifier) : r.Frames (r.disconnect id) := by
  unfold disconnect
  rw [hr.get?_eq]
  cases r.slots.held id with
  | none => exact fun _ _ => rfl
  | some h => exact fun _ h => nomatch h

theorem uncounted_writeOn {c : Connector} {i : Nat} {bytes : Bytes} {f : Failure}
    (hf : (c.writeOn i bytes).1 = .error f) : (c.writeOn i bytes).2.uncounted = c.uncounted := by
  unfold Connector.writeOn at hf ⊢
  split
  · rfl
  · next line _ hline =>
    simp only [*] at hf
    have hsame : Line.uncounted { line with channel := (line.channel.write bytes).2 } =
        line.uncounted := by
      rcases write_cases bytes line with ⟨_, _, hw⟩ | ⟨hok, _⟩
      · exact hw
      · exact nomatch hf.symm.trans hok
    have hlines : (c.lines.modify i fun l => { l with channel := (line.channel.write bytes).2 }).map
        Line.uncounted = c.lines.map Line.uncounted := by
      refine List.ext_getElem? fun j => ?_
      rw [List.getElem?_map, List.getElem?_modify, List.getElem?_map]
      split
      · next hj =>
        subst hj
        rw [hline]
        exact congrArg some hsame
      · rw [Option.map_eq_map, Option.map_id']
    simp only [Connector.uncounted, Connector.updateChannel, hlines]
  · rfl

theorem send_of_not_held (hr : r.slots.Filled) (hh : r.held id = none) (bytes : Bytes) :
    r.send id bytes = (.error .notConnected, r) := by
  unfold send
  rw [hr.get?_eq, show r.slots.held id = none from hh]
  rfl

theorem send_of_held (hr : r.slots.Filled) (hh : r.held id = some h) {c : Connector}
    (hc : r.connectors[h.connector]? = some c) (bytes : Bytes) :
    r.send id bytes = ((c.writeOn h.line bytes).1.mapError asWriteFailure,
      r.updateConnector h.connector (c.writeOn h.line bytes).2) := by
  unfold send
  rw [hr.get?_eq, show r.slots.held id = some h from hh]
  simp only [Option.map_some, hc]
  exact congrArg (fun slots => (_, ({ r.updateConnector h.connector _ with slots } : Registry)))
    (hr.prune_eq id)

theorem Tidy.connector_of_held (hr : r.Tidy) (hh : r.held id = some h) :
    ∃ c, r.connectors[h.connector]? = some c := by
  obtain ⟨l, hl, -⟩ := hr.held_iff.1 hh
  obtain ⟨c, hc, -⟩ := Option.bind_eq_some_iff.1 hl
  exact ⟨c, hc⟩

theorem Tidy.send_frames (hr : r.Tidy) (id : Identifier) (bytes : Bytes) :
    r.Frames (r.send id bytes) := by
  cases hh : r.held id with
  | none =>
    rw [send_of_not_held hr.filled hh]
    exact fun _ _ => rfl
  | some h =>
    obtain ⟨c, hc⟩ := hr.connector_of_held hh
    rw [send_of_held hr.filled hh hc]
    intro f hf
    cases hw : (c.writeOn h.line bytes).1 with
    | ok =>
      rw [hw] at hf
      cases hf
    | error f => exact uncounted_updateConnector hc (uncounted_writeOn hw)

/-! ## What can be told after a failure -/

theorem write_fst (bytes : Bytes) (ch : Channel) :
    (ch.write bytes).1 =
      if !ch.phase.canWrite then .error (.writeFailed "transport is closed")
      else if ch.log.failWrites then .error (.writeFailed "broken pipe") else .ok () := by
  unfold Channel.write
  extract_lets counted
  split
  · rfl
  · split <;> rfl

theorem write_uncounted (l : Line) (bytes : Bytes) :
    (l.uncounted.channel.write bytes).1 = (l.channel.write bytes).1 := by
  rw [write_fst, write_fst]
  rfl

theorem writeOn_uncounted (c : Connector) (i : Nat) (bytes : Bytes) :
    (c.uncounted.writeOn i bytes).1 = (c.writeOn i bytes).1 := by
  simp only [Connector.writeOn, Connector.uncounted, List.getElem?_map]
  cases c.writeFailure with
  | some f => rfl
  | none =>
    cases c.lines[i]? with
    | none => rfl
    | some line => exact write_uncounted line bytes

/-- How a sending ends does not depend on the counts. -/
theorem Tidy.send_uncounted (hr : r.Tidy) (id : Identifier) (bytes : Bytes) :
    (r.uncounted.send id bytes).1 = (r.send id bytes).1 := by
  have hfilled : r.uncounted.slots.Filled := hr.filled
  cases hh : r.held id with
  | none => rw [send_of_not_held hr.filled hh, send_of_not_held hfilled hh]
  | some h =>
    obtain ⟨c, hc⟩ := hr.connector_of_held hh
    have hc' : r.uncounted.connectors[h.connector]? = some c.uncounted := by
      rw [getElem?_uncounted, hc]
      rfl
    rw [send_of_held hr.filled hh hc, send_of_held hfilled hh hc']
    exact congrArg (Except.mapError asWriteFailure) (writeOn_uncounted c h.line bytes)

/-- What a failed call leaves: the registry as it was, but for the counts. -/
structure Undisturbed (before after : Registry) : Prop where
  uncounted : after.uncounted = before.uncounted
  held : ∀ id, after.held id = before.held id
  /-- The same channels were ever opened, and each of them is as it was. -/
  lines : ∀ h, (after.line? h).map Line.uncounted = (before.line? h).map Line.uncounted
  connected : after.connected.1 = before.connected.1
  size : after.size = before.size
  /-- A channel that was held is still open, and takes or refuses what it did. -/
  usable : ∀ id h, before.held id = some h → (∃ l, after.line? h = some l ∧ l.owner = id ∧
    l.isOpen = true) ∧ ∀ bytes, (after.send id bytes).1 = (before.send id bytes).1

theorem Tidy.undisturbed (hr : r.Tidy) (hr' : r'.Tidy) (h : r'.uncounted = r.uncounted) :
    Undisturbed r r' := by
  have hslots : r'.slots = r.slots := by
    change r'.uncounted.slots = r.uncounted.slots
    rw [h]
  have hheld (id : Identifier) : r'.held id = r.held id := by
    simp only [Registry.held, hslots]
  refine ⟨h, hheld, fun k => ?_, ?_, ?_, fun id k hk => ⟨?_, fun bytes => ?_⟩⟩
  · rw [← line?_uncounted, h, line?_uncounted]
  · simp only [Registry.connected, hslots]
  · simp only [Registry.size, hslots]
  · exact hr'.held_iff.1 ((hheld id).trans hk)
  · rw [← hr'.send_uncounted, h, hr.send_uncounted]

/-! ## The calls -/

theorem Frames.withIdentifier {α : Type} {operation : Identifier → Except Failure α × Registry}
    (ho : ∀ id, r.Frames (operation id)) (text : String) :
    r.Frames (r.withIdentifier text operation) := by
  unfold Registry.withIdentifier
  split
  · exact fun _ _ => rfl
  · exact ho _

theorem Frames.reply {α : Type} {x : Except Failure α × Registry} {encode : α → Reply}
    (hx : r.Frames x) (hencode : ∀ a, (encode a).isFailure = false)
    (hf : (Registry.reply encode x).1.isFailure = true) :
    (Registry.reply encode x).2.uncounted = r.uncounted := by
  obtain ⟨f | a, r'⟩ := x
  · exact hx f rfl
  · exact absurd hf (by simp [Registry.reply, hencode])

theorem Tidy.status_uncounted (hr : r.Tidy) {text : String} (hs : (r.status text).1 ≠ Status.ready) :
    (r.status text).2.uncounted = r.uncounted := by
  unfold status at hs ⊢
  split
  · rfl
  · next id hid =>
    simp only [hid, probe] at hs ⊢
    have hsend := hr.send_frames id Escpos.statusInquiry
    generalize r.send id Escpos.statusInquiry = result at hsend hs ⊢
    obtain ⟨f | _, r'⟩ := result
    · cases f <;> exact hsend _ rfl
    · exact absurd rfl hs

theorem isFailure_adjust (r : Registry) (connector : Nat) (line : Option Nat) (s : Channel.Step) :
    (r.adjust connector line s).1.isFailure = false := by
  unfold adjust
  split
  · rfl
  · extract_lets i
    split <;> rfl

theorem Tidy.call_uncounted (hr : r.Tidy) (c : Call) (hf : (r.call c).1.isFailure = true) :
    (r.call c).2.uncounted = r.uncounted := by
  cases c with
  | connect text =>
    exact (Frames.withIdentifier (connect_frames hr.filled) text).reply (fun _ => rfl) hf
  | disconnect text =>
    exact (Frames.withIdentifier (disconnect_frames hr.filled) text).reply (fun _ => rfl) hf
  | print text job =>
    exact (Frames.withIdentifier (fun id => hr.send_frames id _) text).reply (fun _ => rfl) hf
  | status text => exact hr.status_uncounted (of_decide_eq_true hf)
  | send text bytes =>
    exact (Frames.withIdentifier (fun id => hr.send_frames id bytes) text).reply (fun _ => rfl) hf
  | isConnected text =>
    refine (Frames.withIdentifier (fun id => ?_) text).reply (fun _ => rfl) hf
    rintro _ ⟨⟩
  | failWrites connector line on | failClose connector line on =>
    exact absurd hf (by simp [Registry.call, isFailure_adjust])
  | shutdown | connected | closeAll | failOpening | failWriting => exact absurd hf Bool.false_ne_true

/-- A text that is no identifier makes a call fail before anything is done. -/
theorem call_of_invalid {c : Call} {text : String} {f : Failure} (hc : c.subject? = some text)
    (hf : Identifier.ofText text = .error f) : (r.call c).1.isFailure = true ∧ (r.call c).2 = r := by
  cases c <;> cases hc <;>
    simp [call, withIdentifier, status, hf, reply, Reply.isFailure, Status.offline, Status.ready]

/-- A failed call, whenever it is made, changes nothing but counts, and not even these if its
identifier is invalid. -/
theorem undisturbed_after (hr : r.IsNew) (cs : List Call) (c : Call)
    (hf : ((r.after cs).call c).1.isFailure = true) :
    Undisturbed (r.after cs) ((r.after cs).call c).2 ∧
      ∀ text f, c.subject? = some text → Identifier.ofText text = .error f →
        ((r.after cs).call c).2 = r.after cs := by
  have ht := hr.tidy.after cs
  exact ⟨ht.undisturbed (ht.call c) (ht.call_uncounted c hf), fun _ _ hc hf => (call_of_invalid hc hf).2⟩

/-- A printer cannot be reached a second time, and keeps the channel that it had. -/
theorem undisturbed_after_reconnecting :
    let r : Registry := { connectors := [⟨.bluetooth, .bluetooth, fun _ => none, none, 0, []⟩] }
    let cs : List Call := [.connect "a", .send "a" [1, 2], .failOpening 0 (some .notConnected)]
    r.IsNew ∧ ((r.after cs).call (.connect "a")).1.isFailure = true ∧
      Undisturbed (r.after cs) ((r.after cs).call (.connect "a")).2 ∧
      (r.after cs).held ⟨"a", rfl⟩ = some ⟨0, 0⟩ ∧
      ((r.after cs).call (.connect "")).2 = r.after cs := by
  intro r cs
  have hr : r.IsNew := ⟨rfl, by simp [r]⟩
  have hf : ((r.after cs).call (.connect "a")).1.isFailure = true := by decide +kernel
  have hf' : ((r.after cs).call (.connect "")).1.isFailure = true := by decide +kernel
  obtain ⟨hsame, -⟩ := undisturbed_after hr cs (.connect "a") hf
  exact ⟨hr, hf, hsame, by decide +kernel, (undisturbed_after hr cs _ hf').2 _ _ rfl rfl⟩

end Registry

end ThermalPrint
