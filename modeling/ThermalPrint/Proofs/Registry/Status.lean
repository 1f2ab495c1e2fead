import ThermalPrint.Proofs.Registry.Frame

/-! The status of a printer tells the truth about the registry. It is offline exactly if no channel is
held for the printer, and then nothing is done; otherwise the inquiry is written once on that channel,
and the status tells how this went. -/

namespace ThermalPrint.Registry

open Transport

variable {r : Registry} {text : String} {id : Identifier} {h : Handle} {c : Connector}

/-- The text is an identifier for which a channel is held. -/
def HoldsFor (r : Registry) (text : String) : Prop :=
  ∃ id h, Identifier.ofText text = .ok id ∧ r.held id = some h

/-- The status that the result of an inquiry leads to. -/
def toldBy : Except Failure Unit → Status
  | .ok () => .ready
  | .error _ => .writeError

theorem connected_toldBy (x : Except Failure Unit) : (toldBy x).connected = true := by
  cases x <;> rfl

theorem state_toldBy_ne_offline (x : Except Failure Unit) : (toldBy x).state ≠ .offline := by
  cases x <;> nofun

theorem state_toldBy_eq_ready_iff (x : Except Failure Unit) : (toldBy x).state = .ready ↔ x = .ok () := by
  cases x with
  | ok => exact iff_of_true rfl rfl
  | error f => exact ⟨nofun, nofun⟩

theorem state_toldBy_eq_error_iff (x : Except Failure Unit) :
    (toldBy x).state = .error ↔ ∃ f, x = .error f := by
  cases x with
  | ok => exact ⟨nofun, nofun⟩
  | error f => exact iff_of_true rfl ⟨f, rfl⟩

/-- A status that was asked for over a channel of a connector: the inquiry is written on it once, and
nothing else is done. -/
structure Inquires (r : Registry) (text : String) (id : Identifier) (h : Handle) (c : Connector) :
    Prop where
  connector : r.connectors[h.connector]? = some c
  /-- The channel can be written on, and is that of the printer. -/
  line : ∃ l, c.lines[h.line]? = some l ∧ l.owner = id ∧ l.isOpen = true
  told : (r.status text).1 = toldBy (c.writeOn h.line [0x10, 0x04, 0x01]).1
  /-- The registry afterwards: only the write has changed it. -/
  after : (r.status text).2 =
    r.updateConnector h.connector (c.writeOn h.line [0x10, 0x04, 0x01]).2
  kept : (r.status text).2.held id = some h

/-- What a status tells, and what it does. -/
structure TellsTruth (r : Registry) (text : String) : Prop where
  connected_iff : (r.status text).1.connected = true ↔ r.HoldsFor text
  connected_iff_after : (r.status text).1.connected = true ↔ (r.status text).2.HoldsFor text
  offline_iff : (r.status text).1.state = .offline ↔ ¬ r.HoldsFor text
  quiet : ¬ r.HoldsFor text → (r.status text).2 = r
  inquires : ∀ id h, Identifier.ofText text = .ok id → r.held id = some h →
    ∃ c, r.Inquires text id h c ∧
      ((r.status text).1.state = .ready ↔ (c.writeOn h.line [0x10, 0x04, 0x01]).1 = .ok ()) ∧
      ((r.status text).1.state = .error ↔
        ∃ f, (c.writeOn h.line [0x10, 0x04, 0x01]).1 = .error f)

theorem status_of_not_holdsFor (hr : r.slots.Filled) (hnot : ¬ r.HoldsFor text) :
    r.status text = (.offline, r) := by
  unfold status
  cases hid : Identifier.ofText text with
  | error f => rfl
  | ok id =>
    have hh : r.held id = none := by
      rw [Option.eq_none_iff_forall_ne_some]
      exact fun h hh => hnot ⟨id, h, hid, hh⟩
    simp only [probe, send_of_not_held hr hh]

/-- No failure to write is taken for a missing connection. -/
theorem status_of_held (hr : r.slots.Filled) (hid : Identifier.ofText text = .ok id)
    (hh : r.held id = some h) (hc : r.connectors[h.connector]? = some c) :
    r.status text = (toldBy (c.writeOn h.line [0x10, 0x04, 0x01]).1,
      r.updateConnector h.connector (c.writeOn h.line [0x10, 0x04, 0x01]).2) := by
  simp only [status, hid, probe, send_of_held hr hh hc, Escpos.statusInquiry_eq]
  cases (c.writeOn h.line [0x10, 0x04, 0x01]).1 with
  | ok => rfl
  | error f => cases f <;> rfl

theorem Tidy.inquires (hr : r.Tidy) (hid : Identifier.ofText text = .ok id) (hh : r.held id = some h) :
    ∃ c, r.Inquires text id h c := by
  obtain ⟨c, hc⟩ := hr.connector_of_held hh
  obtain ⟨l, hl, howner, hopen⟩ := hr.held_iff.1 hh
  have hstatus := status_of_held hr.filled hid hh hc
  rw [line?_of_connector hc] at hl
  refine ⟨c, hc, ⟨l, hl, howner, hopen⟩, ?_, ?_, ?_⟩
  · rw [hstatus]
  · rw [hstatus]
  · rw [hstatus]
    exact hh

theorem Tidy.tellsTruth (hr : r.Tidy) (text : String) : r.TellsTruth text := by
  by_cases hholds : r.HoldsFor text
  · have hasks := hholds
    obtain ⟨id, h, hid, hh⟩ := hasks
    obtain ⟨c, hc⟩ := hr.inquires hid hh
    have hconnected : (r.status text).1.connected = true := by rw [hc.told, connected_toldBy]
    have hoffline : (r.status text).1.state ≠ .offline := by
      rw [hc.told]
      exact state_toldBy_ne_offline _
    refine ⟨iff_of_true hconnected hholds, iff_of_true hconnected ⟨id, h, hid, hc.kept⟩,
      iff_of_false hoffline (not_not_intro hholds), fun hnot => absurd hholds hnot, ?_⟩
    intro id' h' hid' hh'
    obtain ⟨c', hc'⟩ := hr.inquires hid' hh'
    exact ⟨c', hc', hc'.told ▸ state_toldBy_eq_ready_iff _, hc'.told ▸ state_toldBy_eq_error_iff _⟩
  · have hstatus := status_of_not_holdsFor hr.filled hholds
    have hconnected : (r.status text).1.connected ≠ true := by
      rw [hstatus]
      exact Bool.false_ne_true
    have hsame : (r.status text).2 = r := by rw [hstatus]
    refine ⟨iff_of_false hconnected hholds, iff_of_false hconnected (hsame.symm ▸ hholds),
      iff_of_true (by rw [hstatus]; rfl) hholds, fun _ => hsame, ?_⟩
    exact fun id h hid hh => absurd ⟨id, h, hid, hh⟩ hholds

/-- Whenever a status is asked for, it tells the truth. -/
theorem status_tells_after (hr : r.IsNew) (cs : List Call) (text : String) :
    (r.after cs).TellsTruth text :=
  (hr.tidy.after cs).tellsTruth text

/-- The inquiry fails because the printer is not connected any more; the status is an error, for the
channel is still held. -/
theorem status_tells_after_losing :
    let r : Registry := { connectors := [⟨.bluetooth, .bluetooth, fun _ => none, none, 0, []⟩] }
    let cs : List Call := [.connect "p", .failWriting 0 (some .notConnected)]
    r.IsNew ∧ (r.after cs).TellsTruth "p" ∧ ((r.after cs).status "p").1 = Status.writeError ∧
      (r.after cs).HoldsFor "p" := by
  intro r cs
  have hr : r.IsNew := ⟨rfl, by simp [r]⟩
  have htells := status_tells_after hr cs "p"
  have hstatus : ((r.after cs).status "p").1 = Status.writeError := by decide +kernel
  refine ⟨hr, htells, hstatus, htells.connected_iff.1 ?_⟩
  rw [hstatus]
  rfl

end ThermalPrint.Registry
