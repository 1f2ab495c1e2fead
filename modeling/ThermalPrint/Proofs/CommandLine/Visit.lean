import ThermalPrint.CommandLine.Run
import ThermalPrint.Proofs.Registry.Independence

/-! The registry of a run. It has the connector of the network alone, and of the channels at most one
is ever opened: that of the printer which the run is about. -/

namespace ThermalPrint

open Transport

namespace Registry

/-- How often printers were to be reached. -/
def attempts (r : Registry) : Nat := r.connectors.foldr (·.attempts + ·) 0

/-- The channels that were opened. -/
def lines (r : Registry) : List Line := r.connectors.flatMap (·.lines)

/-- Every byte that printers took. -/
def sent (r : Registry) : Bytes := r.lines.flatMap (·.channel.log.sent)

end Registry

namespace Transport.Connector

variable {c : Connector} {i : Nat} {line : Line} {f : Failure} {bytes : Bytes}

theorem writeOn_of_failure (hf : c.writeFailure = some f) : c.writeOn i bytes = (.error f, c) := by
  simp only [writeOn, hf]

theorem writeOn_of_line (hf : c.writeFailure = none) (hline : c.lines[i]? = some line) :
    c.writeOn i bytes = ((line.channel.write bytes).1,
      c.updateChannel i fun _ => (line.channel.write bytes).2) := by
  simp only [writeOn, hf, hline]

end Transport.Connector

namespace CommandLine

open Registry Connector

variable {network : Network.Surroundings} {n : Settings.Network} {id : Identifier} {bytes : Bytes}
  {f : Failure}

/-- The slots of a run before anything is done. -/
def noSlots : Slots := ⟨[], List.nodup_nil⟩

/-- The registry of a run before anything is done. -/
def fresh (network : Network.Surroundings) (n : Settings.Network) : Registry where
  connectors := [network.connector n]
  slots := noSlots

/-- The registry of a run that did not reach a printer. -/
def tried (network : Network.Surroundings) (n : Settings.Network) (attempts : Nat) : Registry where
  connectors := [{ network.connector n with attempts }]
  slots := noSlots

/-- The connector of a run that reached a printer, with the channel to it. -/
def linked (network : Network.Surroundings) (n : Settings.Network) (id : Identifier) (ch : Channel) :
    Connector :=
  { network.connector n with attempts := 1, lines := [⟨id, ch⟩] }

/-- The registry of a run that reached a printer. -/
def reached (network : Network.Surroundings) (n : Settings.Network) (id : Identifier) (ch : Channel) :
    Registry where
  connectors := [linked network n id ch]
  slots := noSlots.put id (some ⟨0, 0⟩)

theorem filled_noSlots : noSlots.Filled := nofun

theorem connect_tried (h : network.openFailure n.port id = some f) :
    ∃ g attempts, (fresh network n).connect id = (.error g, tried network n attempts) := by
  have hslots : (noSlots.ensure id).prune id = noSlots := filled_noSlots.prune_ensure id
  let r : Registry := { connectors := [network.connector n], slots := noSlots.ensure id }
  cases hkind : Kind.ofIdentifier id with
  | bluetooth =>
    have hnone : r.openChannel id = (.error (unreached id "transport not available"), r) := by
      refine openChannel_unavailable ?_
      rw [hkind]
      rfl
    exact ⟨_, 0, (connect_eq_of_error hnone).trans (by rw [hslots]; rfl)⟩
  | network =>
    have hserves : r.connectorFor (.ofIdentifier id) = some 0 := by
      rw [hkind]
      rfl
    have hrefused := openChannel_refused hserves rfl h
    have hconnect := connect_eq_of_error (r := fresh network n) hrefused
    simp only [updateConnector, r, hslots] at hconnect
    exact ⟨_, 1, hconnect⟩

theorem connect_reached (h : network.openFailure n.port id = none) :
    (fresh network n).connect id = (.ok .network, reached network n id { kind := .network }) := by
  have hkind : Kind.ofIdentifier id = .network := by
    obtain ⟨ip, hip, -⟩ := Network.Surroundings.openFailure_eq_none_iff.1 h
    exact if_pos (Option.isSome_iff_exists.2 ⟨ip, hip⟩)
  let r : Registry := { connectors := [network.connector n], slots := noSlots.ensure id }
  have hserves : r.connectorFor (.ofIdentifier id) = some 0 := by
    rw [hkind]
    rfl
  have hopened := openChannel_opened_eq hserves rfl h
  -- Nothing was held before, so that there is nothing to close.
  have hheld : (r.updateConnector 0 ((network.connector n).opened id)).held id = none :=
    Slots.held_ensure
  have hclose : (r.updateConnector 0 ((network.connector n).opened id)).closeHeld id =
      r.updateConnector 0 ((network.connector n).opened id) := by
    rw [closeHeld, hheld]
  have hslots : (noSlots.ensure id).put id (some ⟨0, 0⟩) = noSlots.put id (some ⟨0, 0⟩) :=
    Slots.ext (if_pos rfl)
  refine (connect_eq_of_ok hopened).trans ?_
  rw [hclose, reached, linked, ← hslots]
  rfl

theorem send_tried (attempts : Nat) :
    (tried network n attempts).send id bytes = (.error .notConnected, tried network n attempts) :=
  rfl

/-- What is sent to a printer that was reached is written to its channel. -/
theorem send_reached (ch : Channel) : (reached network n id ch).send id bytes =
    (((linked network n id ch).writeOn 0 bytes).1.mapError asWriteFailure,
      (reached network n id ch).updateConnector 0 ((linked network n id ch).writeOn 0 bytes).2) := by
  have hfilled : (reached network n id ch).slots.Filled := .put fun k _ => filled_noSlots k
  have hheld : (reached network n id ch).held id = some ⟨0, 0⟩ := Slots.held_put.trans (if_pos rfl)
  exact send_of_held hfilled hheld rfl bytes

theorem send_refused (hw : network.writeFailure = some f) (ch : Channel) :
    (reached network n id ch).send id bytes = (.error (asWriteFailure f), reached network n id ch) := by
  rw [send_reached, writeOn_of_failure (c := linked network n id ch) hw]
  rfl

/-- The channel of a printer that took bytes. -/
def took (bytes : Bytes) : Channel := { kind := .network, log := { sent := bytes, writes := 1 } }

theorem send_taken (hw : network.writeFailure = none) :
    (reached network n id { kind := .network }).send id bytes =
      (.ok (), reached network n id (took bytes)) := by
  rw [send_reached, writeOn_of_line (c := linked network n id { kind := .network }) hw rfl]
  rfl

theorem lines_closeAll_reached (ch : Channel) :
    (reached network n id ch).closeAll.2.lines = [⟨id, ch.close.2⟩] := rfl

end CommandLine

end ThermalPrint
