import ThermalPrint.Proofs.Registry.Frame

/-! Calls on different printers do not meet. What a call does is told by the channels of its own
printer, and leaves those of all others alone, although the connectors and the slots are shared. So of
two such calls either may come first. -/

namespace ThermalPrint

open Transport

namespace Transport

/-- Does something to the channel of a line if it is the open one of a printer. -/
def Line.onOpen (id : Identifier) (f : Channel → Channel) (l : Line) : Line :=
  if l.owner = id ∧ l.isOpen = true then { l with channel := f l.channel } else l

theorem Line.owner_onOpen (id : Identifier) (f : Channel → Channel) (l : Line) :
    (l.onOpen id f).owner = l.owner := by
  unfold onOpen
  split <;> rfl

theorem Line.onOpen_of_ne {id : Identifier} {l : Line} (hne : l.owner ≠ id)
    (f : Channel → Channel) : l.onOpen id f = l := if_neg fun h => hne h.1

namespace Connector

/-- The part of a connector that belongs to some printers: their channels, uncounted attempts. -/
def part (p : Identifier → Bool) (c : Connector) : Connector :=
  { c with attempts := 0, lines := c.lines.filter fun l => p l.owner }

def onOpen (id : Identifier) (f : Channel → Channel) (c : Connector) : Connector :=
  { c with lines := c.lines.map (Line.onOpen id f) }

/-- A connector that was asked once more. -/
def asked (c : Connector) : Connector := { c with attempts := c.attempts + 1 }

/-- A connector that has opened a channel. -/
def opened (id : Identifier) (c : Connector) : Connector :=
  { c.asked with lines := c.lines ++ [⟨id, { kind := c.reports }⟩] }

variable {p : Identifier → Bool} {id : Identifier}

theorem part_onOpen (f : Channel → Channel) (c : Connector) :
    (c.onOpen id f).part p = (c.part p).onOpen id f := by
  have howner : (fun l : Line => p l.owner) ∘ Line.onOpen id f = fun l => p l.owner :=
    funext fun l => congrArg p (l.owner_onOpen id f)
  simp only [part, onOpen, List.filter_map, howner]

theorem onOpen_of_forall {f : Channel → Channel} {c : Connector}
    (h : ∀ l ∈ c.lines, l.onOpen id f = l) : c.onOpen id f = c := by
  simp only [onOpen, List.map_congr_left h, List.map_id']

theorem part_onOpen_of_not (hp : p id = false) (f : Channel → Channel) (c : Connector) :
    (c.onOpen id f).part p = c.part p := by
  rw [part_onOpen]
  refine onOpen_of_forall fun l hl => Line.onOpen_of_ne ?_ f
  rintro rfl
  simpa [hp] using (List.mem_filter.1 hl).2

theorem part_asked (c : Connector) : c.asked.part p = c.part p := rfl

theorem part_opened (c : Connector) : (c.opened id).part p = ((c.part p).opened id).part p := by
  simp only [part, opened, asked, List.filter_append, List.filter_filter, Bool.and_self]

theorem part_opened_of_not (hp : p id = false) (c : Connector) :
    (c.opened id).part p = c.part p := by
  simp [part, opened, asked, hp]

end Connector

end Transport

namespace Registry

/-- What a call on a printer does to the connectors. -/
inductive Deed
  | nothing
  | onOpen (f : Channel → Channel)
  /-- A connector is asked for a channel in vain. -/
  | asked (i : Nat)
  /-- A connector opens a channel, and the one that was open is closed. -/
  | opened (i : Nat)

namespace Deed

variable {p : Identifier → Bool} {id : Identifier} {cs ds : List Connector}

def apply (id : Identifier) (cs : List Connector) : Deed → List Connector
  | .nothing => cs
  | .onOpen f => cs.map (Connector.onOpen id f)
  | .asked i => cs.modify i Connector.asked
  | .opened i => (cs.map (Connector.onOpen id fun ch => ch.close.2)).modify i (Connector.opened id)

/-- What a deed adds to the counts of attempts. -/
def count (ns : List Nat) : Deed → List Nat
  | .nothing | .onOpen _ => ns
  | .asked i | .opened i => ns.modify i (· + 1)

theorem map_modify {α β : Type} {φ : α → β} {f : α → α} {g : β → β} (h : ∀ a, φ (f a) = g (φ a))
    (as : List α) (i : Nat) : (as.modify i f).map φ = (as.map φ).modify i g := by
  refine List.ext_getElem? fun j => ?_
  simp only [List.getElem?_map, List.getElem?_modify]
  cases as[j]? with
  | none => rfl
  | some a => by_cases hi : i = j <;> simp [hi, h]

theorem map_modify_of_eq {α β : Type} {φ : α → β} {f : α → α} (h : ∀ a, φ (f a) = φ a)
    (as : List α) (i : Nat) : (as.modify i f).map φ = as.map φ :=
  (map_modify h as i).trans (List.modify_id i _)

/-- Nothing changes for other printers. -/
theorem part_apply_of_not (hp : p id = false) (d : Deed) (cs : List Connector) :
    (d.apply id cs).map (Connector.part p) = cs.map (Connector.part p) := by
  have honOpen (f : Channel → Channel) :
      (cs.map (Connector.onOpen id f)).map (Connector.part p) = cs.map (Connector.part p) := by
    rw [List.map_map]
    exact List.map_congr_left fun c _ => c.part_onOpen_of_not hp f
  cases d with
  | nothing => rfl
  | onOpen f => exact honOpen f
  | asked i => exact map_modify_of_eq Connector.part_asked cs i
  | opened i => exact (map_modify_of_eq (Connector.part_opened_of_not hp) _ i).trans (honOpen _)

/-- What a printer's channels become depends on them alone. -/
theorem part_apply_congr (h : cs.map (Connector.part p) = ds.map (Connector.part p)) (d : Deed) :
    (d.apply id cs).map (Connector.part p) = (d.apply id ds).map (Connector.part p) := by
  have honOpen (f : Channel → Channel) (cs : List Connector) :
      (cs.map (Connector.onOpen id f)).map (Connector.part p) =
        (cs.map (Connector.part p)).map (Connector.onOpen id f) := by
    rw [List.map_map, List.map_map]
    exact List.map_congr_left fun c _ => c.part_onOpen f
  cases d with
  | nothing => exact h
  | onOpen f => rw [apply, apply, honOpen, honOpen, h]
  | asked i =>
    rw [apply, apply, map_modify_of_eq Connector.part_asked, map_modify_of_eq Connector.part_asked, h]
  | opened i =>
    have hopened (cs : List Connector) : (cs.modify i (Connector.opened id)).map (Connector.part p) =
        (cs.map (Connector.part p)).modify i fun c => (c.opened id).part p :=
      map_modify Connector.part_opened cs i
    rw [apply, apply, hopened, hopened, honOpen, honOpen, h]

theorem attempts_apply (d : Deed) (cs : List Connector) :
    (d.apply id cs).map (·.attempts) = d.count (cs.map (·.attempts)) := by
  cases d with
  | nothing => rfl
  | onOpen f => exact List.map_map
  | asked i => exact map_modify (g := (· + 1)) (fun _ => rfl) cs i
  | opened i =>
    rw [apply, map_modify (g := (· + 1)) fun _ => rfl, List.map_map]
    rfl

theorem count_comm (d e : Deed) (ns : List Nat) : e.count (d.count ns) = d.count (e.count ns) := by
  have hmodify (i j : Nat) :
      (ns.modify i (· + 1)).modify j (· + 1) = (ns.modify j (· + 1)).modify i (· + 1) := by
    by_cases h : i = j
    · rw [h]
    · exact List.modify_modify_ne _ _ _ h
  cases d <;> cases e <;> first | rfl | exact hmodify _ _

/-- A channel of another printer stays in its place, as it is. -/
theorem lines_apply (d : Deed) {i j : Nat} {c : Connector} {l : Line} (hc : cs[i]? = some c)
    (hl : c.lines[j]? = some l) (hne : l.owner ≠ id) :
    ∃ c', (d.apply id cs)[i]? = some c' ∧ c'.lines[j]? = some l := by
  have honOpen (f : Channel → Channel) : (c.onOpen id f).lines[j]? = some l := by
    rw [Connector.onOpen, List.getElem?_map, hl]
    exact congrArg some (Line.onOpen_of_ne hne f)
  have hopened {c : Connector} (hl : c.lines[j]? = some l) : (c.opened id).lines[j]? = some l :=
    List.getElem?_append_left (List.getElem?_eq_some_iff.1 hl).1 ▸ hl
  cases d with
  | nothing => exact ⟨c, hc, hl⟩
  | onOpen f => exact ⟨c.onOpen id f, by simp [apply, hc], honOpen f⟩
  | asked k =>
    rw [apply, List.getElem?_modify, hc]
    refine ⟨_, rfl, ?_⟩
    split
    · exact hl
    · exact hl
  | opened k =>
    rw [apply, List.getElem?_modify, List.getElem?_map, hc]
    refine ⟨_, rfl, ?_⟩
    dsimp only
    split
    · exact hopened (honOpen _)
    · exact honOpen _

end Deed

/-- The channels of some printers, connector by connector. -/
def part (p : Identifier → Bool) (r : Registry) : List Connector := r.connectors.map (Connector.part p)

/-- A channel that is held, where it is found. -/
structure Holds (r : Registry) (id : Identifier) (h : Handle) (c : Connector) (l : Line) : Prop where
  held : r.held id = some h
  connector : r.connectors[h.connector]? = some c
  line : c.lines[h.line]? = some l
  owner : l.owner = id
  isOpen : l.isOpen = true

variable {r s : Registry} {p : Identifier → Bool} {id : Identifier} {h : Handle} {c : Connector}
  {l : Line}

theorem Tidy.exists_holds (hr : r.Tidy) (hh : r.held id = some h) : ∃ c l, r.Holds id h c l := by
  obtain ⟨l, hl, ho, hopen⟩ := hr.held_iff.1 hh
  obtain ⟨c, hc, hl⟩ := Option.bind_eq_some_iff.1 hl
  exact ⟨c, l, hh, hc, hl, ho, hopen⟩

/-- In registries with the same part there are the same connectors but for the other channels. -/
theorem connector_of_part (hpart : r.part p = s.part p) {i : Nat} (hc : r.connectors[i]? = some c) :
    ∃ c', s.connectors[i]? = some c' ∧ c'.part p = c.part p := by
  have hi : (r.part p)[i]? = some (c.part p) := by
    rw [part, List.getElem?_map, hc]
    rfl
  rw [hpart, part, List.getElem?_map] at hi
  exact Option.map_eq_some_iff.1 hi

theorem connectorFor_of_part (hpart : r.part p = s.part p) (kind : Kind) :
    r.connectorFor kind = s.connectorFor kind := by
  have hkinds (r : Registry) : r.connectorFor kind =
      ((r.part p).zipIdx.filter (·.1.kind = kind)).getLast?.map (·.2) := by
    simp only [connectorFor, part, List.zipIdx_map, List.filter_map, List.getLast?_map, Option.map_map]
    rfl
  rw [hkinds, hkinds, hpart]

/-- A channel that is held is held in every registry with the same part. -/
theorem Holds.of_part (H : r.Holds id h c l) (hs : s.Tidy) (hp : p id = true)
    (hpart : r.part p = s.part p) :
    ∃ j c', s.Holds id ⟨h.connector, j⟩ c' l ∧ c'.part p = c.part p := by
  obtain ⟨c', hc', hsame⟩ := connector_of_part hpart H.connector
  have hmem : l ∈ (c.part p).lines :=
    List.mem_filter.2 ⟨List.mem_of_getElem? H.line, by rw [H.owner]; exact hp⟩
  rw [← hsame] at hmem
  obtain ⟨j, hj⟩ := List.mem_iff_getElem?.1 (List.mem_filter.1 hmem).1
  have hline : s.line? ⟨h.connector, j⟩ = some l := (line?_of_connector (h := ⟨_, j⟩) hc').trans hj
  exact ⟨j, c', ⟨hs.held_iff.2 ⟨l, hline, H.owner, H.isOpen⟩, hc', hj, H.owner, H.isOpen⟩, hsame⟩

theorem held_none_of_part (hr : r.Tidy) (hs : s.Tidy) (hp : p id = true)
    (hpart : r.part p = s.part p) (hh : r.held id = none) : s.held id = none := by
  refine Option.eq_none_iff_forall_ne_some.2 fun h hh' => ?_
  obtain ⟨c, l, H⟩ := hs.exists_holds hh'
  obtain ⟨j, c', H', -⟩ := H.of_part hr hp hpart.symm
  exact nomatch hh.symm.trans H'.held

theorem isSome_held_of_part (hr : r.Tidy) (hs : s.Tidy) (hp : p id = true)
    (hpart : r.part p = s.part p) : (r.held id).isSome = (s.held id).isSome := by
  cases hh : r.held id with
  | none => rw [held_none_of_part hr hs hp hpart hh]
  | some h =>
    obtain ⟨c, l, H⟩ := hr.exists_holds hh
    obtain ⟨j, c', H', -⟩ := H.of_part hs hp hpart
    rw [H'.held]
    rfl

/-! ## Reaching the channel that is held -/

/-- The only open channel of a printer is the one that is held for it. -/
theorem Tidy.onOpen_of_held (hr : r.Tidy) (hh : r.held id = some h) {i : Nat}
    (hc : r.connectors[i]? = some c) (f : Channel → Channel) :
    c.onOpen id f = if h.connector = i then c.updateChannel h.line f else c := by
  have hline (j : Nat) (l : Line) (hl : c.lines[j]? = some l) :
      l.onOpen id f = if h = ⟨i, j⟩ then { l with channel := f l.channel } else l := by
    have hl' : r.line? ⟨i, j⟩ = some l := (line?_of_connector hc).trans hl
    have hiff : (l.owner = id ∧ l.isOpen = true) ↔ h = ⟨i, j⟩ := by
      have hheld : r.held id = some ⟨i, j⟩ ↔ ∃ l, r.line? ⟨i, j⟩ = some l ∧ l.owner = id ∧ l.isOpen = true :=
        hr.held_iff
      simpa only [hh, hl', Option.some.injEq, exists_eq_left', eq_comm] using hheld.symm
    simp only [Line.onOpen, hiff]
  split
  · next hi =>
    simp only [Connector.onOpen, Connector.updateChannel, Connector.mk.injEq, true_and]
    refine List.ext_getElem? fun j => ?_
    rw [List.getElem?_map, List.getElem?_modify]
    cases hl : c.lines[j]? with
    | none => rfl
    | some l =>
      have hj : h = ⟨i, j⟩ ↔ h.line = j := by
        obtain ⟨_, _⟩ := h
        simp_all
      simp only [Option.map_some, Option.map_eq_map, hline j l hl, hj]
  · next hi =>
    refine Connector.onOpen_of_forall fun l hl => ?_
    obtain ⟨j, hj⟩ := List.mem_iff_getElem?.1 hl
    rw [hline j l hj, if_neg fun e => hi (congrArg Handle.connector e)]

theorem Tidy.onOpen_of_not_held (hr : r.Tidy) (hh : r.held id = none) {i : Nat}
    (hc : r.connectors[i]? = some c) (f : Channel → Channel) : c.onOpen id f = c := by
  refine Connector.onOpen_of_forall fun l hl => if_neg fun ⟨ho, hopen⟩ => ?_
  obtain ⟨j, hj⟩ := List.mem_iff_getElem?.1 hl
  have hheld := hr.held_iff.2 ⟨l, (line?_of_connector (h := ⟨i, j⟩) hc).trans hj, ho, hopen⟩
  exact nomatch hh.symm.trans hheld

theorem Holds.connectors_updateChannel (H : r.Holds id h c l) (hr : r.Tidy) (f : Channel → Channel) :
    (r.updateConnector h.connector (c.updateChannel h.line f)).connectors =
      (Deed.onOpen f).apply id r.connectors := by
  refine List.ext_getElem? fun i => ?_
  change (r.connectors.set h.connector _)[i]? = (r.connectors.map _)[i]?
  rw [List.getElem?_set, List.getElem?_map]
  split
  · next hi =>
    subst hi
    rw [if_pos (List.getElem?_eq_some_iff.1 H.connector).1, H.connector, Option.map_some,
      hr.onOpen_of_held H.held H.connector, if_pos rfl]
  · next hi =>
    cases hc : r.connectors[i]? with
    | none => rfl
    | some c' => rw [Option.map_some, hr.onOpen_of_held H.held hc, if_neg hi]

/-! ## The operations on two registries with the same part -/

/-- Results that are equal, and registries that one deed led to. -/
def Together (id : Identifier) (r s : Registry) {α : Type} (x y : α × Registry) : Prop :=
  x.1 = y.1 ∧ ∃ d : Deed, x.2.connectors = d.apply id r.connectors ∧
    y.2.connectors = d.apply id s.connectors

theorem Together.idle {α : Type} (a : α) : Together id r s (a, r) (a, s) := ⟨rfl, .nothing, rfl, rfl⟩

/-- Sending on a channel depends on the channel and on whether its connector is switched to fail. -/
theorem Holds.send_eq (H : r.Holds id h c l) (hr : r.Tidy) (bytes : Bytes) :
    (r.send id bytes).1 = (match c.writeFailure with
      | some f => Except.error f
      | none => (l.channel.write bytes).1).mapError asWriteFailure ∧
    (r.send id bytes).2.connectors = (match c.writeFailure with
      | some _ => Deed.nothing
      | none => .onOpen fun _ => (l.channel.write bytes).2).apply id r.connectors := by
  rw [send_of_held hr.filled H.held H.connector]
  unfold Connector.writeOn
  rw [H.line]
  cases c.writeFailure with
  | some f =>
    refine ⟨rfl, ?_⟩
    obtain ⟨hi, hc⟩ := List.getElem?_eq_some_iff.1 H.connector
    change r.connectors.set h.connector c = r.connectors
    rw [← hc, List.set_getElem_self]
  | none => exact ⟨rfl, H.connectors_updateChannel hr fun _ => (l.channel.write bytes).2⟩

theorem send_together (hr : r.Tidy) (hs : s.Tidy) (hp : p id = true) (hpart : r.part p = s.part p)
    (bytes : Bytes) : Together id r s (r.send id bytes) (s.send id bytes) := by
  cases hh : r.held id with
  | none =>
    rw [send_of_not_held hr.filled hh,
      send_of_not_held hs.filled (held_none_of_part hr hs hp hpart hh)]
    exact .idle _
  | some h =>
    obtain ⟨c, l, H⟩ := hr.exists_holds hh
    obtain ⟨j, c', H', hsame⟩ := H.of_part hs hp hpart
    have hfailure : c'.writeFailure = c.writeFailure := by
      change (c'.part p).writeFailure = (c.part p).writeFailure
      rw [hsame]
    obtain ⟨hresult, hdeed⟩ := H.send_eq hr bytes
    obtain ⟨hresult', hdeed'⟩ := H'.send_eq hs bytes
    rw [hfailure] at hresult' hdeed'
    exact ⟨hresult.trans hresult'.symm, _, hdeed, hdeed'⟩

theorem Holds.disconnect_eq (H : r.Holds id h c l) (hr : r.Tidy) :
    (r.disconnect id).1 = .ok () ∧ (r.disconnect id).2.connectors =
      (Deed.onOpen fun ch => ch.close.2).apply id r.connectors := by
  unfold disconnect
  rw [hr.filled.get?_eq, show r.slots.held id = some h from H.held]
  refine ⟨rfl, ?_⟩
  rw [← H.connectors_updateChannel hr]
  simp only [closeHandle, Option.map_some, H.connector]
  rfl

theorem disconnect_of_not_held (hr : r.Tidy) (hh : r.held id = none) :
    r.disconnect id = (.error .notConnected, r) := by
  unfold disconnect
  rw [hr.filled.get?_eq, show r.slots.held id = none from hh]
  rfl

theorem disconnect_together (hr : r.Tidy) (hs : s.Tidy) (hp : p id = true)
    (hpart : r.part p = s.part p) : Together id r s (r.disconnect id) (s.disconnect id) := by
  cases hh : r.held id with
  | none =>
    rw [disconnect_of_not_held hr hh,
      disconnect_of_not_held hs (held_none_of_part hr hs hp hpart hh)]
    exact .idle _
  | some h =>
    obtain ⟨c, l, H⟩ := hr.exists_holds hh
    obtain ⟨j, c', H', -⟩ := H.of_part hs hp hpart
    obtain ⟨hresult, hdeed⟩ := H.disconnect_eq hr
    obtain ⟨hresult', hdeed'⟩ := H'.disconnect_eq hs
    exact ⟨hresult.trans hresult'.symm, _, hdeed, hdeed'⟩

theorem isConnected_together (hr : r.Tidy) (hs : s.Tidy) (hp : p id = true)
    (hpart : r.part p = s.part p) : Together id r s (r.isConnected id) (s.isConnected id) := by
  rw [isConnected_eq hr.filled, isConnected_eq hs.filled]
  rw [isSome_held_of_part hr hs hp hpart]
  exact .idle _

/-! ## Connecting -/

/-- How it is reported that the one way of reaching a printer failed. -/
def unreached (id : Identifier) (why : String) : Failure :=
  .connectionFailed s!"{id.text}: {(Kind.ofIdentifier id).name}: {why}"

/-- How the refusal of a connector is reported. -/
def refusal (id : Identifier) : Failure → Failure
  | .permissionDenied reason => .permissionDenied reason
  | f => unreached id f.message

theorem openChannel_unavailable
    (h : ((r.connectorFor (.ofIdentifier id)).bind fun i => r.connectors[i]?) = none) :
    r.openChannel id = (.error (unreached id "transport not available"), r) := by
  unfold openChannel
  extract_lets kind failed
  split
  · rfl
  · next i hi =>
    rw [show r.connectorFor (.ofIdentifier id) = some i from hi, Option.bind_some] at h
    rw [h]
    rfl

theorem openChannel_refused {i : Nat} {f : Failure} (hi : r.connectorFor (.ofIdentifier id) = some i)
    (hc : r.connectors[i]? = some c) (hf : c.openFailure id = some f) :
    r.openChannel id = (.error (refusal id f), r.updateConnector i c.asked) := by
  simp only [openChannel, hi, hc, Connector.connect, hf]
  cases f <;> rfl

theorem openChannel_opened_eq {i : Nat} (hi : r.connectorFor (.ofIdentifier id) = some i)
    (hc : r.connectors[i]? = some c) (hf : c.openFailure id = none) :
    r.openChannel id = (.ok (⟨i, c.lines.length⟩, c.reports), r.updateConnector i (c.opened id)) := by
  simp only [openChannel, hi, hc, Connector.connect, hf]
  rfl

theorem getElem?_updateConnector {i : Nat} {f : Connector → Connector}
    (hc : r.connectors[i]? = some c) (a : Nat) :
    (r.updateConnector i (f c)).connectors[a]? =
      r.connectors[a]?.map fun c' => if i = a then f c' else c' := by
  change (r.connectors.set i _)[a]? = _
  rw [List.getElem?_set]
  split
  · next ha =>
    subst ha
    rw [if_pos (List.getElem?_eq_some_iff.1 hc).1, hc]
    rfl
  · rw [Option.map_id']

theorem closeChannel_opened {j : Nat} (hj : j < c.lines.length) :
    (c.opened id).closeChannel j = (c.closeChannel j).opened id := by
  simp only [Connector.closeChannel, Connector.updateChannel, Connector.opened, Connector.asked,
    Connector.mk.injEq, true_and]
  refine List.ext_getElem? fun k => ?_
  rw [List.getElem?_modify]
  by_cases hk : k < c.lines.length
  · have hk' : k < (c.lines.modify j fun l => { l with channel := l.channel.close.2 }).length := by
      rw [List.length_modify]
      exact hk
    rw [List.getElem?_append_left hk, List.getElem?_append_left hk', List.getElem?_modify]
  · have hne : j ≠ k := by omega
    rw [List.getElem?_append_right (by omega), List.getElem?_append_right (by simpa using hk),
      List.length_modify]
    simp only [if_neg hne, Option.map_eq_map, Option.map_id']

theorem connectors_closeHeld (r : Registry) (id : Identifier) :
    (r.closeHeld id).connectors = (r.held id).elim r.connectors (closeLine r.connectors) := by
  unfold closeHeld
  cases r.held id with
  | none => rfl
  | some h => exact connectors_closeHandle h

/-- The opening of a channel and the closing of the one before it are one deed. -/
theorem Tidy.connectors_opened (hr : r.Tidy) {slots : Slots} (hslots : slots.held id = r.held id)
    {i : Nat} (hc : r.connectors[i]? = some c) :
    ((updateConnector { r with slots } i (c.opened id)).closeHeld id).connectors =
      (Deed.opened i).apply id r.connectors := by
  have hset := getElem?_updateConnector (f := Connector.opened id) hc
  rw [connectors_closeHeld, held_updateConnector, held_withSlots, hslots]
  change (r.held id).elim (r.updateConnector i (c.opened id)).connectors
    (closeLine (r.updateConnector i (c.opened id)).connectors) = _
  refine List.ext_getElem? fun a => ?_
  simp only [Deed.apply, List.getElem?_modify, List.getElem?_map]
  cases hh : r.held id with
  | none =>
    simp only [Option.elim_none, hset]
    cases hc' : r.connectors[a]? with
    | none => rfl
    | some c' => simp only [Option.map_some, Option.map_eq_map, hr.onOpen_of_not_held hh hc']
  | some h =>
    simp only [Option.elim_some, closeLine, List.getElem?_modify, hset]
    cases hc' : r.connectors[a]? with
    | none => rfl
    | some c' =>
      have hline : h.connector = a → h.line < c'.lines.length := by
        rintro rfl
        obtain ⟨c₀, l, H⟩ := hr.exists_holds hh
        cases hc'.symm.trans H.connector
        exact (List.getElem?_eq_some_iff.1 H.line).1
      simp only [Option.map_some, Option.map_eq_map, hr.onOpen_of_held hh hc']
      by_cases hi : i = a <;> by_cases ha : h.connector = a
      · simp only [if_pos hi, if_pos ha, closeChannel_opened (hline ha)]
        rfl
      · simp only [if_neg ha]
      · simp only [if_neg hi, if_pos ha]
        rfl
      · simp only [if_neg ha]

theorem connect_eq_of_error {r' : Registry} {f : Failure}
    (h : ({ r with slots := r.slots.ensure id } : Registry).openChannel id = (.error f, r')) :
    r.connect id = (.error f, { r' with slots := r'.slots.prune id }) := by
  simp only [connect, h]

theorem connect_eq_of_ok {r' : Registry} {k : Handle} {kind : Kind}
    (h : ({ r with slots := r.slots.ensure id } : Registry).openChannel id = (.ok (k, kind), r')) :
    r.connect id =
      (.ok kind, { r'.closeHeld id with slots := (r'.closeHeld id).slots.put id (some k) }) := by
  simp only [connect, h]

theorem connect_unavailable
    (h : ((r.connectorFor (.ofIdentifier id)).bind fun i => r.connectors[i]?) = none) :
    (r.connect id).1 = .error (unreached id "transport not available") ∧
      (r.connect id).2.connectors = Deed.nothing.apply id r.connectors := by
  rw [connect_eq_of_error (openChannel_unavailable (r := { r with slots := r.slots.ensure id }) h)]
  exact ⟨rfl, rfl⟩

theorem connect_refused {i : Nat} {f : Failure} (hi : r.connectorFor (.ofIdentifier id) = some i)
    (hc : r.connectors[i]? = some c) (hf : c.openFailure id = some f) :
    (r.connect id).1 = .error (refusal id f) ∧
      (r.connect id).2.connectors = (Deed.asked i).apply id r.connectors := by
  rw [connect_eq_of_error (openChannel_refused (r := { r with slots := r.slots.ensure id }) hi hc hf)]
  refine ⟨rfl, List.ext_getElem? fun a => ?_⟩
  exact (getElem?_updateConnector hc a).trans (List.getElem?_modify _ _ _ _).symm

theorem Tidy.connect_opened (hr : r.Tidy) {i : Nat}
    (hi : r.connectorFor (.ofIdentifier id) = some i) (hc : r.connectors[i]? = some c)
    (hf : c.openFailure id = none) :
    (r.connect id).1 = .ok c.reports ∧
      (r.connect id).2.connectors = (Deed.opened i).apply id r.connectors := by
  rw [connect_eq_of_ok (openChannel_opened_eq (r := { r with slots := r.slots.ensure id }) hi hc hf)]
  exact ⟨rfl, hr.connectors_opened Slots.held_ensure hc⟩

theorem connect_together (hr : r.Tidy) (hs : s.Tidy) (hpart : r.part p = s.part p) :
    Together id r s (r.connect id) (s.connect id) := by
  have hfor := connectorFor_of_part hpart (.ofIdentifier id)
  cases htarget : (r.connectorFor (.ofIdentifier id)).bind fun i => r.connectors[i]? with
  | none =>
    have htarget' : ((s.connectorFor (.ofIdentifier id)).bind fun i => s.connectors[i]?) = none := by
      refine Option.bind_eq_none_iff.2 fun i hi => Option.eq_none_iff_forall_ne_some.2 fun c hc => ?_
      obtain ⟨c', hc', -⟩ := connector_of_part hpart.symm hc
      exact nomatch (Option.bind_eq_none_iff.1 htarget i (hfor ▸ hi)).symm.trans hc'
    obtain ⟨hresult, hdeed⟩ := connect_unavailable htarget
    obtain ⟨hresult', hdeed'⟩ := connect_unavailable htarget'
    exact ⟨hresult.trans hresult'.symm, _, hdeed, hdeed'⟩
  | some c =>
    obtain ⟨i, hi, hc⟩ := Option.bind_eq_some_iff.1 htarget
    obtain ⟨c', hc', hsame⟩ := connector_of_part hpart hc
    have hopen : c'.openFailure = c.openFailure := by
      change (c'.part p).openFailure = (c.part p).openFailure
      rw [hsame]
    have hreports : c'.reports = c.reports := by
      change (c'.part p).reports = (c.part p).reports
      rw [hsame]
    cases hf : c.openFailure id with
    | some f =>
      obtain ⟨hresult, hdeed⟩ := connect_refused hi hc hf
      obtain ⟨hresult', hdeed'⟩ := connect_refused (hfor ▸ hi) hc' (hopen ▸ hf)
      exact ⟨hresult.trans hresult'.symm, _, hdeed, hdeed'⟩
    | none =>
      obtain ⟨hresult, hdeed⟩ := hr.connect_opened hi hc hf
      obtain ⟨hresult', hdeed'⟩ := hs.connect_opened (hfor ▸ hi) hc' (hopen ▸ hf)
      exact ⟨hresult.trans (hreports ▸ hresult'.symm), _, hdeed, hdeed'⟩

/-! ## The calls -/

theorem Together.reply {α : Type} {x y : Except Failure α × Registry} (h : Together id r s x y)
    (encode : α → Reply) : Together id r s (Registry.reply encode x) (Registry.reply encode y) := by
  obtain ⟨result, r'⟩ := x
  obtain ⟨_, s'⟩ := y
  obtain ⟨rfl, hdeed⟩ := h
  cases result <;> exact ⟨rfl, hdeed⟩

theorem Together.probe (h : Together id r s (r.send id Escpos.statusInquiry)
    (s.send id Escpos.statusInquiry)) : Together id r s (r.probe id) (s.probe id) := by
  unfold Registry.probe
  generalize r.send id Escpos.statusInquiry = x at h ⊢
  generalize s.send id Escpos.statusInquiry = y at h ⊢
  obtain ⟨result, r'⟩ := x
  obtain ⟨_, s'⟩ := y
  obtain ⟨rfl, hdeed⟩ := h
  obtain f | _ := result
  · cases f <;> exact ⟨rfl, hdeed⟩
  · exact ⟨rfl, hdeed⟩

/-- A call on a printer is answered the same, and does the same, wherever the printer's channels are
the same. -/
theorem call_together (hr : r.Tidy) (hs : s.Tidy) (hp : p id = true) (hpart : r.part p = s.part p)
    {c : Call} (hc : c.subject? = some id.text) : Together id r s (r.call c) (s.call c) := by
  have hid : Identifier.ofText id.text = .ok id := Identifier.ofText_eq_ok_iff.2 rfl
  cases c with
  | connect text =>
    cases hc
    simp only [call, withIdentifier, hid]
    exact (connect_together hr hs hpart).reply _
  | disconnect text =>
    cases hc
    simp only [call, withIdentifier, hid]
    exact (disconnect_together hr hs hp hpart).reply _
  | print text job =>
    cases hc
    simp only [call, withIdentifier, hid]
    exact (send_together hr hs hp hpart _).reply _
  | status text =>
    cases hc
    obtain ⟨hresult, hdeed⟩ := (send_together hr hs hp hpart Escpos.statusInquiry).probe
    simp only [call, status, hid]
    exact ⟨congrArg Reply.status hresult, hdeed⟩
  | send text bytes =>
    cases hc
    simp only [call, withIdentifier, hid]
    exact (send_together hr hs hp hpart bytes).reply _
  | isConnected text =>
    cases hc
    obtain ⟨hresult, hdeed⟩ := isConnected_together hr hs hp hpart
    simp only [call, withIdentifier, hid]
    exact Together.reply ⟨congrArg Except.ok hresult, hdeed⟩ _
  | shutdown | connected | closeAll | failOpening | failWriting | failWrites | failClose => cases hc

theorem exists_deed (hr : r.Tidy) {c : Call} (hc : c.subject? = some id.text) :
    ∃ d : Deed, (r.call c).2.connectors = d.apply id r.connectors := by
  obtain ⟨-, d, hd, -⟩ := call_together (p := fun _ => true) hr hr rfl rfl hc
  exact ⟨d, hd⟩

theorem part_call_of_not (hr : r.Tidy) (hp : p id = false) {c : Call}
    (hc : c.subject? = some id.text) : (r.call c).2.part p = r.part p := by
  obtain ⟨d, hd⟩ := exists_deed hr hc
  rw [part, hd]
  exact d.part_apply_of_not hp _

/-- Everything that belongs to a printer is as it was. -/
structure Untouched (id : Identifier) (before after : Registry) : Prop where
  held : after.held id = before.held id
  line? : ∀ h l, before.line? h = some l → l.owner = id → after.line? h = some l
  channels : after.channelsOf id = before.channelsOf id

/-- Two registries that differ at most in the order in which channels of two printers are listed. -/
structure Interchangeable (a b : Identifier) (r s : Registry) : Prop where
  connected : r.connected.1 = s.connected.1
  channels : ∀ id, r.channelsOf id = s.channelsOf id
  attempts : r.connectors.map (·.attempts) = s.connectors.map (·.attempts)
  /-- The lists of channels are the same as soon as one of the two printers is left out. -/
  order : ∀ p, p a = false ∨ p b = false → r.part p = s.part p

theorem channelsOf_of_part (h : r.part (fun k => k = id) = s.part fun k => k = id) :
    r.channelsOf id = s.channelsOf id := by
  have hpart (r : Registry) : r.channelsOf id =
      (r.part fun k => k = id).map fun c => c.lines.map (·.channel) := by
    rw [part, List.map_map]
    rfl
  rw [hpart, hpart, h]

/-- The answer to which identifiers are connected goes by whether channels are held. -/
theorem connected_congr (h : ∀ id, (r.held id).isSome = (s.held id).isSome) :
    r.connected.1 = s.connected.1 := by
  refine connected_eq_of_perm ((List.perm_ext_iff_of_nodup r.connected_nodup s.connected_nodup).2 ?_)
  intro id
  rw [mem_connected_iff, mem_connected_iff, h]

theorem Tidy.untouched (hr : r.Tidy) {a b : Identifier} (hne : a ≠ b) {c : Call}
    (hc : c.subject? = some a.text) : Untouched b r (r.call c).2 := by
  have hpart := part_call_of_not (p := fun k => k = b) hr (decide_eq_false hne) hc
  have hlines (h : Handle) (l : Line) (hl : r.line? h = some l) (ho : l.owner = b) :
      (r.call c).2.line? h = some l := by
    obtain ⟨d, hd⟩ := exists_deed hr hc
    obtain ⟨c₀, hc₀, hl⟩ := Option.bind_eq_some_iff.1 hl
    obtain ⟨c', hc', hl'⟩ := d.lines_apply hc₀ hl (ho ▸ Ne.symm hne)
    rw [← hd] at hc'
    exact (line?_of_connector hc').trans hl'
  refine ⟨?_, hlines, channelsOf_of_part hpart⟩
  cases hh : r.held b with
  | none => exact held_none_of_part hr (hr.call c) (decide_eq_true rfl) hpart.symm hh
  | some h =>
    obtain ⟨l, hl, ho, hopen⟩ := hr.held_iff.1 hh
    exact (hr.call c).held_iff.2 ⟨l, hlines h l hl ho, ho, hopen⟩

section Commute

variable {a b : Identifier} {c d : Call}

/-- The second of two calls does what it would have done as the first. -/
theorem Tidy.call_after (hr : r.Tidy) (hne : a ≠ b) (hc : c.subject? = some a.text)
    (hd : d.subject? = some b.text) : Together b (r.call c).2 r ((r.call c).2.call d) (r.call d) :=
  call_together (p := fun k => k = b) (hr.call c) hr (decide_eq_true rfl)
    (part_call_of_not hr (decide_eq_false hne) hc) hd

theorem Tidy.part_comm (hr : r.Tidy) (hne : a ≠ b) (hc : c.subject? = some a.text)
    (hd : d.subject? = some b.text) (hp : p a = false) :
    ((r.call c).2.call d).2.part p = ((r.call d).2.call c).2.part p := by
  obtain ⟨-, e, he, he'⟩ := hr.call_after hne hc hd
  calc ((r.call c).2.call d).2.part p
    _ = (e.apply b (r.call c).2.connectors).map (Connector.part p) := by rw [part, he]
    _ = (e.apply b r.connectors).map (Connector.part p) :=
      e.part_apply_congr (part_call_of_not hr hp hc)
    _ = (r.call d).2.part p := by rw [part, he']
    _ = ((r.call d).2.call c).2.part p := (part_call_of_not (hr.call d) hp hc).symm

theorem Tidy.attempts_comm (hr : r.Tidy) (hne : a ≠ b) (hc : c.subject? = some a.text)
    (hd : d.subject? = some b.text) :
    ((r.call c).2.call d).2.connectors.map (·.attempts) =
      ((r.call d).2.call c).2.connectors.map (·.attempts) := by
  obtain ⟨-, e, he, he'⟩ := hr.call_after hne hc hd
  obtain ⟨-, f, hf, hf'⟩ := hr.call_after hne.symm hd hc
  rw [he, hf, he', hf', Deed.attempts_apply, Deed.attempts_apply, Deed.attempts_apply,
    Deed.attempts_apply, Deed.count_comm]

theorem Tidy.interchangeable (hr : r.Tidy) (hne : a ≠ b) (hc : c.subject? = some a.text)
    (hd : d.subject? = some b.text) :
    Interchangeable a b ((r.call c).2.call d).2 ((r.call d).2.call c).2 := by
  have horder (p : Identifier → Bool) (hp : p a = false ∨ p b = false) :
      ((r.call c).2.call d).2.part p = ((r.call d).2.call c).2.part p := by
    rcases hp with hp | hp
    · exact hr.part_comm hne hc hd hp
    · exact (hr.part_comm hne.symm hd hc hp).symm
  have hone (id : Identifier) : ((r.call c).2.call d).2.part (fun k => k = id) =
      ((r.call d).2.call c).2.part fun k => k = id := by
    refine horder _ ?_
    by_cases ha : a = id
    · exact .inr (decide_eq_false fun hb => hne (ha.trans hb.symm))
    · exact .inl (decide_eq_false ha)
  refine ⟨connected_congr fun id => ?_, fun id => channelsOf_of_part (hone id),
    hr.attempts_comm hne hc hd, horder⟩
  exact isSome_held_of_part ((hr.call c).call d) ((hr.call d).call c) (decide_eq_true rfl) (hone id)

/-- Calls on two printers may be made in either order: each is answered the same, and what they leave
differs at most in how the channels of the two are listed. The one leaves the other's alone. -/
theorem commute_after (hr : r.IsNew) (cs : List Call) (hne : a ≠ b) (hc : c.subject? = some a.text)
    (hd : d.subject? = some b.text) :
    let s := r.after cs
    ((s.call c).2.call d).1 = (s.call d).1 ∧ ((s.call d).2.call c).1 = (s.call c).1 ∧
      Interchangeable a b ((s.call c).2.call d).2 ((s.call d).2.call c).2 ∧
      Untouched b s (s.call c).2 := by
  intro s
  have hs : s.Tidy := hr.tidy.after cs
  exact ⟨(hs.call_after hne hc hd).1, (hs.call_after hne.symm hd hc).1,
    hs.interchangeable hne hc hd, hs.untouched hne hc⟩

end Commute

/-- One printer is connected anew while a sending to another fails. -/
theorem commute_after_connecting :
    let r : Registry := { connectors := [⟨.bluetooth, .bluetooth, fun _ => none, none, 0, []⟩] }
    let cs : List Call := [.connect "p", .connect "q", .failWrites 0 none true]
    let s := r.after cs
    let c : Call := .connect "p"
    let d : Call := .send "q" [1, 2]
    let p : Identifier := ⟨"p", rfl⟩
    let q : Identifier := ⟨"q", rfl⟩
    r.IsNew ∧ p ≠ q ∧ c.subject? = some p.text ∧ d.subject? = some q.text ∧
      ((s.call c).2.call d).1 = (s.call d).1 ∧ ((s.call d).2.call c).1 = (s.call c).1 ∧
      Interchangeable p q ((s.call c).2.call d).2 ((s.call d).2.call c).2 ∧
      Untouched q s (s.call c).2 := by
  intro r cs s c d p q
  have hr : r.IsNew := ⟨rfl, by simp [r]⟩
  have hne : p ≠ q := by decide +kernel
  exact ⟨hr, hne, rfl, rfl, commute_after (c := c) (d := d) hr cs hne rfl rfl⟩

end Registry

end ThermalPrint
