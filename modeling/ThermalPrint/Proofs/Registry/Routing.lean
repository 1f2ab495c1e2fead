import ThermalPrint.Proofs.Registry.Independence

/-! The route to a printer. A dotted quad is reached through the network and any other identifier by
radio, each through the last connector that was given for the kind: it is asked once, and no other is. -/

namespace ThermalPrint.Registry

open Transport

variable {r : Registry} {id : Identifier} {kind : Kind} {i : Nat} {c : Connector}

/-- The connector in a place is the last one that serves a kind. -/
structure LastFor (r : Registry) (kind : Kind) (i : Nat) (c : Connector) : Prop where
  connector : r.connectors[i]? = some c
  serves : c.kind = kind
  last : ∀ j c', r.connectors[j]? = some c' → c'.kind = kind → j ≤ i

/-- How often each connector was asked for a channel. -/
def attemptCounts (r : Registry) : List Nat := r.connectors.map (·.attempts)

/-- Every channel that is held was opened. -/
def Standing (r : Registry) : Prop := ∀ id h, r.held id = some h → (r.line? h).isSome = true

theorem Tidy.standing (hr : r.Tidy) : r.Standing := by
  intro id h hh
  obtain ⟨l, hl, -⟩ := hr.held_iff.1 hh
  rw [hl]
  rfl

/-- What connecting a printer through a kind of transport comes to, with the connectors that there
are and with how they answer. -/
inductive Routed (r : Registry) (id : Identifier) (kind : Kind) : Except Failure Kind × Registry → Prop
  | unserved {r' : Registry} (none : ∀ c ∈ r.connectors, c.kind ≠ kind)
    (asked : r'.attemptCounts = r.attemptCounts) :
    Routed r id kind
      (.error (.connectionFailed s!"{id.text}: {kind.name}: transport not available"), r')
  /-- A refused permission is reported as it is. -/
  | forbidden {r' : Registry} {i : Nat} {c : Connector} {reason : String} (last : r.LastFor kind i c)
    (asked : r'.attemptCounts = r.attemptCounts.modify i (· + 1))
    (answer : c.openFailure id = some (.permissionDenied reason)) :
    Routed r id kind (.error (.permissionDenied reason), r')
  | failed {r' : Registry} {i : Nat} {c : Connector} {f : Failure} (last : r.LastFor kind i c)
    (asked : r'.attemptCounts = r.attemptCounts.modify i (· + 1)) (answer : c.openFailure id = some f)
    (other : ∀ reason, f ≠ .permissionDenied reason) :
    Routed r id kind (.error (.connectionFailed s!"{id.text}: {kind.name}: {f.message}"), r')
  /-- The new channel is held, and is of the kind that it reports itself. -/
  | opened {r' : Registry} {i : Nat} {c : Connector} (last : r.LastFor kind i c)
    (asked : r'.attemptCounts = r.attemptCounts.modify i (· + 1)) (answer : c.openFailure id = none)
    (held : r'.held id = some ⟨i, c.lines.length⟩)
    (line : r'.line? ⟨i, c.lines.length⟩ = some ⟨id, { kind := c.reports }⟩) :
    Routed r id kind (.ok c.reports, r')

/-! ## The connector of a kind -/

theorem mem_serving_iff (r : Registry) (kind : Kind) {e : Connector × Nat} :
    e ∈ r.connectors.zipIdx.filter (·.1.kind = kind) ↔
      r.connectors[e.2]? = some e.1 ∧ e.1.kind = kind := by
  rw [List.mem_filter, List.mem_zipIdx_iff_getElem?, decide_eq_true_eq]

theorem lastFor_of_connectorFor (h : r.connectorFor kind = some i) : ∃ c, r.LastFor kind i c := by
  obtain ⟨⟨c, j⟩, hlast, rfl⟩ := Option.map_eq_some_iff.1 h
  obtain ⟨before, hserving⟩ := List.getLast?_eq_some_iff.1 hlast
  have hmem {e : Connector × Nat} := mem_serving_iff r kind (e := e)
  rw [hserving] at hmem
  obtain ⟨hc, hkind⟩ := hmem.1 (List.mem_append_right before (List.mem_singleton_self _))
  refine ⟨c, hc, hkind, fun k c' hc' hkind' => ?_⟩
  -- the places of the connectors that serve the kind ascend
  have hascending : (before ++ [(c, j)]).Pairwise fun d e => d.2 < e.2 := by
    rw [← hserving]
    refine List.Pairwise.filter _ (List.pairwise_map.1 ?_)
    rw [List.zipIdx_map_snd]
    exact List.pairwise_lt_range'
  rcases List.mem_append.1 (hmem.2 ⟨hc', hkind'⟩ : (c', k) ∈ _) with hbefore | hsame
  · exact Nat.le_of_lt ((List.pairwise_append.1 hascending).2.2 _ hbefore _ (List.mem_singleton_self _))
  · cases List.mem_singleton.1 hsame
    exact Nat.le_refl _

theorem kind_ne_of_connectorFor (h : r.connectorFor kind = none) : ∀ c ∈ r.connectors, c.kind ≠ kind := by
  intro c hc hkind
  obtain ⟨i, hi⟩ := List.mem_iff_getElem?.1 hc
  have hmem : (c, i) ∈ r.connectors.zipIdx.filter (·.1.kind = kind) :=
    (mem_serving_iff r kind).2 ⟨hi, hkind⟩
  rw [List.getLast?_eq_none_iff.1 (Option.map_eq_none_iff.1 h)] at hmem
  cases hmem

/-! ## What an attempt leaves -/

theorem attemptCounts_updateConnector {f : Connector → Connector} (hc : r.connectors[i]? = some c)
    (hf : (f c).attempts = c.attempts + 1) :
    (r.updateConnector i (f c)).attemptCounts = r.attemptCounts.modify i (· + 1) := by
  refine List.ext_getElem? fun j => ?_
  rw [attemptCounts, attemptCounts, List.getElem?_map, getElem?_updateConnector hc, List.getElem?_modify,
    List.getElem?_map]
  by_cases hj : i = j
  · subst hj
    simp [hc, hf]
  · simp [hj]

theorem attemptCounts_closeHandle (h : Handle) : (r.closeHandle h).attemptCounts = r.attemptCounts := by
  unfold closeHandle
  split
  · next c hc =>
    refine List.ext_getElem? fun j => ?_
    rw [attemptCounts, attemptCounts, List.getElem?_map,
      getElem?_updateConnector (f := (·.closeChannel h.line)) hc, List.getElem?_map, Option.map_map]
    refine congrArg (Option.map · _) (funext fun c' => ?_)
    dsimp only [Function.comp]
    split <;> rfl
  · rfl

theorem attemptCounts_closeHeld : (r.closeHeld id).attemptCounts = r.attemptCounts := by
  unfold closeHeld
  split
  · exact attemptCounts_closeHandle _
  · rfl

/-- The channel that was held is another than the one that is opened. -/
theorem Standing.held_ne (hr : r.Standing) (hc : r.connectors[i]? = some c) :
    r.held id ≠ some ⟨i, c.lines.length⟩ := by
  intro hh
  have hline := hr id _ hh
  rw [line?_of_connector hc, List.getElem?_eq_none (Nat.le_refl _)] at hline
  cases hline

theorem unreached_unavailable (id : Identifier) : unreached id "transport not available" =
    .connectionFailed s!"{id.text}: {(Kind.ofIdentifier id).name}: transport not available" := by
  simp only [unreached, String.append_assoc]
  rfl

/-- Every printer is connected by its one route. -/
theorem connect_routed (hr : r.Standing) (id : Identifier) :
    r.Routed id (if id.ipv4?.isSome then .network else .bluetooth) (r.connect id) := by
  change r.Routed id (.ofIdentifier id) (r.connect id)
  let r₀ : Registry := { r with slots := r.slots.ensure id }
  cases hfor : r.connectorFor (.ofIdentifier id) with
  | none =>
    have hnone : r₀.openChannel id = (.error (unreached id "transport not available"), r₀) :=
      openChannel_unavailable (Option.bind_eq_none_iff.2 fun i hi => nomatch hfor.symm.trans hi)
    rw [connect_eq_of_error hnone, unreached_unavailable]
    exact .unserved (kind_ne_of_connectorFor hfor) rfl
  | some i =>
    obtain ⟨c, hlast⟩ := lastFor_of_connectorFor hfor
    have hc : r₀.connectors[i]? = some c := hlast.connector
    cases hanswer : c.openFailure id with
    | some f =>
      rw [connect_eq_of_error (openChannel_refused hfor hc hanswer)]
      have hasked : (r₀.updateConnector i c.asked).attemptCounts = r.attemptCounts.modify i (· + 1) :=
        attemptCounts_updateConnector hc rfl
      cases f with
      | permissionDenied reason => exact .forbidden hlast hasked hanswer
      | _ => exact .failed hlast hasked hanswer nofun
    | none =>
      rw [connect_eq_of_ok (openChannel_opened_eq hfor hc hanswer)]
      have hasked : (r₀.updateConnector i (c.opened id)).attemptCounts =
          r.attemptCounts.modify i (· + 1) := attemptCounts_updateConnector hc rfl
      have hheld : (r₀.updateConnector i (c.opened id)).held id = r.held id := Slots.held_ensure
      refine .opened hlast (attemptCounts_closeHeld.trans hasked) hanswer ?_ ?_
      · exact Slots.held_put.trans (if_pos rfl)
      · rw [line?_withSlots, line?_closeHeld, hheld, if_neg (hr.held_ne hlast.connector)]
        exact (line?_append hc rfl _).trans (if_pos rfl)

/-- Of two connectors for the network only the later one is asked, whose channels say that they are of
the other kind. -/
theorem connect_routed_to_later :
    let r : Registry := { connectors := [⟨.network, .network, fun _ => some .notConnected, none, 0, []⟩,
      ⟨.bluetooth, .bluetooth, fun _ => none, none, 0, []⟩,
      ⟨.network, .bluetooth, fun _ => none, none, 0, []⟩] }
    let s : Registry := r.after [.connect "10.0.0.1"]
    let quad : Identifier := ⟨"10.0.0.1", rfl⟩
    s.Standing ∧ s.Routed quad .network (s.connect quad) ∧
      (s.call (.connect "10.0.0.1")).1 = .kind .bluetooth ∧
      (s.connect quad).2.attemptCounts = [0, 0, 2] := by
  intro r s quad
  have hr : r.IsNew := ⟨rfl, by simp [r]⟩
  have hs : s.Standing := (hr.tidy.after _).standing
  have hkind : (if quad.ipv4?.isSome then Kind.network else .bluetooth) = .network := by decide +kernel
  exact ⟨hs, hkind ▸ connect_routed hs quad, by decide +kernel, by decide +kernel⟩

end ThermalPrint.Registry
