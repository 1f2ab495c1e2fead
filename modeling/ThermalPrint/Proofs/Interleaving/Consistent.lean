import ThermalPrint.Proofs.Interleaving.Balance

/-! Worlds in which the books balance and every call finds what it relies on. All worlds are such that
calls get into from where none has begun, whatever the schedule. -/

namespace ThermalPrint.Interleaving

open Transport

namespace Stage

variable {op : Operation} {s s' : Shared} {st : Stage}

theorem kit_lock (op : Operation) (st : Stage) : (st.kit op).lock = st.locked? := by
  cases st <;> rfl

theorem kit_owned (op : Operation) (st : Stage) : (st.kit op).owned = st.owned := by
  cases st <;> rfl

theorem kit_cells (h : st.Fits op s) : (st.kit op).cells = st.handles := by
  have single {cell : Nat} (hop : ∃ id, op.identifier? = some id) :
      (op.grips cell).map (·.2) = [cell] := by
    obtain ⟨id, hid⟩ := hop
    rw [Operation.grips_eq hid]
    rfl
  cases st with
  | waiting | working | lettingGo => exact single h
  | unlocking => exact single h.1
  | closing _ _ new =>
    cases new with
    | none =>
      obtain ⟨-, id, rfl⟩ := h
      exact single ⟨id, rfl⟩
    | some new =>
      obtain ⟨-, id, rfl, -⟩ := h
      exact single ⟨id, rfl⟩
  | opened =>
    obtain ⟨id, rfl, -⟩ := h
    exact single ⟨id, rfl⟩
  | storing =>
    obtain ⟨-, id, rfl, -⟩ := h
    exact single ⟨id, rfl⟩
  | writing =>
    obtain ⟨id, bytes, rfl⟩ := h
    exact single ⟨id, rfl⟩
  | start | pruning | visiting | inspecting | releasing | closingTaken | leaving | sweeping | done => rfl

/-- What others do goes unnoticed as long as it leaves alone the content of the slot whose lock the call
has. -/
theorem Fits.frame (h : st.Fits op s)
    (howner : ∀ n id, s.owner? n = some id → s'.owner? n = some id)
    (hcontent : ∀ c, st.locked? = some c → s'.content c = s.content c) : st.Fits op s' := by
  cases st with
  | opened cell new =>
    obtain ⟨id, hid, ho⟩ := h
    exact ⟨id, hid, howner new id ho⟩
  | closing cell old new =>
    cases new with
    | none => exact ⟨(hcontent cell rfl).trans h.1, h.2⟩
    | some new =>
      obtain ⟨hempty, id, hid, ho⟩ := h
      exact ⟨(hcontent cell rfl).trans hempty, id, hid, howner new id ho⟩
  | storing cell new =>
    obtain ⟨hempty, id, hid, ho⟩ := h
    exact ⟨(hcontent cell rfl).trans hempty, id, hid, howner new id ho⟩
  | unlocking cell reply prunes =>
    obtain ⟨hop, hkept⟩ := h
    exact ⟨hop, fun hp => hcontent cell rfl ▸ hkept hp⟩
  | start | waiting | working | writing | lettingGo | pruning | visiting | inspecting | releasing
  | closingTaken | leaving | sweeping | done => exact h

end Stage

namespace World

variable {w w' : World} {i : Nat} {op : Operation} {st : Stage} {t : Turn}

/-- What calls have. -/
def kits (w : World) : List Kit := w.calls.map fun x => x.2.kit x.1

theorem getElem?_kits (h : w.calls[i]? = some (op, st)) : w.kits[i]? = some (st.kit op) := by
  rw [kits, List.getElem?_map, h]
  rfl

theorem exists_of_mem_kits {k : Kit} (h : k ∈ w.kits) :
    ∃ op st, (op, st) ∈ w.calls ∧ k = st.kit op := by
  obtain ⟨⟨op, st⟩, hmem, rfl⟩ := List.mem_map.1 h
  exact ⟨op, st, hmem, rfl⟩

/-- What a turn does. -/
inductive Took (w : World) : Turn → World → Prop
  | idle {t : Turn} (stuck : ∀ i openFailure op st, t = .call i openFailure →
    w.calls[i]? = some (op, st) → advance op openFailure w.shared st = none) : Took w t w
  | call {i : Nat} {openFailure : Option Failure} {op : Operation} {st st' : Stage} {s' : Shared}
    (current : w.calls[i]? = some (op, st))
    (step : advance op openFailure w.shared st = some (st', s')) :
    Took w (.call i openFailure) { shared := s', calls := w.calls.set i (op, st') }
  | switch {channel : Nat} {failWrites failClose : Bool} :
    Took w (.switch channel failWrites failClose)
      { w with shared := w.shared.switch channel failWrites failClose }

theorem take_took (w : World) (t : Turn) : Took w t (w.take t) := by
  cases t with
  | switch channel failWrites failClose => exact .switch
  | call i openFailure =>
    cases hcurrent : w.calls[i]? with
    | none =>
      rw [show w.take (.call i openFailure) = w by simp only [take, hcurrent]]
      refine .idle fun j _ op st hj h => ?_
      cases hj
      cases hcurrent.symm.trans h
    | some x =>
      obtain ⟨op, st⟩ := x
      cases hstep : advance op openFailure w.shared st with
      | none =>
        rw [show w.take (.call i openFailure) = w by simp only [take, hcurrent, hstep]]
        refine .idle fun j f op st hj h => ?_
        cases hj
        cases hcurrent.symm.trans h
        exact hstep
      | some next =>
        obtain ⟨st', s'⟩ := next
        simp only [take, hcurrent, hstep]
        exact .call hcurrent hstep

/-- Calls stay what they are. -/
theorem Took.map_fst (h : Took w t w') : w'.calls.map (·.1) = w.calls.map (·.1) := by
  cases h with
  | idle => rfl
  | switch => rfl
  | @call i openFailure op st st' s' hi =>
    have hop : (w.calls.map (·.1))[i]? = some op := by
      rw [List.getElem?_map, hi]
      rfl
    rw [List.map_set, List.set_eq_modify]
    exact (modify_congr (f := fun _ => op) (g := id) hop rfl).trans (List.modify_id i _)

theorem map_fst_run (w : World) (schedule : List Turn) :
    (w.run schedule).calls.map (·.1) = w.calls.map (·.1) := by
  induction schedule generalizing w with
  | nil => rfl
  | cons t ts ih => exact (ih (w.take t)).trans (w.take_took t).map_fst

/-- The books balance, and every call finds what it relies on. -/
structure Consistent (w : World) : Prop where
  balanced : Balanced w.shared w.kits
  fits : ∀ x ∈ w.calls, x.2.Fits x.1 w.shared

namespace Consistent

/-- A step of a call is one of the moves. -/
theorem steps (hw : w.Consistent) {openFailure : Option Failure} {st' : Stage} {s' : Shared}
    (hi : w.calls[i]? = some (op, st)) (h : advance op openFailure w.shared st = some (st', s')) :
    Steps op w.shared st st' s' := by
  refine advance_steps (fun c hc => ?_) (hw.fits _ (List.mem_of_getElem? hi)) h
  exact hw.balanced.lt_of_lock (List.mem_of_getElem? (getElem?_kits hi)) ((st.kit_lock op).trans hc)

theorem kits_set (w : World) (i : Nat) (op : Operation) (st' : Stage) (s' : Shared) :
    kits { shared := s', calls := w.calls.set i (op, st') } = w.kits.set i (st'.kit op) :=
  List.map_set

theorem took (hw : w.Consistent) (h : Took w t w') : w'.Consistent := by
  cases h with
  | idle => exact hw
  | @switch channel failWrites failClose =>
    refine ⟨hw.balanced.switch channel failWrites failClose, fun x hx => (hw.fits x hx).frame ?_ ?_⟩
    · exact fun n id ho => (Shared.owner?_updateChannel _ n).trans ho
    · exact fun _ _ => rfl
  | @call i openFailure op st st' s' hi hstep =>
    obtain ⟨m, hm, rfl, hfits⟩ := hw.steps hi hstep
    refine ⟨kits_set w i op st' _ ▸ hw.balanced.step (getElem?_kits hi) hm, fun x hx => ?_⟩
    obtain ⟨j, hj⟩ := List.mem_iff_getElem?.1 hx
    rcases getElem?_of_set hj with ⟨-, rfl⟩ | ⟨hij, hj⟩
    · exact hfits
    · refine (hw.fits x (List.mem_of_getElem? hj)).frame (fun n id ho => hm.owner? ho) fun c hc => ?_
      refine hw.balanced.content_eq (getElem?_kits hi) hm hij (getElem?_kits hj) ?_
      exact (x.2.kit_lock x.1).trans hc

theorem take (hw : w.Consistent) (t : Turn) : (w.take t).Consistent := hw.took (w.take_took t)

theorem run (hw : w.Consistent) (schedule : List Turn) : (w.run schedule).Consistent := by
  induction schedule generalizing w with
  | nil => exact hw
  | cons t ts ih => exact ih (hw.take t)

end Consistent

end World

/-! ## Before and after -/

/-- What calls have left when none is under way: the books balance with nobody in them. -/
def Shared.AtRest (s : Shared) : Prop := Balanced s []

theorem total_eq_zero {f : Kit → List Nat} {kits : List Kit} (hf : f {} = [])
    (hkits : ∀ k ∈ kits, k = {}) (n : Nat) : total f kits n = 0 := by
  refine List.count_eq_zero.2 fun hmem => ?_
  obtain ⟨k, hk, hn⟩ := List.mem_flatMap.1 hmem
  rw [hkits k hk, hf] at hn
  cases hn

/-- Calls that have nothing do not show in the books. -/
theorem Balanced.of_empty {s : Shared} {kits kits' : List Kit} (hb : Balanced s kits)
    (hkits : ∀ k ∈ kits, k = {}) (hkits' : ∀ k ∈ kits', k = {}) : Balanced s kits' := by
  refine ⟨hb.keys_nodup, hb.cells_nodup, hb.cell_lt, ?_, ?_, ?_, ?_, ?_, hb.content_owner, ?_, hb.sound⟩
  · intro k hk e he
    cases hkits' k hk
    cases he
  · intro c
    rw [hb.handles, total_eq_zero rfl hkits, total_eq_zero rfl hkits']
  · intro c
    rw [hb.locks, total_eq_zero rfl hkits, total_eq_zero rfl hkits']
  · intro k hk c hc
    cases hkits' k hk
    cases hc
  · intro n
    rw [total_eq_zero rfl hkits', ← hb.channels n, total_eq_zero rfl hkits]
  · intro k hk p hp
    cases hkits' k hk
    cases hp

theorem Shared.atRest_nil : Shared.AtRest {} := by
  constructor <;> simp [Shared.handles, Shared.isLocked, Shared.contents, Shared.isOpen, Shared.content,
    total]

namespace World

variable {w : World}

/-- Calls of which none has begun, on what earlier calls have left. -/
def launch (s : Shared) (ops : List Operation) : World :=
  { shared := s, calls := ops.map fun op => (op, .start) }

theorem exists_of_launch {s : Shared} {ops : List Operation} {x : Operation × Stage}
    (h : x ∈ (launch s ops).calls) : x.1 ∈ ops ∧ x.2 = .start := by
  obtain ⟨op, hop, rfl⟩ := List.mem_map.1 h
  exact ⟨hop, rfl⟩

theorem kits_launch {s : Shared} {ops : List Operation} {k : Kit} (hk : k ∈ (launch s ops).kits) :
    k = {} := by
  obtain ⟨op, st, hmem, rfl⟩ := exists_of_mem_kits hk
  cases (exists_of_launch hmem).2
  rfl

theorem consistent_launch {s : Shared} (hs : s.AtRest) (ops : List Operation) :
    (launch s ops).Consistent := by
  constructor
  · exact hs.of_empty (fun _ hk => nomatch hk) fun k hk => kits_launch hk
  · intro x hx
    rw [(exists_of_launch hx).2]
    exact trivial

theorem consistent_start (ops : List Operation) : (start ops).Consistent :=
  consistent_launch Shared.atRest_nil ops

theorem exists_done (h : w.isSettled = true) {x : Operation × Stage} (hx : x ∈ w.calls) :
    ∃ reply, x.2 = .done reply := by
  have hx := List.all_eq_true.1 h x hx
  obtain ⟨op, st⟩ := x
  cases st with
  | done reply => exact ⟨reply, rfl⟩
  | start | waiting | working | opened | closing | storing | writing | unlocking | lettingGo | pruning
  | visiting | inspecting | releasing | closingTaken | leaving | sweeping => cases hx

theorem kits_of_isSettled (h : w.isSettled = true) {k : Kit} (hk : k ∈ w.kits) : k = {} := by
  obtain ⟨op, st, hmem, rfl⟩ := exists_of_mem_kits hk
  obtain ⟨reply, hst⟩ := exists_done h hmem
  cases hst
  rfl

/-- When all calls have their replies, other calls may begin. -/
theorem Consistent.atRest (hw : w.Consistent) (h : w.isSettled = true) : w.shared.AtRest :=
  hw.balanced.of_empty (fun _ hk => kits_of_isSettled h hk) fun _ hk => nomatch hk

end World

end ThermalPrint.Interleaving
