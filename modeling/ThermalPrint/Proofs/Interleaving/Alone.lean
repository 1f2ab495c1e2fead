import ThermalPrint.Proofs.Interleaving.Onward

/-! A call that runs alone comes to its end, and does what the registry does when the call is made at
once. -/

namespace ThermalPrint.Interleaving

open Transport Registry

variable {openFailure : Option Failure} {handles : List Handle} {s s' : Shared} {r : Registry}
  {op : Operation} {st st' : Stage} {out : Reply × Registry} {id : Identifier}

/-- A bound on the steps that a call has before it. -/
def Stage.toGo (op : Operation) (s : Shared) : Stage → Nat
  | .start => 9 + op.payload.length + 5 * s.entries.length
  | .waiting _ => 8 + op.payload.length
  | .working _ => 7 + op.payload.length
  | .opened _ _ => 6
  | .closing _ _ _ => 5
  | .storing _ _ => 4
  | .writing _ _ rest => 4 + rest.length
  | .unlocking _ _ _ => 3
  | .lettingGo _ _ _ => 2
  | .pruning _ | .sweeping _ => 1
  | .visiting rest _ => 2 + 5 * rest.length
  | .inspecting _ _ rest _ => 6 + 5 * rest.length
  | .releasing _ _ _ rest _ => 5 + 5 * rest.length
  | .closingTaken _ _ _ rest _ => 4 + 5 * rest.length
  | .leaving _ _ rest _ => 3 + 5 * rest.length
  | .done _ => 0

/-- A call that works on a slot goes on, and comes nearer to its end. -/
theorem exists_work (hid : op.identifier? = some id) (openFailure : Option Failure) (cell : Nat)
    (s : Shared) : ∃ st' s', work op openFailure cell s = some (st', s') ∧
      st'.toGo op s' < 7 + op.payload.length := by
  cases op with
  | connect id =>
    cases openFailure with
    | none => exact ⟨_, _, rfl, by simp only [Stage.toGo]; omega⟩
    | some f => exact ⟨_, _, rfl, by simp only [Stage.toGo]; omega⟩
  | disconnect id =>
    simp only [work]
    cases s.content cell with
    | none => exact ⟨_, _, rfl, by simp only [Stage.toGo]; omega⟩
    | some channel => exact ⟨_, _, rfl, by simp only [Stage.toGo]; omega⟩
  | send id bytes =>
    simp only [work]
    cases s.content cell with
    | none => exact ⟨_, _, rfl, by simp only [Stage.toGo]; omega⟩
    | some channel =>
      rcases hbegun : s.beginWrite channel with ⟨_ | f, begun⟩
      · exact ⟨.writing cell channel bytes, begun, by simp only [hbegun],
          by simp only [Stage.toGo, Operation.payload]; omega⟩
      · exact ⟨.unlocking cell (.failure f) true, begun, by simp only [hbegun],
          by simp only [Stage.toGo]; omega⟩
  | isConnected id => exact ⟨_, _, rfl, by simp only [Stage.toGo]; omega⟩
  | connected | closeAll => cases hid

theorem exists_start (op : Operation) (openFailure : Option Failure) (s : Shared) :
    ∃ st' s', advance op openFailure s .start = some (st', s') ∧
      st'.toGo op s' < Stage.start.toGo op s := by
  cases op with
  | connect id => exact ⟨_, _, rfl, by simp only [Stage.toGo]; omega⟩
  | disconnect id | send id bytes | isConnected id =>
    simp only [advance]
    cases s.entry? id with
    | none => exact ⟨_, _, rfl, by simp only [Stage.toGo]; omega⟩
    | some cell => exact ⟨_, _, rfl, by simp only [Stage.toGo]; omega⟩
  | connected | closeAll => exact ⟨_, _, rfl, by simp only [Stage.toGo]; omega⟩

/-- A lone call goes on until it is done, and every step brings it nearer to that. -/
theorem exists_advance (openFailure : Option Failure) (hb : Balanced s [st.kit op])
    (hfits : st.Fits op s) (hst : ∀ reply, st ≠ .done reply) :
    ∃ st' s', advance op openFailure s st = some (st', s') ∧ st'.toGo op s' < st.toGo op s := by
  cases st with
  | start => exact exists_start op openFailure s
  | waiting c =>
    simp only [advance, hb.isLocked_eq_false rfl c]
    exact ⟨_, _, rfl, by simp only [Stage.toGo]; omega⟩
  | working c =>
    obtain ⟨id, hid⟩ := hfits
    exact exists_work hid openFailure c s
  | opened c new =>
    simp only [advance]
    cases s.content c with
    | none => exact ⟨_, _, rfl, by simp only [Stage.toGo]; omega⟩
    | some old => exact ⟨_, _, rfl, by simp only [Stage.toGo]; omega⟩
  | closing c old new =>
    cases new with
    | none => exact ⟨_, _, rfl, by simp only [Stage.toGo]; omega⟩
    | some new => exact ⟨_, _, rfl, by simp only [Stage.toGo]; omega⟩
  | writing c channel rest =>
    cases rest with
    | nil => exact ⟨_, _, rfl, by simp only [Stage.toGo]; omega⟩
    | cons byte rest => exact ⟨_, _, rfl, by simp only [Stage.toGo, List.length_cons]; omega⟩
  | lettingGo c reply prunes =>
    cases prunes with
    | true => exact ⟨.pruning reply, _, rfl, by simp only [Stage.toGo]; omega⟩
    | false => exact ⟨.done reply, _, rfl, by simp only [Stage.toGo]; omega⟩
  | visiting rest seen =>
    cases rest with
    | nil => exact ⟨_, _, rfl, by simp only [Stage.toGo]; omega⟩
    | cons e rest =>
      simp only [advance, hb.isLocked_eq_false rfl e.2]
      exact ⟨_, _, rfl, by simp only [Stage.toGo, List.length_cons]; omega⟩
  | inspecting id c rest seen =>
    simp only [advance]
    split
    · exact ⟨_, _, rfl, by simp only [Stage.toGo]; omega⟩
    · exact ⟨_, _, rfl, by simp only [Stage.toGo]; omega⟩
    · exact ⟨_, _, rfl, by simp only [Stage.toGo]; omega⟩
  | releasing id c taken rest seen =>
    cases taken with
    | none => exact ⟨_, _, rfl, by simp only [Stage.toGo]; omega⟩
    | some channel => exact ⟨_, _, rfl, by simp only [Stage.toGo]; omega⟩
  | storing | unlocking | pruning | closingTaken | leaving | sweeping =>
    exact ⟨_, _, rfl, by simp only [Stage.toGo]; omega⟩
  | done reply => exact absurd rfl (hst reply)

namespace World

/-- A world in which one call is under way, with what is shared and how far the call has come. -/
def lone (s : Shared) (op : Operation) (st : Stage) : World := { shared := s, calls := [(op, st)] }

/-- A step of a call among others. -/
theorem take_of_advance (h : advance op openFailure s st = some (st', s'))
    (before after : List (Operation × Stage)) :
    ({ shared := s, calls := before ++ (op, st) :: after } : World).take
        (.call before.length openFailure) =
      { shared := s', calls := before ++ (op, st') :: after } := by
  simp only [take, List.getElem?_append_right (Nat.le_refl _), Nat.sub_self, List.getElem?_cons_zero, h,
    List.set_append_right _ _ (Nat.le_refl _), List.set_cons_zero]

theorem take_of_stuck (h : advance op openFailure s st = none)
    (before after : List (Operation × Stage)) :
    ({ shared := s, calls := before ++ (op, st) :: after } : World).take
        (.call before.length openFailure) =
      { shared := s, calls := before ++ (op, st) :: after } := by
  simp only [take, List.getElem?_append_right (Nat.le_refl _), Nat.sub_self, List.getElem?_cons_zero, h]

theorem run_done (s : Shared) (op : Operation) (reply : Reply) (openFailure : Option Failure) (m : Nat) :
    (lone s op (.done reply)).run (List.replicate m (.call 0 openFailure)) = lone s op (.done reply) := by
  induction m with
  | zero => rfl
  | succ m ih => exact ih

/-- From wherever a lone call is, it comes to what is left to do. -/
theorem run_lone (hw : (lone s op st).Consistent) (hm : Mirrors s r handles)
    (hl : Left openFailure handles s r op st out) : ∃ n s' handles', handles <+: handles' ∧
      Mirrors s' out.2 handles' ∧ ∀ m, n ≤ m →
        (lone s op st).run (List.replicate m (.call 0 openFailure)) = lone s' op (.done out.1) := by
  induction hgo : st.toGo op s using Nat.strongRecOn generalizing s st r handles with
  | ind k ih =>
    by_cases hst : ∃ reply, st = .done reply
    · obtain ⟨reply, rfl⟩ := hst
      cases hl
      exact ⟨0, s, handles, List.prefix_rfl, hm, fun m _ => run_done s op reply openFailure m⟩
    · have hb : Balanced s [st.kit op] := hw.balanced
      have hfits : st.Fits op s := hw.fits (op, st) (List.mem_singleton_self _)
      obtain ⟨st', s', hstep, hlt⟩ := exists_advance openFailure hb hfits (not_exists.1 hst)
      obtain ⟨handles', r', hprefix, hm', hl'⟩ := hl.step hb hfits hm hstep
      have htake : (lone s op st).take (.call 0 openFailure) = lone s' op st' :=
        take_of_advance hstep [] []
      have hw' : (lone s' op st').Consistent := htake ▸ hw.take (.call 0 openFailure)
      obtain ⟨n, s'', handles'', hprefix', hm'', hrun⟩ := ih _ (hgo ▸ hlt) hw' hm' hl' rfl
      refine ⟨n + 1, s'', handles'', hprefix.trans hprefix', hm'', fun m hle => ?_⟩
      obtain ⟨m, rfl⟩ := Nat.exists_eq_add_of_le' (Nat.le_trans (Nat.le_add_left 1 n) hle)
      rw [List.replicate_succ, run, List.foldl_cons, htake]
      exact hrun m (Nat.le_of_succ_le_succ hle)

/-- A call that runs alone comes to its end. Its reply is that of the registry that held the same
before, and what is shared afterwards is what the registry holds after the call. -/
theorem run_alone (hs : s.AtRest) (hm : Mirrors s r handles) (answered : op.Answered openFailure r) :
    ∃ n s' handles', handles <+: handles' ∧ s'.AtRest ∧ Mirrors s' (r.call op.call).2 handles' ∧
      ∀ m, n ≤ m → (launch s [op]).run (List.replicate m (.call 0 openFailure)) =
        lone s' op (.done (r.call op.call).1) := by
  have hw : (lone s op .start).Consistent := consistent_launch hs [op]
  obtain ⟨n, s', handles', hprefix, hm', hrun⟩ := run_lone hw hm (.start answered)
  have hend := hw.run (List.replicate n (.call 0 openFailure))
  rw [hrun n (Nat.le_refl n)] at hend
  exact ⟨n, s', handles', hprefix, hend.atRest rfl, hm', hrun⟩

/-! ## Calls made one after another -/

/-- Steps of one call are the same when there are other calls, as long as these take none. -/
theorem run_among {m : Nat}
    (h : (lone s op st).run (List.replicate m (.call 0 openFailure)) = lone s' op st')
    (before after : List (Operation × Stage)) :
    ({ shared := s, calls := before ++ (op, st) :: after } : World).run
        (List.replicate m (.call before.length openFailure)) =
      { shared := s', calls := before ++ (op, st') :: after } := by
  induction m generalizing s st with
  | zero =>
    cases h
    rfl
  | succ m ih =>
    rw [List.replicate_succ, run, List.foldl_cons] at h ⊢
    cases hstep : advance op openFailure s st with
    | none =>
      have hlone : (lone s op st).take (.call 0 openFailure) = lone s op st := take_of_stuck hstep [] []
      rw [hlone] at h
      rw [take_of_stuck hstep]
      exact ih h
    | some next =>
      have hlone : (lone s op st).take (.call 0 openFailure) = lone next.2 op next.1 :=
        take_of_advance hstep [] []
      rw [hlone] at h
      rw [take_of_advance hstep]
      exact ih h

/-- How the attempt of an operation to open a channel ends on a registry, if it makes one. -/
def openingOf (r : Registry) : Operation → Option Failure
  | .connect id => r.openingFailure? id
  | _ => none

theorem answered_openingOf (r : Registry) (op : Operation) : op.Answered (openingOf r op) r := by
  cases op with
  | connect id => exact rfl
  | _ => exact trivial

/-- Calls that have their replies. -/
def replied (ops : List Operation) (replies : List Reply) : List (Operation × Stage) :=
  ops.zipWith (fun op reply => (op, .done reply)) replies

theorem run_in_turn (ops : List Operation) (hs : s.AtRest) (hm : Mirrors s r handles)
    (before : List (Operation × Stage)) : ∃ schedule s' handles',
      Mirrors s' (r.calls (ops.map Operation.call)).2 handles' ∧
      ({ shared := s, calls := before ++ ops.map fun op => (op, .start) } : World).run schedule =
        { shared := s', calls := before ++ replied ops (r.calls (ops.map Operation.call)).1 } := by
  induction ops generalizing s r handles before with
  | nil => exact ⟨[], s, handles, hm, rfl⟩
  | cons op ops ih =>
    obtain ⟨n, s₁, handles₁, -, hs₁, hm₁, hrun⟩ := run_alone hs hm (answered_openingOf r op)
    have hfirst := run_among (hrun n (Nat.le_refl n)) before (ops.map fun op => (op, .start))
    obtain ⟨schedule, s', handles', hm', hrest⟩ :=
      ih hs₁ hm₁ (before ++ [(op, .done (r.call op.call).1)])
    rw [List.append_assoc, List.append_assoc] at hrest
    refine ⟨List.replicate n (.call before.length (openingOf r op)) ++ schedule, s', handles', hm', ?_⟩
    rw [run, List.foldl_append]
    exact (congrArg (run · schedule) hfirst).trans hrest

/-- What a registry does with calls that are made one after another is one way in which these calls
may take their steps when they are made at the same time. -/
theorem calls_in_turn (ops : List Operation) (hr : r.IsNew) (hplain : r.Plain) :
    let (replies, r') := r.calls (ops.map Operation.call)
    ∃ schedule s handles, Mirrors s r' handles ∧
      (start ops).run schedule = { shared := s, calls := replied ops replies } :=
  run_in_turn ops Shared.atRest_nil (.nil hr hplain) []

end World

end ThermalPrint.Interleaving
