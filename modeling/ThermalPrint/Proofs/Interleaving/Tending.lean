import ThermalPrint.Proofs.Interleaving.Consistent

/-! Who sees to a slot that holds nothing: a call that has got hold of it, or is about to drop it. A slot
is left behind only by a call that lets go of it when it is already empty, and does not drop it. -/

namespace ThermalPrint.Interleaving

open Transport

namespace Stage

variable {op : Operation} {s s' : Shared} {st st' : Stage} {id : Identifier} {cell : Nat}
  {openFailure : Option Failure}

/-- The call goes through all slots, and drops what is of no use at the end. -/
def sweeps : Stage → Bool
  | .visiting _ _ | .inspecting _ _ _ _ | .releasing _ _ _ _ _ | .closingTaken _ _ _ _ _
  | .leaving _ _ _ _ | .sweeping _ => true
  | _ => false

/-- The call will drop the slot of an identifier if it is of no use then. -/
def Tends (op : Operation) (id : Identifier) (cell : Nat) (st : Stage) : Prop :=
  cell ∈ st.handles ∨ (∃ reply, st = .pruning reply ∧ op.identifier? = some id) ∨ st.sweeps = true

theorem handles_work (h : work op openFailure cell s = some (st', s')) : st'.handles = [cell] := by
  unfold work at h
  split at h
  · split at h <;> cases h <;> rfl
  · cases h
    rfl
  · split at h <;> cases h <;> rfl
  · cases h
    rfl
  · cases h
    rfl
  · cases h
    rfl
  · cases h
  · cases h

/-- A call on one identifier keeps hold of the slot until it lets go of it. -/
theorem handles_advance (h : advance op openFailure s st = some (st', s')) (hs : st.sweeps = false) :
    st.handles = [] ∨ st'.handles = st.handles ∨ ∃ c reply prunes, st = .lettingGo c reply prunes := by
  cases st with
  | start | pruning | done => exact .inl rfl
  | waiting c =>
    simp only [advance] at h
    split at h <;> cases h
    exact .inr (.inl rfl)
  | working c => exact .inr (.inl (handles_work h))
  | opened c new =>
    simp only [advance] at h
    split at h <;> cases h <;> exact .inr (.inl rfl)
  | closing c old new => cases new <;> cases h <;> exact .inr (.inl rfl)
  | storing c new =>
    cases h
    exact .inr (.inl rfl)
  | writing c channel rest => cases rest <;> cases h <;> exact .inr (.inl rfl)
  | unlocking c reply prunes =>
    cases h
    exact .inr (.inl rfl)
  | lettingGo c reply prunes => exact .inr (.inr ⟨c, reply, prunes, rfl⟩)
  | visiting | inspecting | releasing | closingTaken | leaving | sweeping => cases hs

theorem sweeps_advance (h : advance op openFailure s st = some (st', s')) (hs : st.sweeps = true) :
    st'.sweeps = true ∨ ∃ seen, st = .sweeping seen := by
  cases st with
  | visiting rest seen =>
    cases rest with
    | nil =>
      cases h
      exact .inl rfl
    | cons e rest =>
      simp only [advance] at h
      split at h <;> cases h
      exact .inl rfl
  | inspecting id c rest seen =>
    simp only [advance] at h
    split at h <;> cases h <;> exact .inl rfl
  | releasing id c taken rest seen => cases taken <;> cases h <;> exact .inl rfl
  | closingTaken id c channel rest seen =>
    cases h
    exact .inl rfl
  | leaving id c rest seen =>
    cases h
    exact .inl rfl
  | sweeping seen => exact .inr ⟨seen, rfl⟩
  | start | waiting | working | opened | closing | storing | writing | unlocking | lettingGo | pruning
  | done => cases hs

/-- A call goes on to see to a slot until it lets go of it without dropping it, or comes to drop it. -/
theorem Tends.advance (ht : st.Tends op id cell) (hfits : st.Fits op s)
    (h : Interleaving.advance op openFailure s st = some (st', s'))
    (hid : cell ∈ st.handles → ∀ id', op.identifier? = some id' → id' = id) :
    st'.Tends op id cell ∨ (∃ reply, st = .lettingGo cell reply false) ∨
      (∃ reply, st = .pruning reply ∧ op.identifier? = some id) ∨ ∃ seen, st = .sweeping seen := by
  cases hs : st.sweeps with
  | true =>
    rcases sweeps_advance h hs with hs' | hsweeping
    · exact .inl (.inr (.inr hs'))
    · exact .inr (.inr (.inr hsweeping))
  | false =>
    rcases ht with hc | hpruning | hs'
    · rcases handles_advance h hs with hnil | hsame | ⟨c, reply, prunes, rfl⟩
      · rw [hnil] at hc
        cases hc
      · exact .inl (.inl (hsame ▸ hc))
      · cases List.mem_singleton.1 hc
        cases prunes with
        | false => exact .inr (.inl ⟨reply, rfl⟩)
        | true =>
          obtain ⟨id', hop⟩ := hfits
          cases hid hc id' hop
          cases h
          exact .inl (.inr (.inl ⟨reply, rfl, hop⟩))
    · exact .inr (.inr (.inl hpruning))
    · cases hs.symm.trans hs'

end Stage

/-! ## Slots that hold nothing -/

section
variable {s : Shared} {kits : List Kit} {k k' : Kit} {m : Move}

/-- A slot that is empty after a step was so before, or the call has got hold of it. -/
theorem Move.Changes.old_of_new (hb : Balanced s kits) (hk : k ∈ kits) (h : m.Changes s k k')
    {e : Identifier × Nat} (he : e ∈ (m.apply s).entries) (hc : (m.apply s).content e.2 = none) :
    e.2 ∈ k'.cells ∨ e ∈ s.entries ∧ s.content e.2 = none := by
  rcases h.content hb hk e.2 with hsame | ⟨-, hlock, -⟩
  · obtain ⟨id, -, rfl⟩ | ⟨p, -, heq⟩ := h.entries
    · rcases List.mem_append.1 he with he | he
      · exact .inr ⟨he, hsame ▸ hc⟩
      · cases List.mem_singleton.1 he
        cases h
        exact .inl (List.mem_singleton.2 rfl)
    · rw [heq] at he
      exact .inr ⟨(List.mem_filter.1 he).1, hsame ▸ hc⟩
  · exact .inl (h.lock_mem hb hk hlock)

end

namespace World

variable {w w' : World} {t : Turn} {id : Identifier} {cell : Nat}

/-- If the slot of an identifier holds nothing, some call sees to it. -/
def Tended (w : World) (id : Identifier) (cell : Nat) : Prop :=
  (id, cell) ∈ w.shared.entries → w.shared.content cell = none →
    ∃ (j : Nat) (op : Operation) (st : Stage), w.calls[j]? = some (op, st) ∧ st.Tends op id cell

/-- A call lets go of a slot that holds nothing, and does not drop it. -/
def Abandons (w : World) (t : Turn) (cell : Nat) : Prop :=
  w.shared.content cell = none ∧ ∃ i openFailure op reply, t = .call i openFailure ∧
    w.calls[i]? = some (op, .lettingGo cell reply false)

/-- An empty slot is of use only as long as a call has got hold of it. -/
theorem Consistent.exists_holder (hw : w.Consistent) (hused : w.shared.isUnused cell = false)
    (hc : w.shared.content cell = none) :
    ∃ (j : Nat) (op : Operation) (st : Stage), w.calls[j]? = some (op, st) ∧ cell ∈ st.handles := by
  have hmem : ∃ k ∈ w.kits, cell ∈ k.cells := by
    rcases Shared.isUnused_eq_false_iff.1 hused with hh | hl | hn
    · rw [hw.balanced.handles] at hh
      exact List.mem_flatMap.1 (List.count_pos_iff.1 (Nat.pos_of_ne_zero hh))
    · have hpos : 0 < total Kit.locks w.kits cell := by
        rw [← hw.balanced.locks, hl]
        exact Nat.one_pos
      obtain ⟨k, hk, hlock⟩ := List.mem_flatMap.1 (List.count_pos_iff.1 hpos)
      exact ⟨k, hk, hw.balanced.lock_mem k hk cell (Option.mem_toList.1 hlock)⟩
    · exact absurd hc hn
  obtain ⟨k, hk, hcell⟩ := hmem
  obtain ⟨op, st, hcall, rfl⟩ := exists_of_mem_kits hk
  obtain ⟨j, hj⟩ := List.mem_iff_getElem?.1 hcall
  exact ⟨j, op, st, hj, Stage.kit_cells (hw.fits _ hcall) ▸ hcell⟩

/-- An identifier has the slot that a call on it has got hold of. -/
theorem Consistent.mem_entries_of_handles (hw : w.Consistent) {i : Nat} {op : Operation} {st : Stage}
    (hi : w.calls[i]? = some (op, st)) (hc : cell ∈ st.handles) (hop : op.identifier? = some id) :
    (id, cell) ∈ w.shared.entries := by
  have hfits := hw.fits _ (List.mem_of_getElem? hi)
  refine hw.balanced.grips _ (List.mem_of_getElem? (getElem?_kits hi)) _ ?_
  have single {c : Nat} (hc : cell ∈ [c]) : (id, cell) ∈ op.grips c := by
    cases List.mem_singleton.1 hc
    rw [Operation.grips_eq hop]
    exact List.mem_singleton.2 rfl
  cases st with
  | waiting | working | opened | closing | storing | writing | unlocking | lettingGo => exact single hc
  | visiting | inspecting | releasing | closingTaken | leaving =>
    rcases hfits with rfl | rfl <;> cases hop
  | start | pruning | sweeping | done => cases hc

/-- Some call goes on to see to an empty slot, unless it is abandoned. -/
theorem Tended.took (ht : w.Tended id cell) (hw : w.Consistent) (h : Took w t w')
    (hkept : ¬w.Abandons t cell) : w'.Tended id cell := by
  cases h with
  | idle => exact ht
  | switch => exact fun he hc => ht he hc
  | @call i openFailure op st st' s' hi hstep =>
    intro he hc
    obtain ⟨m, hm, hs', hfits'⟩ := hw.steps hi hstep
    have hself := getElem?_set_of_some hi (op, st')
    have hk := List.mem_of_getElem? (getElem?_kits hi)
    have other {j : Nat} {op₂ : Operation} {st₂ : Stage} (hj : w.calls[j]? = some (op₂, st₂))
        (hij : i ≠ j) (hst₂ : st₂.Tends op₂ id cell) :
        ∃ (j : Nat) (op₂ : Operation) (st₂ : Stage),
          (w.calls.set i (op, st'))[j]? = some (op₂, st₂) ∧ st₂.Tends op₂ id cell :=
      ⟨j, op₂, st₂, by rw [List.getElem?_set_ne hij, hj], hst₂⟩
    rcases hm.old_of_new hw.balanced hk (hs' ▸ he) (hs' ▸ hc) with hcell | ⟨hold, hcold⟩
    · exact ⟨i, op, st', hself, .inl (Stage.kit_cells hfits' ▸ hcell)⟩
    obtain ⟨j, op₂, st₂, hj, hst₂⟩ := ht hold hcold
    by_cases hij : i = j
    · subst hij
      cases hi.symm.trans hj
      -- if the call drops what is of no use, and the slot stays, then another call has got hold of it
      have dropped (hnil : st.handles = []) (hused : w.shared.isUnused cell = false) :
          ∃ (j : Nat) (op₂ : Operation) (st₂ : Stage),
            (w.calls.set i (op, st'))[j]? = some (op₂, st₂) ∧ st₂.Tends op₂ id cell := by
        obtain ⟨j, op₂, st₂, hj, hcell⟩ := hw.exists_holder hused hcold
        refine other hj (fun hij => ?_) (.inl hcell)
        subst hij
        cases hi.symm.trans hj
        rw [hnil] at hcell
        cases hcell
      have hid : cell ∈ st.handles → ∀ id', op.identifier? = some id' → id' = id := fun hcell id' hop =>
        hw.balanced.key_eq (hw.mem_entries_of_handles hi hcell hop) hold
      rcases hst₂.advance (hw.fits _ (List.mem_of_getElem? hi)) hstep hid with
        hst' | ⟨reply, rfl⟩ | ⟨reply, rfl, hop⟩ | ⟨seen, rfl⟩
      · exact ⟨i, op, st', hself, hst'⟩
      · exact absurd ⟨hcold, i, openFailure, op, reply, rfl, hi⟩ hkept
      · simp only [advance, hop] at hstep
        cases hstep
        refine dropped rfl ?_
        have := (List.mem_filter.1 he).2
        simpa using this
      · cases hstep
        refine dropped rfl ?_
        have := (List.mem_filter.1 he).2
        simpa using this
    · exact other hj hij hst₂

/-- A slot that is left behind was abandoned. -/
theorem Tended.run (ht : w.Tended id cell) (hw : w.Consistent) (schedule : List Turn) :
    (w.run schedule).Tended id cell ∨
      ∃ before t after, schedule = before ++ t :: after ∧ (w.run before).Abandons t cell := by
  induction schedule generalizing w with
  | nil => exact .inl ht
  | cons t ts ih =>
    by_cases habandons : w.Abandons t cell
    · exact .inr ⟨[], t, ts, rfl, habandons⟩
    · rcases ih (ht.took hw (w.take_took t) habandons) (hw.take t) with htended | ⟨before, t', after, h, hd⟩
      · exact .inl htended
      · exact .inr ⟨t :: before, t', after, congrArg (t :: ·) h, hd⟩

/-- When all calls have their replies, nobody sees to a slot. -/
theorem Tended.content_ne_none (ht : w.Tended id cell) (hsettled : w.isSettled = true)
    (he : (id, cell) ∈ w.shared.entries) : w.shared.content cell ≠ none := by
  intro hc
  obtain ⟨j, op, st, hj, hst⟩ := ht he hc
  obtain ⟨reply, hdone⟩ := exists_done hsettled (List.mem_of_getElem? hj)
  cases hdone
  rcases hst with hcell | ⟨reply', hpruning, -⟩ | hsweeps
  · cases hcell
  · cases hpruning
  · cases hsweeps

end World

end ThermalPrint.Interleaving
