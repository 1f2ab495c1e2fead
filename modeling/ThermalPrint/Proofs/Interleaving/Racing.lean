import ThermalPrint.Proofs.Interleaving.Exclusion
import ThermalPrint.Proofs.Interleaving.Tending

/-! Calls that disconnect from one identifier or send to it, at the same time. They all use the slot that
holds its channel. One of those that disconnect takes the channel out, and nothing is put in after that. -/

namespace ThermalPrint.Interleaving

open Transport

variable {id : Identifier} {cell channel : Nat}

/-- What the calls answer, and that whoever has disconnected leaves the slot empty. -/
def Operation.Answers (content : Option Nat) (reply : Reply) : Operation → Prop
  | .disconnect _ => content = none ∧ (reply = .done ∨ reply = .failure .notConnected)
  | _ => reply = .done ∨ reply = .failure .notConnected ∨
    reply = .failure (.writeFailed "broken pipe")

/-- What the calls do at their stages. -/
def Stage.Plays (cell channel : Nat) (content : Option Nat) (op : Operation) : Stage → Prop
  | .start => True
  | .waiting c | .working c => c = cell
  | .closing c old new => c = cell ∧ old = channel ∧ new = none
  | .writing c n _ => c = cell ∧ n = channel
  | .unlocking c reply prunes | .lettingGo c reply prunes =>
    c = cell ∧ prunes = true ∧ op.Answers content reply
  | .pruning reply | .done reply => op.Answers content reply
  | _ => False

theorem Operation.Answers.empty {op : Operation} {content : Option Nat} {reply : Reply}
    (h : op.Answers content reply) : op.Answers none reply := by
  cases op with
  | disconnect => exact ⟨rfl, h.2⟩
  | connect | send | isConnected | connected | closeAll => exact h

theorem Stage.Plays.empty {op : Operation} {st : Stage} {content : Option Nat}
    (h : st.Plays cell channel content op) : st.Plays cell channel none op := by
  cases st with
  | unlocking => exact ⟨h.1, h.2.1, h.2.2.empty⟩
  | lettingGo => exact ⟨h.1, h.2.1, h.2.2.empty⟩
  | pruning => exact Operation.Answers.empty h
  | done => exact Operation.Answers.empty h
  | start | waiting | working | closing | writing => exact h
  | opened | storing | visiting | inspecting | releasing | closingTaken | leaving | sweeping => cases h

/-- A call that disconnects has taken the channel out of the slot. -/
def hasTaken : Operation × Stage → Bool
  | (.disconnect _, .closing _ _ _) => true
  | (.disconnect _, st) => st.reply? = some .done
  | _ => false

/-- Writes on a channel are refused. -/
def Shared.refuses (s : Shared) (channel : Nat) : Bool :=
  (s.channels[channel]?).any (·.channel.log.failWrites)

theorem Shared.refuses_of_beginWrite {s : Shared} {f : Failure} (hopen : s.isOpen channel = true)
    (h : (s.beginWrite channel).1 = some f) :
    s.refuses channel = true ∧ f = .writeFailed "broken pipe" := by
  unfold Shared.isOpen at hopen
  unfold Shared.beginWrite at h
  unfold Shared.refuses
  cases hl : s.channels[channel]? with
  | none => simp [hl] at hopen
  | some line =>
    rw [hl, Option.any_some] at hopen
    simp only [hl] at h
    have hwrite : line.channel.phase.canWrite = true := hopen
    simp only [Channel.write, hwrite] at h
    cases hfail : line.channel.log.failWrites with
    | false => simp [hfail] at h
    | true =>
      simp only [hfail] at h
      cases h
      exact ⟨hfail, rfl⟩

namespace World

variable {w w' : World} {t : Turn}

/-- Calls that disconnect from an identifier or send to it are under way, on the slot that held its
channel. -/
structure Racing (id : Identifier) (cell channel : Nat) (w : World) : Prop where
  consistent : w.Consistent
  uses : ∀ x ∈ w.calls, x.1.IsUse id
  slot : ∀ c, (id, c) ∈ w.shared.entries → c = cell
  owner : w.shared.owner? channel = some id
  content : w.shared.content cell = some channel ∨ w.shared.content cell = none
  plays : ∀ x ∈ w.calls, x.2.Plays cell channel (w.shared.content cell) x.1
  /-- The channel is in the slot, or one call has taken it out. -/
  once : w.calls.countP hasTaken + (w.shared.content cell).toList.length = 1

end World

/-! ## One step -/

namespace Course

variable {op : Operation} {s s' : Shared} {st st' : Stage}

theorem mem_entries (h : Course id s op st st' s') {e : Identifier × Nat} (he : e ∈ s'.entries) :
    e ∈ s.entries := by
  cases h with
  | refuse | beginWrite =>
    rw [Shared.beginWrite_snd] at he
    exact he
  | prune => exact (List.mem_filter.1 he).1
  | absent | hold | lock | empty | take | close | write | finish | unlock | letGo => exact he

/-- What the slot holds changes only when a call that disconnects takes it out. -/
theorem content (h : Course id s op st st' s')
    (hcontent : s.content cell = some channel ∨ s.content cell = none)
    (hp : st.Plays cell channel (s.content cell) op) :
    s'.content cell = s.content cell ∧ hasTaken (op, st') = hasTaken (op, st) ∨
      s.content cell = some channel ∧ s'.content cell = none ∧ hasTaken (op, st) = false ∧
        hasTaken (op, st') = true := by
  cases h with
  | take content =>
    cases hp
    have hnone : (s.setContent cell none).content cell = none := by
      rw [Shared.content_setContent (Shared.lt_of_content content), if_pos rfl]
    refine .inr ⟨hcontent.resolve_right fun hc => ?_, hnone, rfl, rfl⟩
    cases hc.symm.trans content
  | absent | empty => cases op <;> exact .inl ⟨rfl, rfl⟩
  | hold => cases op <;> exact .inl ⟨Shared.content_hold, rfl⟩
  | lock => cases op <;> exact .inl ⟨Shared.content_setLock, rfl⟩
  | close | write | finish => exact .inl ⟨rfl, rfl⟩
  | refuse | beginWrite =>
    rw [Shared.beginWrite_snd]
    exact .inl ⟨rfl, rfl⟩
  | unlock => cases op <;> exact .inl ⟨Shared.content_setLock, rfl⟩
  | @letGo _ c reply prunes => cases op <;> cases prunes <;> exact .inl ⟨Shared.content_letGo, rfl⟩
  | prune => cases op <;> exact .inl ⟨rfl, rfl⟩

/-- What a call does at its next stage. -/
theorem plays (h : Course id s op st st' s') (hop : op.IsUse id) (hfits : st.Fits op s)
    (hslot : ∀ c, (id, c) ∈ s.entries → c = cell)
    (hplace : s.content cell = some channel → (id, cell) ∈ s.entries)
    (hopen : s.content cell = some channel → s.isOpen channel = true)
    (hcontent : s.content cell = some channel ∨ s.content cell = none)
    (hp : st.Plays cell channel (s.content cell) op) :
    st'.Plays cell channel (s'.content cell) op := by
  have notConnected (hnone : s.content cell = none) :
      op.Answers (s.content cell) (.failure .notConnected) := by
    obtain rfl | ⟨bytes, rfl⟩ := hop
    · exact ⟨hnone, .inr rfl⟩
    · exact .inr (.inl rfl)
  cases h with
  | absent entry =>
    refine notConnected (hcontent.resolve_left fun hc => ?_)
    exact Shared.not_mem_keys_of_find entry (List.mem_map.2 ⟨_, hplace hc, rfl⟩)
  | hold entry => exact hslot _ (Shared.mem_entries_of_find entry)
  | lock => exact hp
  | empty content =>
    cases hp
    exact ⟨rfl, rfl, notConnected content⟩
  | take content =>
    cases hp
    rcases hcontent with hc | hc
    · cases hc.symm.trans content
      exact ⟨rfl, rfl, rfl⟩
    · cases hc.symm.trans content
  | close =>
    obtain ⟨rfl, rfl, -⟩ := hp
    exact ⟨rfl, rfl, hfits.1, .inl rfl⟩
  | refuse content refusal =>
    cases hp
    rcases hcontent with hc | hc
    · cases hc.symm.trans content
      obtain ⟨-, rfl⟩ := Shared.refuses_of_beginWrite (hopen hc) refusal
      exact ⟨rfl, rfl, .inr (.inr rfl)⟩
    · cases hc.symm.trans content
  | beginWrite content =>
    cases hp
    rcases hcontent with hc | hc
    · cases hc.symm.trans content
      exact ⟨rfl, rfl⟩
    · cases hc.symm.trans content
  | write => exact hp
  | finish => exact ⟨hp.1, rfl, .inl rfl⟩
  | unlock =>
    rw [Shared.content_setLock]
    exact hp
  | letGo =>
    obtain ⟨-, rfl, hanswers⟩ := hp
    rw [Shared.content_letGo]
    exact hanswers
  | prune => exact hp

end Course

namespace World.Racing

variable {w w' : World} {t : Turn}

theorem mem_entries (hr : Racing id cell channel w) (hc : w.shared.content cell = some channel) :
    (id, cell) ∈ w.shared.entries := by
  obtain ⟨id', howner, he⟩ := hr.consistent.balanced.content_owner _ _ hc
  cases howner.symm.trans hr.owner
  exact he

theorem took (hr : Racing id cell channel w) (h : Took w t w') : Racing id cell channel w' := by
  have hconsistent := hr.consistent.took h
  cases h with
  | idle => exact hr
  | switch =>
    exact ⟨hconsistent, hr.uses, hr.slot, (Shared.owner?_updateChannel _ _).trans hr.owner, hr.content,
      hr.plays, hr.once⟩
  | @call i openFailure op st st' s' hi hstep =>
    have hmem := List.mem_of_getElem? hi
    have hop := hr.uses _ hmem
    have hfits := hr.consistent.fits _ hmem
    have hcourse := course_of_advance hop hfits hstep
    obtain ⟨m, hm, rfl, -⟩ := hr.consistent.steps hi hstep
    have hplays := hcourse.plays hop hfits hr.slot hr.mem_entries
      (fun hc => (hr.consistent.balanced.isOpen_of_content hc).1) hr.content (hr.plays _ hmem)
    have hchange := hcourse.content hr.content (hr.plays _ hmem)
    have hempty : (m.apply w.shared).content cell = w.shared.content cell ∨
        (m.apply w.shared).content cell = none := hchange.imp And.left fun h => h.2.1
    refine ⟨hconsistent, fun x hx => ?_, fun c hc => hr.slot c (hcourse.mem_entries hc),
      hm.owner? hr.owner, ?_, fun x hx => ?_, ?_⟩
    · rcases List.mem_or_eq_of_mem_set hx with hx | rfl
      · exact hr.uses x hx
      · exact hop
    · rcases hempty with hsame | hnone
      · rw [hsame]
        exact hr.content
      · exact .inr hnone
    · rcases List.mem_or_eq_of_mem_set hx with hx | rfl
      · rcases hempty with hsame | hnone
        · rw [hsame]
          exact hr.plays x hx
        · rw [hnone]
          exact (hr.plays x hx).empty
      · exact hplays
    · obtain ⟨hlt, hget⟩ := List.getElem?_eq_some_iff.1 hi
      have honce := hr.once
      rw [List.countP_set hlt, hget]
      rcases hchange with ⟨hsame, htaken⟩ | ⟨hfull, hnone, hbefore, hafter⟩
      · rw [hsame, htaken]
        cases hb : hasTaken (op, st) with
        | false => simpa using honce
        | true =>
          have hpos : 0 < w.calls.countP hasTaken := List.countP_pos_iff.2 ⟨_, hmem, hb⟩
          simp only [if_true]
          omega
      · rw [hfull] at honce
        rw [hnone, hbefore, hafter]
        simpa using honce

theorem run (hr : Racing id cell channel w) (schedule : List Turn) :
    Racing id cell channel (w.run schedule) := by
  induction schedule generalizing w with
  | nil => exact hr
  | cons t ts ih => exact ih (hr.took (w.take_took t))

end World.Racing

end ThermalPrint.Interleaving
