import ThermalPrint.Proofs.Interleaving.Tending

/-! Which slots are left when all calls have their replies. A call that succeeds in connecting, and one
that finds a connection, lets go of the slot without dropping it. If another empties the slot before
that, nobody drops it, and an empty slot stays. -/

namespace ThermalPrint.Interleaving

open Transport

/-- An identifier has a slot that holds a channel. -/
def Shared.Connects (s : Shared) (id : Identifier) : Prop :=
  ∃ cell, s.entry? id = some cell ∧ s.content cell ≠ none

def Turn.caller? : Turn → Option Nat
  | .call i _ => some i
  | .switch _ _ _ => none

namespace World

variable {w w' : World} {t : Turn} {cell : Nat}

/-- A call has given up the lock of a slot, and lets go of it next without dropping it. -/
def isLeaving (w : World) (i : Nat) : Bool :=
  match w.calls[i]? with
  | some (_, .lettingGo _ _ false) => true
  | _ => false

theorem isLeaving_iff {i : Nat} : w.isLeaving i = true ↔
    ∃ op cell reply, w.calls[i]? = some (op, .lettingGo cell reply false) := by
  constructor
  · intro h
    unfold isLeaving at h
    split at h
    · next hi => exact ⟨_, _, _, hi⟩
    · cases h
  · rintro ⟨op, cell, reply, hi⟩
    simp only [isLeaving, hi]

/-- Nothing comes between giving up the lock of a slot and letting go of it, unless the slot is dropped
after that. -/
def Prompt (w : World) : List Turn → Prop
  | [] => True
  | t :: ts => (∀ i, i < w.calls.length → w.isLeaving i = true → t.caller? = some i) ∧
    (w.take t).Prompt ts

instance decidablePrompt (w : World) : (schedule : List Turn) → Decidable (w.Prompt schedule)
  | [] => .isTrue trivial
  | t :: ts =>
    have := decidablePrompt (w.take t) ts
    inferInstanceAs (Decidable (_ ∧ _))

/-- No call is about to leave an empty slot behind. -/
def Guarded (w : World) : Prop := ∀ (i : Nat) (op : Operation) cell reply,
  w.calls[i]? = some (op, .lettingGo cell reply false) → w.shared.content cell ≠ none

/-- A call comes to let go of a slot by giving up its lock. -/
theorem unlocking_of_advance {op : Operation} {openFailure : Option Failure} {s s' : Shared}
    {st : Stage} {reply : Reply} {prunes : Bool}
    (h : advance op openFailure s st = some (.lettingGo cell reply prunes, s')) :
    st = .unlocking cell reply prunes ∧ s' = s.setLock cell false := by
  cases st with
  | unlocking c r p =>
    cases h
    exact ⟨rfl, rfl⟩
  | start =>
    simp only [advance] at h
    split at h
    · cases h
    · split at h <;> cases h
    · split at h <;> cases h
    · split at h <;> cases h
    · cases h
    · cases h
  | working c =>
    simp only [advance, work] at h
    split at h
    · split at h <;> cases h
    · cases h
    · split at h <;> cases h
    · cases h
    · cases h
    · cases h
    · cases h
    · cases h
  | lettingGo c r p => cases p <;> cases h
  | waiting | opened | inspecting =>
    simp only [advance] at h
    split at h <;> cases h
  | visiting rest seen =>
    cases rest with
    | nil => cases h
    | cons e rest =>
      simp only [advance] at h
      split at h <;> cases h
  | closing c old new => cases new <;> cases h
  | writing c channel rest => cases rest <;> cases h
  | releasing id c taken rest seen => cases taken <;> cases h
  | storing | pruning | closingTaken | leaving | sweeping | done => cases h

theorem Guarded.took (hg : w.Guarded) (hw : w.Consistent) (h : Took w t w')
    (hprompt : ∀ i, i < w.calls.length → w.isLeaving i = true → t.caller? = some i) :
    w'.Guarded := by
  cases h with
  | idle => exact hg
  | switch => exact hg
  | @call i openFailure op st st' s' hi hstep =>
    intro j op₂ cell reply hj
    rcases getElem?_of_set hj with ⟨rfl, heq⟩ | ⟨hij, hj⟩
    · cases heq
      obtain ⟨rfl, rfl⟩ := unlocking_of_advance hstep
      rw [Shared.content_setLock]
      exact (hw.fits _ (List.mem_of_getElem? hi)).2 rfl
    · -- another call that leaves its slot would have had the turn
      have hlt := (List.getElem?_eq_some_iff.1 hj).1
      have hturn := hprompt j hlt (isLeaving_iff.2 ⟨op₂, cell, reply, hj⟩)
      exact absurd (Option.some.inj hturn) hij

theorem Guarded.not_abandons (hg : w.Guarded) : ¬w.Abandons t cell := by
  rintro ⟨hc, i, openFailure, op, reply, -, hi⟩
  exact hg i op cell reply hi hc

/-- A prompt schedule leaves no empty slot behind. -/
theorem Guarded.run (hg : w.Guarded) (hw : w.Consistent) {schedule before after : List Turn}
    (hprompt : w.Prompt schedule) (h : schedule = before ++ t :: after) :
    ¬(w.run before).Abandons t cell := by
  induction before generalizing w schedule with
  | nil => exact hg.not_abandons
  | cons t₀ before ih =>
    subst h
    exact ih (hg.took hw (w.take_took t₀) hprompt.1) (hw.take t₀) hprompt.2 rfl

theorem guarded_start (ops : List Operation) : (start ops).Guarded := by
  intro i op cell reply hi
  obtain ⟨op', -, he⟩ := List.mem_map.1 (List.mem_of_getElem? hi)
  cases he

theorem tended_start (ops : List Operation) (id : Identifier) (cell : Nat) :
    (start ops).Tended id cell := fun he => nomatch he

end World

/-- If every slot holds a channel, there are as many slots as connected identifiers. -/
theorem Balanced.length_entries {s : Shared} {kits : List Kit} (hb : Balanced s kits)
    (hfull : ∀ id cell, (id, cell) ∈ s.entries → s.content cell ≠ none) :
    ∃ ids : List Identifier, ids.Nodup ∧ (∀ id, id ∈ ids ↔ s.Connects id) ∧
      s.entries.length = ids.length := by
  refine ⟨s.entries.map (·.1), hb.keys_nodup, fun id => ?_, (List.length_map _).symm⟩
  constructor
  · intro hid
    obtain ⟨⟨id, cell⟩, he, rfl⟩ := List.mem_map.1 hid
    exact ⟨cell, (Shared.entry?_eq_some_iff hb.keys_nodup).2 he, hfull id cell he⟩
  · rintro ⟨cell, he, -⟩
    exact List.mem_map.2 ⟨_, Shared.mem_entries_of_find he, rfl⟩

namespace World

/-- When all calls have their replies, an empty slot is one that a call abandoned. So if every call lets
go of a slot promptly, there is a slot for every connected identifier, and no other. -/
theorem entries_after (ops : List Operation) (schedule : List Turn)
    (hsettled : ((start ops).run schedule).isSettled = true) :
    let s := ((start ops).run schedule).shared
    (∀ id cell, (id, cell) ∈ s.entries → s.content cell = none → ∃ before t after,
      schedule = before ++ t :: after ∧ ((start ops).run before).Abandons t cell) ∧
    ((start ops).Prompt schedule → (∀ id cell, (id, cell) ∈ s.entries → s.content cell ≠ none) ∧
      ∃ ids : List Identifier, ids.Nodup ∧ (∀ id, id ∈ ids ↔ s.Connects id) ∧
        s.entries.length = ids.length) := by
  intro s
  have hw := consistent_start ops
  have hleft : ∀ id cell, (id, cell) ∈ s.entries → s.content cell = none → ∃ before t after,
      schedule = before ++ t :: after ∧ ((start ops).run before).Abandons t cell := by
    intro id cell he hc
    rcases (tended_start ops id cell).run hw schedule with htended | habandoned
    · exact absurd hc (htended.content_ne_none hsettled he)
    · exact habandoned
  refine ⟨hleft, fun hprompt => ?_⟩
  have hfull : ∀ id cell, (id, cell) ∈ s.entries → s.content cell ≠ none := by
    intro id cell he hc
    obtain ⟨before, t, after, hsplit, habandons⟩ := hleft id cell he hc
    exact (guarded_start ops).run hw hprompt hsplit habandons
  exact ⟨hfull, (hw.run schedule).balanced.length_entries hfull⟩

/-- Two printers are connected to while one call waits to disconnect and another sends: every call lets
go of its slot promptly, and the slot of the first printer is dropped. -/
theorem entries_after_connecting :
    let p : Identifier := ⟨"p", rfl⟩
    let q : Identifier := ⟨"q", rfl⟩
    let ops : List Operation := [.connect p, .disconnect p, .send p [1, 2], .connect q]
    let turns := [0, 0, 0, 1, 2, 3, 0, 3, 0, 0, 0, 2, 1, 3, 2, 3, 2, 1, 3, 2, 3, 3, 2, 2, 1, 2, 1, 2,
      1, 1, 1, 1]
    let schedule := turns.map fun i => Turn.call i
    let s := ((start ops).run schedule).shared
    ((start ops).run schedule).isSettled = true ∧ (start ops).Prompt schedule ∧
      s.channels.map (·.channel.log.sent) = [[1, 2], []] ∧ s.entries.length = 1 ∧
      ∃ ids : List Identifier, ids.Nodup ∧ (∀ id, id ∈ ids ↔ s.Connects id) ∧
        s.entries.length = ids.length := by
  intro p q ops turns schedule s
  have hsettled : ((start ops).run schedule).isSettled = true := by decide +kernel
  have hprompt : (start ops).Prompt schedule := by decide +kernel
  have hsent : s.channels.map (·.channel.log.sent) = [[1, 2], []] := by decide +kernel
  have hlength : s.entries.length = 1 := by decide +kernel
  exact ⟨hsettled, hprompt, hsent, hlength, ((entries_after ops schedule hsettled).2 hprompt).2⟩

/-- A call that disconnects comes between the two last steps of one that connects, and an empty slot is
left. -/
theorem entries_after_overtaking :
    let p : Identifier := ⟨"p", rfl⟩
    let schedule := List.replicate 6 (Turn.call 0) ++ List.replicate 7 (.call 1) ++ [.call 0]
    let w := (start [.connect p, .disconnect p]).run schedule
    w.calls.map (·.2) = [.done (.kind .bluetooth), .done .done] ∧ w.isSettled = true ∧
      w.shared.entries.length = 1 ∧ ∀ e ∈ w.shared.entries, w.shared.content e.2 = none := by
  decide +kernel

end World

end ThermalPrint.Interleaving
