import ThermalPrint.Proofs.Registry.Ownership

/-! Every byte reaches the right printer, and reaches it once: what was sent on a channel is what
the calls delivered to its owner while it was the channel held. -/

namespace ThermalPrint.Registry

open Transport

/-- The bytes that were sent on a channel. -/
def View.sentOn (v : View) (h : Handle) : Bytes := ((v.seen h).map (·.channel.log.sent)).getD []

variable {r : Registry} {e : Event} {effect : Effect} {owner : Identifier} {h k : Handle}

theorem View.sentOn_eq {v v' : View}
    (hs : (v'.seen h).map (·.channel.log.sent) = (v.seen h).map (·.channel.log.sent)) :
    v'.sentOn h = v.sentOn h := congrArg (Option.getD · []) hs

theorem sentOn_view {l : Line} (hl : r.line? h = some l) :
    r.view.sentOn h = l.channel.log.sent := by
  simp only [View.sentOn, seen_view, hl]
  rfl

theorem View.sentOn_update (v : View) {f : Line → Line}
    (hf : ∀ l, (f l).channel.log.sent = l.channel.log.sent) :
    (v.update k f).sentOn h = v.sentOn h := by
  apply View.sentOn_eq
  simp only [View.update]
  split
  · simp [Function.comp_def, hf]
  · rfl

theorem View.sentOn_deliver {v : View} {l : Line} (hl : v.seen h = some l) (bytes : Bytes) :
    (v.update h (Line.deliver bytes)).sentOn h = v.sentOn h ++ bytes := by
  simp [View.sentOn, View.update, hl, Line.deliver]

theorem View.sentOn_opened {v : View} {id : Identifier} {kind : Kind} (hn : v.seen k = none) :
    ((Effect.opened id k kind).apply v).sentOn h = v.sentOn h := by
  simp only [View.sentOn, Effect.apply]
  by_cases hk : h = k
  · rw [if_pos hk, hk, hn]
    split <;> rfl
  · rw [if_neg hk]
    split
    · rw [Option.map_map]
      rfl
    · rfl

theorem Event.deliveredTo_of_payload (hp : e.payload = []) : e.deliveredTo owner h = [] := by
  unfold Event.deliveredTo
  split
  · exact hp
  · rfl

/-- An effect other than a write sends nothing, and its call has no payload. -/
theorem Effect.Explains.quiet_or_wrote (he : effect.Explains e) :
    (e.payload = [] ∧ ∀ h, (effect.apply e.before.view).sentOn h = e.before.view.sentOn h) ∨
      ∃ id h, effect = .wrote id h e.payload ∧ e.subject? = some id.text ∧
        e.before.held id = some h := by
  cases he with
  | quiet payload => exact .inl ⟨payload, fun _ => rfl⟩
  | @opened id k kind call reply new =>
    refine .inl ⟨by simp [Event.payload, call], fun h => View.sentOn_opened ?_⟩
    simp [seen_view, new]
  | closed call =>
    exact .inl ⟨by simp [Event.payload, call], fun h => View.sentOn_update _ fun _ => rfl⟩
  | wrote subject payload held => exact .inr ⟨_, _, by rw [payload], subject, held⟩
  | cleared call =>
    refine .inl ⟨?_, fun h => View.sentOn_eq ?_⟩
    · rcases call with ⟨call, -⟩ | ⟨call, -⟩ <;> simp [Event.payload, call]
    · simp only [Effect.apply]
      split
      · rw [Option.map_map]; rfl
      · rfl
  | switched switch payload =>
    refine .inl ⟨payload, fun h => View.sentOn_update _ ?_⟩
    obtain ⟨on, rfl | rfl⟩ := switch <;> exact fun _ => rfl

/-- An effect sends on a channel what its call delivers to the channel's owner. -/
theorem Effect.sentOn_apply (hv : e.before.view.Balanced) (he : effect.Explains e)
    (ho : ∀ l, (effect.apply e.before.view).seen h = some l → l.owner = owner) :
    (effect.apply e.before.view).sentOn h = e.before.view.sentOn h ++ e.deliveredTo owner h := by
  rcases he.quiet_or_wrote with ⟨hp, hs⟩ | ⟨id, k, rfl, hsubject, hheld⟩
  · rw [hs, Event.deliveredTo_of_payload hp, List.append_nil]
  · obtain ⟨l, hl, rfl, -⟩ := hv.seen_of_held hheld
    simp only [Effect.apply] at ho ⊢
    by_cases hk : h = k
    · subst hk
      have howner : l.owner = owner := ho (l.deliver e.payload) (by simp [View.update, hl])
      subst howner
      rw [View.sentOn_deliver hl, Event.deliveredTo, if_pos ⟨hsubject, hheld⟩]
    · have hnone : ¬(e.subject? = some owner.text ∧ e.before.held owner = some h) := by
        rintro ⟨hs, hh⟩
        have htext : l.owner = owner := Identifier.ext (Option.some.inj (hsubject.symm.trans hs))
        rw [← htext, hheld] at hh
        exact hk (Option.some.inj hh).symm
      rw [Event.deliveredTo, if_neg hnone, List.append_nil]
      apply View.sentOn_eq
      simp [View.update, hk]

theorem Tidy.line?_after (hr : r.Tidy) (cs : List Call) {l : Line} (hl : r.line? h = some l) :
    ∃ l', (r.after cs).line? h = some l' ∧ l'.owner = l.owner := by
  induction cs generalizing r l with
  | nil => exact ⟨l, hl, rfl⟩
  | cons c cs ih =>
    obtain ⟨l₁, hl₁, ho₁⟩ := hr.line?_call c hl
    obtain ⟨l', hl', ho'⟩ := ih (hr.call c) hl₁
    exact ⟨l', hl', ho'.trans ho₁⟩

/-- The bytes on a channel after calls: those before, and what the calls delivered to its owner. -/
theorem Tidy.sentOn_after (hr : r.Tidy) (cs : List Call)
    (ho : ∀ l, (r.after cs).line? h = some l → l.owner = owner) :
    (r.after cs).view.sentOn h = r.view.sentOn h ++ deliveredTo (r.history cs) owner h := by
  induction cs generalizing r with
  | nil => exact (List.append_nil _).symm
  | cons c cs ih =>
    obtain ⟨effect, he, -, hview⟩ := call_shows hr.filled c
    have ho₁ : ∀ l, (effect.apply r.view).seen h = some l → l.owner = owner := by
      intro l hl
      rw [← hview, seen_view] at hl
      obtain ⟨l₁, hl₁, rfl⟩ := Option.map_eq_some_iff.1 hl
      obtain ⟨l', hl', ho'⟩ := (hr.call c).line?_after cs hl₁
      exact ho'.symm.trans (ho l' hl')
    calc ((r.call c).2.after cs).view.sentOn h
      _ = (r.call c).2.view.sentOn h ++ deliveredTo ((r.call c).2.history cs) owner h :=
        ih (hr.call c) ho
      _ = r.view.sentOn h ++ Event.deliveredTo ⟨r, c, (r.call c).1⟩ owner h ++
          deliveredTo ((r.call c).2.history cs) owner h := by
        rw [hview, Effect.sentOn_apply hr.balanced he ho₁]
      _ = r.view.sentOn h ++ deliveredTo (r.history (c :: cs)) owner h := by
        rw [List.append_assoc]
        rfl

/-- What was sent on a channel is what the calls delivered to its owner while it was held. -/
theorem sent_after (hr : r.IsNew) (cs : List Call) {l : Line} (hl : (r.after cs).line? h = some l) :
    l.channel.log.sent = deliveredTo (r.history cs) l.owner h := by
  have ho : ∀ l', (r.after cs).line? h = some l' → l'.owner = l.owner := by
    intro l' hl'
    cases hl.symm.trans hl'
    rfl
  rw [← sentOn_view hl, hr.tidy.sentOn_after cs ho, View.sentOn, seen_view, hr.line?]
  rfl

/-- What was sent and a status inquiry are taken; a failed sending, and one after the channel was
replaced, add nothing. -/
theorem sent_after_replacing :
    let r : Registry := { connectors := [⟨.bluetooth, .bluetooth, fun _ => none, none, 0, []⟩] }
    let cs : List Call := [.connect "p", .send "p" [1, 2], .status "p", .failWrites 0 none true,
      .send "p" [3], .status "p", .connect "p", .send "p" [4]]
    r.IsNew ∧ ∃ l, (r.after cs).line? ⟨0, 0⟩ = some l ∧
      l.channel.log.sent = deliveredTo (r.history cs) l.owner ⟨0, 0⟩ ∧
      l.channel.log.sent = [1, 2, 0x10, 0x04, 0x01] := by
  intro r cs
  have hr : r.IsNew := ⟨rfl, by simp [r]⟩
  have hopened : ((r.after cs).line? ⟨0, 0⟩).isSome = true := by decide +kernel
  obtain ⟨l, hl⟩ := Option.isSome_iff_exists.1 hopened
  have hsent : ((r.after cs).line? ⟨0, 0⟩).map (·.channel.log.sent) =
      some [1, 2, 0x10, 0x04, 0x01] := by decide +kernel
  rw [hl] at hsent
  exact ⟨hr, l, hl, sent_after hr cs hl, Option.some.inj hsent⟩

end ThermalPrint.Registry
