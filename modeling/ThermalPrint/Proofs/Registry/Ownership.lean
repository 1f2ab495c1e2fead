import ThermalPrint.Proofs.Registry.Effect

/-! No channel is leaked and none is doubled: after any calls the open channels are the ones that are
held, each of them for the identifier that it was opened for. -/

namespace ThermalPrint

open Transport

namespace Transport.Line

variable {l : Line}

@[simp] theorem isOpen_close : l.close.isOpen = false := rfl

@[simp] theorem owner_close : l.close.owner = l.owner := rfl

@[simp] theorem owner_uncounted : l.uncounted.owner = l.owner := rfl

@[simp] theorem isOpen_uncounted : l.uncounted.isOpen = l.isOpen := rfl

/-- The log of a line says that it was closed exactly when it is not open. -/
def Sound (l : Line) : Prop := l.channel.log.closed = !l.isOpen

theorem sound_of_close {p : Prop} [Decidable p] {before other : Option Line}
    (hother : ∀ l, other = some l → l.Sound)
    (hl : (if p then before.map close else other) = some l) : l.Sound := by
  split at hl
  · obtain ⟨l, -, rfl⟩ := Option.map_eq_some_iff.1 hl
    rfl
  · exact hother l hl

/-- A change that leaves alone what the ownership of a line depends on. -/
structure Harmless (f : Line → Line) : Prop where
  owner : ∀ l, (f l).owner = l.owner
  isOpen : ∀ l, (f l).isOpen = l.isOpen
  closed : ∀ l, (f l).channel.log.closed = l.channel.log.closed

theorem harmless_deliver (bytes : Bytes) : Harmless (deliver bytes) :=
  ⟨fun _ => rfl, fun _ => rfl, fun _ => rfl⟩

theorem harmless_step {s : Channel.Step} (hs : ∃ on, s = .failWrites on ∨ s = .failClose on) :
    Harmless (step s) := by
  obtain ⟨on, rfl | rfl⟩ := hs <;> exact ⟨fun _ => rfl, fun _ => rfl, fun _ => rfl⟩

end Transport.Line

namespace Registry

/-- The channels that are held are the open ones, each held for its owner. -/
structure View.Balanced (v : View) : Prop where
  held_iff : ∀ id h, v.held id = some h ↔ ∃ l, v.seen h = some l ∧ l.owner = id ∧ l.isOpen = true
  sound : ∀ h l, v.seen h = some l → l.Sound

namespace View.Balanced

variable {v : View} {id id' : Identifier} {h : Handle}

theorem seen_of_held (hv : v.Balanced) (hh : v.held id = some h) :
    ∃ l, v.seen h = some l ∧ l.owner = id ∧ l.isOpen = true := (hv.held_iff id h).1 hh

/-- A channel is held for one identifier only. -/
theorem held_inj (hv : v.Balanced) (hh : v.held id = some h) (hh' : v.held id' = some h) :
    id = id' := by
  obtain ⟨l, hl, rfl, -⟩ := hv.seen_of_held hh
  obtain ⟨l', hl', rfl, -⟩ := hv.seen_of_held hh'
  cases hl.symm.trans hl'
  rfl

theorem not_held_of_new (hv : v.Balanced) (hn : v.seen h = none) (id : Identifier) :
    v.held id ≠ some h := by
  intro hh
  obtain ⟨l, hl, -⟩ := hv.seen_of_held hh
  cases hn.symm.trans hl

theorem update (hv : v.Balanced) {f : Line → Line} (hf : Line.Harmless f) :
    (v.update h f).Balanced := by
  constructor
  · intro id k
    rw [show (v.update h f).held = v.held from rfl, hv.held_iff]
    simp only [View.update]
    split
    · simp only [Option.map_eq_some_iff]
      constructor
      · rintro ⟨l, hl, ho, hopen⟩
        exact ⟨f l, ⟨l, hl, rfl⟩, (hf.owner l).trans ho, (hf.isOpen l).trans hopen⟩
      · rintro ⟨_, ⟨l, hl, rfl⟩, ho, hopen⟩
        exact ⟨l, hl, (hf.owner l).symm.trans ho, (hf.isOpen l).symm.trans hopen⟩
    · rfl
  · intro k l hl
    simp only [View.update] at hl
    split at hl
    · obtain ⟨l, hl', rfl⟩ := Option.map_eq_some_iff.1 hl
      exact (hf.closed l).trans ((hv.sound k l hl').trans (by rw [hf.isOpen]))
    · exact hv.sound k l hl

theorem opened (hv : v.Balanced) (hn : v.seen h = none) (kind : Kind) :
    ((Effect.opened id h kind).apply v).Balanced := by
  have hne := hv.not_held_of_new hn
  constructor
  · intro id' k
    simp only [Effect.apply]
    by_cases hk : k = h
    · subst hk
      rw [if_pos rfl, if_neg (hne id)]
      by_cases hid : id' = id
      · simp [hid, Line.isOpen, Phase.isOpen]
      · simp [hid, hne id', Ne.symm hid]
    · rw [if_neg hk]
      by_cases hid : id' = id
      · subst hid
        rw [if_pos rfl]
        -- the channel held before is closed, and any other open one of the owner would be held
        split
        · simp [Ne.symm hk]
        · next hnk => simp [Ne.symm hk, ← hv.held_iff, hnk]
      · rw [if_neg hid, hv.held_iff]
        split
        · next hk' =>
          obtain ⟨l, hl, rfl, -⟩ := hv.seen_of_held hk'
          simp [hl, Ne.symm hid]
        · rfl
  · intro k l hl
    refine Line.sound_of_close (fun l hl => ?_) hl
    split at hl
    · cases hl
      rfl
    · exact hv.sound k l hl

theorem closed (hv : v.Balanced) (hh : v.held id = some h) :
    ((Effect.closed id h).apply v).Balanced := by
  constructor
  · intro id' k
    simp only [Effect.apply, View.update]
    by_cases hk : k = h
    · subst hk
      rw [if_pos rfl]
      by_cases hid : id' = id
      · simp [hid]
      · have hne : v.held id' ≠ some k := fun hh' => hid (hv.held_inj hh' hh)
        simp [hid, hne]
    · rw [if_neg hk, ← hv.held_iff]
      by_cases hid : id' = id
      · simp [hid, hh, Ne.symm hk]
      · rw [if_neg hid]
  · intro k l hl
    exact Line.sound_of_close (hv.sound k) hl

theorem cleared (hv : v.Balanced) {hs : List Handle}
    (hhs : ∀ h, h ∈ hs ↔ ∃ id, v.held id = some h) :
    ((Effect.cleared hs).apply v).Balanced := by
  constructor
  · intro id k
    simp only [Effect.apply]
    split
    · simp
    · next hk =>
      have hne : v.held id ≠ some k := fun hh => hk ((hhs k).2 ⟨id, hh⟩)
      simp [← hv.held_iff, hne]
  · intro k l hl
    exact Line.sound_of_close (hv.sound k) hl

/-- Every effect that a call can have keeps the balance. -/
theorem apply {e : Event} (hv : e.before.view.Balanced) {effect : Effect} (he : effect.Explains e) :
    (effect.apply e.before.view).Balanced := by
  cases he with
  | quiet => exact hv
  | opened _ _ new => exact hv.opened (by simp [view, new]) _
  | closed _ _ held => exact hv.closed held
  | wrote => exact hv.update (Line.harmless_deliver _)
  | cleared _ held => exact hv.cleared held
  | switched switch => exact hv.update (Line.harmless_step switch)

end View.Balanced

variable {r : Registry} {id : Identifier} {h : Handle} {l : Line}

theorem seen_view : r.view.seen h = (r.line? h).map Line.uncounted := rfl

theorem mem_lines_iff : l ∈ r.connectors.flatMap (·.lines) ↔ ∃ h, r.line? h = some l := by
  rw [List.mem_flatMap]
  constructor
  · rintro ⟨c, hc, hl⟩
    obtain ⟨i, hi, rfl⟩ := List.mem_iff_getElem.1 hc
    obtain ⟨j, hj, rfl⟩ := List.mem_iff_getElem.1 hl
    exact ⟨⟨i, j⟩, line?_getElem hi hj⟩
  · rintro ⟨h, hl⟩
    obtain ⟨c, hc, hl⟩ := Option.bind_eq_some_iff.1 hl
    exact ⟨c, List.mem_of_getElem? hc, List.mem_of_getElem? hl⟩

/-- A registry between two calls. -/
structure Tidy (r : Registry) : Prop where
  filled : r.slots.Filled
  balanced : r.view.Balanced

namespace Tidy

theorem call (hr : r.Tidy) (c : Call) : (r.call c).2.Tidy := by
  obtain ⟨effect, he, hfilled, hview⟩ := call_shows hr.filled c
  exact ⟨hfilled, hview ▸ View.Balanced.apply hr.balanced he⟩

theorem after (hr : r.Tidy) (cs : List Call) : (r.after cs).Tidy := by
  induction cs generalizing r with
  | nil => exact hr
  | cons c cs ih => exact ih (hr.call c)

theorem held_iff (hr : r.Tidy) :
    r.held id = some h ↔ ∃ l, r.line? h = some l ∧ l.owner = id ∧ l.isOpen = true := by
  rw [show r.held id = r.view.held id from rfl, hr.balanced.held_iff, seen_view]
  constructor
  · rintro ⟨_, hl, ho, hopen⟩
    obtain ⟨l, hl', rfl⟩ := Option.map_eq_some_iff.1 hl
    exact ⟨l, hl', ho, hopen⟩
  · rintro ⟨l, hl, ho, hopen⟩
    exact ⟨l.uncounted, by rw [hl]; rfl, ho, hopen⟩

theorem closed_eq (hr : r.Tidy) (hl : r.line? h = some l) : l.channel.log.closed = !l.isOpen :=
  hr.balanced.sound h l.uncounted (by rw [seen_view, hl]; rfl)

/-- No two open channels have one owner. -/
theorem eq_of_owner_eq (hr : r.Tidy) {k : Handle} {l' : Line} (hl : r.line? h = some l)
    (hl' : r.line? k = some l') (hopen : l.isOpen = true) (hopen' : l'.isOpen = true)
    (ho : l.owner = l'.owner) : h = k := by
  have hh := hr.held_iff.2 ⟨l, hl, rfl, hopen⟩
  have hk := hr.held_iff.2 ⟨l', hl', rfl, hopen'⟩
  rw [ho, hk] at hh
  cases hh
  rfl

theorem owners_pairwise (hr : r.Tidy) :
    (r.connectors.flatMap (·.lines)).Pairwise fun l l' =>
      l.isOpen = true → l'.isOpen = true → l.owner ≠ l'.owner := by
  rw [List.pairwise_flatMap]
  constructor
  · intro c hc
    obtain ⟨i, hi, rfl⟩ := List.mem_iff_getElem.1 hc
    rw [List.pairwise_iff_getElem]
    intro j j' hj hj' hlt hopen hopen' ho
    cases hr.eq_of_owner_eq (line?_getElem hi hj) (line?_getElem hi hj') hopen hopen' ho
    exact Nat.lt_irrefl _ hlt
  · rw [List.pairwise_iff_getElem]
    intro i i' hi hi' hlt l hm l' hm' hopen hopen' ho
    obtain ⟨j, hj, rfl⟩ := List.mem_iff_getElem.1 hm
    obtain ⟨j', hj', rfl⟩ := List.mem_iff_getElem.1 hm'
    cases hr.eq_of_owner_eq (line?_getElem hi hj) (line?_getElem hi' hj') hopen hopen' ho
    exact Nat.lt_irrefl _ hlt

theorem mem_keys_iff (hr : r.Tidy) : id ∈ r.slots.entries.map (·.1) ↔ ∃ h, r.held id = some h := by
  rw [List.mem_map]
  constructor
  · rintro ⟨⟨id, content⟩, he, rfl⟩
    obtain ⟨h, -, hh⟩ := hr.filled.mem_entries_iff.1 he
    exact ⟨h, hh⟩
  · rintro ⟨h, hh⟩
    exact ⟨_, hr.filled.mem_entries_iff.2 ⟨h, rfl, hh⟩, rfl⟩

/-- There are as many slots as open channels: both go by the owners of the open channels. -/
theorem size_eq (hr : r.Tidy) : r.size = (r.connectors.flatMap (·.lines)).countP Line.isOpen := by
  have howners : (((r.connectors.flatMap (·.lines)).filter Line.isOpen).map (·.owner)).Nodup := by
    rw [List.Nodup, List.pairwise_map, List.pairwise_filter]
    exact hr.owners_pairwise
  have hperm : (r.slots.entries.map (·.1)).Perm
      (((r.connectors.flatMap (·.lines)).filter Line.isOpen).map (·.owner)) := by
    rw [List.perm_ext_iff_of_nodup r.slots.keys_nodup howners]
    intro id
    rw [hr.mem_keys_iff]
    simp only [List.mem_map, List.mem_filter, mem_lines_iff, hr.held_iff]
    constructor
    · rintro ⟨h, l, hl, ho, hopen⟩
      exact ⟨l, ⟨⟨h, hl⟩, hopen⟩, ho⟩
    · rintro ⟨l, ⟨⟨h, hl⟩, hopen⟩, ho⟩
      exact ⟨h, l, hl, ho, hopen⟩
  rw [List.countP_eq_length_filter, size, ← List.length_map, hperm.length_eq, List.length_map]

end Tidy

/-- A channel that was opened stays on the list, and stays its owner's. -/
theorem Effect.seen_apply {e : Event} {effect : Effect} (he : effect.Explains e)
    (hl : e.before.view.seen h = some l) :
    ∃ l', (effect.apply e.before.view).seen h = some l' ∧ l'.owner = l.owner := by
  have kept {f : Line → Line} {k : Handle} (hf : ∀ l, (f l).owner = l.owner) :
      ∃ l', (e.before.view.update k f).seen h = some l' ∧ l'.owner = l.owner := by
    simp only [View.update, hl]
    split
    · exact ⟨f l, rfl, hf l⟩
    · exact ⟨l, rfl, rfl⟩
  cases he with
  | quiet => exact ⟨l, hl, rfl⟩
  | @opened id k kind _ _ new =>
    have hne : h ≠ k := by
      rintro rfl
      simp [seen_view, new] at hl
    simp only [Effect.apply, if_neg hne, hl]
    split
    · exact ⟨l.close, rfl, rfl⟩
    · exact ⟨l, rfl, rfl⟩
  | closed => exact kept fun _ => rfl
  | wrote => exact kept fun _ => rfl
  | cleared =>
    simp only [Effect.apply, hl]
    split
    · exact ⟨l.close, rfl, rfl⟩
    · exact ⟨l, rfl, rfl⟩
  | switched => exact kept fun _ => rfl

theorem Tidy.line?_call (hr : r.Tidy) (c : Call) (hl : r.line? h = some l) :
    ∃ l', (r.call c).2.line? h = some l' ∧ l'.owner = l.owner := by
  obtain ⟨effect, he, -, hview⟩ := call_shows hr.filled c
  have hseen : r.view.seen h = some l.uncounted := by rw [seen_view, hl]; rfl
  obtain ⟨l₁, hl₁, ho⟩ := Effect.seen_apply he hseen
  rw [← hview, seen_view] at hl₁
  obtain ⟨l', hl', rfl⟩ := Option.map_eq_some_iff.1 hl₁
  exact ⟨l', hl', ho⟩

theorem IsNew.line? (hr : r.IsNew) : r.line? h = none := by
  cases hl : r.line? h with
  | none => rfl
  | some l =>
    obtain ⟨c, hc, hl⟩ := Option.bind_eq_some_iff.1 hl
    simp [hr.2 c (List.mem_of_getElem? hc)] at hl

theorem IsNew.get? (hr : r.IsNew) : r.slots.get? id = none := by
  simp [Slots.get?, hr.1]

theorem IsNew.tidy (hr : r.IsNew) : r.Tidy := by
  refine ⟨fun id h => ?_, ⟨fun id h => ?_, fun h l hl => ?_⟩⟩
  · cases hr.get?.symm.trans h
  · simp [hr.line?, view, held, hr.get?]
  · simp [seen_view, hr.line?] at hl

/-- Every channel that was ever opened is accounted for. -/
structure Accounted (r : Registry) : Prop where
  /-- A channel is open exactly as long as it is held for its owner. -/
  open_iff : ∀ h l, r.line? h = some l → (l.isOpen = true ↔ r.held l.owner = some h)
  /-- Whoever watches a channel sees it closed exactly if it is. -/
  closed_eq : ∀ h l, r.line? h = some l → l.channel.log.closed = !l.isOpen
  held_owned : ∀ id h, r.held id = some h → ∃ l, r.line? h = some l ∧ l.owner = id
  /-- No two open channels have one owner. -/
  owner_inj : ∀ h k l l', r.line? h = some l → r.line? k = some l' → l.isOpen = true →
    l'.isOpen = true → l.owner = l'.owner → h = k
  /-- No slot is empty. -/
  filled : ∀ e ∈ r.slots.entries, e.2.isSome = true
  size_eq : r.size = (r.connectors.flatMap (·.lines)).countP Line.isOpen

theorem Tidy.accounted (hr : r.Tidy) : r.Accounted where
  open_iff h l hl := by
    rw [hr.held_iff]
    constructor
    · exact fun hopen => ⟨l, hl, rfl, hopen⟩
    · rintro ⟨l', hl', -, hopen⟩
      cases hl.symm.trans hl'
      exact hopen
  closed_eq h l hl := hr.closed_eq hl
  held_owned id h hh := by
    obtain ⟨l, hl, ho, -⟩ := hr.held_iff.1 hh
    exact ⟨l, hl, ho⟩
  owner_inj h k l l' hl hl' hopen hopen' ho := hr.eq_of_owner_eq hl hl' hopen hopen' ho
  filled e he := by
    obtain ⟨h, hc, -⟩ := hr.filled.mem_entries_iff.1 (show (e.1, e.2) ∈ r.slots.entries from he)
    rw [hc]
    rfl
  size_eq := hr.size_eq

/-- After any calls every channel is accounted for, and a call after which a channel is no longer
held has closed it, whether or not its closing was reported as failed. -/
theorem accounted_after (hr : r.IsNew) (cs : List Call) :
    (r.after cs).Accounted ∧
      ∀ c id h, (r.after cs).held id = some h → (r.after (cs ++ [c])).held id ≠ some h →
        ∃ l, (r.after (cs ++ [c])).line? h = some l ∧ l.owner = id ∧
          l.channel.log.closed = true := by
  have ht := hr.tidy.after cs
  refine ⟨ht.accounted, fun c id h hh hne => ?_⟩
  obtain ⟨l, hl, rfl, -⟩ := ht.held_iff.1 hh
  obtain ⟨l', hl', ho⟩ := ht.line?_call c hl
  rw [after_append] at hne ⊢
  have ht' : ((r.after cs).call c).2.Tidy := ht.call c
  refine ⟨l', hl', ho, ?_⟩
  rw [ht'.closed_eq hl', Bool.not_eq_true', Bool.eq_false_iff]
  exact fun hopen => hne (ht'.held_iff.2 ⟨l', hl', ho, hopen⟩)

/-- A channel is replaced by another although closing it fails. -/
theorem accounted_after_replacing :
    let r : Registry := { connectors := [⟨.bluetooth, .bluetooth, fun _ => none, none, 0, []⟩] }
    let cs : List Call := [.connect "p", .failClose 0 none true]
    let p : Identifier := ⟨"p", by decide +kernel⟩
    r.IsNew ∧ (r.after cs).Accounted ∧
      (r.after cs).held p = some ⟨0, 0⟩ ∧ (r.after (cs ++ [.connect "p"])).held p ≠ some ⟨0, 0⟩ ∧
      ∃ l, (r.after (cs ++ [.connect "p"])).line? ⟨0, 0⟩ = some l ∧ l.owner = p ∧
        l.channel.log.closed = true := by
  intro r cs p
  have hr : r.IsNew := ⟨rfl, by simp [r]⟩
  have hheld : (r.after cs).held p = some ⟨0, 0⟩ := by decide +kernel
  have hreplaced : (r.after (cs ++ [.connect "p"])).held p ≠ some ⟨0, 0⟩ := by decide +kernel
  obtain ⟨haccounted, hclosed⟩ := accounted_after hr cs
  exact ⟨hr, haccounted, hheld, hreplaced, hclosed _ _ _ hheld hreplaced⟩

end Registry

end ThermalPrint
