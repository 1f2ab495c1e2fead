import ThermalPrint.Proofs.Interleaving.Step

/-! The books of calls that are under way: what is shared says of every slot how many calls hold it and
whether one has its lock, and every open channel is in one slot or with one call. Every step keeps
the books. -/

namespace ThermalPrint.Interleaving

open Transport

/-- How often a number is among what calls have. -/
def total (f : Kit → List Nat) (kits : List Kit) (n : Nat) : Nat := (kits.flatMap f).count n

/-- The slots that a call has got hold of. -/
def Kit.cells (k : Kit) : List Nat := k.grips.map (·.2)

def Kit.locks (k : Kit) : List Nat := k.lock.toList

section
variable {f : Kit → List Nat} {kits : List Kit} {i j : Nat} {k k' : Kit} {n : Nat}

theorem total_set (h : kits[i]? = some k) (f : Kit → List Nat) (k' : Kit) (n : Nat) :
    total f (kits.set i k') n + (f k).count n = total f kits n + (f k').count n := by
  rw [List.set_eq_modify]
  exact count_flatMap_modify h f (fun _ => k') n

theorem count_le_total (h : k ∈ kits) (f : Kit → List Nat) (n : Nat) :
    (f k).count n ≤ total f kits n := by
  obtain ⟨l, r, rfl⟩ := List.append_of_mem h
  simp only [total, List.flatMap_append, List.flatMap_cons, List.count_append]
  omega

/-- What two calls have of a number adds up. -/
theorem count_add_le_total (hf : f {} = []) (hij : i ≠ j) (h : kits[i]? = some k)
    (h' : kits[j]? = some k') (n : Nat) : (f k).count n + (f k').count n ≤ total f kits n := by
  have hset := total_set h f {} n
  have hmem : (kits.set i {})[j]? = some k' := by rw [List.getElem?_set_ne hij, h']
  have hle := count_le_total (List.mem_of_getElem? hmem) f n
  simp only [hf, List.count_nil] at hset
  omega

end

/-- The books balance. -/
structure Balanced (s : Shared) (kits : List Kit) : Prop where
  keys_nodup : (s.entries.map (·.1)).Nodup
  cells_nodup : (s.entries.map (·.2)).Nodup
  cell_lt : ∀ e ∈ s.entries, e.2 < s.cells.length
  /-- The map has every slot that a call has got hold of. -/
  grips : ∀ k ∈ kits, ∀ e ∈ k.grips, e ∈ s.entries
  handles : ∀ c, s.handles c = total Kit.cells kits c
  locks : ∀ c, (s.isLocked c).toNat = total Kit.locks kits c
  lock_mem : ∀ k ∈ kits, ∀ c, k.lock = some c → c ∈ k.cells
  /-- Every open channel is in one slot or with one call, and no other is. -/
  channels : ∀ n, s.contents.count n + total Kit.owned kits n = (s.isOpen n).toNat
  /-- A slot is that of the identifier that its channel was opened for. -/
  content_owner : ∀ c n, s.content c = some n → ∃ id, s.owner? n = some id ∧ (id, c) ∈ s.entries
  pen : ∀ k ∈ kits, ∀ p, k.pen = some p → ∃ c, k.lock = some c ∧ s.content c = some p.channel
  sound : ∀ l ∈ s.channels, l.Sound

namespace Balanced

variable {s : Shared} {kits : List Kit} {i j : Nat} {k k' : Kit} {c n : Nat} {id : Identifier}

theorem lt_of_mem_cells (hb : Balanced s kits) (hk : k ∈ kits) (hc : c ∈ k.cells) :
    c < s.cells.length := by
  obtain ⟨e, he, rfl⟩ := List.mem_map.1 hc
  exact hb.cell_lt e (hb.grips k hk e he)

theorem lt_of_lock (hb : Balanced s kits) (hk : k ∈ kits) (hc : k.lock = some c) :
    c < s.cells.length := hb.lt_of_mem_cells hk (hb.lock_mem k hk c hc)

theorem handles_pos (hb : Balanced s kits) (hk : k ∈ kits) (hc : c ∈ k.cells) : 0 < s.handles c := by
  rw [hb.handles]
  exact Nat.lt_of_lt_of_le (List.count_pos_iff.2 hc) (count_le_total hk Kit.cells c)

theorem isLocked_of_lock (hb : Balanced s kits) (hk : k ∈ kits) (hc : k.lock = some c) :
    s.isLocked c = true := by
  have hle := count_le_total hk Kit.locks c
  rw [← hb.locks c] at hle
  cases hl : s.isLocked c with
  | true => rfl
  | false => simp [hl, Kit.locks, hc] at hle

/-- No two calls have the lock of one slot. -/
theorem lock_inj (hb : Balanced s kits) (hi : kits[i]? = some k) (hj : kits[j]? = some k')
    (hc : k.lock = some c) (hc' : k'.lock = some c) : i = j := by
  refine Decidable.byContradiction fun hij => ?_
  have hle := count_add_le_total (f := Kit.locks) rfl hij hi hj c
  rw [← hb.locks c] at hle
  have := Bool.toNat_le (s.isLocked c)
  simp only [Kit.locks, hc, hc', Option.toList_some, List.count_singleton_self] at hle
  omega

theorem isOpen_of_owned (hb : Balanced s kits) (hk : k ∈ kits) (hn : n ∈ k.owned) :
    s.isOpen n = true ∧ s.contents.count n = 0 ∧ k.owned.count n = 1 := by
  have hle := count_le_total hk Kit.owned n
  have hpos := List.count_pos_iff.2 hn
  have hn := hb.channels n
  cases ho : s.isOpen n with
  | true =>
    simp only [ho, Bool.toNat_true] at hn
    exact ⟨rfl, by omega, by omega⟩
  | false =>
    simp only [ho, Bool.toNat_false] at hn
    omega

/-- No two calls have one channel. -/
theorem owned_inj (hb : Balanced s kits) (hi : kits[i]? = some k) (hj : kits[j]? = some k')
    (hn : n ∈ k.owned) (hn' : n ∈ k'.owned) : i = j := by
  refine Decidable.byContradiction fun hij => ?_
  have hle := count_add_le_total (f := Kit.owned) rfl hij hi hj n
  have hbn := hb.channels n
  have := Bool.toNat_le (s.isOpen n)
  have hpos := List.count_pos_iff.2 hn
  have hpos' := List.count_pos_iff.2 hn'
  omega

theorem isOpen_of_content (hb : Balanced s kits) (hc : s.content c = some n) :
    s.isOpen n = true ∧ s.contents.count n = 1 ∧ total Kit.owned kits n = 0 := by
  have hpos : 0 < s.contents.count n := List.count_pos_iff.2 (Shared.mem_contents_of_content hc)
  have hn := hb.channels n
  cases ho : s.isOpen n with
  | true =>
    simp only [ho, Bool.toNat_true] at hn
    exact ⟨rfl, by omega, by omega⟩
  | false =>
    simp only [ho, Bool.toNat_false] at hn
    omega

theorem not_owned_of_content (hb : Balanced s kits) (hc : s.content c = some n) (hk : k ∈ kits) :
    n ∉ k.owned := fun hn => by
  have := (hb.isOpen_of_content hc).2.1
  have := (hb.isOpen_of_owned hk hn).2.1
  omega

/-- An identifier has one slot. -/
theorem cell_eq (hb : Balanced s kits) (h : (id, c) ∈ s.entries) (h' : (id, n) ∈ s.entries) :
    c = n := by
  have he := (Shared.entry?_eq_some_iff hb.keys_nodup).2 h
  rw [(Shared.entry?_eq_some_iff hb.keys_nodup).2 h'] at he
  exact (Option.some.inj he).symm

/-- A slot is that of one identifier. -/
theorem key_eq (hb : Balanced s kits) {id' : Identifier} (h : (id, c) ∈ s.entries)
    (h' : (id', c) ∈ s.entries) : id = id' :=
  congrArg Prod.fst (List.inj_on_of_nodup_map hb.cells_nodup h h' rfl)

/-- A channel is in one slot. -/
theorem content_inj (hb : Balanced s kits) (hc : s.content c = some n) {c' : Nat}
    (hc' : s.content c' = some n) : c = c' := by
  obtain ⟨id, ho, he⟩ := hb.content_owner c n hc
  obtain ⟨id', ho', he'⟩ := hb.content_owner c' n hc'
  cases ho.symm.trans ho'
  exact hb.cell_eq he he'

/-- No two calls write on one channel. -/
theorem pen_inj (hb : Balanced s kits) (hi : kits[i]? = some k) (hj : kits[j]? = some k') {p p' : Pen}
    (hp : k.pen = some p) (hp' : k'.pen = some p') (hch : p.channel = p'.channel) : i = j := by
  obtain ⟨c, hl, hc⟩ := hb.pen k (List.mem_of_getElem? hi) p hp
  obtain ⟨c', hl', hc'⟩ := hb.pen k' (List.mem_of_getElem? hj) p' hp'
  cases hb.content_inj hc (hch ▸ hc')
  exact hb.lock_inj hi hj hl hl'

theorem isUnused_eq_false_of_mem_cells (hb : Balanced s kits) (hk : k ∈ kits) (hc : c ∈ k.cells) :
    s.isUnused c = false :=
  Shared.isUnused_eq_false_iff.2 (.inl (Nat.ne_of_gt (hb.handles_pos hk hc)))

end Balanced

/-! ## One step -/

namespace Move.Changes

variable {s : Shared} {kits : List Kit} {i : Nat} {k k' : Kit} {m : Move}

theorem handles (hb : Balanced s kits) (hk : k ∈ kits) (h : m.Changes s k k') (c : Nat) :
    (m.apply s).handles c + k.cells.count c = s.handles c + k'.cells.count c := by
  cases h with
  | stay | openChannel | close | write | finish | prune | pruneAll => rfl
  | refuse | beginWrite =>
    rw [apply, Shared.beginWrite_snd]
    rfl
  | hold entry =>
    exact Shared.handles_hold (hb.cell_lt _ (Shared.mem_entries_of_find entry)) c
  | create new => exact Shared.handles_create c
  | holdAll => exact Shared.handles_holdEach s.entries hb.cell_lt c
  | letGo =>
    have hgo := Shared.handles_letGo (hb.handles_pos hk List.mem_cons_self) c
    simp only [apply, Kit.cells, List.map_cons, List.count_cons, List.count_nil] at hgo ⊢
    omega
  | lock | unlock => rw [apply, Shared.handles_setLock]; rfl
  | take | store => rw [apply, Shared.handles_setContent]; rfl

theorem locks (hb : Balanced s kits) (hk : k ∈ kits) (h : m.Changes s k k') (c : Nat) :
    ((m.apply s).isLocked c).toNat + k.locks.count c = (s.isLocked c).toNat + k'.locks.count c := by
  cases h with
  | stay | openChannel | close | write | finish | prune | pruneAll => rfl
  | refuse | beginWrite =>
    rw [apply, Shared.beginWrite_snd]
    rfl
  | hold => rw [apply, Shared.isLocked_hold]; rfl
  | create => rw [apply, Shared.isLocked_create]; rfl
  | holdAll =>
    rw [apply, Shared.holdAll_eq, (Shared.holdEach_frame s.entries).2.2.2.1]
    rfl
  | letGo => rw [apply, Shared.isLocked_letGo]; rfl
  | take | store => rw [apply, Shared.isLocked_setContent]; rfl
  | @lock _ cell _ grip free =>
    have hlt := hb.lt_of_mem_cells hk (List.mem_map_of_mem grip)
    rw [apply, Shared.isLocked_setLock hlt]
    by_cases hc : c = cell
    · subst hc
      simp [Kit.locks, free]
    · simp [Kit.locks, hc, Ne.symm hc]
  | @unlock _ cell _ =>
    rw [apply, Shared.isLocked_setLock (hb.lt_of_lock hk rfl)]
    by_cases hc : c = cell
    · subst hc
      simp [Kit.locks, hb.isLocked_of_lock hk rfl]
    · simp [Kit.locks, hc, Ne.symm hc]

theorem channels (hb : Balanced s kits) (hk : k ∈ kits) (h : m.Changes s k k') (n : Nat) :
    (m.apply s).contents.count n + k'.owned.count n + (s.isOpen n).toNat =
      s.contents.count n + k.owned.count n + ((m.apply s).isOpen n).toNat := by
  cases h with
  | stay | finish | prune | pruneAll => rfl
  | refuse | beginWrite =>
    rw [apply, Shared.isOpen_beginWrite, Shared.beginWrite_snd]
    rfl
  | write =>
    rw [apply, Shared.isOpen_writeByte]
    rfl
  | hold => rw [apply, Shared.count_contents_hold]; rfl
  | create => rw [apply, Shared.contents_create]; rfl
  | holdAll =>
    obtain ⟨-, hchannels, -, -, -, hcontents⟩ := Shared.holdEach_frame (s := s) s.entries
    rw [apply, Shared.holdAll_eq, hcontents, Shared.isOpen, Shared.isOpen, hchannels]
  | letGo => rw [apply, Shared.count_contents_letGo]; rfl
  | lock | unlock => rw [apply, Shared.count_contents_setLock]; rfl
  | openChannel =>
    rw [apply, Shared.isOpen_openChannel]
    by_cases hn : n = s.channels.length
    · subst hn
      simp [Shared.isOpen, Shared.contents, Shared.openChannel]
    · simp [Shared.contents, Shared.openChannel, hn, Ne.symm hn]
  | @take grips cell channel owned content =>
    have hc := Shared.count_contents_updateCell (Shared.lt_of_content content)
      (fun c => { c with content := none }) n
    simp only [content, Option.toList_some, Option.toList_none, List.count_nil] at hc
    simp only [apply, Shared.setContent, List.count_cons, List.count_nil] at hc ⊢
    have : (s.updateCell cell fun c => { c with content := none }).isOpen n = s.isOpen n := rfl
    rw [this]
    omega
  | @store _ grips cell channel _ empty _ =>
    have hc := Shared.count_contents_updateCell (hb.lt_of_lock hk rfl)
      (fun c => { c with content := some channel }) n
    simp only [empty, Option.toList_some, Option.toList_none, List.count_nil] at hc
    simp only [apply, Shared.setContent, List.count_nil] at hc ⊢
    have : (s.updateCell cell fun c => { c with content := some channel }).isOpen n = s.isOpen n := rfl
    rw [this]
    omega
  | @close _ _ channel owned =>
    have hopen := hb.isOpen_of_owned hk List.mem_cons_self
    have hcontents : (s.closeChannel channel).contents = s.contents := rfl
    rw [apply, Shared.isOpen_closeChannel, hcontents]
    by_cases hn : n = channel
    · subst hn
      simp [hopen.1]
      omega
    · simp [hn, Ne.symm hn]

/-- A slot comes into being for an identifier that has none, or goes when it is of no use. -/
theorem entries (h : m.Changes s k k') :
    (∃ id, s.entry? id = none ∧ m = .create id) ∨
      ∃ p : Identifier × Nat → Bool, (∀ e, s.isUnused e.2 = false → p e = true) ∧
        (m.apply s).entries = s.entries.filter p := by
  have same : s.entries = s.entries.filter fun _ => true := (List.filter_eq_self.2 fun _ _ => rfl).symm
  cases h with
  | create new => exact .inl ⟨_, new, rfl⟩
  | prune =>
    refine .inr ⟨_, fun e he => ?_, rfl⟩
    simp [he]
  | pruneAll =>
    refine .inr ⟨_, fun e he => ?_, rfl⟩
    simp [he]
  | refuse | beginWrite =>
    refine .inr ⟨fun _ => true, fun _ _ => rfl, ?_⟩
    rw [apply, Shared.beginWrite_snd]
    exact same
  | holdAll =>
    refine .inr ⟨fun _ => true, fun _ _ => rfl, ?_⟩
    rw [apply, Shared.holdAll_eq, (Shared.holdEach_frame s.entries).1]
    exact same
  | stay | hold | letGo | lock | unlock | openChannel | take | store | close | write | finish =>
    exact .inr ⟨fun _ => true, fun _ _ => rfl, same⟩

theorem mem_entries (h : m.Changes s k k') {e : Identifier × Nat} (he : e ∈ s.entries)
    (hused : s.isUnused e.2 = false) : e ∈ (m.apply s).entries := by
  obtain ⟨id, -, rfl⟩ | ⟨p, hp, heq⟩ := h.entries
  · exact List.mem_append_left _ he
  · rw [heq]
    exact List.mem_filter.2 ⟨he, hp e hused⟩

theorem length_le (h : m.Changes s k k') : s.cells.length ≤ (m.apply s).cells.length := by
  cases h with
  | create => exact Nat.le_of_lt (by simp [apply, Shared.create])
  | holdAll => exact Nat.le_of_eq (Shared.holdEach_frame s.entries).2.2.1.symm
  | refuse | beginWrite => exact Nat.le_of_eq (congrArg List.length Shared.cells_beginWrite.symm)
  | stay | openChannel | close | write | finish | prune | pruneAll => exact Nat.le_refl _
  | hold | letGo | lock | unlock | take | store => exact Nat.le_of_eq (Shared.length_updateCell _).symm

theorem keys_nodup (hs : (s.entries.map (·.1)).Nodup) (h : m.Changes s k k') :
    ((m.apply s).entries.map (·.1)).Nodup := by
  obtain ⟨id, hnew, rfl⟩ | ⟨p, -, heq⟩ := h.entries
  · rw [apply, Shared.create, List.map_append, List.map_singleton, ← List.concat_eq_append]
    exact hs.concat (Shared.not_mem_keys_of_find hnew)
  · rw [heq]
    exact hs.sublist (List.filter_sublist.map _)

theorem cells_nodup (hb : Balanced s kits) (h : m.Changes s k k') :
    ((m.apply s).entries.map (·.2)).Nodup := by
  obtain ⟨id, -, rfl⟩ | ⟨p, -, heq⟩ := h.entries
  · -- a new slot has a number that none had before
    rw [apply, Shared.create, List.map_append, List.map_singleton, ← List.concat_eq_append]
    refine hb.cells_nodup.concat fun hmem => ?_
    obtain ⟨e, he, heq⟩ := List.mem_map.1 hmem
    exact Nat.ne_of_lt (hb.cell_lt e he) heq
  · rw [heq]
    exact hb.cells_nodup.sublist (List.filter_sublist.map _)

theorem cell_lt (hb : Balanced s kits) (h : m.Changes s k k') {e : Identifier × Nat}
    (he : e ∈ (m.apply s).entries) : e.2 < (m.apply s).cells.length := by
  obtain ⟨id, -, rfl⟩ | ⟨p, -, heq⟩ := h.entries
  · rw [apply, Shared.create, List.length_append]
    rcases List.mem_append.1 he with he | he
    · exact Nat.lt_succ_of_lt (hb.cell_lt e he)
    · cases List.mem_singleton.1 he
      exact Nat.lt_succ_self _
  · rw [heq] at he
    exact Nat.lt_of_lt_of_le (hb.cell_lt e (List.mem_filter.1 he).1) h.length_le

/-- A slot that a call holds is of use, and stays. -/
theorem mem_entries_of_grips (hb : Balanced s kits) (h : m.Changes s k k') {k₂ : Kit} (hk₂ : k₂ ∈ kits)
    {e : Identifier × Nat} (he : e ∈ k₂.grips) : e ∈ (m.apply s).entries :=
  h.mem_entries (hb.grips k₂ hk₂ e he)
    (hb.isUnused_eq_false_of_mem_cells hk₂ (List.mem_map_of_mem he))

theorem grips (h : m.Changes s k k') {e : Identifier × Nat} (he : e ∈ k'.grips) :
    e ∈ k.grips ∨ e ∈ (m.apply s).entries := by
  cases h with
  | hold entry =>
    cases List.mem_singleton.1 he
    exact .inr (Shared.mem_entries_of_find entry)
  | create =>
    cases List.mem_singleton.1 he
    exact .inr (List.mem_append_right _ (List.mem_singleton.2 rfl))
  | holdAll =>
    rw [apply, Shared.holdAll_eq, (Shared.holdEach_frame s.entries).1]
    exact .inr he
  | letGo => exact .inl (List.mem_cons_of_mem _ he)
  | stay | lock | unlock | openChannel | take | store | close | refuse | beginWrite | write | finish
  | prune | pruneAll => exact .inl he

theorem lock_mem (hb : Balanced s kits) (hk : k ∈ kits) (h : m.Changes s k k') {c : Nat}
    (hc : k'.lock = some c) : c ∈ k'.cells := by
  have hlock := hb.lock_mem k hk c
  cases h with
  | lock grip =>
    cases hc
    exact List.mem_map_of_mem grip
  | hold | create | holdAll | letGo | unlock | prune | pruneAll => cases hc
  | stay | openChannel | take | store | close | refuse | beginWrite | write | finish => exact hlock hc

/-- Only a call that has the lock of a slot changes what it holds: it takes the channel out, or puts one
of the slot's identifier in. -/
theorem content (hb : Balanced s kits) (hk : k ∈ kits) (h : m.Changes s k k') (c : Nat) :
    (m.apply s).content c = s.content c ∨
      k.lock = some c ∧ k'.lock = some c ∧ ((m.apply s).content c = none ∨ s.content c = none ∧
        ∃ id n, (id, c) ∈ k.grips ∧ s.owner? n = some id ∧ (m.apply s).content c = some n) := by
  cases h with
  | stay | openChannel | close | write | finish | prune | pruneAll => exact .inl rfl
  | refuse | beginWrite =>
    rw [apply, Shared.beginWrite_snd]
    exact .inl rfl
  | hold => exact .inl Shared.content_hold
  | create => exact .inl (Shared.content_create c)
  | holdAll => exact .inl ((Shared.holdEach_frame s.entries).2.2.2.2.1 c)
  | letGo => exact .inl Shared.content_letGo
  | lock | unlock => exact .inl Shared.content_setLock
  | @take _ cell channel _ content =>
    rw [apply, Shared.content_setContent (Shared.lt_of_content content)]
    by_cases hc : c = cell
    · subst hc
      exact .inr ⟨rfl, rfl, .inl (if_pos rfl)⟩
    · exact .inl (if_neg hc)
  | @store id _ cell channel grip empty owner =>
    rw [apply, Shared.content_setContent (hb.lt_of_lock hk rfl)]
    by_cases hc : c = cell
    · subst hc
      exact .inr ⟨rfl, rfl, .inr ⟨empty, id, channel, grip, owner, if_pos rfl⟩⟩
    · exact .inl (if_neg hc)

theorem owner? (h : m.Changes s k k') {n : Nat} {id : Identifier} (ho : s.owner? n = some id) :
    (m.apply s).owner? n = some id := by
  cases h with
  | stay | hold | create | letGo | lock | unlock | take | store | finish | prune | pruneAll => exact ho
  | holdAll =>
    rw [apply, Shared.holdAll_eq, Shared.owner?, (Shared.holdEach_frame s.entries).2.1]
    exact ho
  | openChannel => exact Shared.owner?_openChannel ho _
  | close | write => exact (Shared.owner?_updateChannel _ n).trans ho
  | refuse | beginWrite =>
    rw [apply, Shared.beginWrite_snd]
    exact (Shared.owner?_updateChannel _ n).trans ho

/-- What a slot holds was opened for its identifier. -/
theorem content_owner (hb : Balanced s kits) (hk : k ∈ kits) (h : m.Changes s k k') {c n : Nat}
    (hc : (m.apply s).content c = some n) :
    ∃ id, (m.apply s).owner? n = some id ∧ (id, c) ∈ (m.apply s).entries := by
  rcases h.content hb hk c with heq | ⟨-, -, hnone | ⟨-, id, n', hgrip, howner, hsome⟩⟩
  · rw [heq] at hc
    obtain ⟨id, ho, he⟩ := hb.content_owner c n hc
    have hused : s.isUnused c = false :=
      Shared.isUnused_eq_false_iff.2 (.inr (.inr (by rw [hc]; exact Option.some_ne_none n)))
    exact ⟨id, h.owner? ho, h.mem_entries he hused⟩
  · rw [hnone] at hc
    cases hc
  · cases hsome.symm.trans hc
    exact ⟨id, h.owner? howner, h.mem_entries_of_grips hb hk hgrip⟩

/-- A channel that is closed stays so. -/
theorem isOpen (h : m.Changes s k k') {n : Nat} {id : Identifier} (ho : s.owner? n = some id)
    (hn : s.isOpen n = false) : (m.apply s).isOpen n = false := by
  cases h with
  | stay | hold | create | letGo | lock | unlock | take | store | finish | prune | pruneAll => exact hn
  | holdAll =>
    rw [apply, Shared.holdAll_eq, Shared.isOpen, (Shared.holdEach_frame s.entries).2.1]
    exact hn
  | openChannel =>
    obtain ⟨l, hl, -⟩ := Option.map_eq_some_iff.1 ho
    rw [apply, Shared.isOpen_openChannel, if_neg (Nat.ne_of_lt (List.getElem?_eq_some_iff.1 hl).1)]
    exact hn
  | close =>
    rw [apply, Shared.isOpen_closeChannel]
    split
    · rfl
    · exact hn
  | write => rwa [apply, Shared.isOpen_writeByte]
  | refuse | beginWrite => rwa [apply, Shared.isOpen_beginWrite]

theorem sound (hs : ∀ l ∈ s.channels, l.Sound) (h : m.Changes s k k') :
    ∀ l ∈ (m.apply s).channels, l.Sound := by
  cases h with
  | stay | hold | create | letGo | lock | unlock | take | store | finish | prune | pruneAll => exact hs
  | holdAll =>
    rw [apply, Shared.holdAll_eq, (Shared.holdEach_frame s.entries).2.1]
    exact hs
  | openChannel =>
    intro l hl
    rcases List.mem_append.1 hl with hl | hl
    · exact hs l hl
    · cases List.mem_singleton.1 hl
      rfl
  | close => exact Shared.sound_updateChannel hs fun _ _ => rfl
  | write => exact Shared.sound_updateChannel hs fun _ hl => hl
  | refuse | beginWrite =>
    rw [apply, Shared.beginWrite_snd]
    refine Shared.sound_updateChannel hs fun l hl => ?_
    obtain ⟨hphase, -, hclosed⟩ := Shared.write_nil_frame l.channel
    exact hclosed.trans (hl.trans (congrArg (fun p => !p.isOpen) hphase).symm)

/-- A call that writes has the lock of the slot that holds the channel. -/
theorem pen (hpen : ∀ p, k.pen = some p → ∃ c, k.lock = some c ∧ s.content c = some p.channel)
    (h : m.Changes s k k') {p : Pen} (hp : k'.pen = some p) :
    ∃ c, k'.lock = some c ∧ (m.apply s).content c = some p.channel := by
  cases h with
  | stay => exact hpen p hp
  | refuse =>
    rw [apply, Shared.beginWrite_snd]
    exact hpen p hp
  | @beginWrite _ cell _ _ content =>
    cases hp
    rw [apply, Shared.beginWrite_snd]
    exact ⟨cell, rfl, content⟩
  | write =>
    cases hp
    obtain ⟨c, hlock, hc⟩ := hpen _ rfl
    exact ⟨c, hlock, hc⟩
  | hold | create | holdAll | letGo | lock | unlock | openChannel | take | store | close | finish | prune
  | pruneAll => cases hp

end Move.Changes

namespace Balanced

variable {s : Shared} {kits : List Kit} {i : Nat} {k k' : Kit} {m : Move}

/-- Nothing that a call does changes what a slot holds while another has its lock. -/
theorem content_eq (hb : Balanced s kits) (hi : kits[i]? = some k) (h : m.Changes s k k') {j c : Nat}
    {k₂ : Kit} (hij : i ≠ j) (hj : kits[j]? = some k₂) (hc : k₂.lock = some c) :
    (m.apply s).content c = s.content c := by
  rcases h.content hb (List.mem_of_getElem? hi) c with heq | ⟨hlock, -⟩
  · exact heq
  · exact absurd (hb.lock_inj hi hj hlock hc) hij

/-- A step keeps the books. -/
theorem step (hb : Balanced s kits) (hi : kits[i]? = some k) (h : m.Changes s k k') :
    Balanced (m.apply s) (kits.set i k') := by
  have hk : k ∈ kits := List.mem_of_getElem? hi
  constructor
  case keys_nodup => exact h.keys_nodup hb.keys_nodup
  case cells_nodup => exact h.cells_nodup hb
  case cell_lt => exact fun e he => h.cell_lt hb he
  case grips =>
    intro k₂ hk₂ e he
    rcases List.mem_or_eq_of_mem_set hk₂ with hk₂ | rfl
    · exact h.mem_entries_of_grips hb hk₂ he
    · rcases h.grips he with he | he
      · exact h.mem_entries_of_grips hb hk he
      · exact he
  case handles =>
    intro c
    have hstep := h.handles hb hk c
    have hset := total_set hi Kit.cells k' c
    have := hb.handles c
    omega
  case locks =>
    intro c
    have hstep := h.locks hb hk c
    have hset := total_set hi Kit.locks k' c
    have := hb.locks c
    omega
  case lock_mem =>
    intro k₂ hk₂ c hc
    rcases List.mem_or_eq_of_mem_set hk₂ with hk₂ | rfl
    · exact hb.lock_mem k₂ hk₂ c hc
    · exact h.lock_mem hb hk hc
  case channels =>
    intro n
    have hstep := h.channels hb hk n
    have hset := total_set hi Kit.owned k' n
    have := hb.channels n
    omega
  case content_owner => exact fun c n hc => h.content_owner hb hk hc
  case pen =>
    intro k₂ hk₂ p hp
    obtain ⟨j, hj⟩ := List.mem_iff_getElem?.1 hk₂
    rcases getElem?_of_set hj with ⟨-, rfl⟩ | ⟨hij, hj⟩
    · exact h.pen (hb.pen k hk) hp
    · obtain ⟨c, hlock, hc⟩ := hb.pen k₂ (List.mem_of_getElem? hj) p hp
      exact ⟨c, hlock, (hb.content_eq hi h hij hj hlock).trans hc⟩
  case sound => exact h.sound hb.sound

/-- The switches of a channel are not in the books. -/
theorem switch (hb : Balanced s kits) (channel : Nat) (failWrites failClose : Bool) :
    Balanced (s.switch channel failWrites failClose) kits := by
  refine ⟨hb.keys_nodup, hb.cells_nodup, hb.cell_lt, hb.grips, hb.handles, hb.locks, hb.lock_mem, ?_, ?_,
    hb.pen, ?_⟩
  · intro n
    rw [Shared.isOpen_switch]
    exact hb.channels n
  · intro c n hc
    obtain ⟨id, ho, he⟩ := hb.content_owner c n hc
    exact ⟨id, (Shared.owner?_updateChannel _ n).trans ho, he⟩
  · exact Shared.sound_updateChannel hb.sound fun l hl => hl

end Balanced

end ThermalPrint.Interleaving
