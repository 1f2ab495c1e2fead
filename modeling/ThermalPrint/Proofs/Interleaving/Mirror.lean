import ThermalPrint.Proofs.Interleaving.Consistent
import ThermalPrint.Proofs.Registry.Alter

/-! What calls share, and a registry that holds the same: the same slots in the same order, and the same
channels. What one operation on the one side does to it, an operation on the other side does as well. -/

namespace ThermalPrint

open Transport

namespace Interleaving

variable {s s' : Shared} {r : Registry} {handles : List Handle} {id : Identifier} {cell channel n : Nat}
  {h k : Handle} {op : Operation} {kits : List Kit}

/-! ## What a lone call finds -/

namespace Balanced

/-- A call that has no lock finds every slot unlocked. -/
theorem isLocked_eq_false {k : Kit} (hb : Balanced s [k]) (hk : k.lock = none) (c : Nat) :
    s.isLocked c = false := by
  have hlocks := hb.locks c
  simp only [total, Kit.locks, List.flatMap_singleton, hk, Option.toList_none, List.count_nil] at hlocks
  cases hl : s.isLocked c with
  | false => rfl
  | true => simp [hl] at hlocks

/-- A slot that nobody has got hold of is of use exactly if it holds a channel. -/
theorem isUnused_eq (hb : Balanced s [{}]) (c : Nat) : s.isUnused c = (s.content c).isNone := by
  have hhandles : s.handles c = 0 := by
    rw [hb.handles]
    rfl
  have hlocked := hb.isLocked_eq_false rfl c
  cases hc : s.content c with
  | none =>
    cases hu : s.isUnused c with
    | true => rfl
    | false =>
      rcases Shared.isUnused_eq_false_iff.1 hu with h | h | h
      · exact absurd hhandles h
      · cases hlocked.symm.trans h
      · exact absurd hc h
  | some n => exact Shared.isUnused_eq_false_iff.2 (.inr (.inr (hc ▸ Option.some_ne_none n)))

theorem lt_channels (hb : Balanced s kits) (hc : s.content cell = some n) :
    n < s.channels.length := by
  obtain ⟨id, ho, -⟩ := hb.content_owner cell n hc
  obtain ⟨l, hl, -⟩ := Option.map_eq_some_iff.1 ho
  exact (List.getElem?_eq_some_iff.1 hl).1

/-- A call has got hold of the slot of its identifier. -/
theorem mem_entries {k : Kit} (hb : Balanced s [k]) (op : Operation) (hid : op.identifier? = some id)
    (hk : k.grips = op.grips cell) : (id, cell) ∈ s.entries := by
  refine hb.grips k (List.mem_singleton_self k) _ ?_
  rw [hk, Operation.grips_eq hid]
  exact List.mem_singleton_self _

end Balanced

/-! ## What a registry holds of it -/

/-- The handle of the channel that a slot holds. -/
def Shared.handle? (s : Shared) (handles : List Handle) (cell : Nat) : Option Handle :=
  (s.content cell).bind (handles[·]?)

theorem Shared.handle?_of_none (hc : s.content cell = none) : s.handle? handles cell = none := by
  rw [handle?, hc]
  rfl

/-- A registry holds what calls share. The channels are those of the handles, in the order in which they
were opened. -/
structure Mirrors (s : Shared) (r : Registry) (handles : List Handle) : Prop where
  slots : r.slots.entries = s.entries.map fun e => (e.1, s.handle? handles e.2)
  channels : handles.map r.line? = s.channels.map some
  nodup : handles.Nodup
  /-- There is no other channel. -/
  only : ∀ h l, r.line? h = some l → h ∈ handles
  plain : r.Plain

namespace Mirrors

theorem nil (hr : r.IsNew) (hplain : r.Plain) : Mirrors {} r [] where
  slots := hr.1
  channels := rfl
  nodup := List.nodup_nil
  only h l hl := by
    rw [hr.line?] at hl
    cases hl
  plain := hplain

theorem length_eq (hm : Mirrors s r handles) : handles.length = s.channels.length := by
  have hlength := congrArg List.length hm.channels
  rwa [List.length_map, List.length_map] at hlength

theorem line?_eq (hm : Mirrors s r handles) (hn : handles[n]? = some h) :
    r.line? h = s.channels[n]? := by
  have hline := congrArg (·[n]?) hm.channels
  simp only [List.getElem?_map, hn, Option.map_some] at hline
  cases hc : s.channels[n]? with
  | none => simp [hc] at hline
  | some l =>
    rw [hc] at hline
    exact Option.some.inj hline

theorem get?_eq (hm : Mirrors s r handles) (id : Identifier) :
    r.slots.get? id = (s.entry? id).map (s.handle? handles) := by
  simp only [Slots.get?, Shared.entry?, hm.slots, List.find?_map, Option.map_map]
  rfl

/-- What calls share stays the same for a registry as long as slots, their contents and channels do. -/
theorem frame (hm : Mirrors s r handles) (hentries : s'.entries = s.entries)
    (hchannels : s'.channels = s.channels) (hcontent : ∀ c, s'.content c = s.content c) :
    Mirrors s' r handles where
  slots := by
    rw [hm.slots, hentries]
    simp only [Shared.handle?, hcontent]
  channels := by rw [hm.channels, hchannels]
  nodup := hm.nodup
  only := hm.only
  plain := hm.plain

theorem create (hm : Mirrors s r handles) (he : s.entry? id = none) :
    Mirrors (s.create id) { r with slots := r.slots.ensure id } handles where
  slots := by
    have hnone : r.slots.get? id = none := by
      rw [hm.get?_eq, he]
      rfl
    have hkeys : id ∉ r.slots.entries.map (·.1) := by
      rw [Slots.mem_keys_iff, hnone]
      exact Bool.false_ne_true
    have hhandle (c : Nat) : (s.create id).handle? handles c = s.handle? handles c := by
      rw [Shared.handle?, Shared.content_create, Shared.handle?]
    have hnew : s.handle? handles s.cells.length = none :=
      Shared.handle?_of_none (by simp [Shared.content])
    rw [Slots.ensure, hnone]
    change Slots.putEntry id none r.slots.entries = _
    rw [Slots.putEntry_of_not_mem hkeys, hm.slots]
    simp only [hhandle]
    change _ = (s.entries ++ [(id, s.cells.length)]).map _
    rw [List.map_append, List.map_singleton, hnew]
  channels := hm.channels
  nodup := hm.nodup
  only := hm.only
  plain := hm.plain

theorem setContent (hm : Mirrors s r handles) (hcells : (s.entries.map (·.2)).Nodup)
    (he : (id, cell) ∈ s.entries) (hlt : cell < s.cells.length) (x : Option Nat) :
    Mirrors (s.setContent cell x) { r with slots := r.slots.put id (x.bind (handles[·]?)) } handles where
  slots := by
    have hkeys := r.slots.keys_nodup
    have hmem : id ∈ r.slots.entries.map (·.1) := by
      rw [hm.slots, List.map_map]
      exact List.mem_map.2 ⟨_, he, rfl⟩
    change Slots.putEntry id _ r.slots.entries = _
    rw [Slots.putEntry_of_mem hkeys hmem, hm.slots, List.map_map]
    rw [hm.slots, List.map_map] at hkeys
    refine List.map_congr_left fun e hmem => ?_
    have hsame : e.1 = id ↔ e.2 = cell := by
      constructor
      · intro hid
        rw [List.inj_on_of_nodup_map hkeys hmem he hid]
      · intro hcell
        rw [List.inj_on_of_nodup_map hcells hmem he hcell]
    simp only [Function.comp, hsame, Shared.handle?, Shared.content_setContent hlt]
    split
    · rfl
    · rfl
  channels := hm.channels
  nodup := hm.nodup
  only := hm.only
  plain := hm.plain

theorem alter (hm : Mirrors s r handles) (hn : handles[n]? = some h) (f : Channel → Channel) :
    Mirrors (s.updateChannel n f) (r.alter h f) handles where
  slots := hm.slots
  channels := by
    refine List.ext_getElem? fun m => ?_
    rw [List.getElem?_map, List.getElem?_map, Shared.getElem?_updateChannel]
    cases hm' : handles[m]? with
    | none =>
      have hnone : s.channels[m]? = none := by
        rw [List.getElem?_eq_none_iff, ← hm.length_eq, ← List.getElem?_eq_none_iff, hm']
      simp [hnone]
    | some k =>
      have hsame : k = h ↔ m = n := by
        obtain ⟨hlt, hk⟩ := List.getElem?_eq_some_iff.1 hm'
        obtain ⟨hlt', hh⟩ := List.getElem?_eq_some_iff.1 hn
        rw [← hk, ← hh, hm.nodup.getElem_inj_iff]
      have hline := hm.line?_eq hm'
      have hlt : m < s.channels.length := by
        rw [← hm.length_eq]
        exact (List.getElem?_eq_some_iff.1 hm').1
      simp only [Option.map_some, Registry.line?_alter, hsame, hline, List.getElem?_eq_getElem hlt]
      split
      · rfl
      · rfl
  nodup := hm.nodup
  only k l hl := by
    rw [Registry.line?_alter] at hl
    split at hl
    · obtain ⟨l', hl', -⟩ := Option.map_eq_some_iff.1 hl
      exact hm.only k l' hl'
    · exact hm.only k l hl
  plain := hm.plain.alter h f

theorem refused {f : Failure} (hm : Mirrors s r handles) (h : (r.openChannel id).1 = .error f) :
    Mirrors s (r.openChannel id).2 handles := by
  have hplain := (hm.plain.openChannel id).1
  have ho := Registry.openChannel_opened r id
  generalize r.openChannel id = result at h ho hplain ⊢
  cases ho with
  | failed f hslots hlines =>
    refine ⟨hslots ▸ hm.slots, ?_, hm.nodup, fun k l hl => hm.only k l (hlines k ▸ hl), hplain⟩
    rw [← hm.channels]
    exact List.map_congr_left fun k _ => hlines k
  | opened => cases h

theorem opened {kind : Kind} (hm : Mirrors s r handles)
    (hlt : ∀ c m, s.content c = some m → m < s.channels.length)
    (h : (r.openChannel id).1 = .ok (k, kind)) :
    Mirrors (s.openChannel id).2 (r.openChannel id).2 (handles ++ [k]) := by
  obtain ⟨hplain, hkind⟩ := hm.plain.openChannel id
  have hkind := hkind k kind h
  have ho := Registry.openChannel_opened r id
  generalize r.openChannel id = result at h ho hplain ⊢
  cases ho with
  | failed => cases h
  | @opened k' kind' r' hslots hnew hlines =>
    cases h
    have hfresh : k ∉ handles := by
      intro hk
      obtain ⟨m, hm'⟩ := List.mem_iff_getElem?.1 hk
      have hline := hm.line?_eq hm'
      rw [hnew, eq_comm, List.getElem?_eq_none_iff, ← hm.length_eq] at hline
      exact absurd (List.getElem?_eq_some_iff.1 hm').1 (Nat.not_lt.2 hline)
    constructor
    case slots =>
      rw [hslots, hm.slots]
      refine List.map_congr_left fun e _ => congrArg (Prod.mk e.1) ?_
      change (s.content e.2).bind _ = (s.content e.2).bind _
      cases hc : s.content e.2 with
      | none => rfl
      | some m =>
        have hm' : m < handles.length := hm.length_eq ▸ hlt e.2 m hc
        exact (List.getElem?_append_left hm').symm
    case channels =>
      have hold : handles.map r'.line? = handles.map r.line? := by
        refine List.map_congr_left fun a ha => ?_
        have hne : a ≠ k := by
          rintro rfl
          exact hfresh ha
        rw [hlines, if_neg hne]
      rw [List.map_append, hold, hm.channels, List.map_singleton, hlines, if_pos rfl]
      change _ = (s.channels ++ [_]).map some
      rw [List.map_append, List.map_singleton, hkind]
    case nodup =>
      rw [List.nodup_append]
      refine ⟨hm.nodup, List.nodup_singleton k, fun a ha b hb => ?_⟩
      rw [List.mem_singleton.1 hb]
      rintro rfl
      exact hfresh ha
    case only =>
      intro k' l hl
      rw [hlines] at hl
      split at hl
      · next he => exact List.mem_append_right _ (List.mem_singleton.2 he)
      · exact List.mem_append_left _ (hm.only k' l hl)
    case plain => exact hplain

/-- Slots are dropped on both sides alike. -/
theorem filter (hm : Mirrors s r handles) {p : Identifier × Nat → Bool}
    {q : Identifier × Option Handle → Bool}
    (hpq : ∀ e ∈ s.entries, p e = q (e.1, s.handle? handles e.2)) :
    Mirrors { s with entries := s.entries.filter p } { r with slots := r.slots.filter q } handles where
  slots := by
    change r.slots.entries.filter q = _
    rw [hm.slots, List.filter_map]
    refine congrArg (List.map _) (List.filter_congr fun e he => ?_)
    exact (hpq e he).symm
  channels := hm.channels
  nodup := hm.nodup
  only := hm.only
  plain := hm.plain

theorem get?_of_mem (hm : Mirrors s r handles) (he : (id, cell) ∈ s.entries) :
    r.slots.get? id = some (s.handle? handles cell) := by
  rw [Slots.get?_eq_some_iff, hm.slots]
  exact List.mem_map.2 ⟨_, he, rfl⟩

theorem exists_handle (hm : Mirrors s r handles) (hb : Balanced s kits)
    (hc : s.content cell = some n) :
    ∃ h, handles[n]? = some h ∧ s.handle? handles cell = some h := by
  have hlt : n < handles.length := hm.length_eq ▸ hb.lt_channels hc
  refine ⟨handles[n], List.getElem?_eq_getElem hlt, ?_⟩
  rw [Shared.handle?, hc]
  exact List.getElem?_eq_getElem hlt

theorem isSome_handle? (hm : Mirrors s r handles) (hb : Balanced s kits) (c : Nat) :
    (s.handle? handles c).isSome = (s.content c).isSome := by
  cases hc : s.content c with
  | none => rw [Shared.handle?_of_none hc]; rfl
  | some n =>
    obtain ⟨h, -, hh⟩ := hm.exists_handle hb hc
    rw [hh]
    rfl

theorem prune (hm : Mirrors s r handles) (hb : Balanced s [{}]) (id : Identifier) :
    Mirrors (s.prune id) { r with slots := r.slots.prune id } handles := by
  refine hm.filter fun e _ => ?_
  simp only [hb.isUnused_eq, hm.isSome_handle? hb, Option.not_isNone]

theorem pruneAll (hm : Mirrors s r handles) (hb : Balanced s [{}]) :
    Mirrors s.pruneAll { r with slots := r.slots.pruneAll } handles := by
  refine hm.filter fun e _ => ?_
  simp only [hb.isUnused_eq, hm.isSome_handle? hb, Option.not_isNone]

end Mirrors

end Interleaving

end ThermalPrint
