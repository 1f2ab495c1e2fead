import ThermalPrint.Registry.History

/-! What the operations on slots make of the channels that are held, and where they leave no slot
empty. -/

namespace ThermalPrint.Slots

variable {slots : Slots} {id k : Identifier} {content : Option Handle} {h : Handle}

attribute [ext] Slots

/-- The channel in the slot of an identifier. -/
def held (slots : Slots) (id : Identifier) : Option Handle := (slots.get? id).join

/-- No slot is empty. -/
def Filled (slots : Slots) : Prop := ∀ id, slots.get? id ≠ some none

theorem putEntry_of_not_mem {entries : List (Identifier × Option Handle)}
    (h : id ∉ entries.map (·.1)) : putEntry id content entries = entries ++ [(id, content)] := by
  induction entries with
  | nil => rfl
  | cons e rest ih =>
    rw [List.map_cons, List.mem_cons, not_or] at h
    rw [putEntry, if_neg (Ne.symm h.1), ih h.2]
    rfl

theorem mem_keys_iff :
    id ∈ slots.entries.map (·.1) ↔ (slots.get? id).isSome = true := by
  simp only [Option.isSome_iff_exists, get?_eq_some_iff, List.mem_map, Prod.exists,
    exists_and_right, exists_eq_right]

theorem get?_ensure :
    (slots.ensure id).get? k = if k = id then some (slots.held id) else slots.get? k := by
  unfold ensure held
  split
  · next hs =>
    split
    · next hk => rw [hk, hs]; rfl
    · rfl
  · next hs => rw [get?_put, hs]; rfl

theorem get?_prune :
    (slots.prune id).get? k =
      if k = id then (slots.get? k).filter Option.isSome else slots.get? k := by
  rw [prune, get?_filter]
  split
  · next hk => simp [hk]
  · next hk => cases slots.get? k <;> simp [hk]

theorem get?_pruneAll : slots.pruneAll.get? k = (slots.get? k).filter Option.isSome := by
  rw [pruneAll, get?_filter]

private theorem join_filter_isSome (c : Option (Option Handle)) :
    (c.filter Option.isSome).join = c.join := by
  rcases c with _ | _ | _ <;> rfl

@[simp] theorem held_put :
    (slots.put id content).held k = if k = id then content else slots.held k := by
  rw [held, get?_put]
  split <;> rfl

@[simp] theorem held_ensure : (slots.ensure id).held k = slots.held k := by
  rw [held, get?_ensure]
  split
  · next hk => rw [hk]; rfl
  · rfl

@[simp] theorem held_prune : (slots.prune id).held k = slots.held k := by
  rw [held, get?_prune]
  split
  · exact join_filter_isSome _
  · rfl

@[simp] theorem held_pruneAll : slots.pruneAll.held k = slots.held k := by
  rw [held, get?_pruneAll]
  exact join_filter_isSome _

namespace Filled

theorem get?_eq (hs : slots.Filled) : slots.get? k = (slots.held k).map some := by
  cases hk : slots.get? k with
  | none => simp [held, hk]
  | some content =>
    cases content with
    | none => exact absurd hk (hs k)
    | some h => simp [held, hk]

/-- A channel may go into the only slot that is empty. -/
theorem put (hs : ∀ k, k ≠ id → slots.get? k ≠ some none) : (slots.put id (some h)).Filled := by
  intro k hk
  rw [get?_put] at hk
  split at hk
  · cases hk
  · next hne => exact hs k hne hk

/-- The only slot that is empty may be dropped. -/
theorem prune (hs : ∀ k, k ≠ id → slots.get? k ≠ some none) : (slots.prune id).Filled := by
  intro k hk
  rw [get?_prune] at hk
  split at hk
  · rw [Option.filter_eq_some_iff] at hk
    cases hk.2
  · next hne => exact hs k hne hk

theorem pruneAll (slots : Slots) : slots.pruneAll.Filled := by
  intro k hk
  rw [get?_pruneAll, Option.filter_eq_some_iff] at hk
  cases hk.2

theorem ne_of_ensure (hs : slots.Filled) : ∀ k, k ≠ id → (slots.ensure id).get? k ≠ some none := by
  intro k hne
  rw [get?_ensure, if_neg hne]
  exact hs k

theorem ne_of_put (hs : slots.Filled) :
    ∀ k, k ≠ id → (slots.put id content).get? k ≠ some none := by
  intro k hne
  rw [get?_put, if_neg hne]
  exact hs k

/-- Every entry is that of a channel that is held. -/
theorem mem_entries_iff (hs : slots.Filled) :
    (id, content) ∈ slots.entries ↔ ∃ h, content = some h ∧ slots.held id = some h := by
  rw [← get?_eq_some_iff, hs.get?_eq, Option.map_eq_some_iff]
  exact ⟨fun ⟨h, hh, e⟩ => ⟨h, e.symm, hh⟩, fun ⟨h, e, hh⟩ => ⟨h, hh, e.symm⟩⟩

theorem mem_isSome (hs : slots.Filled) {e : Identifier × Option Handle} (he : e ∈ slots.entries) :
    e.2.isSome = true := by
  obtain ⟨h, hh, -⟩ := hs.mem_entries_iff.1 (show (e.1, e.2) ∈ slots.entries from he)
  rw [hh]
  rfl

theorem prune_eq (hs : slots.Filled) (id : Identifier) : slots.prune id = slots := by
  refine Slots.ext (List.filter_eq_self.2 fun e he => ?_)
  change (decide (e.1 ≠ id) || e.2.isSome) = true
  rw [hs.mem_isSome he, Bool.or_true]

/-- A slot that is created and stays empty leaves no trace. -/
theorem prune_ensure (hs : slots.Filled) (id : Identifier) : (slots.ensure id).prune id = slots := by
  unfold ensure
  split
  · exact hs.prune_eq id
  · next hnone =>
    have hkeys : id ∉ slots.entries.map (·.1) := by
      rw [mem_keys_iff, hnone]
      exact Bool.false_ne_true
    refine Slots.ext ?_
    change (putEntry id none slots.entries).filter (fun e => e.1 ≠ id || e.2.isSome) = slots.entries
    rw [putEntry_of_not_mem hkeys, List.filter_append]
    have hkept : slots.entries.filter (fun e => e.1 ≠ id || e.2.isSome) = slots.entries :=
      congrArg Slots.entries (hs.prune_eq id)
    rw [hkept]
    simp

end Filled

end ThermalPrint.Slots
