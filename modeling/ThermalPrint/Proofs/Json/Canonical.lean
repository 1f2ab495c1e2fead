import ThermalPrint.Json.Value

/-! Values whose members are in order, and what putting them in order keeps: how deep a value is
nested, and that it holds no floating-point number. -/

namespace ThermalPrint.Json.Value

mutual

/-- How many arrays and objects are nested in each other. -/
def depth : Value → Nat
  | .array elements => depthElements elements + 1
  | .object members => depthMembers members + 1
  | _ => 0

def depthElements : List Value → Nat
  | [] => 0
  | v :: vs => max v.depth (depthElements vs)

def depthMembers : List (String × Value) → Nat
  | [] => 0
  | (_, v) :: ms => max v.depth (depthMembers ms)

end

mutual

/-- Whether every number in a value is an integer. -/
def floatFree : Value → Bool
  | .number (.float _) => false
  | .array elements => floatFreeElements elements
  | .object members => floatFreeMembers members
  | _ => true

def floatFreeElements : List Value → Bool
  | [] => true
  | v :: vs => v.floatFree && floatFreeElements vs

def floatFreeMembers : List (String × Value) → Bool
  | [] => true
  | (_, v) :: ms => v.floatFree && floatFreeMembers ms

end

/-- Induction over the parts of a value. -/
@[elab_as_elim]
theorem induction {motive : Value → Prop} (null : motive .null) (bool : ∀ b, motive (.bool b))
    (number : ∀ n, motive (.number n)) (string : ∀ s, motive (.string s))
    (array : ∀ elements, (∀ v ∈ elements, motive v) → motive (.array elements))
    (object : ∀ members, (∀ m ∈ members, motive m.2) → motive (.object members)) :
    ∀ v, motive v
  | .null => null
  | .bool b => bool b
  | .number n => number n
  | .string s => string s
  | .array es => array es fun v _ => induction null bool number string array object v
  | .object ms => object ms fun m _ => induction null bool number string array object m.2
termination_by v => sizeOf v
decreasing_by
  · next hv =>
    have := List.sizeOf_lt_of_mem hv
    simp only [Value.array.sizeOf_spec]
    omega
  · next hm =>
    have := List.sizeOf_lt_of_mem hm
    obtain ⟨k, v⟩ := m
    simp only [Prod.mk.sizeOf_spec, Value.object.sizeOf_spec] at this ⊢
    omega

variable {n : Nat} {key : String} {value : Value} {elements : List Value}
  {members sorted : List (String × Value)} {m : String × Value}

theorem depthElements_le_iff : depthElements elements ≤ n ↔ ∀ v ∈ elements, v.depth ≤ n := by
  induction elements with
  | nil => simp [depthElements]
  | cons v vs ih =>
    rw [List.forall_mem_cons, ← ih]
    exact Nat.max_le

theorem depthMembers_le_iff : depthMembers members ≤ n ↔ ∀ m ∈ members, m.2.depth ≤ n := by
  induction members with
  | nil => simp [depthMembers]
  | cons m ms ih =>
    rw [List.forall_mem_cons, ← ih]
    exact Nat.max_le

theorem floatFreeElements_iff :
    floatFreeElements elements = true ↔ ∀ v ∈ elements, v.floatFree = true := by
  induction elements with
  | nil => simp [floatFreeElements]
  | cons v vs ih => simp [floatFreeElements, ih]

theorem floatFreeMembers_iff :
    floatFreeMembers members = true ↔ ∀ m ∈ members, m.2.floatFree = true := by
  induction members with
  | nil => simp [floatFreeMembers]
  | cons m ms ih =>
    rw [List.forall_mem_cons, ← ih]
    exact Bool.and_eq_true_iff

/-! ## Members in order -/

theorem mem_insertMember (h : m ∈ insertMember key value members) : m = (key, value) ∨ m ∈ members := by
  induction members with
  | nil => exact .inl (List.mem_singleton.1 h)
  | cons e rest ih =>
    unfold insertMember at h
    split at h
    · exact List.mem_cons.1 h
    · split at h
      · exact (List.mem_cons.1 h).imp id (List.mem_cons_of_mem e)
      · rcases List.mem_cons.1 h with rfl | h
        · exact .inr List.mem_cons_self
        · exact (ih h).imp id (List.mem_cons_of_mem e)

theorem mem_sortMembers (h : m ∈ sortMembers members) : m ∈ members := by
  have hfold (ms sorted : List (String × Value))
      (h : m ∈ ms.foldl (fun sorted e => insertMember e.1 e.2 sorted) sorted) :
      m ∈ sorted ∨ m ∈ ms := by
    induction ms generalizing sorted with
    | nil => exact .inl h
    | cons e rest ih =>
      rcases ih _ h with h | h
      · rcases mem_insertMember h with rfl | h
        · exact .inr List.mem_cons_self
        · exact .inl h
      · exact .inr (List.mem_cons_of_mem e h)
  exact (hfold members [] h).resolve_left (List.not_mem_nil)

theorem depthMembers_sortMembers_le (members : List (String × Value)) :
    depthMembers (sortMembers members) ≤ depthMembers members :=
  depthMembers_le_iff.2 fun m hm =>
    depthMembers_le_iff.1 (Nat.le_refl _) m (mem_sortMembers hm)

/-- Members in strictly ascending order of their keys. -/
def Ascending (members : List (String × Value)) : Prop := members.Pairwise fun m m' => m.1 < m'.1

theorem Ascending.insertMember (h : Ascending members) : Ascending (insertMember key value members) := by
  induction members with
  | nil => exact List.pairwise_singleton _ _
  | cons e rest ih =>
    obtain ⟨he, hrest⟩ := List.pairwise_cons.1 h
    unfold Value.insertMember
    split
    · next hlt =>
      refine List.pairwise_cons.2 ⟨fun m hm => ?_, h⟩
      rcases List.mem_cons.1 hm with rfl | hm
      · exact hlt
      · exact String.lt_trans hlt (he m hm)
    · next hge =>
      split
      · next heq =>
        exact List.pairwise_cons.2 ⟨fun m hm => heq ▸ he m hm, hrest⟩
      · next hne =>
        refine List.pairwise_cons.2 ⟨fun m hm => ?_, ih hrest⟩
        rcases mem_insertMember hm with rfl | hm
        · exact String.not_le.1 fun hle => hne (String.le_antisymm hle (String.not_lt.1 hge))
        · exact he m hm

theorem ascending_sortMembers (members : List (String × Value)) : Ascending (sortMembers members) := by
  have hfold (ms sorted : List (String × Value)) (h : Ascending sorted) :
      Ascending (ms.foldl (fun sorted e => Value.insertMember e.1 e.2 sorted) sorted) := by
    induction ms generalizing sorted with
    | nil => exact h
    | cons e rest ih => exact ih _ h.insertMember
  exact hfold members [] .nil

/-- A member whose key comes after all others goes to the end. -/
theorem insertMember_of_forall_lt (h : ∀ m ∈ members, m.1 < key) :
    insertMember key value members = members ++ [(key, value)] := by
  induction members with
  | nil => rfl
  | cons e rest ih =>
    have he : e.1 < key := h e List.mem_cons_self
    have hne : key ≠ e.1 := fun heq => String.lt_irrefl e.1 (heq ▸ he)
    rw [insertMember, if_neg (String.lt_asymm he), if_neg hne,
      ih fun m hm => h m (List.mem_cons_of_mem e hm)]
    rfl

theorem Ascending.sortMembers_eq (h : Ascending members) : sortMembers members = members := by
  have hfold (ms sorted : List (String × Value)) (h : Ascending (sorted ++ ms)) :
      ms.foldl (fun sorted e => Value.insertMember e.1 e.2 sorted) sorted = sorted ++ ms := by
    induction ms generalizing sorted with
    | nil => exact (List.append_nil sorted).symm
    | cons e rest ih =>
      obtain ⟨-, -, hcross⟩ := List.pairwise_append.1 h
      have hlast : ∀ m ∈ sorted, m.1 < e.1 := fun m hm => hcross m hm e List.mem_cons_self
      calc (e :: rest).foldl (fun sorted e => Value.insertMember e.1 e.2 sorted) sorted
        _ = rest.foldl (fun sorted e => Value.insertMember e.1 e.2 sorted) (sorted ++ [e]) :=
          congrArg (List.foldl _ · rest) (insertMember_of_forall_lt hlast)
        _ = sorted ++ [e] ++ rest := ih _ (by rwa [List.append_assoc])
        _ = sorted ++ e :: rest := List.append_assoc _ _ _
  exact hfold members [] h

/-! ## Canonical values -/

theorem canonicalElements_eq_map (elements : List Value) :
    canonicalElements elements = elements.map canonical := by
  induction elements with
  | nil => rfl
  | cons v vs ih => exact congrArg _ ih

theorem canonicalMembers_eq_map (members : List (String × Value)) :
    canonicalMembers members = members.map fun m => (m.1, m.2.canonical) := by
  induction members with
  | nil => rfl
  | cons m ms ih => exact congrArg _ ih

/-- An object whose members are in order, and canonical themselves, is canonical. -/
theorem canonical_object (hsorted : Ascending members)
    (h : ∀ m ∈ members, m.2.canonical = m.2) : (object members).canonical = object members := by
  have hmembers : canonicalMembers members = members := by
    rw [canonicalMembers_eq_map]
    exact (List.map_congr_left fun m hm => congrArg (m.1, ·) (h m hm)).trans (List.map_id' members)
  rw [canonical, hmembers, hsorted.sortMembers_eq]

theorem canonical_array (h : ∀ v ∈ elements, v.canonical = v) :
    (array elements).canonical = array elements := by
  rw [canonical, canonicalElements_eq_map, List.map_congr_left h, List.map_id']

theorem depth_canonical_le (v : Value) : v.canonical.depth ≤ v.depth := by
  induction v using Value.induction with
  | null | bool | number | string => exact Nat.le_refl _
  | array es ih =>
    refine Nat.succ_le_succ (depthElements_le_iff.2 ?_)
    rw [canonicalElements_eq_map, List.forall_mem_map]
    exact fun v hv => Nat.le_trans (ih v hv) (depthElements_le_iff.1 (Nat.le_refl _) v hv)
  | object ms ih =>
    refine Nat.succ_le_succ (Nat.le_trans (depthMembers_sortMembers_le _) (depthMembers_le_iff.2 ?_))
    rw [canonicalMembers_eq_map, List.forall_mem_map]
    exact fun m hm => Nat.le_trans (ih m hm) (depthMembers_le_iff.1 (Nat.le_refl _) m hm)

theorem floatFree_canonical {v : Value} (h : v.floatFree = true) : v.canonical.floatFree = true := by
  induction v using Value.induction with
  | null | bool | number | string => exact h
  | array es ih =>
    refine floatFreeElements_iff.2 ?_
    rw [canonicalElements_eq_map, List.forall_mem_map]
    exact fun v hv => ih v hv (floatFreeElements_iff.1 h v hv)
  | object ms ih =>
    refine floatFreeMembers_iff.2 fun m hm => ?_
    have hm := mem_sortMembers hm
    rw [canonicalMembers_eq_map] at hm
    obtain ⟨m₀, hm₀, rfl⟩ := List.mem_map.1 hm
    exact ih m₀ hm₀ (floatFreeMembers_iff.1 h m₀ hm₀)

end ThermalPrint.Json.Value
