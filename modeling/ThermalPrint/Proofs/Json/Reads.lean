import Mathlib.Data.List.Forall2
import ThermalPrint.Proofs.Json.Record

/-! What readers read of values held in memory: each reads exactly the values to which a relation holds,
as what it relates them to. -/

namespace ThermalPrint.Json

variable {α σ : Type} {v : Value} {ms : List (String × Value)} {name : String} {d : Decoder α}
  {P : Value → α → Prop}

/-- Canonical form is reached in one step. -/
theorem Value.canonical_canonical (v : Value) : v.canonical.canonical = v.canonical := by
  have hread : (v.tree .ofString).resolve .value = .ok v.canonical :=
    resolve_tree faithful_ofString trivial
  exact (Node.resolve_gives hread).canonical

namespace Decoder

/-- The reader reads a value as `a` exactly if the value states `a`. -/
def Reads (d : Decoder α) (P : Value → α → Prop) : Prop := ∀ v a, decodeValue d v = .ok a ↔ P v a

theorem reads_string : string.Reads fun v s => v = .string s := by
  intro v s
  cases v with
  | string t =>
    have hread : decodeValue string (.string t) = .ok t := faithful_ofString.read t
    rw [hread]
    exact ⟨fun h => congrArg _ (Except.ok.inj h), fun h => congrArg _ (Value.string.inj h)⟩
  | null | bool | number | array | object => exact ⟨fun h => absurd h mismatch_ne_ok, nofun⟩

theorem reads_bool : bool.Reads fun v b => v = .bool b := by
  intro v b
  cases v with
  | bool c => exact ⟨fun h => congrArg _ (Except.ok.inj h), fun h => congrArg _ (Value.bool.inj h)⟩
  | null | number | string | array | object => exact ⟨fun h => absurd h mismatch_ne_ok, nofun⟩

/-- A whole value is read in canonical form. -/
theorem decodeValue_resolve (v : Value) : decodeValue Node.resolve v = .ok v.canonical := by
  have hdepth : Origin.value.Admits v.canonical.depth := trivial
  rw [decodeValue, ← Value.tree_ofString, Value.resolve_tree faithful_ofString hdepth,
    Value.canonical_canonical]

theorem decodeValue_option (d : Decoder α) (h : v ≠ .null) :
    decodeValue (option d) v = (decodeValue d v).map some := by
  cases v with
  | null => exact absurd rfl h
  | bool | number | string | array | object => rfl

/-- Null, which states nothing, or a value that states something. -/
inductive Nullable (P : Value → α → Prop) : Value → Option α → Prop
  | null : Nullable P .null none
  | value {v : Value} {a : α} (hnull : v ≠ .null) (h : P v a) : Nullable P v (some a)

theorem Reads.option (h : d.Reads P) : (option d).Reads (Nullable P) := by
  intro v o
  constructor
  · intro hread
    by_cases hv : v = .null
    · subst hv
      cases hread
      exact .null
    · rw [decodeValue_option d hv] at hread
      obtain ⟨a, ha, rfl⟩ := map_eq_ok_iff.1 hread
      exact .value hv ((h v a).1 ha)
  · rintro (_ | ⟨hv, ha⟩)
    · rfl
    · rw [decodeValue_option d hv, (h _ _).2 ha]
      rfl

theorem Reads.elements (h : d.Reads P) (vs : List Value) (as : List α) :
    elements d .value (Node.ofElements (Value.canonicalElements vs)) = .ok as ↔
      List.Forall₂ P vs as := by
  induction vs generalizing as with
  | nil =>
    rw [List.forall₂_nil_left_iff]
    exact ⟨fun h => (Except.ok.inj h).symm, fun h => congrArg _ h.symm⟩
  | cons v vs ih =>
    rw [List.forall₂_cons_left_iff, Value.canonicalElements, Node.ofElements, Decoder.elements,
      bind_eq_ok_iff]
    constructor
    · rintro ⟨a, ha, hrest⟩
      obtain ⟨as, has, ⟨⟩⟩ := bind_eq_ok_iff.1 hrest
      exact ⟨a, as, (h v a).1 ha, (ih as).1 has, rfl⟩
    · rintro ⟨a, as, ha, has, rfl⟩
      exact ⟨a, (h v a).2 ha, bind_eq_ok_iff.2 ⟨as, (ih as).2 has, rfl⟩⟩

/-- An array whose elements state the elements of a list. -/
inductive Listed (P : Value → α → Prop) : Value → List α → Prop
  | array {vs : List Value} {as : List α} (h : List.Forall₂ P vs as) : Listed P (.array vs) as

theorem Reads.list (h : d.Reads P) : (list d).Reads (Listed P) := by
  intro v as
  cases v with
  | array vs =>
    have hread : decodeValue (Decoder.list d) (.array vs) =
        Decoder.elements d .value (Node.ofElements (Value.canonicalElements vs)) >>= .ok := rfl
    simp only [hread, bind_eq_ok_iff, h.elements, Except.ok.injEq, exists_eq_right]
    exact ⟨.array, fun ⟨h⟩ => h⟩
  | null | bool | number | string | object => exact ⟨fun h => absurd h mismatch_ne_ok, nofun⟩

end Decoder

/-! ## Fields -/

namespace RecordForm

variable {fs : List (Field σ)} {get : σ → Option α} {put : α → σ → σ} {s s' : σ}

theorem collect_nil_iff : collect (givenBy ms) [] s = .ok s' ↔ s = s' := by
  rw [collect, Except.ok.injEq]

/-- What is given for a field is read for it, and then for the others. -/
theorem collect_of_iff {Q : Option α → Prop} (hd : d.Reads P) (set : Option α → σ)
    (hnone : set none = s) (hsome : ∀ a, set (some a) = put a s)
    (hrest : ∀ o, collect (givenBy ms) fs (set o) = .ok s' ↔ Q o) :
    collect (givenBy ms) (Field.of name get put d :: fs) s = .ok s' ↔
      ∃ o, Option.Rel P (member? ms name) o ∧ Q o := by
  cases hv : member? ms name with
  | none =>
    have hnot : givenBy ms name = none := congrArg (Option.map _) hv
    change (takeGiven _ s (givenBy ms name) >>= _) = _ ↔ _
    rw [hnot, takeGiven, ok_bind, ← hnone, hrest]
    constructor
    · exact fun h => ⟨none, .none, h⟩
    · rintro ⟨_, ⟨⟩, h⟩
      exact h
  | some v =>
    have hgiven : givenBy ms name = some (.ofValue v.canonical) := congrArg (Option.map _) hv
    change (takeGiven _ s (givenBy ms name) >>= _) = _ ↔ _
    rw [hgiven]
    change ((decodeValue d v).map (put · s) >>= _) = _ ↔ _
    rw [bind_eq_ok_iff]
    constructor
    · rintro ⟨_, hread, hcollect⟩
      obtain ⟨a, ha, rfl⟩ := map_eq_ok_iff.1 hread
      exact ⟨some a, .some ((hd v a).1 ha), (hrest (some a)).1 (hsome a ▸ hcollect)⟩
    · rintro ⟨o, hrel, h⟩
      cases hrel with
      | @some _ a ha =>
        have hread : (decodeValue d v).map (put · s) = .ok (put a s) :=
          map_eq_ok_iff.2 ⟨a, (hd v a).2 ha, rfl⟩
        exact ⟨put a s, hread, hsome a ▸ (hrest (some a)).2 h⟩

end RecordForm

end ThermalPrint.Json
