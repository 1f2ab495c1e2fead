import ThermalPrint.Json.Rearranged
import ThermalPrint.Proofs.Json.Record
import ThermalPrint.Proofs.Json.Source

/-! Objects whose members are rearranged. A record is read of its members in whatever order they come, and
members that are no fields are passed over, whatever their values. -/

namespace ThermalPrint.Json

variable {α σ : Type} {R : String → Source → Source → Prop} {names : List String} {ms ms' : Members}

/-! ## Written values -/

theorem StringText.skip_literal (s : StringText) : s.literal.skip = .ok () := rfl

/-- Every written value can be passed over. -/
theorem Source.skip_tree (s : Source) : s.tree.skip = .ok () := by
  induction s using Source.induction with
  | word w => cases w <;> rfl
  | number n =>
    rw [tree, Node.skip]
    cases n.numeral.read <;> rfl
  | string s => rfl
  | array es close ih =>
    have hes : skipElements (elementTrees es) = .ok () := by
      induction es with
      | nil => rfl
      | cons e es ihs =>
        obtain ⟨he, hes⟩ := List.forall_mem_cons.1 ih
        rw [elementTrees, skipElements, he, ok_bind, ihs hes]
    rw [tree, Node.skip, hes]
    rfl
  | object ms close ih =>
    have hms : skipMembers (memberTrees ms) = .ok () := by
      induction ms with
      | nil => rfl
      | cons m ms ihs =>
        obtain ⟨hm, hms⟩ := List.forall_mem_cons.1 ih
        rw [memberTrees, skipMembers, StringText.skip_literal, ok_bind, hm, ok_bind, ihs hms]
    rw [tree, Node.skip, hms]
    rfl

/-- Only a written string is read as a text. -/
theorem Source.exists_of_string {v : Source} {origin : Origin} {text : String}
    (h : Decoder.string origin v.tree = .ok text) :
    ∃ st : StringText, v = .string st ∧ st.Writes text := by
  cases v with
  | string st => exact ⟨st, rfl, h⟩
  | word w => cases w <;> exact absurd h mismatch_ne_ok
  | array | object => exact absurd h mismatch_ne_ok
  | number n =>
    rw [Source.tree] at h
    cases hread : n.numeral.read with
    | none => exact absurd (hread ▸ h) mismatch_ne_ok
    | some n => exact absurd (hread ▸ h) mismatch_ne_ok

/-! ## Rearranging -/

/-- Members may be put in any order. -/
theorem Rearranged.of_perm (h : ∀ name v, R name v v) (hperm : ms.Perm ms') : Rearranged names R ms ms' := by
  induction hperm with
  | nil => exact .nil
  | cons m _ ih => exact .cons rfl (fun name _ => h name m.2.item) ih
  | swap m n ms => exact .swap n m ms
  | trans _ _ ih ih' => exact .trans ih ih'

/-! ## Reading what is rearranged -/

/-- A reader that reads of a related value what it reads of a value. -/
def Decoder.Respects (d : Decoder α) (R : Source → Source → Prop) : Prop :=
  ∀ ⦃v v' origin a⦄, R v v' → d origin v.tree = .ok a → d origin v'.tree = .ok a

theorem Decoder.respects_eq (d : Decoder α) : d.Respects Eq := by
  rintro v _ origin a rfl h
  exact h

/-- A field that counts as given when it is taken, and that reads related values alike. -/
structure Field.Respects (f : Field σ) (R : Source → Source → Prop) : Prop where
  given ⦃origin node s s'⦄ : f.take origin node s = .ok s' → f.given s' = true
  take (s) : Decoder.Respects (fun origin node => f.take origin node s) R

theorem Field.respects_of {R : Source → Source → Prop} {name : String} {get : σ → Option α}
    {put : α → σ → σ} {d : Decoder α} (hget : ∀ a s, get (put a s) = some a) (hd : d.Respects R) :
    (Field.of name get put d).Respects R where
  given origin node s s' h := by
    obtain ⟨a, -, rfl⟩ := map_eq_ok_iff.1 h
    exact congrArg Option.isSome (hget a s)
  take s v v' origin s' hv h := by
    obtain ⟨a, ha, rfl⟩ := map_eq_ok_iff.1 h
    exact map_eq_ok_iff.2 ⟨a, hd hv ha, rfl⟩

namespace Decoder

variable {d : Decoder α} {S : Source → Source → Prop}

theorem elements_of_forall₂ (hd : d.Respects S) {origin : Origin} {es es' : List (Spaced Source)} {as : List α}
    (hes : List.Forall₂ (fun e e' => S e.item e'.item) es es')
    (h : elements d origin (Source.elementTrees es) = .ok as) :
    elements d origin (Source.elementTrees es') = .ok as := by
  induction hes generalizing as with
  | nil => exact h
  | cons he _ ih =>
    obtain ⟨a, ha, h⟩ := bind_eq_ok_iff.1 h
    obtain ⟨as, has, h⟩ := bind_eq_ok_iff.1 h
    rw [Source.elementTrees, elements, hd he ha, ok_bind, ih has]
    exact h

theorem Respects.list (hd : d.Respects S) : (list d).Respects (Source.Elementwise S) := by
  intro v v' origin as hv h
  cases hv with
  | same => exact h
  | array hes close close' =>
    obtain ⟨inner, henter, h⟩ := bind_eq_ok_iff.1 h
    obtain ⟨as, has, h⟩ := bind_eq_ok_iff.1 h
    rw [Source.tree, Decoder.list, henter, ok_bind, elements_of_forall₂ hd hes has]
    exact h

end Decoder

namespace RecordForm

variable {fields : List (Field σ)} {origin : Origin} {s s' : σ}

theorem find?_eq_none_of_not_mem {name : String} (h : name ∉ fields.map (·.name)) :
    fields.find? (·.name == name) = none :=
  List.find?_eq_none.2 fun f hf hname => h (List.mem_map.2 ⟨f, hf, by simpa using hname⟩)

/-- Two members may be taken in either order. -/
theorem Takes.swap (hfields : fields.Pairwise Field.Apart)
    (hrespects : ∀ f ∈ fields, f.Respects (R f.name)) {m n : StringLiteral × Node} {s₁ : σ}
    (hm : Takes fields origin m s s₁) (hn : Takes fields origin n s₁ s') :
    ∃ s₂, Takes fields origin n s s₂ ∧ Takes fields origin m s₂ s' := by
  cases hm with
  | other hname hfind hskip => exact ⟨s', hn, .other hname hfind hskip⟩
  | @field key name v f _ _ hname hfind hgiven htake =>
    cases hn with
    | other hname' hfind' hskip => exact ⟨s, .other hname' hfind' hskip, .field hname hfind hgiven htake⟩
    | @field key' name' v' g _ _ hname' hfind' hgiven' htake' =>
      have hf := List.mem_of_find?_eq_some hfind
      have hg := List.mem_of_find?_eq_some hfind'
      -- a field that is given twice is refused, so that there are two fields
      have hne : f ≠ g := by
        rintro rfl
        rw [(hrespects f hf).given htake] at hgiven'
        contradiction
      have hapart := Field.apart_of_mem hfields hf hg hne
      have hboth : (f.take origin v s >>= g.take origin v') = .ok s' := bind_eq_ok_iff.2 ⟨s₁, htake, htake'⟩
      obtain ⟨s₂, hg₂, hf₂⟩ := bind_eq_ok_iff.1 (((hapart.comm origin v v' s).eq_ok_iff s').1 hboth)
      refine ⟨s₂, .field hname' hfind' ?_ hg₂, .field hname hfind ?_ hf₂⟩
      · rwa [← hapart.given_right htake]
      · rwa [hapart.given_left hg₂]

/-- A record is taken of rearranged members as it is of the members. -/
theorem takeMembers_rearranged (hfields : fields.Pairwise Field.Apart)
    (hrespects : ∀ f ∈ fields, f.Respects (R f.name))
    (h : Rearranged (fields.map (·.name)) R ms ms')
    (hs : takeMembers fields origin (Source.memberTrees ms) s = .ok s') :
    takeMembers fields origin (Source.memberTrees ms') s = .ok s' := by
  induction h generalizing s with
  | nil => exact hs
  | @cons key key' v v' _ _ hkey hv _ ih =>
    obtain ⟨s₁, htakes, hrest⟩ := takeMembers_cons_iff.1 hs
    refine takeMembers_cons_iff.2 ⟨s₁, ?_, ih hrest⟩
    cases htakes with
    | other hname hfind hskip => exact .other (hkey ▸ hname) hfind (Source.skip_tree v'.item)
    | @field _ name _ f _ _ hname hfind hgiven htake =>
      have hf := List.mem_of_find?_eq_some hfind
      obtain rfl : f.name = name := by simpa using List.find?_some hfind
      exact .field (hkey ▸ hname) hfind hgiven ((hrespects f hf).take s (hv f.name hname) htake)
  | swap m n ms =>
    obtain ⟨s₁, hm, hs⟩ := takeMembers_cons_iff.1 hs
    obtain ⟨s₂, hn, hrest⟩ := takeMembers_cons_iff.1 hs
    obtain ⟨s₃, hn, hm⟩ := hm.swap hfields hrespects hn
    exact takeMembers_cons_iff.2 ⟨s₃, hn, takeMembers_cons_iff.2 ⟨s₂, hm, hrest⟩⟩
  | @drop key name hname hfield v ms =>
    obtain ⟨s₁, htakes, hrest⟩ := takeMembers_cons_iff.1 hs
    cases htakes with
    | other => exact hrest
    | field hname' hfind =>
      obtain rfl := Except.ok.inj (hname.symm.trans hname')
      rw [find?_eq_none_of_not_mem hfield] at hfind
      cases hfind
  | insert hname hfield v ms =>
    exact takeMembers_cons_iff.2 ⟨s, .other hname (find?_eq_none_of_not_mem hfield) v.item.skip_tree, hs⟩
  | trans _ _ ih ih' => exact ih' (ih hs)

variable {form : RecordForm σ α}

/-- A record is read of an object whose members are rearranged as it is of the object. -/
theorem respects_decoder (hfields : form.fields.Pairwise Field.Apart)
    (hrespects : ∀ f ∈ form.fields, f.Respects (R f.name)) :
    form.decoder.Respects (Source.Rearranged (form.fields.map (·.name)) R) := by
  intro v v' origin a hv h
  cases hv with
  | same => exact h
  | object hms close close' =>
    obtain ⟨inner, henter, h⟩ := bind_eq_ok_iff.1 h
    obtain ⟨s, htake, h⟩ := bind_eq_ok_iff.1 h
    rw [Source.tree, decoder, henter, ok_bind, takeMembers_rearranged hfields hrespects hms htake]
    exact h

end RecordForm

end ThermalPrint.Json
