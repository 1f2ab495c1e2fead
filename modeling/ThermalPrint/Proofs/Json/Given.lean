import ThermalPrint.Proofs.Json.Integer
import ThermalPrint.Proofs.Json.Rearranged

/-! Records of which some fields are given. The members of an object give each field of a record once or not
at all, in any order and with other members between them; what is given is taken as if the fields came one after
another. -/

namespace ThermalPrint.Json

variable {α β σ : Type}

/-- A value that is written as an integer of 64 bits. -/
inductive Source.WritesInteger : Source → Int → Prop
  | number {x : NumberText} {n : Int} (h : x.WritesInteger n) : WritesInteger (.number x) n

/-- What members give for a name: nothing, or one value that states something. Other names may come as often as
they like. -/
inductive Gives (P : Source → α → Prop) (name : String) : Members → Option α → Prop
  | nil : Gives P name [] none
  | other {key : Spaced StringText} {other : String} {v : Spaced Source} {ms : Members} {o : Option α}
    (hkey : key.item.Writes other) (hne : other ≠ name) (h : Gives P name ms o) :
    Gives P name ((key, v) :: ms) o
  | given {key : Spaced StringText} {v : Spaced Source} {a : α} {ms : Members} (hkey : key.item.Writes name)
    (hv : P v.item a) (h : Gives P name ms none) : Gives P name ((key, v) :: ms) (some a)

namespace Gives

variable {P : Source → α → Prop} {Q : Source → β → Prop} {name other : String} {ms : Members} {o : Option α}
  {key : Spaced StringText} {v : Spaced Source}

theorem map {f : α → β} (h : Gives P name ms o) (himp : ∀ v, ∀ a ∈ o, P v a → Q v (f a)) :
    Gives Q name ms (o.map f) := by
  induction h with
  | nil => exact .nil
  | other hkey hne _ ih => exact .other hkey hne (ih himp)
  | given hkey hv _ ih =>
    exact .given hkey (himp _ _ rfl hv) (ih fun _ _ hnone => absurd hnone (Option.not_mem_none _))

theorem absent {P' : Source → α → Prop} (h : Gives P name ms none) : Gives P' name ms none :=
  h.map (f := id) fun _ _ hnone => absurd hnone (Option.not_mem_none _)

theorem image (h : Gives P name ms o) (f : α → β) :
    Gives (fun v b => ∃ a, P v a ∧ f a = b) name ms (o.map f) :=
  h.map fun _ a _ hv => ⟨a, hv, rfl⟩

theorem exists_value {a : α} (h : Gives P name ms (some a)) : ∃ v, P v a := by
  generalize ho : some a = o at h
  induction h with
  | nil => cases ho
  | other _ _ _ ih => exact ih ho
  | given _ hv _ _ =>
    cases ho
    exact ⟨_, hv⟩

theorem exists_name (h : Gives P name ms o) : ∀ m ∈ ms, ∃ other, m.1.item.Writes other := by
  induction h with
  | nil => exact List.forall_mem_nil _
  | other hkey _ _ ih => exact List.forall_mem_cons.2 ⟨⟨_, hkey⟩, ih⟩
  | given hkey _ _ ih => exact List.forall_mem_cons.2 ⟨⟨_, hkey⟩, ih⟩

/-- What is not given is not the name of a member. -/
theorem not_writes (h : Gives P name ms none) : ∀ m ∈ ms, ¬ m.1.item.Writes name := by
  generalize ho : none = o at h
  induction h with
  | nil => exact List.forall_mem_nil _
  | other hkey hne _ ih =>
    exact List.forall_mem_cons.2 ⟨fun hname => hne (Except.ok.inj (hkey.symm.trans hname)), ih ho⟩
  | given => cases ho

theorem of_cons_of_ne (h : Gives P name ((key, v) :: ms) o) (hkey : key.item.Writes other)
    (hne : other ≠ name) : Gives P name ms o := by
  cases h with
  | other _ _ h => exact h
  | given hkey' => exact absurd (Except.ok.inj (hkey.symm.trans hkey')) hne

theorem of_cons (h : Gives P name ((key, v) :: ms) o) (hkey : key.item.Writes name) :
    ∃ a, o = some a ∧ P v.item a ∧ Gives P name ms none := by
  cases h with
  | other hkey' hne => exact absurd (Except.ok.inj (hkey'.symm.trans hkey)) hne
  | given _ hv h => exact ⟨_, rfl, hv, h⟩

end Gives

/-! ## Readers -/

namespace Decoder

variable {d : Decoder α} {P : Source → α → Prop}

/-- The reader reads what a value states, where `levels` arrays and objects may be entered. -/
def Takes (d : Decoder α) (levels : Nat) (P : Source → α → Prop) : Prop :=
  ∀ ⦃n v a⦄, levels ≤ n → P v a → d (.text n) v.tree = .ok a

theorem natural_integer {name : String} {limit n : Nat} {exact : Exact n} (h : n < limit) (origin : Origin) :
    natural name limit origin (.atom (.number (.integer n exact))) = .ok n := by
  have hrange : (0 : Int) ≤ n ∧ (n : Int) < limit := ⟨Int.natCast_nonneg n, Int.ofNat_lt.2 h⟩
  rw [natural, if_pos hrange, Int.toNat_natCast]

theorem takes_natural (name : String) {limit : Nat} {toNat : α → Nat} {ofNat : Nat → α}
    (hlimit : ∀ a, toNat a < limit) (hof : ∀ a, ofNat (toNat a) = a) (levels : Nat) :
    Takes (fun origin node => (natural name limit origin node).map ofNat) levels
      fun v a => v.WritesInteger (toNat a) := by
  rintro n _ a - ⟨h⟩
  obtain ⟨exact, hread⟩ := (NumberText.read_eq_integer_iff _ _).2 h
  rw [Source.tree, hread]
  exact map_eq_ok_iff.2 ⟨toNat a, natural_integer (hlimit a) _, hof a⟩

/-- Null, which states that there is nothing, or a value that states something. -/
inductive Nulled (P : Source → α → Prop) : Source → Option α → Prop
  | null : Nulled P (.word .null) none
  | value {v : Source} {a : α} (hnull : v.tree ≠ .atom .null) (h : P v a) : Nulled P v (some a)

theorem Takes.option {levels : Nat} (h : d.Takes levels P) : (option d).Takes levels (Nulled P) := by
  rintro n v _ hn (_ | ⟨hnull, hv⟩)
  · rfl
  · rw [option_of_ne_null hnull, h hn hv]
    rfl

end Decoder

/-! ## Fields -/

namespace RecordForm

variable {origin : Origin} {fields fs : List (Field σ)} {ms : Members} {s s₁ s' : σ} {name : String}
  {key : Spaced StringText} {v : Spaced Source}

/-- What the members give for each of the fields, taken in the order of the fields. -/
def Collects (origin : Origin) (ms : Members) : List (Field σ) → σ → σ → Prop
  | [], s, s' => s = s'
  | f :: fs, s, s' => ∃ o, Gives (fun v s₁ => f.take origin v.tree s = .ok s₁) f.name ms o ∧
      Collects origin ms fs (o.getD s) s'

theorem Collects.eq_of_nil (h : Collects origin [] fields s s') : s = s' := by
  induction fields generalizing s with
  | nil => exact h
  | cons f fs ih =>
    obtain ⟨_, ⟨⟩, hfs⟩ := h
    exact ih hfs

/-- A member with the name of no field does not matter. -/
theorem Collects.of_cons_other (h : Collects origin ((key, v) :: ms) fields s s') (hkey : key.item.Writes name)
    (hne : ∀ f ∈ fields, name ≠ f.name) : Collects origin ms fields s s' := by
  induction fields generalizing s with
  | nil => exact h
  | cons f fs ih =>
    obtain ⟨hf, hfs⟩ := List.forall_mem_cons.1 hne
    obtain ⟨o, hgives, hrest⟩ := h
    exact ⟨o, hgives.of_cons_of_ne hkey hf, ih hrest hfs⟩

/-- The field of the first member may be taken before all others. -/
theorem Collects.of_cons (h : Collects origin ((key, v) :: ms) fields s s') (hapart : fields.Pairwise Field.Apart)
    {f : Field σ} (hf : f ∈ fields) (hkey : key.item.Writes f.name) :
    (∀ m ∈ ms, ¬ m.1.item.Writes f.name) ∧
      ∃ s₁, f.take origin v.item.tree s = .ok s₁ ∧ Collects origin ms fields s₁ s' := by
  induction fields generalizing s with
  | nil => exact absurd hf List.not_mem_nil
  | cons g gs ih =>
    obtain ⟨hg, hgs⟩ := List.pairwise_cons.1 hapart
    obtain ⟨o, hgives, hrest⟩ := h
    rcases List.mem_cons.1 hf with rfl | hf
    · obtain ⟨s₁, rfl, htake, hnone⟩ := hgives.of_cons hkey
      have hlater := hrest.of_cons_other hkey fun g' hg' => (hg g' hg').name_ne
      exact ⟨hnone.not_writes, s₁, htake, none, hnone.absent, hlater⟩
    · have hgiven := hgives.of_cons_of_ne hkey (hg f hf).name_ne.symm
      obtain ⟨hnot, s₁, htake, hlater⟩ := ih hrest hgs hf
      refine ⟨hnot, ?_⟩
      cases o with
      | none => exact ⟨s₁, htake, none, hgiven.absent, hlater⟩
      | some sg =>
        -- the field that comes first in the form is taken after the other as well
        have hswap {w : Source} (hw : g.take origin w.tree s = .ok sg) :
            ∃ s₂, f.take origin v.item.tree s = .ok s₂ ∧ g.take origin w.tree s₂ = .ok s₁ := by
          have hcomm := (hg f hf).comm origin w.tree v.item.tree s
          exact bind_eq_ok_iff.1 ((hcomm.eq_ok_iff s₁).1 (bind_eq_ok_iff.2 ⟨sg, hw, htake⟩))
        obtain ⟨w, hw⟩ := hgiven.exists_value
        obtain ⟨s₂, hs₂, -⟩ := hswap hw
        refine ⟨s₂, hs₂, some s₁, hgiven.map (f := fun _ => s₁) fun w a ha hw => ?_, hlater⟩
        obtain rfl := Option.some.inj ha
        obtain ⟨_, hs₂', hg₁⟩ := hswap hw
        rwa [Except.ok.inj (hs₂.symm.trans hs₂')]

/-- Members that give fields once or not at all, with any others between them, are taken as if one field after
another. -/
theorem takeMembers_of_collects (hapart : fields.Pairwise Field.Apart)
    (hnames : ∀ m ∈ ms, ∃ name, m.1.item.Writes name)
    (hnew : ∀ f ∈ fields, ∀ m ∈ ms, m.1.item.Writes f.name → f.given s = false)
    (h : Collects origin ms fields s s') : takeMembers fields origin (Source.memberTrees ms) s = .ok s' := by
  induction ms generalizing s with
  | nil => exact congrArg Except.ok h.eq_of_nil
  | cons m ms ih =>
    obtain ⟨key, v⟩ := m
    obtain ⟨⟨name, hkey⟩, hnames⟩ := List.forall_mem_cons.1 hnames
    refine takeMembers_cons_iff.2 ?_
    cases hfind : fields.find? (·.name == name) with
    | none =>
      have hother (f : Field σ) (hf : f ∈ fields) : name ≠ f.name := by
        rintro rfl
        exact List.find?_eq_none.1 hfind f hf (beq_self_eq_true _)
      refine ⟨s, .other hkey hfind v.item.skip_tree, ih hnames ?_ (h.of_cons_other hkey hother)⟩
      exact fun f hf m hm => hnew f hf m (.tail _ hm)
    | some f =>
      have hf := List.mem_of_find?_eq_some hfind
      obtain rfl : f.name = name := by simpa using List.find?_some hfind
      obtain ⟨hnot, s₁, htake, hlater⟩ := h.of_cons hapart hf hkey
      refine ⟨s₁, .field hkey hfind (hnew f hf _ (.head _) hkey) htake, ih hnames ?_ hlater⟩
      intro g hg m hm hwrites
      have hne : f ≠ g := fun he => hnot m hm (he ▸ hwrites)
      rw [(Field.apart_of_mem hapart hf hg hne).given_right htake]
      exact hnew g hg m (.tail _ hm) hwrites

/-! ## Records -/

theorem Collects.of {P : Source → α → Prop} {d : Decoder α} {get : σ → Option α} {put : α → σ → σ}
    {levels n : Nat} {o : Option α} (set : Option α → σ) (hnone : set none = s)
    (hsome : ∀ a, set (some a) = put a s) (hd : d.Takes levels P) (hn : levels ≤ n) (hgives : Gives P name ms o)
    (hrest : Collects (.text n) ms fs (set o) s') :
    Collects (.text n) ms (.of name get put d :: fs) s s' := by
  refine ⟨o.map (put · s), hgives.map fun v a _ hv => map_eq_ok_iff.2 ⟨a, hd hn hv, rfl⟩, ?_⟩
  cases o with
  | none => rwa [hnone] at hrest
  | some a => rwa [hsome] at hrest

theorem decoder_of_collects {form : RecordForm σ α} {a : α} {n : Nat} (hform : form.Orderly)
    (hnames : ∀ m ∈ ms, ∃ name, m.1.item.Writes name) (h : Collects (.text n) ms form.fields form.empty s)
    (hcomplete : form.complete s = .ok a) (close : List Blank) :
    form.decoder (.text (n + 1)) (Source.object ms close).tree = .ok a :=
  decoder_object rfl (takeMembers_of_collects hform.apart hnames (fun f hf _ _ _ => hform.new f hf) h) hcomplete

end RecordForm

end ThermalPrint.Json
