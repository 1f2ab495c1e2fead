import ThermalPrint.Proofs.Json.Reading
import ThermalPrint.Proofs.Json.Source

/-! Parts of a text that are read ahead. Once a part of a text is known to be readable as some value, what
is read of it later is what would have been read in its place. Every reader of requests has this
property, which the readers of records, lists and options hand on. -/

namespace ThermalPrint.Json

variable {α β σ : Type} {origin origin' inner : Origin} {node : Node} {v : Value} {levels : Nat}

/-! ## Values -/

theorem resolveElements_admits {es : List Node} {vs : List Value}
    (h : ∀ e ∈ es, ∀ v, e.resolve origin = .ok v → e.resolve origin' = .ok v)
    (hvs : resolveElements origin es = .ok vs) : resolveElements origin' es = .ok vs := by
  induction es generalizing vs with
  | nil => exact hvs
  | cons e es ih =>
    obtain ⟨he, hes⟩ := List.forall_mem_cons.1 h
    obtain ⟨v, hv, hvs⟩ := bind_eq_ok_iff.1 hvs
    obtain ⟨us, hus, hvs⟩ := bind_eq_ok_iff.1 hvs
    rw [resolveElements, he v hv, ok_bind, ih hes hus]
    exact hvs

theorem resolveMembers_admits {es : List (StringLiteral × Node)} {ms : List (String × Value)}
    (h : ∀ e ∈ es, ∀ v, e.2.resolve origin = .ok v → e.2.resolve origin' = .ok v)
    (hms : resolveMembers origin es = .ok ms) : resolveMembers origin' es = .ok ms := by
  induction es generalizing ms with
  | nil => exact hms
  | cons e es ih =>
    obtain ⟨he, hes⟩ := List.forall_mem_cons.1 h
    obtain ⟨name, hname, hms⟩ := bind_eq_ok_iff.1 hms
    obtain ⟨v, hv, hms⟩ := bind_eq_ok_iff.1 hms
    obtain ⟨rest, hrest, hms⟩ := bind_eq_ok_iff.1 hms
    rw [resolveMembers, hname, ok_bind, he v hv, ok_bind, ih hes hrest]
    exact hms

/-- What is read does not depend on where a tree comes from, as long as there is room for it. -/
theorem Node.resolve_admits (h : node.resolve origin = .ok v) (hadmits : origin'.Admits node.depth) :
    node.resolve origin' = .ok v := by
  induction node using Node.induction generalizing origin origin' v with
  | atom a => exact h
  | array es stop ih =>
    obtain ⟨inner, -, h⟩ := bind_eq_ok_iff.1 h
    obtain ⟨vs, hvs, h⟩ := bind_eq_ok_iff.1 h
    obtain ⟨inner', henter, hinner⟩ := hadmits.enter
    have hdepth := Node.depthElements_le_iff.1 (Nat.le_refl (Node.depthElements es))
    have hvs' : resolveElements inner' es = .ok vs :=
      resolveElements_admits (fun e he v hv => ih e he hv (hinner.mono (hdepth e he))) hvs
    rw [Node.resolve, henter, ok_bind, hvs', ok_bind]
    exact h
  | object ms stop ih =>
    obtain ⟨inner, -, h⟩ := bind_eq_ok_iff.1 h
    obtain ⟨vs, hvs, h⟩ := bind_eq_ok_iff.1 h
    obtain ⟨inner', henter, hinner⟩ := hadmits.enter
    have hdepth := Node.depthMembers_le_iff.1 (Nat.le_refl (Node.depthMembers ms))
    have hvs' : resolveMembers inner' ms = .ok vs :=
      resolveMembers_admits (fun m hm v hv => ih m hm hv (hinner.mono (hdepth m hm))) hvs
    rw [Node.resolve, henter, ok_bind, hvs', ok_bind]
    exact h

/-! ## Readers -/

/-- Whether a written value can be read as some value with this many levels of nesting. -/
def Source.Readable (levels : Nat) (s : Source) : Prop := ∃ v, s.tree.resolve (.text levels) = .ok v

namespace Source

variable {es : List (Spaced Source)} {ms : Members} {close : List Blank}

theorem readable_of_elements {vs : List Value} (h : resolveElements (.text levels) (elementTrees es) = .ok vs) :
    ∀ e ∈ es, e.item.Readable levels := by
  induction es generalizing vs with
  | nil => exact List.forall_mem_nil _
  | cons e es ih =>
    obtain ⟨v, hv, h⟩ := bind_eq_ok_iff.1 h
    obtain ⟨us, hus, -⟩ := bind_eq_ok_iff.1 h
    exact List.forall_mem_cons.2 ⟨⟨v, hv⟩, ih hus⟩

theorem readable_of_members {vs : List (String × Value)}
    (h : resolveMembers (.text levels) (memberTrees ms) = .ok vs) :
    ∀ m ∈ ms, m.2.item.Readable levels := by
  induction ms generalizing vs with
  | nil => exact List.forall_mem_nil _
  | cons m ms ih =>
    obtain ⟨name, -, h⟩ := bind_eq_ok_iff.1 h
    obtain ⟨v, hv, h⟩ := bind_eq_ok_iff.1 h
    obtain ⟨us, hus, -⟩ := bind_eq_ok_iff.1 h
    exact List.forall_mem_cons.2 ⟨⟨v, hv⟩, ih hus⟩

theorem Readable.elements (h : (array es close).Readable levels) :
    ∃ n, Origin.enter (.text levels) = .ok (.text n) ∧ ∀ e ∈ es, e.item.Readable n := by
  obtain ⟨v, h⟩ := h
  obtain ⟨inner, henter, h⟩ := bind_eq_ok_iff.1 h
  obtain ⟨vs, hvs, -⟩ := bind_eq_ok_iff.1 h
  cases levels with
  | zero => cases henter
  | succ n =>
    cases henter
    exact ⟨n, rfl, readable_of_elements hvs⟩

theorem Readable.members (h : (object ms close).Readable levels) :
    ∃ n, Origin.enter (.text levels) = .ok (.text n) ∧ ∀ m ∈ ms, m.2.item.Readable n := by
  obtain ⟨v, h⟩ := h
  obtain ⟨inner, henter, h⟩ := bind_eq_ok_iff.1 h
  obtain ⟨vs, hvs, -⟩ := bind_eq_ok_iff.1 h
  cases levels with
  | zero => cases henter
  | succ n =>
    cases henter
    exact ⟨n, rfl, readable_of_members hvs⟩

end Source

/-- A reader that gives of a part of a text, where it stands, what it gives of it when it was read ahead. -/
def Decoder.Direct (d : Decoder α) : Prop :=
  ∀ ⦃s : Source⦄ ⦃levels a⦄, s.Readable levels → d .ahead s.tree = .ok a → d (.text levels) s.tree = .ok a

namespace Decoder

variable {d : Decoder α}

/-- Of values without parts a reader gives the same wherever they come from. -/
theorem direct_of (hatom : ∀ a levels, d (.text levels) (.atom a) = d .ahead (.atom a))
    (harray : ∀ es close levels a, (Source.array es close).Readable levels →
      d .ahead (Source.array es close).tree = .ok a → d (.text levels) (Source.array es close).tree = .ok a)
    (hobject : ∀ ms close levels a, (Source.object ms close).Readable levels →
      d .ahead (Source.object ms close).tree = .ok a →
      d (.text levels) (Source.object ms close).tree = .ok a) : Direct d := by
  intro s levels a hs h
  cases s with
  | word w => exact (hatom _ levels).trans h
  | number n => exact (hatom _ levels).trans h
  | string s => exact (hatom _ levels).trans h
  | array es close => exact harray es close levels a hs h
  | object ms close => exact hobject ms close levels a hs h

theorem direct_string : Direct string :=
  direct_of (fun a _ => by cases a <;> rfl) (fun _ _ _ _ _ h => absurd h mismatch_ne_ok)
    fun _ _ _ _ _ h => absurd h mismatch_ne_ok

theorem direct_bool : Direct bool :=
  direct_of (fun a _ => by cases a <;> rfl) (fun _ _ _ _ _ h => absurd h mismatch_ne_ok)
    fun _ _ _ _ _ h => absurd h mismatch_ne_ok

theorem direct_resolve : Direct Node.resolve := by
  rintro s levels a ⟨v, hv⟩ h
  exact Node.resolve_admits h (Node.resolve_gives hv).admits

theorem Direct.map (hd : Direct d) (f : α → β) : Direct fun origin node => (d origin node).map f := by
  intro s levels b hs h
  obtain ⟨a, ha, rfl⟩ := map_eq_ok_iff.1 h
  exact map_eq_ok_iff.2 ⟨a, hd hs ha, rfl⟩

theorem Direct.bind (hd : Direct d) (f : α → Except Fault β) :
    Direct fun origin node => d origin node >>= f := by
  intro s levels b hs h
  obtain ⟨a, ha, h⟩ := bind_eq_ok_iff.1 h
  exact bind_eq_ok_iff.2 ⟨a, hd hs ha, h⟩

theorem direct_option (hd : Direct d) : Direct (option d) := by
  intro s levels a hs h
  by_cases hnull : s.tree = .atom .null
  · rw [hnull] at h ⊢
    exact h
  · rw [option_of_ne_null hnull] at h ⊢
    exact hd.map some hs h

theorem direct_elements (hd : Direct d) {es : List (Spaced Source)} {as : List α}
    (hes : ∀ e ∈ es, e.item.Readable levels)
    (h : elements d .ahead (Source.elementTrees es) = .ok as) :
    elements d (.text levels) (Source.elementTrees es) = .ok as := by
  induction es generalizing as with
  | nil => exact h
  | cons e es ih =>
    obtain ⟨he, hes⟩ := List.forall_mem_cons.1 hes
    obtain ⟨a, ha, h⟩ := bind_eq_ok_iff.1 h
    obtain ⟨as, has, h⟩ := bind_eq_ok_iff.1 h
    rw [Source.elementTrees, elements, hd he ha, ok_bind, ih hes has]
    exact h

theorem direct_list (hd : Direct d) : Direct (list d) := by
  refine direct_of (fun _ _ => rfl) (fun es close levels as hs h => ?_)
    fun _ _ _ _ _ h => absurd h mismatch_ne_ok
  obtain ⟨n, henter, hes⟩ := hs.elements
  obtain ⟨_, ⟨⟩, h⟩ := bind_eq_ok_iff.1 h
  obtain ⟨as, has, h⟩ := bind_eq_ok_iff.1 h
  rw [Source.tree, list, henter, ok_bind, direct_elements hd hes has]
  exact h

end Decoder

/-! ## Records -/

/-- A field whose value is read directly. -/
def Field.Direct (f : Field σ) : Prop := ∀ s, Decoder.Direct fun origin node => f.take origin node s

theorem Field.direct_of {d : Decoder α} (hd : d.Direct) (name : String) (get : σ → Option α)
    (put : α → σ → σ) : (Field.of name get put d).Direct :=
  fun s => hd.map (put · s)

namespace RecordForm

variable {fields : List (Field σ)} {s s' : σ}

theorem direct_fill (hfields : ∀ f ∈ fields, f.Direct) {es : List (Spaced Source)} {rest : List Node}
    (hes : ∀ e ∈ es, e.item.Readable levels)
    (h : fill .ahead fields (Source.elementTrees es) s = .ok (s', rest)) :
    fill (.text levels) fields (Source.elementTrees es) s = .ok (s', rest) := by
  induction fields generalizing es s with
  | nil => cases es <;> exact h
  | cons f fs ih =>
    cases es with
    | nil => exact h
    | cons e es =>
      obtain ⟨hf, hfs⟩ := List.forall_mem_cons.1 hfields
      obtain ⟨he, hes⟩ := List.forall_mem_cons.1 hes
      obtain ⟨s₁, htake, h⟩ := bind_eq_ok_iff.1 h
      exact bind_eq_ok_iff.2 ⟨s₁, hf s he htake, ih hfs hes h⟩

theorem direct_takeMembers (hfields : ∀ f ∈ fields, f.Direct)
    {ms : Members} (hms : ∀ m ∈ ms, m.2.item.Readable levels)
    (h : takeMembers fields .ahead (Source.memberTrees ms) s = .ok s') :
    takeMembers fields (.text levels) (Source.memberTrees ms) s = .ok s' := by
  induction ms generalizing s with
  | nil => exact h
  | cons m ms ih =>
    obtain ⟨hm, hrest⟩ := List.forall_mem_cons.1 hms
    obtain ⟨s₁, htakes, hlater⟩ := takeMembers_cons_iff.1 h
    refine takeMembers_cons_iff.2 ⟨s₁, ?_, ih hrest hlater⟩
    cases htakes with
    | other hname hfind hskip => exact .other hname hfind hskip
    | field hname hfind hgiven htake =>
      exact .field hname hfind hgiven (hfields _ (List.mem_of_find?_eq_some hfind) s hm htake)

/-- What is left over is refused in a part that was read ahead as well. -/
theorem direct_surplus {total n : Nat} {rest : List Node} (h : surplus .ahead total n rest .closed = .ok ()) :
    surplus (.text levels) total n rest .closed = .ok () := by
  cases rest with
  | nil => rfl
  | cons e rest => cases h

theorem direct_decoder {form : RecordForm σ α} (hfields : ∀ f ∈ form.fields, f.Direct) :
    form.decoder.Direct := by
  refine Decoder.direct_of (fun _ _ => rfl) (fun es close levels a hs h => ?_)
    fun ms close levels a hs h => ?_
  · obtain ⟨n, henter, hes⟩ := hs.elements
    obtain ⟨_, ⟨⟩, h⟩ := bind_eq_ok_iff.1 h
    obtain ⟨⟨s, rest⟩, hfill, h⟩ := bind_eq_ok_iff.1 h
    rw [Source.tree, decoder, henter, ok_bind, direct_fill hfields hes hfill, ok_bind]
    cases hcomplete : form.complete s with
    | error missing =>
      simp only [hcomplete] at h ⊢
      exact h
    | ok a' =>
      simp only [hcomplete] at h ⊢
      by_cases hlength : (Source.elementTrees es).length < form.fields.length
      · simp only [if_pos hlength] at h ⊢
        exact h
      · simp only [if_neg hlength] at h ⊢
        obtain ⟨_, hsurplus, h⟩ := bind_eq_ok_iff.1 h
        exact bind_eq_ok_iff.2 ⟨_, direct_surplus hsurplus, h⟩
  · obtain ⟨n, henter, hms⟩ := hs.members
    obtain ⟨_, ⟨⟩, h⟩ := bind_eq_ok_iff.1 h
    obtain ⟨s, htake, h⟩ := bind_eq_ok_iff.1 h
    rw [Source.tree, decoder, henter, ok_bind, direct_takeMembers hfields hms htake, ok_bind]
    exact h

end RecordForm

end ThermalPrint.Json
