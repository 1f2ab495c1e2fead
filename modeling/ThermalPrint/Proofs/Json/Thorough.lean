import ThermalPrint.Proofs.Json.WellFormed

/-! Readers that look at the whole of a tree. What such a reader gives of a text it gives of a written
value: it reads no text that has a fault of its form. -/

namespace ThermalPrint.Json

variable {α β σ : Type} {levels : Nat}

/-! ## Values -/

theorem ArrayEnd.skipProblem?_eq_none {stop : ArrayEnd} (h : stop.problem? = none) :
    stop.skipProblem? = none := by
  cases stop with
  | closed | cut => rfl
  | _ => cases h

theorem ObjectEnd.skipProblem?_eq_none {stop : ObjectEnd} (h : stop.problem? = none) :
    stop.skipProblem? = none := by
  cases stop with
  | closed | cut => rfl
  | noKey afterComma atClose => cases afterComma <;> cases atClose <;> cases h
  | _ => cases h

namespace StringLiteral

theorem problem?_of_readUnits {stop : StringEnd} {us : List StringUnit} {cs : List Char}
    (h : readUnits stop us = .ok cs) : stop.problem? = none := by
  have hend {f : Unit → List Char} {cs : List Char} (h : (raise stop.problem?).map f = .ok cs) :
      stop.problem? = none := by
    obtain ⟨_, hraise, -⟩ := map_eq_ok_iff.1 h
    exact raise_eq_ok_iff.1 hraise
  have hmore {x : Except Fault (List Char)} {f : List Char → List Char} {cs : List Char}
      (ih : ∀ {cs : List Char}, x = .ok cs → stop.problem? = none) (h : x.map f = .ok cs) :
      stop.problem? = none := by
    obtain ⟨_, hrest, -⟩ := map_eq_ok_iff.1 h
    exact ih hrest
  fun_induction readUnits stop us generalizing cs with
  | case1 | case9 => exact hend h
  | case2 _ _ ih => exact hmore ih h
  | case4 _ _ _ _ _ _ ih => exact hmore ih h
  | case6 _ _ _ _ _ ih => exact hmore ih h
  | case12 _ _ _ _ _ ih => exact hmore ih h
  | case3 | case5 | case7 | case8 | case10 | case11 => cases h

/-- A literal that can be read can be passed over. -/
theorem skip_of_read {s : StringLiteral} {text : String} (h : s.read = .ok text) : s.skip = .ok () := by
  obtain ⟨cs, hcs, -⟩ := map_eq_ok_iff.1 h
  exact raise_eq_ok_iff.2 (problem?_of_readUnits hcs)

end StringLiteral

variable {origin : Origin}

theorem skip_of_resolveElements {es : List Node} {vs : List Value}
    (h : ∀ e ∈ es, ∀ v, e.resolve origin = .ok v → e.skip = .ok ())
    (hvs : resolveElements origin es = .ok vs) : ∀ e ∈ es, e.skip = .ok () := by
  induction es generalizing vs with
  | nil => exact List.forall_mem_nil _
  | cons e es ih =>
    obtain ⟨he, hes⟩ := List.forall_mem_cons.1 h
    obtain ⟨v, hv, hvs⟩ := bind_eq_ok_iff.1 hvs
    obtain ⟨us, hus, -⟩ := bind_eq_ok_iff.1 hvs
    exact List.forall_mem_cons.2 ⟨he v hv, ih hes hus⟩

theorem skip_of_resolveMembers {es : List (StringLiteral × Node)} {ms : List (String × Value)}
    (h : ∀ e ∈ es, ∀ v, e.2.resolve origin = .ok v → e.2.skip = .ok ())
    (hms : resolveMembers origin es = .ok ms) : ∀ e ∈ es, e.1.skip = .ok () ∧ e.2.skip = .ok () := by
  induction es generalizing ms with
  | nil => exact List.forall_mem_nil _
  | cons e es ih =>
    obtain ⟨he, hes⟩ := List.forall_mem_cons.1 h
    obtain ⟨name, hname, hms⟩ := bind_eq_ok_iff.1 hms
    obtain ⟨v, hv, hms⟩ := bind_eq_ok_iff.1 hms
    obtain ⟨rest, hrest, -⟩ := bind_eq_ok_iff.1 hms
    exact List.forall_mem_cons.2 ⟨⟨StringLiteral.skip_of_read hname, he v hv⟩, ih hes hrest⟩

/-- A tree that can be read as some value can be passed over. -/
theorem Node.skip_of_resolve {node : Node} {v : Value} (h : node.resolve origin = .ok v) :
    node.skip = .ok () := by
  induction node using Node.induction generalizing origin v with
  | atom a =>
    cases a with
    | null | bool | number => rfl
    | string s =>
      obtain ⟨text, htext, -⟩ := map_eq_ok_iff.1 h
      exact StringLiteral.skip_of_read htext
    | beyondRange | absent => cases h
  | array es stop ih =>
    obtain ⟨inner, -, h⟩ := bind_eq_ok_iff.1 h
    obtain ⟨vs, hvs, h⟩ := bind_eq_ok_iff.1 h
    obtain ⟨_, hraise, -⟩ := bind_eq_ok_iff.1 h
    have hes := skip_of_resolveElements (fun e he v hv => ih e he hv) hvs
    exact Node.skip_array_iff.2 ⟨hes, ArrayEnd.skipProblem?_eq_none (raise_eq_ok_iff.1 hraise)⟩
  | object ms stop ih =>
    obtain ⟨inner, -, h⟩ := bind_eq_ok_iff.1 h
    obtain ⟨vs, hvs, h⟩ := bind_eq_ok_iff.1 h
    obtain ⟨_, hraise, -⟩ := bind_eq_ok_iff.1 h
    have hms := skip_of_resolveMembers (fun m hm v hv => ih m hm hv) hvs
    exact Node.skip_object_iff.2 ⟨hms, ObjectEnd.skipProblem?_eq_none (raise_eq_ok_iff.1 hraise)⟩

/-! ## Readers -/

theorem Origin.exists_of_enter {inner : Origin} (h : Origin.enter (.text levels) = .ok inner) :
    ∃ n, inner = .text n := by
  cases levels with
  | zero => cases h
  | succ n =>
    cases h
    exact ⟨n, rfl⟩

/-- A reader that gives nothing of a part of a text that has a fault of its form. -/
def Decoder.Thorough (d : Decoder α) : Prop :=
  ∀ ⦃levels node a⦄, d (.text levels) node = .ok a → node.skip = .ok ()

namespace Decoder

variable {d : Decoder α}

theorem thorough_string : Thorough string := by
  intro levels node text h
  cases node with
  | atom a =>
    cases a with
    | string s => exact StringLiteral.skip_of_read h
    | _ => exact absurd h mismatch_ne_ok
  | array | object => exact absurd h mismatch_ne_ok

theorem thorough_bool : Thorough bool := by
  intro levels node b h
  cases node with
  | atom a =>
    cases a with
    | bool b => rfl
    | _ => exact absurd h mismatch_ne_ok
  | array | object => exact absurd h mismatch_ne_ok

theorem thorough_resolve : Thorough Node.resolve := fun _ _ _ h => Node.skip_of_resolve h

theorem Thorough.map (hd : Thorough d) (f : α → β) : Thorough fun origin node => (d origin node).map f := by
  intro levels node b h
  obtain ⟨a, ha, -⟩ := map_eq_ok_iff.1 h
  exact hd ha

theorem Thorough.bind (hd : Thorough d) (f : α → Except Fault β) :
    Thorough fun origin node => d origin node >>= f := by
  intro levels node b h
  obtain ⟨a, ha, -⟩ := bind_eq_ok_iff.1 h
  exact hd ha

theorem thorough_option (hd : Thorough d) : Thorough (option d) := by
  intro levels node a h
  by_cases hnull : node = .atom .null
  · rw [hnull]
    rfl
  · rw [option_of_ne_null hnull] at h
    exact hd.map some h

theorem thorough_elements (hd : Thorough d) {es : List Node} {as : List α}
    (h : elements d (.text levels) es = .ok as) : ∀ e ∈ es, e.skip = .ok () := by
  induction es generalizing as with
  | nil => exact List.forall_mem_nil _
  | cons e es ih =>
    obtain ⟨a, ha, h⟩ := bind_eq_ok_iff.1 h
    obtain ⟨as, has, -⟩ := bind_eq_ok_iff.1 h
    exact List.forall_mem_cons.2 ⟨hd ha, ih has⟩

theorem thorough_list (hd : Thorough d) : Thorough (list d) := by
  intro levels node as h
  cases node with
  | atom | object => exact absurd h mismatch_ne_ok
  | array es stop =>
    obtain ⟨inner, henter, h⟩ := bind_eq_ok_iff.1 h
    obtain ⟨as, has, h⟩ := bind_eq_ok_iff.1 h
    obtain ⟨_, hraise, -⟩ := bind_eq_ok_iff.1 h
    obtain ⟨n, rfl⟩ := Origin.exists_of_enter henter
    have hstop := ArrayEnd.skipProblem?_eq_none (raise_eq_ok_iff.1 hraise)
    exact Node.skip_array_iff.2 ⟨thorough_elements hd has, hstop⟩

theorem thorough_unit : Thorough unit := by
  intro levels node a h
  cases node with
  | atom a =>
    cases a with
    | null => rfl
    | _ => exact absurd h mismatch_ne_ok
  | array | object => exact absurd h mismatch_ne_ok

theorem thorough_variant (variants : List (String × α)) : Thorough (variant variants) := by
  intro levels node a h
  cases node with
  | atom a =>
    cases a with
    | string s =>
      obtain ⟨name, hname, -⟩ := bind_eq_ok_iff.1 h
      exact StringLiteral.skip_of_read hname
    | absent why => cases why <;> cases h
    | _ => cases h
  | array => cases h
  | object ms stop =>
    obtain ⟨inner, henter, h⟩ := bind_eq_ok_iff.1 h
    obtain ⟨n, rfl⟩ := Origin.exists_of_enter henter
    cases ms with
    | nil => cases stop <;> cases h
    | cons m ms =>
      obtain ⟨key, v⟩ := m
      obtain ⟨name, hname, h⟩ := bind_eq_ok_iff.1 h
      obtain ⟨a', -, h⟩ := bind_eq_ok_iff.1 h
      obtain ⟨_, hunit, h⟩ := bind_eq_ok_iff.1 h
      have hend : ms = [] ∧ stop = .closed := by
        cases ms with
        | nil =>
          cases stop with
          | closed => exact ⟨rfl, rfl⟩
          | _ => cases h
        | cons m ms => cases h
      obtain ⟨rfl, rfl⟩ := hend
      have hmember : key.skip = .ok () ∧ v.skip = .ok () :=
        ⟨StringLiteral.skip_of_read hname, thorough_unit hunit⟩
      exact Node.skip_object_iff.2 ⟨List.forall_mem_cons.2 ⟨hmember, List.forall_mem_nil _⟩, rfl⟩

end Decoder

/-! ## Records -/

/-- A field whose value is looked at as a whole. -/
def Field.Thorough (f : Field σ) : Prop := ∀ s, Decoder.Thorough fun origin node => f.take origin node s

theorem Field.thorough_of {d : Decoder α} (hd : d.Thorough) (name : String) (get : σ → Option α)
    (put : α → σ → σ) : (Field.of name get put d).Thorough :=
  fun s => hd.map (put · s)

namespace RecordForm

variable {fields : List (Field σ)} {s s' : σ}

/-- The elements that fields are filled with; the others are left. -/
theorem skip_of_fill (hfields : ∀ f ∈ fields, f.Thorough) {es rest : List Node}
    (h : fill (.text levels) fields es s = .ok (s', rest)) :
    rest = es.drop fields.length ∧ ∀ e ∈ es.take fields.length, e.skip = .ok () := by
  induction fields generalizing es s with
  | nil =>
    cases es <;> cases h <;> exact ⟨rfl, List.forall_mem_nil _⟩
  | cons f fs ih =>
    cases es with
    | nil =>
      cases h
      exact ⟨rfl, List.forall_mem_nil _⟩
    | cons e es =>
      obtain ⟨hf, hfs⟩ := List.forall_mem_cons.1 hfields
      obtain ⟨s₁, htake, h⟩ := bind_eq_ok_iff.1 h
      obtain ⟨hrest, hes⟩ := ih hfs h
      exact ⟨hrest, List.forall_mem_cons.2 ⟨hf s htake, hes⟩⟩

theorem skip_of_takeMembers (hfields : ∀ f ∈ fields, f.Thorough) {ms : List (StringLiteral × Node)}
    (h : takeMembers fields (.text levels) ms s = .ok s') :
    ∀ m ∈ ms, m.1.skip = .ok () ∧ m.2.skip = .ok () := by
  induction ms generalizing s with
  | nil => exact List.forall_mem_nil _
  | cons m ms ih =>
    obtain ⟨s₁, htakes, hlater⟩ := takeMembers_cons_iff.1 h
    refine List.forall_mem_cons.2 ⟨?_, ih hlater⟩
    cases htakes with
    | other hname _ hskip => exact ⟨StringLiteral.skip_of_read hname, hskip⟩
    | field hname hfind _ htake =>
      exact ⟨StringLiteral.skip_of_read hname, hfields _ (List.mem_of_find?_eq_some hfind) _ htake⟩

/-- Nothing is left over of an array in a text. -/
theorem eq_of_surplus {total n : Nat} {rest : List Node} {stop : ArrayEnd}
    (h : surplus (.text levels) total n rest stop = .ok ()) : rest = [] ∧ stop = .closed := by
  cases rest with
  | nil =>
    cases stop with
    | closed => exact ⟨rfl, rfl⟩
    | _ => cases h
  | cons e rest => cases h

theorem thorough_decoder {form : RecordForm σ α} (hfields : ∀ f ∈ form.fields, f.Thorough) :
    form.decoder.Thorough := by
  intro levels node a h
  cases node with
  | atom => exact absurd h mismatch_ne_ok
  | array es stop =>
    obtain ⟨inner, henter, h⟩ := bind_eq_ok_iff.1 h
    obtain ⟨n, rfl⟩ := Origin.exists_of_enter henter
    obtain ⟨⟨s, rest⟩, hfill, h⟩ := bind_eq_ok_iff.1 h
    obtain ⟨hrest, hes⟩ := skip_of_fill hfields hfill
    have hskip (hlength : es.length ≤ form.fields.length) (hstop : stop.problem? = none) :
        (Node.array es stop).skip = .ok () := by
      rw [List.take_of_length_le hlength] at hes
      exact Node.skip_array_iff.2 ⟨hes, ArrayEnd.skipProblem?_eq_none hstop⟩
    cases hcomplete : form.complete s with
    | error missing =>
      simp only [hcomplete] at h
      split at h
      · obtain ⟨_, -, h⟩ := bind_eq_ok_iff.1 h
        cases h
      · cases h
    | ok a' =>
      simp only [hcomplete] at h
      by_cases hlength : es.length < form.fields.length
      · simp only [if_pos hlength] at h
        obtain ⟨_, hraise, -⟩ := bind_eq_ok_iff.1 h
        exact hskip (Nat.le_of_lt hlength) (raise_eq_ok_iff.1 hraise)
      · simp only [if_neg hlength] at h
        obtain ⟨_, hsurplus, -⟩ := bind_eq_ok_iff.1 h
        obtain ⟨rfl, rfl⟩ := eq_of_surplus hsurplus
        exact hskip (List.drop_eq_nil_iff.1 hrest.symm) rfl
  | object ms stop =>
    obtain ⟨inner, henter, h⟩ := bind_eq_ok_iff.1 h
    obtain ⟨n, rfl⟩ := Origin.exists_of_enter henter
    obtain ⟨s, htake, h⟩ := bind_eq_ok_iff.1 h
    obtain ⟨_, hraise, -⟩ := bind_eq_ok_iff.1 h
    have hms := skip_of_takeMembers hfields htake
    exact Node.skip_object_iff.2 ⟨hms, ObjectEnd.skipProblem?_eq_none (raise_eq_ok_iff.1 hraise)⟩

end RecordForm

/-! ## Texts -/

/-- A text that is read by a reader which looks at the whole of it is a written value with blanks around
it. -/
theorem exists_source_of_decodeText {d : Decoder α} (hd : d.Thorough) {text : String} {a : α}
    (h : decodeText d text = .ok a) : ∃ s : Spaced Source, s.text = text := by
  refine exists_source_iff.2 ⟨hd (root_of_decodeText h), ?_⟩
  obtain ⟨_, -, h⟩ := bind_eq_ok_iff.1 h
  cases htrailing : (Document.ofText text).trailing with
  | false => rfl
  | true =>
    simp only [htrailing, if_true] at h
    obtain ⟨_, h, -⟩ := bind_eq_ok_iff.1 h
    cases h

end ThermalPrint.Json
