import ThermalPrint.Json.Source
import ThermalPrint.Proofs.Json.Nesting
import ThermalPrint.Proofs.Json.Record

/-! Values in their place. An array or object depends on one of its values only by the text of that value,
and what is read of the whole depends on it only by what is read of that value. -/

namespace ThermalPrint.Json

variable {α β σ : Type}

/-- An array or object one of whose values is left out, with the blanks around that value. -/
inductive Gap
  | element (before : List (Spaced Source)) (left right : List Blank) (after : List (Spaced Source))
    (close : List Blank)
  | member (before : Members) (key : Spaced StringText) (left right : List Blank) (after : Members)
    (close : List Blank)

namespace Gap

/-- The array or object with a value in its gap. -/
def fill : Gap → Source → Source
  | .element before left right after close, v => .array (before ++ ⟨left, v, right⟩ :: after) close
  | .member before key left right after close, v => .object (before ++ (key, ⟨left, v, right⟩) :: after) close

/-- The gap is at one field of a record, be it written as an object or as an array of its fields. -/
def IsField (fields : List String) (name : String) : Gap → Prop
  | .element before .. => fields[before.length]? = some name
  | .member _ key .. => key.item.Writes name

/-- The gap is at one element of a list. -/
def IsElement (i : Nat) : Gap → Prop
  | .element before .. => before.length = i
  | .member .. => False

end Gap

variable {g : Gap} {v w : Source} {origin : Origin}

/-! ## Texts -/

namespace Source

/-- A text with the text of a value in it, in the same place whatever the value. -/
def Surrounds (text : Source → List Char) : Prop := ∃ before after, ∀ v, text v = before ++ (v.chars ++ after)

namespace Surrounds

variable {text : Source → List Char}

theorem chars : Surrounds Source.chars := ⟨[], [], fun v => (List.append_nil v.chars).symm⟩

theorem prepend (h : Surrounds text) (l : List Char) : Surrounds fun v => l ++ text v := by
  obtain ⟨before, after, h⟩ := h
  exact ⟨l ++ before, after, fun v => by simp only [h, List.append_assoc]⟩

theorem append (h : Surrounds text) (l : List Char) : Surrounds fun v => text v ++ l := by
  obtain ⟨before, after, h⟩ := h
  exact ⟨before, after ++ l, fun v => by simp only [h, List.append_assoc]⟩

theorem spaced (h : Surrounds text) (before after : List Blank) :
    Surrounds fun v => spacedChars before (text v) after := (h.append _).prepend _

theorem named (h : Surrounds text) (key : Spaced StringText) :
    Surrounds fun v => spacedChars key.before key.item.chars key.after ++ ':' :: text v :=
  (h.prepend [':']).prepend _

theorem tailElements (left right : List Blank) (before after : List (Spaced Source)) (close : List Blank) :
    Surrounds fun v => tailElements close (before ++ ⟨left, v, right⟩ :: after) := by
  induction before with
  | nil => exact ((chars.spaced left right).append _).prepend [',']
  | cons e es ih => exact (ih.prepend _).prepend [',']

theorem tailMembers (key : Spaced StringText) (left right : List Blank) (before after : Members)
    (close : List Blank) : Surrounds fun v => tailMembers close (before ++ (key, ⟨left, v, right⟩) :: after) := by
  induction before with
  | nil => exact (((chars.spaced left right).append _).named key).prepend [',']
  | cons m ms ih => exact ((ih.prepend _).named m.1).prepend [',']

theorem fill (g : Gap) : Surrounds fun v => (g.fill v).chars := by
  cases g with
  | element before left right after close =>
    cases before with
    | nil => exact ((chars.spaced left right).append _).prepend ['[']
    | cons e es => exact ((tailElements left right es after close).prepend _).prepend ['[']
  | member before key left right after close =>
    cases before with
    | nil => exact (((chars.spaced left right).append _).named key).prepend ['\x7b']
    | cons m ms => exact (((tailMembers key left right ms after close).prepend _).named m.1).prepend ['\x7b']

/-- A value that is filled into a value stands where that one stood. -/
theorem fill_fill (h : Surrounds text) (g : Gap) : Surrounds fun v => text (g.fill v) := by
  obtain ⟨before, after, h⟩ := h
  obtain ⟨before', after', hfill⟩ := ((fill g).prepend before).append after
  exact ⟨before', after', fun v => by simp only [← hfill, List.append_assoc, h]⟩

end Surrounds

/-! ## Trees -/

theorem elementTrees_append (es es' : List (Spaced Source)) :
    elementTrees (es ++ es') = elementTrees es ++ elementTrees es' := by
  induction es with
  | nil => rfl
  | cons e es ih => rw [List.cons_append, elementTrees, ih, elementTrees, List.cons_append]

theorem length_elementTrees (es : List (Spaced Source)) : (elementTrees es).length = es.length := by
  induction es with
  | nil => rfl
  | cons e es ih => rw [elementTrees, List.length_cons, ih, List.length_cons]

theorem memberTrees_append (ms ms' : Members) : memberTrees (ms ++ ms') = memberTrees ms ++ memberTrees ms' := by
  induction ms with
  | nil => rfl
  | cons m ms ih => rw [List.cons_append, memberTrees, ih, memberTrees, List.cons_append]

end Source

namespace Gap

theorem tree_element (before : List (Spaced Source)) (left right : List Blank) (after : List (Spaced Source))
    (close : List Blank) (v : Source) : (fill (.element before left right after close) v).tree =
      .array (Source.elementTrees before ++ v.tree :: Source.elementTrees after) .closed := by
  rw [fill, Source.tree, Source.elementTrees_append, Source.elementTrees]

theorem tree_member (before : Members) (key : Spaced StringText) (left right : List Blank) (after : Members)
    (close : List Blank) (v : Source) : (fill (.member before key left right after close) v).tree =
      .object (Source.memberTrees before ++ (key.item.literal, v.tree) :: Source.memberTrees after) .closed := by
  rw [fill, Source.tree, Source.memberTrees_append, Source.memberTrees]

end Gap

/-! ## Lists -/

/-- A reader that reads the same of either value. -/
def Decoder.Alike (d : Decoder α) (v w : Source) : Prop := ∀ origin, d origin v.tree = d origin w.tree

namespace Decoder

variable {d : Decoder α} {i : Nat} {es es' : List Node} {as : List α}

theorem exists_of_elements {e : Node} (h : elements d origin (es ++ e :: es') = .ok as) :
    ∃ a, d origin e = .ok a ∧ as[es.length]? = some a := by
  induction es generalizing as with
  | nil =>
    obtain ⟨a, ha, h⟩ := bind_eq_ok_iff.1 h
    obtain ⟨as', -, ⟨⟩⟩ := bind_eq_ok_iff.1 h
    exact ⟨a, ha, rfl⟩
  | cons _ es ih =>
    obtain ⟨_, -, h⟩ := bind_eq_ok_iff.1 h
    obtain ⟨as', has, ⟨⟩⟩ := bind_eq_ok_iff.1 h
    exact ih has

/-- A list with one element that is read of a gap. -/
theorem exists_of_list_fill (hg : g.IsElement i) (h : list d origin (g.fill v).tree = .ok as) :
    ∃ inner a, d inner v.tree = .ok a ∧ as[i]? = some a := by
  cases g with
  | member => exact hg.elim
  | element before left right after close =>
    obtain rfl : before.length = i := hg
    rw [Gap.tree_element] at h
    obtain ⟨inner, -, h⟩ := bind_eq_ok_iff.1 h
    obtain ⟨as', has, h⟩ := bind_eq_ok_iff.1 h
    obtain ⟨-, -, ⟨⟩⟩ := bind_eq_ok_iff.1 h
    rw [← Source.length_elementTrees]
    exact ⟨inner, exists_of_elements has⟩

theorem exists_element {es : List (Spaced Source)} {a : α}
    (h : elements d origin (Source.elementTrees es) = .ok as) (ha : as[i]? = some a) :
    ∃ before left v right after, es = before ++ ⟨left, v, right⟩ :: after ∧ before.length = i ∧
      d origin v.tree = .ok a := by
  induction es generalizing as i with
  | nil =>
    cases h
    cases ha
  | cons e es ih =>
    obtain ⟨left, v, right⟩ := e
    obtain ⟨b, hb, h⟩ := bind_eq_ok_iff.1 h
    obtain ⟨as', has, ⟨⟩⟩ := bind_eq_ok_iff.1 h
    cases i with
    | zero =>
      cases ha
      exact ⟨[], left, v, right, es, rfl, rfl, hb⟩
    | succ i =>
      obtain ⟨before, l, w, r, after, rfl, rfl, hw⟩ := ih has ha
      exact ⟨⟨left, v, right⟩ :: before, l, w, r, after, rfl, rfl, hw⟩

/-- Every element of a list has been read of a gap. -/
theorem exists_fill {a : α} (h : list d origin v.tree = .ok as) (ha : as[i]? = some a) :
    ∃ g w inner, v = Gap.fill g w ∧ g.IsElement i ∧ d inner w.tree = .ok a := by
  cases v with
  | word | number | string | object => exact absurd h mismatch_ne_ok
  | array es close =>
    obtain ⟨inner, -, h⟩ := bind_eq_ok_iff.1 h
    obtain ⟨as', has, h⟩ := bind_eq_ok_iff.1 h
    obtain ⟨-, -, ⟨⟩⟩ := bind_eq_ok_iff.1 h
    obtain ⟨before, left, w, right, after, rfl, hi, hw⟩ := exists_element has ha
    exact ⟨.element before left right after close, w, inner, rfl, hi, hw⟩

theorem Alike.elements (h : d.Alike v w) (origin : Origin) (es es' : List Node) :
    elements d origin (es ++ v.tree :: es') = elements d origin (es ++ w.tree :: es') := by
  induction es with
  | nil => rw [List.nil_append, List.nil_append, Decoder.elements, Decoder.elements, h]
  | cons e es ih => rw [List.cons_append, List.cons_append, Decoder.elements, Decoder.elements, ih]

theorem Alike.list_fill (h : d.Alike v w) (hg : g.IsElement i) : (list d).Alike (g.fill v) (g.fill w) := by
  intro origin
  cases g with
  | member => exact hg.elim
  | element => simp only [Gap.tree_element, list, h.elements]

end Decoder

/-! ## Records -/

namespace RecordForm

variable {form : RecordForm σ α} {name : String} {get : σ → Option β} {put : β → σ → σ} {d : Decoder β}

theorem exists_of_fill_append {fields : List (Field σ)} {f : Field σ} {s s' : σ} {node : Node}
    {es es' rest : List Node} (hf : fields[es.length]? = some f)
    (h : fill origin fields (es ++ node :: es') s = .ok (s', rest)) :
    ∃ s₁ s₂, f.take origin node s₁ = .ok s₂ ∧
      fill origin (fields.drop (es.length + 1)) es' s₂ = .ok (s', rest) := by
  induction es generalizing fields s with
  | nil =>
    cases fields with
    | nil => cases hf
    | cons g gs =>
      cases hf
      obtain ⟨s₂, htake, hafter⟩ := bind_eq_ok_iff.1 h
      exact ⟨s, s₂, htake, hafter⟩
  | cons e es ih =>
    cases fields with
    | nil => cases hf
    | cons g gs =>
      obtain ⟨_, -, hafter⟩ := bind_eq_ok_iff.1 h
      exact ih hf hafter

theorem fill_alike {fields : List (Field σ)} (halike : d.Alike v w) {es : List Node}
    (hf : fields[es.length]? = some (.of name get put d)) (origin : Origin) (es' : List Node) (s : σ) :
    fill origin fields (es ++ v.tree :: es') s = fill origin fields (es ++ w.tree :: es') s := by
  induction es generalizing fields s with
  | nil =>
    cases fields with
    | nil => cases hf
    | cons g gs =>
      cases hf
      simp only [List.nil_append, fill, Field.of, halike origin]
  | cons e es ih =>
    cases fields with
    | nil => cases hf
    | cons g gs => simp only [List.cons_append, fill, ih hf]

/-- The field `name` of a record is read by `d` and kept in a part of the record that no other field changes. -/
structure Part (form : RecordForm σ α) (name : String) (get : σ → Option β) (put : β → σ → σ)
    (d : Decoder β) : Prop where
  mem : .of name get put d ∈ form.fields
  apart : form.fields.Pairwise Field.Apart
  get_put : ∀ b s, get (put b s) = some b
  others : ∀ f ∈ form.fields, f.name ≠ name → ∀ ⦃origin node s s'⦄, f.take origin node s = .ok s' → get s' = get s

namespace Part

theorem eq_of_name (h : form.Part name get put d) {f : Field σ} (hf : f ∈ form.fields) (hname : f.name = name) :
    f = .of name get put d :=
  Classical.byContradiction fun hne => (Field.apart_of_mem h.apart hf h.mem hne).name_ne hname

theorem find?_eq (h : form.Part name get put d) :
    form.fields.find? (·.name == name) = some (.of name get put d) := by
  cases hfind : form.fields.find? (·.name == name) with
  | none =>
    have hnone := List.find?_eq_none.1 hfind _ h.mem
    exact absurd (beq_self_eq_true name) hnone
  | some f =>
    have hname : f.name = name := by simpa using List.find?_some hfind
    exact congrArg some (h.eq_of_name (List.mem_of_find?_eq_some hfind) hname)

theorem getElem?_eq (h : form.Part name get put d) {i : Nat} (hi : (form.fields.map (·.name))[i]? = some name) :
    form.fields[i]? = some (.of name get put d) := by
  rw [List.getElem?_map] at hi
  obtain ⟨f, hf, hname⟩ := Option.map_eq_some_iff.1 hi
  rw [hf, h.eq_of_name (List.mem_of_getElem? hf) hname]

/-! ### What is kept -/

variable {s s' : σ} {b : β}

theorem keeps (h : form.Part name get put d) {f : Field σ} (hf : f ∈ form.fields) (hname : f.name ≠ name) :
    f.Keeps fun _ s => get s = some b := by
  rintro _ _ _ s s' - hs hfield
  rw [h.others f hf hname hfield, hs]

/-- What the part holds stays there, as a field is given once. -/
theorem takes (h : form.Part name get put d) (hs : get s = some b) {m : StringLiteral × Node}
    (htakes : Takes form.fields origin m s s') : get s' = some b := by
  cases htakes with
  | other => exact hs
  | @field _ name' _ f _ _ _ hfind hgiven htake =>
    have hf := List.mem_of_find?_eq_some hfind
    by_cases hname : f.name = name
    · obtain rfl := h.eq_of_name hf hname
      have hsome : (get s).isSome = true := hs ▸ rfl
      exact absurd (hgiven.symm.trans hsome) Bool.false_ne_true
    · rw [h.others f hf hname htake, hs]

theorem takeMembers (h : form.Part name get put d) (hs : get s = some b) {ms : List (StringLiteral × Node)}
    (htake : takeMembers form.fields origin ms s = .ok s') : get s' = some b := by
  induction ms generalizing s with
  | nil =>
    cases htake
    exact hs
  | cons m ms ih =>
    obtain ⟨s₁, htakes, hrest⟩ := takeMembers_cons_iff.1 htake
    exact ih (h.takes hs htakes) hrest

theorem exists_of_takeMembers (h : form.Part name get put d) {key : StringLiteral} (hkey : key.read = .ok name)
    {node : Node} {ms ms' : List (StringLiteral × Node)}
    (htake : RecordForm.takeMembers form.fields origin (ms ++ (key, node) :: ms') s = .ok s') :
    ∃ b, d origin node = .ok b ∧ get s' = some b := by
  induction ms generalizing s with
  | nil =>
    obtain ⟨s₁, htakes, hrest⟩ := takeMembers_cons_iff.1 htake
    cases htakes with
    | other hname hfind =>
      obtain rfl := Except.ok.inj (hkey.symm.trans hname)
      rw [h.find?_eq] at hfind
      contradiction
    | field hname hfind hgiven hfield =>
      obtain rfl := Except.ok.inj (hkey.symm.trans hname)
      obtain rfl := Option.some.inj (h.find?_eq.symm.trans hfind)
      obtain ⟨b, hb, rfl⟩ := map_eq_ok_iff.1 hfield
      exact ⟨b, hb, h.takeMembers (h.get_put b s) hrest⟩
  | cons m ms ih =>
    obtain ⟨s₁, -, hrest⟩ := takeMembers_cons_iff.1 htake
    exact ih hrest

theorem exists_of_fill (h : form.Part name get put d) {node : Node} {es es' rest : List Node} {n : Nat}
    (hi : form.fields[es.length]? = some (.of name get put d)) (hes : ∀ e ∈ es', origin.room e ≤ n)
    (hfill : fill origin form.fields (es ++ node :: es') s = .ok (s', rest)) :
    ∃ b, d origin node = .ok b ∧ get s' = some b := by
  obtain ⟨s₁, s₂, htake, hafter⟩ := exists_of_fill_append hi hfill
  obtain ⟨b, hb, rfl⟩ := map_eq_ok_iff.1 htake
  refine ⟨b, hb, ?_⟩
  -- the fields of the elements that follow come later in the form
  obtain ⟨hlt, hf⟩ := List.getElem?_eq_some_iff.1 hi
  have hdrop : form.fields.drop es.length = .of name get put d :: form.fields.drop (es.length + 1) := by
    rw [List.drop_eq_getElem_cons hlt, hf]
  have hapart := h.apart.drop (i := es.length)
  rw [hdrop, List.pairwise_cons] at hapart
  refine fill_keeps (I := fun _ s => get s = some b) (fun f hf => ?_) hes (h.get_put b s₁) hafter
  exact h.keeps (List.mem_of_mem_drop hf) (hapart.1 f hf).name_ne.symm

/-- A record with one field that is read of a gap, which is what the part of the field holds. -/
theorem exists_of_decoder_fill (h : form.Part name get put d) (hg : g.IsField (form.fields.map (·.name)) name)
    {a : α} (ha : form.decoder origin (g.fill v).tree = .ok a) :
    ∃ inner b s, d inner v.tree = .ok b ∧ get s = some b ∧ form.complete s = .ok a := by
  cases g with
  | element before left right after close =>
    rw [Gap.tree_element] at ha
    obtain ⟨inner, s, rest, henter, hfill, hcomplete⟩ := exists_of_decoder_array ha
    obtain ⟨n, -, hes⟩ : ∃ n, origin.room (.array (Source.elementTrees after) .closed) = n + 1 ∧
        ∀ e ∈ Source.elementTrees after, inner.room e ≤ n := Origin.room_elements henter
    have hi := h.getElem?_eq hg
    rw [← Source.length_elementTrees] at hi
    obtain ⟨b, hb, hs⟩ := h.exists_of_fill hi hes hfill
    exact ⟨inner, b, s, hb, hs, hcomplete⟩
  | member before key left right after close =>
    rw [Gap.tree_member] at ha
    obtain ⟨inner, s, -, htake, hcomplete⟩ := exists_of_decoder_object ha
    obtain ⟨b, hb, hs⟩ := h.exists_of_takeMembers hg htake
    exact ⟨inner, b, s, hb, hs, hcomplete⟩

/-! ### Where it is read -/

theorem exists_member (h : form.Part name get put d) {ms : Members} (hs : get s = none)
    (htake : RecordForm.takeMembers form.fields origin (Source.memberTrees ms) s = .ok s') (hb : get s' = some b) :
    ∃ before key left v right after, ms = before ++ (key, ⟨left, v, right⟩) :: after ∧
      key.item.Writes name ∧ d origin v.tree = .ok b := by
  induction ms generalizing s with
  | nil =>
    cases htake
    exact absurd (hs.symm.trans hb) nofun
  | cons m ms ih =>
    have hlater {s₁ : σ} (hs₁ : get s₁ = none)
        (hrest : RecordForm.takeMembers form.fields origin (Source.memberTrees ms) s₁ = .ok s') :
        ∃ before key left v right after, m :: ms = before ++ (key, ⟨left, v, right⟩) :: after ∧
          key.item.Writes name ∧ d origin v.tree = .ok b := by
      obtain ⟨before, key, left, v, right, after, rfl, hkey, hv⟩ := ih hs₁ hrest
      exact ⟨m :: before, key, left, v, right, after, rfl, hkey, hv⟩
    obtain ⟨key, left, v, right⟩ := m
    obtain ⟨s₁, htakes, hrest⟩ := takeMembers_cons_iff.1 htake
    cases htakes with
    | other => exact hlater hs hrest
    | @field _ name' _ f _ _ hname hfind _ hfield =>
      have hf := List.mem_of_find?_eq_some hfind
      by_cases hours : f.name = name
      · obtain rfl := h.eq_of_name hf hours
        obtain rfl : name = name' := by simpa [Field.of] using List.find?_some hfind
        obtain ⟨b', hb', rfl⟩ := map_eq_ok_iff.1 hfield
        obtain rfl := Option.some.inj ((h.takeMembers (h.get_put b' s) hrest).symm.trans hb)
        exact ⟨[], key, left, v, right, ms, rfl, hname, hb'⟩
      · exact hlater ((h.others f hf hours hfield).trans hs) hrest

theorem exists_element (h : form.Part name get put d) {fields : List (Field σ)} (hfields : fields.Pairwise Field.Apart)
    (hmem : ∀ f ∈ fields, f ∈ form.fields) {es : List (Spaced Source)} {rest : List Node} {n : Nat}
    (hes : ∀ e ∈ Source.elementTrees es, origin.room e ≤ n) (hs : get s = none)
    (hfill : fill origin fields (Source.elementTrees es) s = .ok (s', rest)) (hb : get s' = some b) :
    ∃ before left v right after, es = before ++ ⟨left, v, right⟩ :: after ∧
      (fields.map (·.name))[before.length]? = some name ∧ d origin v.tree = .ok b := by
  induction fields generalizing es s with
  | nil =>
    cases es <;> cases hfill <;> exact absurd (hs.symm.trans hb) nofun
  | cons f fs ih =>
    cases es with
    | nil =>
      cases hfill
      exact absurd (hs.symm.trans hb) nofun
    | cons e es =>
      obtain ⟨left, v, right⟩ := e
      obtain ⟨s₁, hfield, hafter⟩ := bind_eq_ok_iff.1 hfill
      obtain ⟨hapart, hfs⟩ := List.pairwise_cons.1 hfields
      obtain ⟨hf, hmore⟩ := List.forall_mem_cons.1 hmem
      obtain ⟨-, hes⟩ := List.forall_mem_cons.1 hes
      by_cases hours : f.name = name
      · obtain rfl := h.eq_of_name hf hours
        obtain ⟨b', hb', rfl⟩ := map_eq_ok_iff.1 hfield
        have hkeep : get s' = some b' := by
          refine fill_keeps (I := fun _ s => get s = some b') (fun g hg => ?_) hes (h.get_put b' s) hafter
          exact h.keeps (hmore g hg) (hapart g hg).name_ne.symm
        obtain rfl := Option.some.inj (hkeep.symm.trans hb)
        exact ⟨[], left, v, right, es, rfl, rfl, hb'⟩
      · obtain ⟨before, l, w, r, after, rfl, hindex, hw⟩ :=
          ih hfs hmore hes ((h.others f hf hours hfield).trans hs) hafter
        exact ⟨⟨left, v, right⟩ :: before, l, w, r, after, rfl, hindex, hw⟩

/-- What the part of a field holds has been read of a gap. -/
theorem exists_fill (h : form.Part name get put d) (hempty : get form.empty = none) {a : α}
    (ha : form.decoder origin v.tree = .ok a) : ∃ s, form.complete s = .ok a ∧ ∀ b, get s = some b →
      ∃ g w inner, v = Gap.fill g w ∧ g.IsField (form.fields.map (·.name)) name ∧ d inner w.tree = .ok b := by
  cases v with
  | word | number | string => exact absurd ha mismatch_ne_ok
  | array es close =>
    obtain ⟨inner, s, rest, henter, hfill, hcomplete⟩ := exists_of_decoder_array ha
    obtain ⟨n, -, hes⟩ : ∃ n, origin.room (.array (Source.elementTrees es) .closed) = n + 1 ∧
        ∀ e ∈ Source.elementTrees es, inner.room e ≤ n := Origin.room_elements henter
    refine ⟨s, hcomplete, fun b hb => ?_⟩
    obtain ⟨before, left, w, right, after, rfl, hindex, hw⟩ :=
      h.exists_element h.apart (fun _ hf => hf) hes hempty hfill hb
    exact ⟨.element before left right after close, w, inner, rfl, hindex, hw⟩
  | object ms close =>
    obtain ⟨inner, s, -, htake, hcomplete⟩ := exists_of_decoder_object ha
    refine ⟨s, hcomplete, fun b hb => ?_⟩
    obtain ⟨before, key, left, w, right, after, rfl, hkey, hw⟩ := h.exists_member hempty htake hb
    exact ⟨.member before key left right after close, w, inner, rfl, hkey, hw⟩

/-! ### Values that are read alike -/

theorem takeMembers_alike (h : form.Part name get put d) (halike : d.Alike v w) {key : StringLiteral}
    (hkey : key.read = .ok name) (origin : Origin) (ms ms' : List (StringLiteral × Node)) (s : σ) :
    RecordForm.takeMembers form.fields origin (ms ++ (key, v.tree) :: ms') s =
      RecordForm.takeMembers form.fields origin (ms ++ (key, w.tree) :: ms') s := by
  induction ms generalizing s with
  | nil =>
    simp only [List.nil_append, RecordForm.takeMembers, hkey, ok_bind, h.find?_eq, Field.of, halike origin]
  | cons m ms ih => simp only [List.cons_append, RecordForm.takeMembers, ih]

/-- A record is read alike with either of two values that are read alike in one of its fields. -/
theorem alike_fill (h : form.Part name get put d) (halike : d.Alike v w)
    (hg : g.IsField (form.fields.map (·.name)) name) : Decoder.Alike form.decoder (g.fill v) (g.fill w) := by
  intro origin
  cases g with
  | element before left right after close =>
    have hi := h.getElem?_eq hg
    rw [← Source.length_elementTrees] at hi
    rw [Gap.tree_element, Gap.tree_element, decoder, decoder]
    simp only [fill_alike halike hi, List.length_append, List.length_cons]
  | member before key left right after close =>
    rw [Gap.tree_member, Gap.tree_member, decoder, decoder]
    simp only [h.takeMembers_alike halike hg]

end Part

end RecordForm

end ThermalPrint.Json
