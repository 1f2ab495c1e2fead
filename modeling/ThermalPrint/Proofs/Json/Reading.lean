import ThermalPrint.Proofs.Json.Nesting
import ThermalPrint.Proofs.Json.Written

/-! What is read of the tree of a value depends neither on where the tree comes from, as long as the
value is not nested too deep, nor on how its strings are written. Every reader of requests has this
property, which the readers of records, lists and options hand on. -/

namespace ThermalPrint.Json

variable {α β σ : Type} {literal : String → StringLiteral} {origin : Origin} {v : Value}

/-! ## Trees of values -/

/-- Literals that stand for their strings. -/
structure Faithful (literal : String → StringLiteral) : Prop where
  closed (s : String) : (literal s).stop = .closed
  read (s : String) : (literal s).read = .ok s

theorem faithful_written : Faithful .written := ⟨fun _ => rfl, StringLiteral.read_written⟩

theorem faithful_ofString : Faithful .ofString := ⟨fun _ => rfl, StringLiteral.read_ofString⟩

theorem Faithful.skip (h : Faithful literal) (s : String) : (literal s).skip = .ok () := by
  rw [StringLiteral.skip, h.closed]
  rfl

namespace Origin

theorem Admits.elements {es : List Value} (h : origin.Admits (Value.depthElements es)) :
    ∀ v ∈ es, origin.Admits v.depth :=
  fun v hv => h.mono (Value.depthElements_le_iff.1 (Nat.le_refl _) v hv)

theorem Admits.members {ms : List (String × Value)} (h : origin.Admits (Value.depthMembers ms)) :
    ∀ m ∈ ms, origin.Admits m.2.depth :=
  fun m hm => h.mono (Value.depthMembers_le_iff.1 (Nat.le_refl _) m hm)

end Origin

namespace Value

theorem skip_tree (h : Faithful literal) (v : Value) : (v.tree literal).skip = .ok () := by
  induction v using Value.induction with
  | null | bool | number => rfl
  | string s => exact h.skip s
  | array es ih =>
    have hes : skipElements (treeElements literal es) = .ok () := by
      induction es with
      | nil => rfl
      | cons v vs ihs =>
        obtain ⟨hv, hvs⟩ := List.forall_mem_cons.1 ih
        rw [treeElements, skipElements, hv, ok_bind, ihs hvs]
    rw [tree, Node.skip, hes]
    rfl
  | object ms ih =>
    have hms : skipMembers (treeMembers literal ms) = .ok () := by
      induction ms with
      | nil => rfl
      | cons m ms ihs =>
        obtain ⟨hm, hms⟩ := List.forall_mem_cons.1 ih
        rw [treeMembers, skipMembers, h.skip, ok_bind, hm, ok_bind, ihs hms]
    rw [tree, Node.skip, hms]
    rfl

theorem resolveElements_tree {es : List Value}
    (h : ∀ v ∈ es, (v.tree literal).resolve origin = .ok v.canonical) :
    resolveElements origin (treeElements literal es) = .ok (canonicalElements es) := by
  induction es with
  | nil => rfl
  | cons v vs ih =>
    obtain ⟨hv, hvs⟩ := List.forall_mem_cons.1 h
    rw [treeElements, resolveElements, hv, ok_bind, ih hvs]
    rfl

theorem resolveMembers_tree (hlit : Faithful literal) {ms : List (String × Value)}
    (h : ∀ m ∈ ms, (m.2.tree literal).resolve origin = .ok m.2.canonical) :
    resolveMembers origin (treeMembers literal ms) = .ok (canonicalMembers ms) := by
  induction ms with
  | nil => rfl
  | cons m ms ih =>
    obtain ⟨hm, hms⟩ := List.forall_mem_cons.1 h
    rw [treeMembers, resolveMembers, hlit.read, ok_bind, hm, ok_bind, ih hms]
    rfl

theorem resolve_tree (h : Faithful literal) (hdepth : origin.Admits v.depth) :
    (v.tree literal).resolve origin = .ok v.canonical := by
  induction v using Value.induction generalizing origin with
  | null | bool | number => rfl
  | string s =>
    rw [tree, Node.resolve, Atom.resolve, h.read]
    rfl
  | array es ih =>
    obtain ⟨inner, henter, hinner⟩ := Origin.Admits.enter hdepth
    have hes := resolveElements_tree fun v hv => ih v hv (hinner.elements v hv)
    rw [tree, Node.resolve, henter, ok_bind, hes]
    rfl
  | object ms ih =>
    obtain ⟨inner, henter, hinner⟩ := Origin.Admits.enter hdepth
    have hms := resolveMembers_tree h fun m hm => ih m hm (hinner.members m hm)
    rw [tree, Node.resolve, henter, ok_bind, hms]
    rfl

/-- The readings of a value of which `levels` levels may be entered, if it is nested too deep. -/
def TooDeep (literal : String → StringLiteral) (levels : Nat) (v : Value) : Prop :=
  levels < v.depth → (v.tree literal).resolve (.text levels) = .error (.malformed .tooDeep)

theorem resolveElements_tooDeep (h : Faithful literal) {levels : Nat} {es : List Value}
    (hes : ∀ v ∈ es, TooDeep literal levels v) (hdepth : levels < depthElements es) :
    resolveElements (.text levels) (treeElements literal es) = .error (.malformed .tooDeep) := by
  induction es with
  | nil => exact absurd hdepth (Nat.not_lt_zero levels)
  | cons v vs ih =>
    obtain ⟨hv, hvs⟩ := List.forall_mem_cons.1 hes
    rw [treeElements, resolveElements]
    rcases Nat.lt_or_ge levels v.depth with hlt | hle
    · rw [hv hlt]
      rfl
    · have hadmits : (Origin.text levels).Admits v.depth := hle
      have hrest : levels < depthElements vs := by
        rw [depthElements] at hdepth
        omega
      rw [resolve_tree h hadmits, ok_bind, ih hvs hrest]
      rfl

theorem resolveMembers_tooDeep (h : Faithful literal) {levels : Nat} {ms : List (String × Value)}
    (hms : ∀ m ∈ ms, TooDeep literal levels m.2) (hdepth : levels < depthMembers ms) :
    resolveMembers (.text levels) (treeMembers literal ms) = .error (.malformed .tooDeep) := by
  induction ms with
  | nil => exact absurd hdepth (Nat.not_lt_zero levels)
  | cons m ms ih =>
    obtain ⟨hm, hms⟩ := List.forall_mem_cons.1 hms
    rw [treeMembers, resolveMembers, h.read, ok_bind]
    rcases Nat.lt_or_ge levels m.2.depth with hlt | hle
    · rw [hm hlt]
      rfl
    · have hadmits : (Origin.text levels).Admits m.2.depth := hle
      have hrest : levels < depthMembers ms := by
        rw [depthMembers] at hdepth
        omega
      rw [resolve_tree h hadmits, ok_bind, ih hms hrest]
      rfl

/-- A value that is nested too deep is refused for that and for nothing else. -/
theorem resolve_tree_tooDeep (h : Faithful literal) (levels : Nat) (v : Value) :
    TooDeep literal levels v := by
  induction v using Value.induction generalizing levels with
  | null | bool | number | string => exact fun hdepth => absurd hdepth (Nat.not_lt_zero levels)
  | array es ih =>
    intro hdepth
    cases levels with
    | zero => rfl
    | succ levels =>
      have hes := resolveElements_tooDeep h (fun v hv => ih v hv levels) (Nat.lt_of_succ_lt_succ hdepth)
      rw [tree, Node.resolve, Origin.enter, ok_bind, hes]
      rfl
  | object ms ih =>
    intro hdepth
    cases levels with
    | zero => rfl
    | succ levels =>
      have hms := resolveMembers_tooDeep h (fun m hm => ih m hm levels) (Nat.lt_of_succ_lt_succ hdepth)
      rw [tree, Node.resolve, Origin.enter, ok_bind, hms]
      rfl

end Value

theorem Value.length_treeElements (literal : String → StringLiteral) (vs : List Value) :
    (treeElements literal vs).length = vs.length := by
  induction vs with
  | nil => rfl
  | cons v vs ih => exact congrArg (· + 1) ih

/-! ## Readings that agree -/

/-- Two readings that both succeed, with related results, or both fail. -/
inductive Agree (R : α → β → Prop) : Except Fault α → Except Fault β → Prop
  | ok {a : α} {b : β} (h : R a b) : Agree R (.ok a) (.ok b)
  | error {e e' : Fault} : Agree R (.error e) (.error e')

namespace Agree

variable {x y : Except Fault α}

theorem refl (x : Except Fault α) : Agree Eq x x := by
  cases x with
  | ok a => exact .ok rfl
  | error e => exact .error

theorem bind {α' β' : Type} {R : α → α' → Prop} {S : β → β' → Prop} {x : Except Fault α}
    {y : Except Fault α'} {f : α → Except Fault β} {g : α' → Except Fault β'} (h : Agree R x y)
    (hfg : ∀ a a', R a a' → Agree S (f a) (g a')) : Agree S (x >>= f) (y >>= g) := by
  cases h with
  | ok h => exact hfg _ _ h
  | error => exact .error

theorem bind_eq {f g : α → Except Fault β} (h : Agree Eq x y) (hfg : ∀ a, Agree Eq (f a) (g a)) :
    Agree Eq (x >>= f) (y >>= g) :=
  h.bind fun a _ ha => ha ▸ hfg a

theorem map {f : α → β} (h : Agree Eq x y) : Agree Eq (x.map f) (y.map f) := by
  cases h with
  | ok h => exact .ok (congrArg f h)
  | error => exact .error

theorem ok_or_error (h : Agree Eq x y) :
    (∃ a, x = .ok a ∧ y = .ok a) ∨ ∃ e e', x = .error e ∧ y = .error e' := by
  cases h with
  | ok h => exact .inl ⟨_, rfl, congrArg _ h.symm⟩
  | error => exact .inr ⟨_, _, rfl, rfl⟩

end Agree

theorem agree_mismatch (node node' : Node) (expected : String) :
    Agree Eq (mismatch (α := α) node expected) (mismatch node' expected) := by
  unfold mismatch
  cases node.found <;> cases node'.found <;> exact .error

/-! ## Steady readers -/

/-- A reader that takes the tree of a value as if the value were held in memory. -/
def Decoder.Steady (d : Decoder α) : Prop :=
  ∀ ⦃literal⦄, Faithful literal → ∀ ⦃origin : Origin⦄ ⦃v : Value⦄, origin.Admits v.depth →
    Agree Eq (d origin (v.tree literal)) (d .value (v.tree .ofString))

namespace Decoder

theorem steady_string : Steady string := by
  intro literal h origin v _
  cases v with
  | string s =>
    have hread : string origin (.atom (.string (literal s))) = .ok s := h.read s
    have hread' : string .value (.atom (.string (.ofString s))) = .ok s := faithful_ofString.read s
    rw [Value.tree, Value.tree, hread, hread']
    exact .ok rfl
  | null | bool | number | array | object => exact agree_mismatch _ _ _

theorem steady_bool : Steady bool := by
  intro literal h origin v _
  cases v with
  | bool b => exact .ok rfl
  | null | number | string | array | object => exact agree_mismatch _ _ _

theorem steady_resolve : Steady Node.resolve := by
  intro literal h origin v hdepth
  have hmemory : (v.tree .ofString).resolve .value = .ok v.canonical :=
    Value.resolve_tree faithful_ofString trivial
  rw [Value.resolve_tree h hdepth, hmemory]
  exact .ok rfl

variable {d : Decoder α}

theorem Steady.map (hd : Steady d) (f : α → β) : Steady fun origin node => (d origin node).map f :=
  fun _ h _ _ hdepth => (hd h hdepth).map

theorem Steady.bind (hd : Steady d) (f : α → Except Fault β) :
    Steady fun origin node => d origin node >>= f :=
  fun _ h _ _ hdepth => (hd h hdepth).bind_eq fun _ => .refl _

theorem steady_option (hd : Steady d) : Steady (option d) := by
  intro literal h origin v hdepth
  cases v with
  | null => exact .ok rfl
  | bool | number | string | array | object => exact (hd h hdepth).map

theorem agree_elements (hd : Steady d) (h : Faithful literal) {vs : List Value}
    (hvs : ∀ v ∈ vs, origin.Admits v.depth) :
    Agree Eq (elements d origin (Value.treeElements literal vs))
      (elements d .value (Value.treeElements .ofString vs)) := by
  induction vs with
  | nil => exact .ok rfl
  | cons v vs ih =>
    obtain ⟨hv, hvs⟩ := List.forall_mem_cons.1 hvs
    exact (hd h hv).bind_eq fun a => (ih hvs).bind_eq fun _ => .refl _

theorem steady_list (hd : Steady d) : Steady (list d) := by
  intro literal h origin v hdepth
  cases v with
  | array vs =>
    obtain ⟨inner, henter, hinner⟩ := Origin.Admits.enter hdepth
    have hvs := agree_elements hd h hinner.elements
    rw [Value.tree, list, henter]
    exact hvs.bind_eq fun _ => .refl _
  | null | bool | number | string | object => exact agree_mismatch _ _ _

end Decoder

/-! ## Records -/

/-- A field whose value is read steadily. -/
def Field.Steady (f : Field σ) : Prop := ∀ s, Decoder.Steady fun origin node => f.take origin node s

theorem Field.steady_of {d : Decoder α} (hd : d.Steady) (name : String) (get : σ → Option α)
    (put : α → σ → σ) : (Field.of name get put d).Steady :=
  fun s => hd.map (put · s)

namespace RecordForm

variable {fields : List (Field σ)}

theorem agree_fill (hfields : ∀ f ∈ fields, f.Steady) (h : Faithful literal) {vs : List Value}
    (hvs : ∀ v ∈ vs, origin.Admits v.depth) (s : σ) :
    Agree (fun p q => p.1 = q.1 ∧ p.2.isEmpty = q.2.isEmpty)
      (fill origin fields (Value.treeElements literal vs) s)
      (fill .value fields (Value.treeElements .ofString vs) s) := by
  induction fields generalizing vs s with
  | nil => cases vs <;> exact .ok ⟨rfl, rfl⟩
  | cons f fs ih =>
    cases vs with
    | nil => exact .ok ⟨rfl, rfl⟩
    | cons v vs =>
      obtain ⟨hf, hfs⟩ := List.forall_mem_cons.1 hfields
      obtain ⟨hv, hvs⟩ := List.forall_mem_cons.1 hvs
      refine (hf s h hv).bind fun s' _ hs => ?_
      subst hs
      exact ih hfs hvs s'

theorem agree_takeMembers (hfields : ∀ f ∈ fields, f.Steady) (h : Faithful literal)
    {ms : List (String × Value)} (hms : ∀ m ∈ ms, origin.Admits m.2.depth) (s : σ) :
    Agree Eq (takeMembers fields origin (Value.treeMembers literal ms) s)
      (takeMembers fields .value (Value.treeMembers .ofString ms) s) := by
  induction ms generalizing s with
  | nil => exact .ok rfl
  | cons m ms ih =>
    obtain ⟨name, v⟩ := m
    obtain ⟨hv, hms⟩ := List.forall_mem_cons.1 hms
    rw [Value.treeMembers, Value.treeMembers, takeMembers, takeMembers, h.read,
      faithful_ofString.read, ok_bind, ok_bind]
    cases hfind : fields.find? (·.name == name) with
    | none =>
      simp only [Value.skip_tree h, Value.skip_tree faithful_ofString, ok_bind]
      exact ih hms s
    | some f =>
      dsimp only
      split
      · exact .error
      · exact (hfields f (List.mem_of_find?_eq_some hfind) s h hv).bind_eq fun s' => ih hms s'

theorem agree_surplus {rest rest' : List Node} (h : rest.isEmpty = rest'.isEmpty)
    (total total' n : Nat) :
    Agree Eq (surplus origin total n rest .closed) (surplus .value total' n rest' .closed) := by
  cases rest <;> cases rest' <;> cases origin <;> first | contradiction | exact .ok rfl | exact .error

theorem steady_decoder {form : RecordForm σ α} (hfields : ∀ f ∈ form.fields, f.Steady) :
    form.decoder.Steady := by
  intro literal h origin v hdepth
  cases v with
  | array vs =>
    obtain ⟨inner, henter, hinner⟩ := Origin.Admits.enter hdepth
    have hfill := agree_fill hfields h hinner.elements form.empty
    rw [Value.tree, Value.tree, decoder, decoder, henter, ok_bind]
    refine hfill.bind fun p q hpq => ?_
    obtain ⟨s, rest⟩ := p
    obtain ⟨_, rest'⟩ := q
    obtain ⟨rfl, hrest⟩ := hpq
    simp only [Value.length_treeElements]
    cases form.complete s with
    | error missing => split <;> exact .error
    | ok a =>
      by_cases hlength : vs.length < form.fields.length
      · simp only [if_pos hlength]
        exact .ok rfl
      · simp only [if_neg hlength]
        exact (agree_surplus hrest _ _ _).bind_eq fun _ => .refl _
  | object ms =>
    obtain ⟨inner, henter, hinner⟩ := Origin.Admits.enter hdepth
    have hms := agree_takeMembers hfields h hinner.members form.empty
    rw [Value.tree, decoder, henter]
    exact hms.bind_eq fun _ => .refl _
  | null | bool | number | string => exact agree_mismatch _ _ _

variable {s s' : σ}

/-- A member that is a field is read and taken into the record. -/
theorem takeMembers_cons {name : String} {get : σ → Option α} {put : α → σ → σ} {d : Decoder α}
    {v : Value} {ms : List (String × Value)} (h : Faithful literal)
    (hfind : fields.find? (·.name == name) = some (.of name get put d)) (hget : get s = none) :
    takeMembers fields origin (Value.treeMembers literal ((name, v) :: ms)) s =
      (d origin (v.tree literal)).map (put · s) >>=
        takeMembers fields origin (Value.treeMembers literal ms) := by
  rw [Value.treeMembers, takeMembers, h.read, ok_bind, hfind]
  simp only [Field.of, hget, Option.isSome_none, Bool.false_eq_true, if_false]

theorem takeMembers_field {name : String} {get : σ → Option α} {put : α → σ → σ} {d : Decoder α}
    {v : Value} {ms : List (String × Value)} {a : α} (h : Faithful literal)
    (hfind : fields.find? (·.name == name) = some (.of name get put d)) (hget : get s = none)
    (hread : d origin (v.tree literal) = .ok a) (hput : put a s = s') :
    takeMembers fields origin (Value.treeMembers literal ((name, v) :: ms)) s =
      takeMembers fields origin (Value.treeMembers literal ms) s' := by
  rw [takeMembers_cons h hfind hget, hread, ← hput]
  rfl

theorem decoder_object {form : RecordForm σ α} {inner : Origin} {ms : List (StringLiteral × Node)}
    {a : α} (henter : origin.enter = .ok inner)
    (hmembers : takeMembers form.fields inner ms form.empty = .ok s)
    (hcomplete : form.complete s = .ok a) : form.decoder origin (.object ms .closed) = .ok a := by
  rw [decoder, henter, ok_bind, hmembers, ok_bind]
  dsimp only [ObjectEnd.problem?, raise]
  rw [ok_bind, hcomplete]
  rfl

theorem decoder_object_error {form : RecordForm σ α} {inner : Origin} {stop : ObjectEnd}
    {ms : List (StringLiteral × Node)} {e : Fault} (henter : origin.enter = .ok inner)
    (hmembers : takeMembers form.fields inner ms form.empty = .error e) :
    form.decoder origin (.object ms stop) = .error e := by
  rw [decoder, henter, ok_bind, hmembers]
  rfl

end RecordForm

/-! ## Texts and values -/

theorem decodeText_compact (d : Decoder α) (h : v.floatFree = true) :
    decodeText d v.compact = d (.text depthLimit) (v.tree .written) := by
  rw [decodeText, Value.ofText_compact h]
  cases d (.text depthLimit) (v.tree .written) <;> rfl

/-- What is read of a value in memory is read of its compact text. -/
theorem Decoder.Steady.agree_decode {d : Decoder α} (hd : d.Steady) (hfloat : v.floatFree = true)
    (hdepth : v.depth ≤ depthLimit) :
    Agree Eq (decodeText d v.canonical.compact) (decodeValue d v) := by
  rw [decodeText_compact d (Value.floatFree_canonical hfloat), decodeValue, ← Value.tree_ofString]
  exact hd faithful_written (Nat.le_trans (Value.depth_canonical_le v) hdepth)

end ThermalPrint.Json
