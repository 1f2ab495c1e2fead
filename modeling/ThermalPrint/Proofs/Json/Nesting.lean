import ThermalPrint.Json.Decode
import ThermalPrint.Proofs.Json.Canonical

/-! How deep what is read can be nested. A value read off a tree is canonical and nested no deeper than
the tree, and a text is read no deeper than its origin allows. What is read of a record keeps every
property that its fields keep, one level further in. -/

namespace ThermalPrint.Json

variable {α β σ : Type} {origin inner : Origin}

theorem bind_eq_ok_iff {x : Except Fault α} {f : α → Except Fault β} {b : β} :
    (x >>= f) = .ok b ↔ ∃ a, x = .ok a ∧ f a = .ok b := by
  cases x with
  | ok a => exact ⟨fun h => ⟨a, rfl, h⟩, fun ⟨_, rfl, h⟩ => h⟩
  | error e => exact ⟨nofun, fun ⟨_, h, _⟩ => nomatch h⟩

theorem map_eq_ok_iff {x : Except Fault α} {f : α → β} {b : β} :
    x.map f = .ok b ↔ ∃ a, x = .ok a ∧ f a = b := by
  cases x with
  | ok a => exact ⟨fun h => ⟨a, rfl, Except.ok.inj h⟩, fun ⟨_, rfl, h⟩ => congrArg _ h⟩
  | error e => exact ⟨nofun, fun ⟨_, h, _⟩ => nomatch h⟩

theorem mapError_eq_ok_iff {ε ε' : Type} {f : ε → ε'} {y : Except ε α} {a : α} :
    y.mapError f = .ok a ↔ y = .ok a := by
  cases y with
  | error e => exact ⟨nofun, nofun⟩
  | ok b => exact ⟨fun h => congrArg _ (Except.ok.inj h), fun h => congrArg _ (Except.ok.inj h)⟩

theorem mapError_eq_error_iff {ε ε' : Type} {f : ε → ε'} {y : Except ε α} {e : ε'} :
    y.mapError f = .error e ↔ ∃ e', y = .error e' ∧ f e' = e := by
  cases y with
  | error e' => exact ⟨fun h => ⟨e', rfl, Except.error.inj h⟩, fun ⟨_, rfl, h⟩ => congrArg _ h⟩
  | ok b => exact ⟨nofun, fun ⟨_, h, _⟩ => nomatch h⟩

theorem ok_bind (a : α) (f : α → Except Fault β) : (Except.ok a >>= f) = f a := rfl

theorem mismatch_ne_ok {node : Node} {expected : String} {a : α} :
    mismatch node expected ≠ .ok a := by
  intro h
  obtain ⟨found, -, h⟩ := bind_eq_ok_iff.1 h
  nomatch h

theorem Decoder.option_of_ne_null {d : Decoder α} {node : Node} (h : node ≠ .atom .null) :
    option d origin node = (d origin node).map some := by
  unfold option
  split
  · contradiction
  · rfl

/-- What is read of a text is read off its tree, which is the text's only value. -/
theorem root_of_decodeText {d : Decoder α} {text : String} {a : α} (h : decodeText d text = .ok a) :
    d (.text depthLimit) (Document.ofText text).root = .ok a := by
  obtain ⟨_, ha, h⟩ := bind_eq_ok_iff.1 h
  cases htrailing : (Document.ofText text).trailing with
  | true =>
    simp only [htrailing, if_true] at h
    exact nomatch bind_eq_ok_iff.1 h
  | false =>
    simp only [htrailing] at h
    cases h
    exact ha

/-! ## The depth of a tree -/

namespace Node

mutual

/-- How many arrays and objects of a tree are nested in each other. -/
def depth : Node → Nat
  | .atom _ => 0
  | .array elements _ => depthElements elements + 1
  | .object members _ => depthMembers members + 1

def depthElements : List Node → Nat
  | [] => 0
  | e :: es => max e.depth (depthElements es)

def depthMembers : List (StringLiteral × Node) → Nat
  | [] => 0
  | (_, e) :: ms => max e.depth (depthMembers ms)

end

/-- Induction over the parts of a tree. -/
@[elab_as_elim]
theorem induction {motive : Node → Prop} (atom : ∀ a, motive (.atom a))
    (array : ∀ elements stop, (∀ e ∈ elements, motive e) → motive (.array elements stop))
    (object : ∀ members stop, (∀ m ∈ members, motive m.2) → motive (.object members stop)) :
    ∀ node, motive node
  | .atom a => atom a
  | .array es stop => array es stop fun e _ => induction atom array object e
  | .object ms stop => object ms stop fun m _ => induction atom array object m.2
termination_by node => sizeOf node
decreasing_by
  · next he =>
    have := List.sizeOf_lt_of_mem he
    simp only [Node.array.sizeOf_spec]
    omega
  · next hm =>
    have := List.sizeOf_lt_of_mem hm
    obtain ⟨k, e⟩ := m
    simp only [Prod.mk.sizeOf_spec, Node.object.sizeOf_spec] at this ⊢
    omega

variable {n : Nat} {elements : List Node} {members : List (StringLiteral × Node)}

theorem depthElements_le_iff : depthElements elements ≤ n ↔ ∀ e ∈ elements, e.depth ≤ n := by
  induction elements with
  | nil => simp [depthElements]
  | cons e es ih =>
    rw [List.forall_mem_cons, ← ih]
    exact Nat.max_le

theorem depthMembers_le_iff : depthMembers members ≤ n ↔ ∀ m ∈ members, m.2.depth ≤ n := by
  induction members with
  | nil => simp [depthMembers]
  | cons m ms ih =>
    rw [List.forall_mem_cons, ← ih]
    exact Nat.max_le

end Node

namespace Origin

/-- Whether a value that is nested this deep may be read. -/
def Admits : Origin → Nat → Prop
  | .text levels, depth => depth ≤ levels
  | .value, _ | .ahead, _ => True

variable {m n : Nat}

theorem Admits.mono (h : origin.Admits n) (hle : m ≤ n) : origin.Admits m := by
  cases origin with
  | text levels => exact Nat.le_trans hle h
  | value | ahead => trivial

theorem Admits.enter (h : origin.Admits (n + 1)) :
    ∃ inner, origin.enter = .ok inner ∧ inner.Admits n := by
  cases origin with
  | text levels =>
    cases levels with
    | zero => exact absurd h (Nat.not_succ_le_zero n)
    | succ levels => exact ⟨.text levels, rfl, Nat.le_of_succ_le_succ h⟩
  | value => exact ⟨.value, rfl, trivial⟩
  | ahead => exact ⟨.ahead, rfl, trivial⟩

theorem Admits.zero : origin.Admits 0 := by
  cases origin with
  | text levels => exact Nat.zero_le levels
  | value | ahead => trivial

theorem Admits.of_enter (h : origin.enter = .ok inner) (hn : inner.Admits n) :
    origin.Admits (n + 1) := by
  cases origin with
  | text levels =>
    cases levels with
    | zero => nomatch h
    | succ levels =>
      cases h
      exact Nat.succ_le_succ hn
  | value | ahead => trivial

theorem Admits.max (hm : origin.Admits m) (hn : origin.Admits n) : origin.Admits (max m n) := by
  cases origin with
  | text levels => exact Nat.max_le.2 ⟨hm, hn⟩
  | value | ahead => trivial

/-- How deep a value may be nested that is read off a tree. -/
def room : Origin → Node → Nat
  | .text levels, _ => levels
  | .value, node | .ahead, node => node.depth

theorem room_elements {es : List Node} {stop : ArrayEnd} (h : origin.enter = .ok inner) :
    ∃ n, origin.room (.array es stop) = n + 1 ∧ ∀ e ∈ es, inner.room e ≤ n := by
  have hes := Node.depthElements_le_iff.1 (Nat.le_refl (Node.depthElements es))
  cases origin with
  | text levels =>
    cases levels with
    | zero => nomatch h
    | succ n =>
      cases h
      exact ⟨n, rfl, fun _ _ => Nat.le_refl n⟩
  | value | ahead =>
    cases h
    exact ⟨_, rfl, hes⟩

theorem room_members {ms : List (StringLiteral × Node)} {stop : ObjectEnd}
    (h : origin.enter = .ok inner) :
    ∃ n, origin.room (.object ms stop) = n + 1 ∧ ∀ m ∈ ms, inner.room m.2 ≤ n := by
  have hms := Node.depthMembers_le_iff.1 (Nat.le_refl (Node.depthMembers ms))
  cases origin with
  | text levels =>
    cases levels with
    | zero => nomatch h
    | succ n =>
      cases h
      exact ⟨n, rfl, fun _ _ => Nat.le_refl n⟩
  | value | ahead =>
    cases h
    exact ⟨_, rfl, hms⟩

theorem Admits.le_room {node : Node} (h : origin.Admits node.depth) (hn : n ≤ node.depth) :
    n ≤ origin.room node := by
  cases origin with
  | text levels => exact Nat.le_trans hn h
  | value | ahead => exact hn

end Origin

/-! ## Values that are read -/

/-- What holds of a value that is read off a tree. -/
structure Origin.Gives (origin : Origin) (node : Node) (v : Value) : Prop where
  canonical : v.canonical = v
  depth_le : v.depth ≤ node.depth
  admits : origin.Admits node.depth

theorem Origin.Gives.depth_le_room {node : Node} {v : Value} (h : origin.Gives node v) :
    v.depth ≤ origin.room node :=
  h.admits.le_room h.depth_le

theorem resolveElements_gives {es : List Node} {vs : List Value}
    (h : ∀ e ∈ es, ∀ v, e.resolve origin = .ok v → origin.Gives e v)
    (hvs : resolveElements origin es = .ok vs) :
    (∀ v ∈ vs, v.canonical = v) ∧ Value.depthElements vs ≤ Node.depthElements es ∧
      origin.Admits (Node.depthElements es) := by
  induction es generalizing vs with
  | nil =>
    cases hvs
    exact ⟨nofun, Nat.le_refl 0, .zero⟩
  | cons e es ih =>
    obtain ⟨he, hes⟩ := List.forall_mem_cons.1 h
    obtain ⟨v, hv, hvs⟩ := bind_eq_ok_iff.1 hvs
    obtain ⟨us, hus, ⟨⟩⟩ := bind_eq_ok_iff.1 hvs
    obtain ⟨hcanonical, hdepth, hadmits⟩ := ih hes hus
    have hv := he v hv
    refine ⟨List.forall_mem_cons.2 ⟨hv.canonical, hcanonical⟩, Nat.max_le.2 ⟨?_, ?_⟩,
      hv.admits.max hadmits⟩
    · exact Nat.le_trans hv.depth_le (Nat.le_max_left _ _)
    · exact Nat.le_trans hdepth (Nat.le_max_right _ _)

theorem resolveMembers_gives {es : List (StringLiteral × Node)} {ms : List (String × Value)}
    (h : ∀ e ∈ es, ∀ v, e.2.resolve origin = .ok v → origin.Gives e.2 v)
    (hms : resolveMembers origin es = .ok ms) :
    (∀ m ∈ ms, m.2.canonical = m.2) ∧ Value.depthMembers ms ≤ Node.depthMembers es ∧
      origin.Admits (Node.depthMembers es) := by
  induction es generalizing ms with
  | nil =>
    cases hms
    exact ⟨nofun, Nat.le_refl 0, .zero⟩
  | cons e es ih =>
    obtain ⟨he, hes⟩ := List.forall_mem_cons.1 h
    obtain ⟨name, -, hms⟩ := bind_eq_ok_iff.1 hms
    obtain ⟨v, hv, hms⟩ := bind_eq_ok_iff.1 hms
    obtain ⟨rest, hrest, ⟨⟩⟩ := bind_eq_ok_iff.1 hms
    obtain ⟨hcanonical, hdepth, hadmits⟩ := ih hes hrest
    have hv := he v hv
    refine ⟨List.forall_mem_cons.2 ⟨hv.canonical, hcanonical⟩, Nat.max_le.2 ⟨?_, ?_⟩,
      hv.admits.max hadmits⟩
    · exact Nat.le_trans hv.depth_le (Nat.le_max_left _ _)
    · exact Nat.le_trans hdepth (Nat.le_max_right _ _)

theorem Node.resolve_gives {node : Node} {v : Value} (h : node.resolve origin = .ok v) :
    origin.Gives node v := by
  induction node using Node.induction generalizing origin v with
  | atom a =>
    cases a with
    | null | bool | number =>
      cases h
      exact ⟨rfl, Nat.le_refl 0, .zero⟩
    | string s =>
      obtain ⟨text, -, rfl⟩ := map_eq_ok_iff.1 h
      exact ⟨rfl, Nat.le_refl 0, .zero⟩
    | beyondRange | absent => nomatch h
  | array es stop ih =>
    obtain ⟨inner, henter, h⟩ := bind_eq_ok_iff.1 h
    obtain ⟨vs, hvs, h⟩ := bind_eq_ok_iff.1 h
    obtain ⟨-, -, ⟨⟩⟩ := bind_eq_ok_iff.1 h
    obtain ⟨hcanonical, hdepth, hadmits⟩ := resolveElements_gives (fun e he _ => ih e he) hvs
    exact ⟨Value.canonical_array hcanonical, Nat.succ_le_succ hdepth, .of_enter henter hadmits⟩
  | object es stop ih =>
    obtain ⟨inner, henter, h⟩ := bind_eq_ok_iff.1 h
    obtain ⟨ms, hms, h⟩ := bind_eq_ok_iff.1 h
    obtain ⟨-, -, ⟨⟩⟩ := bind_eq_ok_iff.1 h
    obtain ⟨hcanonical, hdepth, hadmits⟩ := resolveMembers_gives (fun e he _ => ih e he) hms
    have hsorted : ∀ m ∈ Value.sortMembers ms, m.2.canonical = m.2 :=
      fun m hm => hcanonical m (Value.mem_sortMembers hm)
    exact ⟨Value.canonical_object (Value.ascending_sortMembers ms) hsorted,
      Nat.succ_le_succ (Nat.le_trans (Value.depthMembers_sortMembers_le ms) hdepth),
      .of_enter henter hadmits⟩

/-- Only null is read as null. -/
theorem Node.eq_null_of_resolve {node : Node} (h : node.resolve origin = .ok .null) :
    node = .atom .null := by
  cases node with
  | atom a =>
    cases a with
    | null => rfl
    | string s => exact nomatch map_eq_ok_iff.1 h
    | bool | number | beyondRange | absent => nomatch h
  | array es stop =>
    obtain ⟨inner, -, h⟩ := bind_eq_ok_iff.1 h
    obtain ⟨vs, -, h⟩ := bind_eq_ok_iff.1 h
    exact nomatch bind_eq_ok_iff.1 h
  | object ms stop =>
    obtain ⟨inner, -, h⟩ := bind_eq_ok_iff.1 h
    obtain ⟨vs, -, h⟩ := bind_eq_ok_iff.1 h
    exact nomatch bind_eq_ok_iff.1 h

/-! ## Records that are read -/

/-- A field that keeps `I n` when its value is read where there is room for `n` levels. -/
def Field.Keeps (I : Nat → σ → Prop) (f : Field σ) : Prop :=
  ∀ ⦃origin node n s s'⦄, origin.room node ≤ n → I n s → f.take origin node s = .ok s' → I n s'

theorem Field.keeps_of {I : Nat → σ → Prop} {name : String} {get : σ → Option α} {put : α → σ → σ}
    {d : Decoder α} (h : ∀ ⦃origin node n a s⦄, d origin node = .ok a → origin.room node ≤ n → I n s →
      I n (put a s)) : (Field.of name get put d).Keeps I := by
  intro origin node n s s' hn hs htake
  obtain ⟨a, ha, rfl⟩ := map_eq_ok_iff.1 htake
  exact h ha hn hs

namespace RecordForm

variable {I : Nat → σ → Prop} {fields : List (Field σ)} {n : Nat} {s s' : σ}

theorem fill_keeps (hfields : ∀ f ∈ fields, f.Keeps I) {es rest : List Node}
    (hes : ∀ e ∈ es, origin.room e ≤ n) (hs : I n s)
    (h : fill origin fields es s = .ok (s', rest)) : I n s' := by
  induction fields generalizing es s with
  | nil =>
    cases es <;> cases h <;> exact hs
  | cons f fs ih =>
    cases es with
    | nil =>
      cases h
      exact hs
    | cons e es =>
      obtain ⟨hf, hfs⟩ := List.forall_mem_cons.1 hfields
      obtain ⟨he, hes⟩ := List.forall_mem_cons.1 hes
      obtain ⟨s₁, htake, h⟩ := bind_eq_ok_iff.1 h
      exact ih hfs hes (hf he hs htake) h

/-- What one member does to the record that is being collected. -/
inductive Takes (fields : List (Field σ)) (origin : Origin) : StringLiteral × Node → σ → σ → Prop
  /-- The member is no field and is passed over. -/
  | other {key : StringLiteral} {name : String} {v : Node} {s : σ} (hname : key.read = .ok name)
    (hfind : fields.find? (·.name == name) = none) (hskip : v.skip = .ok ()) :
    Takes fields origin (key, v) s s
  | field {key : StringLiteral} {name : String} {v : Node} {f : Field σ} {s s' : σ}
    (hname : key.read = .ok name) (hfind : fields.find? (·.name == name) = some f)
    (hgiven : f.given s = false) (htake : f.take origin v s = .ok s') :
    Takes fields origin (key, v) s s'

theorem takeMembers_cons_iff {m : StringLiteral × Node} {ms : List (StringLiteral × Node)} :
    takeMembers fields origin (m :: ms) s = .ok s' ↔
      ∃ s₁, Takes fields origin m s s₁ ∧ takeMembers fields origin ms s₁ = .ok s' := by
  obtain ⟨key, v⟩ := m
  rw [takeMembers]
  constructor
  · intro h
    obtain ⟨name, hname, h⟩ := bind_eq_ok_iff.1 h
    cases hfind : fields.find? (·.name == name) with
    | none =>
      rw [hfind] at h
      obtain ⟨_, hskip, h⟩ := bind_eq_ok_iff.1 h
      exact ⟨s, .other hname hfind hskip, h⟩
    | some f =>
      rw [hfind] at h
      dsimp only at h
      split at h
      · cases h
      · next hgiven =>
        obtain ⟨s₁, htake, h⟩ := bind_eq_ok_iff.1 h
        exact ⟨s₁, .field hname hfind (Bool.eq_false_iff.2 hgiven) htake, h⟩
  · rintro ⟨s₁, htakes, h⟩
    cases htakes with
    | other hname hfind hskip =>
      rw [hname, ok_bind, hfind]
      exact bind_eq_ok_iff.2 ⟨_, hskip, h⟩
    | field hname hfind hgiven htake =>
      rw [hname, ok_bind, hfind]
      dsimp only
      rw [hgiven, if_neg Bool.false_ne_true]
      exact bind_eq_ok_iff.2 ⟨s₁, htake, h⟩

theorem takeMembers_keeps (hfields : ∀ f ∈ fields, f.Keeps I) {ms : List (StringLiteral × Node)}
    (hms : ∀ m ∈ ms, origin.room m.2 ≤ n) (hs : I n s)
    (h : takeMembers fields origin ms s = .ok s') : I n s' := by
  induction ms generalizing s with
  | nil =>
    cases h
    exact hs
  | cons m ms ih =>
    obtain ⟨hm, hrest⟩ := List.forall_mem_cons.1 hms
    obtain ⟨s₁, htakes, hlater⟩ := takeMembers_cons_iff.1 h
    cases htakes with
    | other => exact ih hrest hs hlater
    | field _ hfind _ htake =>
      exact ih hrest (hfields _ (List.mem_of_find?_eq_some hfind) hm hs htake) hlater

/-- What has been read when a record is read of an array. -/
theorem exists_of_decoder_array {form : RecordForm σ α} {es : List Node} {stop : ArrayEnd} {a : α}
    (h : form.decoder origin (.array es stop) = .ok a) : ∃ inner s rest, origin.enter = .ok inner ∧
      fill inner form.fields es form.empty = .ok (s, rest) ∧ form.complete s = .ok a := by
  obtain ⟨inner, henter, h⟩ := bind_eq_ok_iff.1 h
  obtain ⟨⟨s, rest⟩, hfill, h⟩ := bind_eq_ok_iff.1 h
  refine ⟨inner, s, rest, henter, hfill, ?_⟩
  cases hcomplete : form.complete s with
  | error missing =>
    simp only [hcomplete] at h
    split at h
    · exact nomatch bind_eq_ok_iff.1 h
    · nomatch h
  | ok a' =>
    simp only [hcomplete] at h
    by_cases hlength : es.length < form.fields.length
    · simp only [if_pos hlength] at h
      obtain ⟨-, -, ⟨⟩⟩ := bind_eq_ok_iff.1 h
      rfl
    · simp only [if_neg hlength] at h
      obtain ⟨-, -, ⟨⟩⟩ := bind_eq_ok_iff.1 h
      rfl

/-- What has been read when a record is read of an object. -/
theorem exists_of_decoder_object {form : RecordForm σ α} {ms : List (StringLiteral × Node)} {stop : ObjectEnd}
    {a : α} (h : form.decoder origin (.object ms stop) = .ok a) : ∃ inner s, origin.enter = .ok inner ∧
      takeMembers form.fields inner ms form.empty = .ok s ∧ form.complete s = .ok a := by
  obtain ⟨inner, henter, h⟩ := bind_eq_ok_iff.1 h
  obtain ⟨s, htake, h⟩ := bind_eq_ok_iff.1 h
  obtain ⟨-, -, h⟩ := bind_eq_ok_iff.1 h
  refine ⟨inner, s, henter, htake, ?_⟩
  cases hcomplete : form.complete s with
  | error missing =>
    rw [hcomplete] at h
    nomatch h
  | ok a' =>
    rw [hcomplete] at h
    cases h
    rfl

/-- A record is completed from fields that were read one level further in. -/
theorem decoder_keeps {form : RecordForm σ α} (hempty : ∀ n, I n form.empty)
    (hfields : ∀ f ∈ form.fields, f.Keeps I) {node : Node} {a : α}
    (h : form.decoder origin node = .ok a) :
    ∃ n s, origin.room node = n + 1 ∧ I n s ∧ form.complete s = .ok a := by
  cases node with
  | atom => exact absurd h mismatch_ne_ok
  | array es stop =>
    obtain ⟨inner, s, rest, henter, hfill, hcomplete⟩ := exists_of_decoder_array h
    obtain ⟨n, hroom, hes⟩ : ∃ n, origin.room (.array es stop) = n + 1 ∧ ∀ e ∈ es, inner.room e ≤ n :=
      Origin.room_elements henter
    exact ⟨n, s, hroom, fill_keeps hfields hes (hempty n) hfill, hcomplete⟩
  | object ms stop =>
    obtain ⟨inner, s, henter, htake, hcomplete⟩ := exists_of_decoder_object h
    obtain ⟨n, hroom, hms⟩ := Origin.room_members henter
    exact ⟨n, s, hroom, takeMembers_keeps hfields hms (hempty n) htake, hcomplete⟩

end RecordForm

end ThermalPrint.Json
