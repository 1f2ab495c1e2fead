import ThermalPrint.Json.Member
import ThermalPrint.Proofs.Json.Reading

/-! Records that are read of values. Whether a value has the shape of an object or of an array, its
fields are taken as if one after another in their own order: fields that do not meet may be taken in
any order. So what a record is read as depends on what is given for each of its fields alone. -/

namespace ThermalPrint.Json

variable {α β σ : Type} {v : Value} {ms : List (String × Value)} {name key : String}

/-! ## What canonical values give -/

theorem member?_insertMember (h : Value.Ascending ms) (v : Value) :
    member? (Value.insertMember key v ms) name = if key = name then some v else member? ms name := by
  induction ms with
  | nil => rfl
  | cons m ms ih =>
    obtain ⟨hm, hms⟩ := List.pairwise_cons.1 h
    unfold Value.insertMember
    split
    · next hlt =>
      rw [member?]
      split
      · next heq =>
        have hnot : name ∉ (m :: ms).map (·.1) := by
          rw [List.map_cons, List.mem_cons, not_or, List.mem_map]
          refine ⟨fun he => String.lt_irrefl _ (heq.trans he ▸ hlt), ?_⟩
          rintro ⟨m', hm', rfl⟩
          exact String.lt_irrefl _ (String.lt_trans (heq ▸ hlt) (hm m' hm'))
        rw [member?_eq_none hnot]
        rfl
      · exact Option.or_none
    · split
      · next heq =>
        subst heq
        rw [member?, member?]
        split
        · next heq =>
          have hnot : name ∉ ms.map (·.1) := by
            rw [List.mem_map]
            rintro ⟨m', hm', rfl⟩
            exact String.lt_irrefl _ (heq ▸ hm m' hm')
          rw [member?_eq_none hnot]
          rfl
        · rfl
      · next hne =>
        rw [member?, member?, ih hms]
        split
        · rfl
        · rfl

theorem member?_sortMembers (ms : List (String × Value)) (name : String) :
    member? (Value.sortMembers ms) name = member? ms name := by
  have hfold (ms sorted : List (String × Value)) (h : Value.Ascending sorted) :
      member? (ms.foldl (fun sorted e => Value.insertMember e.1 e.2 sorted) sorted) name =
        (member? ms name).or (member? sorted name) := by
    induction ms generalizing sorted with
    | nil => rfl
    | cons m ms ih =>
      rw [List.foldl_cons, ih _ h.insertMember, member?_insertMember h, member?, Option.or_assoc]
      split <;> rfl
  exact (hfold ms [] .nil).trans Option.or_none

/-- What is given for a name by the canonical form of an object. -/
theorem member?_canonical (ms : List (String × Value)) (name : String) :
    member? (Value.sortMembers (Value.canonicalMembers ms)) name =
      (member? ms name).map Value.canonical := by
  rw [member?_sortMembers, Value.canonicalMembers_eq_map, member?_map]

theorem Node.length_ofElements (vs : List Value) : (ofElements vs).length = vs.length := by
  induction vs with
  | nil => rfl
  | cons v vs ih => exact congrArg (· + 1) ih

/-! ## Readings that succeed alike -/

namespace Agree

variable {x y z : Except Fault α}

theorem symm (h : Agree Eq x y) : Agree Eq y x := by
  cases h with
  | ok h => exact .ok h.symm
  | error => exact .error

theorem trans (h : Agree Eq x y) (h' : Agree Eq y z) : Agree Eq x z := by
  cases h with
  | ok h =>
    subst h
    exact h'
  | error =>
    cases h' with
    | error => exact .error

theorem eq_ok_iff (h : Agree Eq x y) (a : α) : x = .ok a ↔ y = .ok a := by
  cases h with
  | ok h => rw [h]
  | error => exact ⟨nofun, nofun⟩

end Agree

theorem bind_bind (x : Except Fault α) (f : α → Except Fault β) (g : β → Except Fault σ) :
    x >>= f >>= g = x >>= fun a => f a >>= g := by
  cases x <;> rfl

/-! ## Fields that do not meet -/

/-- Two fields that may be taken in either order, and of which one does not count as given because the
other was taken. -/
structure Field.Apart (f g : Field σ) : Prop where
  name_ne : f.name ≠ g.name
  given_right : ∀ ⦃origin node s s'⦄, f.take origin node s = .ok s' → g.given s' = g.given s
  given_left : ∀ ⦃origin node s s'⦄, g.take origin node s = .ok s' → f.given s' = f.given s
  comm : ∀ origin m n s,
    Agree Eq (f.take origin m s >>= g.take origin n) (g.take origin n s >>= f.take origin m)

theorem Field.Apart.symm {f g : Field σ} (h : f.Apart g) : g.Apart f where
  name_ne := h.name_ne.symm
  given_right := h.given_left
  given_left := h.given_right
  comm origin m n s := (h.comm origin n m s).symm

/-- A field does not change the part of the record that another is kept in. -/
theorem Field.get_eq_of_take {name : String} {get : σ → Option β} {get' : σ → Option α} {put : α → σ → σ}
    {d : Decoder α} (hget : ∀ a s, get (put a s) = get s) ⦃origin : Origin⦄ ⦃node : Node⦄ ⦃s s' : σ⦄
    (h : (Field.of name get' put d).take origin node s = .ok s') : get s' = get s := by
  obtain ⟨a, -, rfl⟩ := map_eq_ok_iff.1 h
  exact hget a s

theorem Field.apart_of {name name' : String} {get : σ → Option α} {put : α → σ → σ} {d : Decoder α}
    {get' : σ → Option β} {put' : β → σ → σ} {d' : Decoder β} (hname : name ≠ name')
    (hget' : ∀ a s, get' (put a s) = get' s) (hget : ∀ b s, get (put' b s) = get s)
    (hput : ∀ a b s, put' b (put a s) = put a (put' b s)) :
    (Field.of name get put d).Apart (Field.of name' get' put' d') where
  name_ne := hname
  given_right _ _ _ _ h := congrArg Option.isSome (get_eq_of_take hget' h)
  given_left _ _ _ _ h := congrArg Option.isSome (get_eq_of_take hget h)
  comm origin m n s := by
    simp only [Field.of]
    cases d origin m with
    | error e => cases d' origin n <;> exact .error
    | ok a =>
      cases d' origin n with
      | error e => exact .error
      | ok b => exact .ok (hput a b s)

theorem Field.apart_of_mem {fields : List (Field σ)} (h : fields.Pairwise Field.Apart) {f g : Field σ}
    (hf : f ∈ fields) (hg : g ∈ fields) (hne : f ≠ g) : f.Apart g := by
  induction fields with
  | nil => exact absurd hf List.not_mem_nil
  | cons e es ih =>
    obtain ⟨he, hes⟩ := List.pairwise_cons.1 h
    rcases List.mem_cons.1 hf with hf | hf <;> rcases List.mem_cons.1 hg with hg | hg
    · exact absurd (hf.trans hg.symm) hne
    · exact hf ▸ he g hg
    · exact hg ▸ (he f hf).symm
    · exact ih hes hf hg

namespace RecordForm

variable {fields : List (Field σ)} {given given' : String → Option Node} {s : σ}

/-- Takes for a field what is given for it, if anything is. -/
def takeGiven (f : Field σ) (s : σ) : Option Node → Except Fault σ
  | none => .ok s
  | some node => f.take .value node s

/-- Takes what is given for each of the fields, in their order. -/
def collect (given : String → Option Node) : List (Field σ) → σ → Except Fault σ
  | [], s => .ok s
  | f :: fs, s => takeGiven f s (given f.name) >>= collect given fs

theorem collect_congr (h : ∀ f ∈ fields, given f.name = given' f.name) (s : σ) :
    collect given fields s = collect given' fields s := by
  induction fields generalizing s with
  | nil => rfl
  | cons f fs ih =>
    obtain ⟨hf, hfs⟩ := List.forall_mem_cons.1 h
    rw [collect, collect, hf]
    exact congrArg _ (funext (ih hfs))

theorem collect_none (fields : List (Field σ)) (s : σ) : collect (fun _ => none) fields s = .ok s := by
  induction fields generalizing s with
  | nil => rfl
  | cons f fs ih => exact ih s

theorem takeGiven_comm {f g : Field σ} (h : g.Apart f) (m : Option Node) (n : Node) (s : σ) :
    Agree Eq (takeGiven g s m >>= f.take .value n) (f.take .value n s >>= (takeGiven g · m)) := by
  cases m with
  | none =>
    rw [takeGiven, ok_bind]
    cases f.take .value n s with
    | ok s' => exact .ok rfl
    | error e => exact .error
  | some m => exact h.comm .value m n s

/-- One field may be taken before all others. -/
theorem collect_update (hfields : fields.Pairwise Field.Apart) {f : Field σ} (hf : f ∈ fields)
    (hnone : given f.name = none) (node : Node) (s : σ) :
    Agree Eq (collect (fun name => if f.name = name then some node else given name) fields s)
      (f.take .value node s >>= collect given fields) := by
  induction fields generalizing s with
  | nil => exact absurd hf List.not_mem_nil
  | cons g gs ih =>
    obtain ⟨hg, hgs⟩ := List.pairwise_cons.1 hfields
    rcases List.mem_cons.1 hf with rfl | hf
    · have hrest (s' : σ) : collect (fun name => if f.name = name then some node else given name) gs s' =
          collect given (f :: gs) s' := by
        rw [collect, hnone]
        exact collect_congr (fun g' hg' => if_neg (hg g' hg').name_ne) s'
      rw [collect, if_pos rfl, funext hrest]
      exact .refl _
    · have hapart := hg f hf
      rw [collect, if_neg hapart.symm.name_ne]
      have hinner := (Agree.refl (takeGiven g s (given g.name))).bind_eq fun s' => ih hgs hf s'
      refine hinner.trans ?_
      rw [← bind_bind]
      refine ((takeGiven_comm hapart (given g.name) node s).bind_eq fun s' =>
        .refl (collect given gs s')).trans ?_
      rw [bind_bind]
      exact .refl _

/-- The members of an object, each of another name, are taken as if one field after another. -/
theorem agree_collect (hfields : fields.Pairwise Field.Apart) (hnodup : (ms.map (·.1)).Nodup)
    (hnew : ∀ m ∈ ms, ∀ f ∈ fields, f.name = m.1 → f.given s = false) :
    Agree Eq (takeMembers fields .value (Node.ofMembers ms) s)
      (collect (fun name => (member? ms name).map .ofValue) fields s) := by
  induction ms generalizing s with
  | nil =>
    rw [show (fun name => (member? [] name).map Node.ofValue) = fun _ => none from rfl, collect_none]
    exact .ok rfl
  | cons m ms ih =>
    obtain ⟨key, v⟩ := m
    obtain ⟨hkey, hnodups⟩ := List.nodup_cons.1 hnodup
    obtain ⟨hnew, hnews⟩ := List.forall_mem_cons.1 hnew
    have hnone : member? ms key = none := member?_eq_none hkey
    rw [Node.ofMembers, takeMembers, faithful_ofString.read, ok_bind]
    cases hfind : fields.find? (·.name == key) with
    | none =>
      have hskip : (Node.ofValue v).skip = .ok () :=
        Value.tree_ofString v ▸ Value.skip_tree faithful_ofString v
      have hother : ∀ f ∈ fields, key ≠ f.name := fun f hf he =>
        List.find?_eq_none.1 hfind f hf (beq_iff_eq.2 he.symm)
      have hsame (s : σ) : collect (fun name => (member? ((key, v) :: ms) name).map .ofValue) fields s =
          collect (fun name => (member? ms name).map .ofValue) fields s :=
        collect_congr (fun f hf => by rw [member?, if_neg (hother f hf), Option.or_none]) s
      dsimp only
      rw [hskip, ok_bind, hsame]
      exact ih hnodups hnews
    | some f =>
      have hf : f ∈ fields := List.mem_of_find?_eq_some hfind
      have hname : f.name = key := by simpa using List.find?_some hfind
      subst hname
      have hgiven : (fun name => (member? ((f.name, v) :: ms) name).map Node.ofValue) =
          fun name => if f.name = name then some (.ofValue v) else (member? ms name).map .ofValue := by
        funext name
        rw [member?]
        split
        · next he =>
          subst he
          rw [hnone]
          rfl
        · rw [Option.or_none]
      have hothers {s' : σ} (h : f.take .value (.ofValue v) s = .ok s') :
          ∀ m ∈ ms, ∀ g ∈ fields, g.name = m.1 → g.given s' = false := by
        intro m hm g hg hgm
        have hne : f ≠ g := by
          rintro rfl
          exact hkey (List.mem_map.2 ⟨m, hm, hgm.symm⟩)
        rw [(Field.apart_of_mem hfields hf hg hne).given_right h]
        exact hnews m hm g hg hgm
      simp only [hnew f hf rfl, Bool.false_eq_true, if_false]
      rw [hgiven]
      refine .trans ?_ (collect_update hfields hf (by rw [hnone]; rfl) (.ofValue v) s).symm
      cases htake : f.take .value (.ofValue v) s with
      | error e => exact .error
      | ok s' => exact ih hnodups (hothers htake)

/-- The elements of an array are taken as if one field after another. -/
theorem fill_eq_collect (hnodup : (fields.map (·.name)).Nodup) {es : List Value}
    (hlength : es.length ≤ fields.length) (s : σ) :
    fill .value fields (Node.ofElements es) s =
      (collect (fun name => (member? ((fields.map (·.name)).zip es) name).map .ofValue) fields s).map
        (·, []) := by
  induction fields generalizing es s with
  | nil =>
    obtain rfl : es = [] := List.eq_nil_of_length_eq_zero (Nat.le_zero.1 hlength)
    rfl
  | cons f fs ih =>
    obtain ⟨hf, hfs⟩ := List.nodup_cons.1 hnodup
    cases es with
    | nil =>
      have hnone : collect (fun name => (member? [] name).map .ofValue) (f :: fs) s = .ok s :=
        collect_none (f :: fs) s
      rw [List.zip_nil_right, hnone]
      rfl
    | cons e es =>
      have hzip : f.name ∉ ((fs.map (·.name)).zip es).map (·.1) := by
        intro hmem
        obtain ⟨m, hm, hname⟩ := List.mem_map.1 hmem
        have hm' : m.1 ∈ fs.map (·.name) := (List.of_mem_zip hm).1
        rw [hname] at hm'
        exact hf hm'
      have hrest (s : σ) : collect (fun name =>
          (member? ((f.name, e) :: (fs.map (·.name)).zip es) name).map .ofValue) fs s =
            collect (fun name => (member? ((fs.map (·.name)).zip es) name).map .ofValue) fs s := by
        refine collect_congr (fun g hg => ?_) s
        have hne : f.name ≠ g.name := fun he => hf (List.mem_map.2 ⟨g, hg, he.symm⟩)
        rw [member?, if_neg hne, Option.or_none]
      rw [List.map_cons, List.zip_cons_cons, collect, member?, member?_eq_none hzip, if_pos rfl,
        funext hrest]
      change (f.take .value (.ofValue e) s >>= fill .value fs (Node.ofElements es)) = _
      rw [funext (ih hfs (Nat.le_of_succ_le_succ hlength))]
      change _ = (f.take .value (.ofValue e) s >>= _).map _
      cases f.take .value (.ofValue e) s <;> rfl

theorem length_fill {es rest : List Node} {s' : σ} (h : fill .value fields es s = .ok (s', rest)) :
    rest.length = es.length - fields.length := by
  induction fields generalizing es s with
  | nil =>
    cases es <;> cases h <;> rfl
  | cons f fs ih =>
    cases es with
    | nil =>
      cases h
      exact (Nat.zero_sub _).symm
    | cons e es =>
      obtain ⟨s'', -, h⟩ := bind_eq_ok_iff.1 h
      rw [ih h, List.length_cons, List.length_cons, Nat.succ_sub_succ]

variable {form : RecordForm σ α} {a : α}

theorem decoder_array_eq_ok_iff {es : List Node} : form.decoder .value (.array es .closed) = .ok a ↔
    ∃ s, fill .value form.fields es form.empty = .ok (s, []) ∧ form.complete s = .ok a := by
  change (fill .value form.fields es form.empty >>= _) = Except.ok a ↔ _
  rw [bind_eq_ok_iff, Prod.exists]
  refine exists_congr fun s => ?_
  have hcomplete (rest : List Node) (h : fill .value form.fields es form.empty = .ok (s, rest)) :
      rest.length = es.length - form.fields.length := length_fill h
  constructor
  · rintro ⟨rest, hfill, h⟩
    have hlength := hcomplete rest hfill
    cases hs : form.complete s with
    | error missing =>
      simp only [hs] at h
      split at h <;> cases h
    | ok b =>
      simp only [hs] at h
      by_cases hlt : es.length < form.fields.length
      · simp only [if_pos hlt] at h
        obtain rfl : rest = [] := List.eq_nil_of_length_eq_zero (by omega)
        cases h
        exact ⟨hfill, rfl⟩
      · simp only [if_neg hlt] at h
        cases rest with
        | nil =>
          cases h
          exact ⟨hfill, rfl⟩
        | cons e rest => cases h
  · rintro ⟨hfill, hs⟩
    refine ⟨[], hfill, ?_⟩
    simp only [hs]
    split <;> rfl

theorem decoder_object_eq_ok_iff {ms : List (StringLiteral × Node)} :
    form.decoder .value (.object ms .closed) = .ok a ↔
      ∃ s, takeMembers form.fields .value ms form.empty = .ok s ∧ form.complete s = .ok a := by
  change (takeMembers form.fields .value ms form.empty >>= _) = Except.ok a ↔ _
  rw [bind_eq_ok_iff]
  refine exists_congr fun s => and_congr_right fun _ => ?_
  cases form.complete s with
  | ok b =>
    change Except.ok b = Except.ok a ↔ _
    rw [Except.ok.injEq, Except.ok.injEq]
  | error missing =>
    change Except.error _ = Except.ok a ↔ _
    simp only [reduceCtorEq]

/-- A form whose fields do not meet, and none of which is given at first. -/
structure Orderly (form : RecordForm σ α) : Prop where
  apart : form.fields.Pairwise Field.Apart
  new : ∀ f ∈ form.fields, f.given form.empty = false

/-- What members give for a name, as it is read. -/
def givenBy (ms : List (String × Value)) (name : String) : Option Node :=
  (member? ms name).map fun v => .ofValue v.canonical

/-- A record is read of what its value gives for each of the fields. -/
theorem Orderly.decodeValue_eq_ok_iff (h : form.Orderly) (v : Value) (a : α) :
    decodeValue form.decoder v = .ok a ↔ ∃ ms, v.members? (form.fields.map (·.name)) = some ms ∧
      ∃ s, collect (givenBy ms) form.fields form.empty = .ok s ∧ form.complete s = .ok a := by
  have hgiven (ms : List (String × Value)) :
      (fun name => ((member? ms name).map Value.canonical).map Node.ofValue) = givenBy ms :=
    funext fun _ => Option.map_map ..
  cases v with
  | object ms =>
    have hkeys : ((Value.sortMembers (Value.canonicalMembers ms)).map (·.1)).Nodup :=
      List.pairwise_map.2 ((Value.ascending_sortMembers _).imp String.ne_of_lt)
    have hread : Agree Eq (takeMembers form.fields .value
        (Node.ofMembers (Value.sortMembers (Value.canonicalMembers ms))) form.empty)
        (collect (givenBy ms) form.fields form.empty) := by
      have hcollect := agree_collect h.apart hkeys fun _ _ f hf _ => h.new f hf
      simpa only [member?_canonical, hgiven] using hcollect
    rw [decodeValue, Value.canonical, Node.ofValue, decoder_object_eq_ok_iff]
    simp only [hread.eq_ok_iff, Value.members?, Option.some.injEq, exists_eq_left']
  | array es =>
    have hnames : (form.fields.map (·.name)).Nodup := List.pairwise_map.2 (h.apart.imp Field.Apart.name_ne)
    rw [decodeValue, Value.canonical, Node.ofValue, decoder_array_eq_ok_iff, Value.members?,
      List.length_map, Value.canonicalElements_eq_map]
    split
    · next hlength =>
      have hzip : (form.fields.map (·.name)).zip (es.map Value.canonical) =
          ((form.fields.map (·.name)).zip es).map fun m => (m.1, m.2.canonical) :=
        List.zip_map_right ..
      rw [fill_eq_collect hnames (by rwa [List.length_map]), hzip]
      simp only [member?_map, hgiven, map_eq_ok_iff, Prod.mk.injEq, and_true, exists_eq_right,
        Option.some.injEq, exists_eq_left']
    · next hlength =>
      constructor
      · rintro ⟨s, hfill, -⟩
        have hrest := length_fill hfill
        rw [List.length_nil, Node.length_ofElements, List.length_map] at hrest
        omega
      · rintro ⟨_, ⟨⟩, _⟩
  | null | bool | number | string =>
    constructor
    · exact fun h => absurd h mismatch_ne_ok
    · rintro ⟨_, ⟨⟩, _⟩

end RecordForm

end ThermalPrint.Json
