import ThermalPrint.Job
import ThermalPrint.Proofs.Json.Nesting

/-! Requests that are read. Every size in one stands for its own JSON form, and the request is nested
no deeper than there was room for when it was read. -/

namespace ThermalPrint

open Json

namespace Size

variable {v : Value} {s : Size}

theorem toJson_ofJson (v : Value) : (ofJson v).toJson = v := by
  unfold ofJson
  split
  · next n exact =>
    split
    · next h =>
      have hn : (Int64.ofInt n).toInt = n := Int64.toInt_ofInt_of_le exact.1 h
      simp only [toJson, hn]
    · rfl
  · rfl
  · rfl

/-- A size that stands for its JSON form, which is canonical and not the one of an absent size. -/
structure Settled (s : Size) : Prop where
  canonical : s.toJson.canonical = s.toJson
  ofJson_toJson : ofJson s.toJson = s
  ne_null : s.toJson ≠ .null

theorem settled_ofJson (hcanonical : v.canonical = v) (hnull : v ≠ .null) : (ofJson v).Settled where
  canonical := by rwa [toJson_ofJson]
  ofJson_toJson := congrArg ofJson (toJson_ofJson v)
  ne_null := by rwa [toJson_ofJson]

/-- A size that is read where null is none. -/
theorem settled_of_read {origin : Origin} {node : Node} (h : Decoder.option decoder origin node = .ok (some s)) :
    s.Settled ∧ s.toJson.depth ≤ origin.room node := by
  have hnull : node ≠ .atom .null := by
    rintro rfl
    cases h
  rw [Decoder.option_of_ne_null hnull] at h
  obtain ⟨_, hs, ⟨⟩⟩ := map_eq_ok_iff.1 h
  obtain ⟨v, hv, rfl⟩ := map_eq_ok_iff.1 hs
  have hgives := Node.resolve_gives hv
  refine ⟨settled_ofJson hgives.canonical ?_, ?_⟩
  · rintro rfl
    exact hnull (Node.eq_null_of_resolve hv)
  · rw [toJson_ofJson]
    exact hgives.depth_le_room

end Size

namespace Receipt

variable {origin : Origin} {node : Node} {n : Nat}

namespace Formatting

variable {f : Formatting}

def Settled (f : Formatting) : Prop := ∀ part, ∀ s ∈ (f.style part).size, s.Settled

theorem settled_empty : ({} : Formatting).Settled := by
  rintro (_ | _ | _ | _) s ⟨⟩

theorem depth_toJson_le (h : ∀ part, ∀ s ∈ (f.style part).size, s.toJson.depth ≤ n) :
    f.toJson.depth ≤ n + 1 := by
  have hsize (part : Part) : (sizeJson (f.style part).size).depth ≤ n := by
    cases hs : (f.style part).size with
    | none => exact Nat.zero_le n
    | some s => exact h part s hs
  have hbold : ∀ b, (Value.bool b).depth ≤ n := fun _ => Nat.zero_le n
  refine Nat.succ_le_succ (Value.depthMembers_le_iff.2 ?_)
  simp only [List.forall_mem_cons]
  exact ⟨hsize .header, hbold _, hsize .items, hbold _, hsize .total, hbold _, hsize .footer, hbold _,
    nofun⟩

namespace Draft

/-- The size that has been given for a section, if any. -/
def size (d : Draft) : Part → Option Size
  | .header => d.headerSize.join
  | .items => d.itemSize.join
  | .total => d.totalSize.join
  | .footer => d.footerSize.join

/-- The sizes that have been given are settled and nested at most `n` levels deep. -/
def Sized (n : Nat) (d : Draft) : Prop :=
  ∀ part, ∀ s ∈ d.size part, s.Settled ∧ s.toJson.depth ≤ n

variable {name : String}

theorem keeps_size (p : Part) {get : Draft → Option (Option Size)}
    {put : Option Size → Draft → Draft}
    (hput : ∀ size d part, (put size d).size part = if part = p then size else d.size part) :
    (Field.of name get put form.size).Keeps Sized := by
  refine Field.keeps_of fun origin node n size d hread hn hd part s hs => ?_
  rw [hput] at hs
  split at hs
  · cases hs
    obtain ⟨hsettled, hdepth⟩ := Size.settled_of_read hread
    exact ⟨hsettled, Nat.le_trans hdepth hn⟩
  · exact hd part s hs

theorem keeps_bold {get : Draft → Option Bool} {put : Bool → Draft → Draft}
    (hput : ∀ b d part, (put b d).size part = d.size part) :
    (Field.of name get put Decoder.bool).Keeps Sized :=
  Field.keeps_of fun _ _ _ b d _ _ hd part s hs => hd part s (hput b d part ▸ hs)

end Draft

theorem settled_of_read (h : decoder origin node = .ok f) :
    f.Settled ∧ f.toJson.depth ≤ origin.room node := by
  have hempty : ∀ n, Draft.Sized n form.empty := by
    rintro n (_ | _ | _ | _) s ⟨⟩
  have hfields : ∀ f ∈ form.fields, f.Keeps Draft.Sized := by
    simp only [form, List.forall_mem_cons]
    refine ⟨Draft.keeps_size .header ?_, Draft.keeps_bold ?_, Draft.keeps_size .items ?_,
      Draft.keeps_bold ?_, Draft.keeps_size .total ?_, Draft.keeps_bold ?_,
      Draft.keeps_size .footer ?_, Draft.keeps_bold ?_, nofun⟩
    all_goals rintro _ _ (_ | _ | _ | _) <;> rfl
  obtain ⟨n, d, hroom, hd, hf⟩ := RecordForm.decoder_keeps hempty hfields h
  have hstyle (part : Part) : (f.style part).size = d.size part := by
    rw [← Except.ok.inj hf]
    cases part <;> rfl
  rw [hroom]
  exact ⟨fun part s hs => (hd part s (hstyle part ▸ hs)).1,
    depth_toJson_le fun part s hs => (hd part s (hstyle part ▸ hs)).2⟩

end Formatting

/-- A receipt whose sizes stand for their JSON forms. -/
def Settled (r : Receipt) : Prop := r.formatting.Settled

variable {r : Receipt}

/-- The items of a receipt are nested two levels deep in it. -/
theorem depth_toJson_le (hn : 2 ≤ n) (h : r.formatting.toJson.depth ≤ n) : r.toJson.depth ≤ n + 1 := by
  refine Nat.succ_le_succ (Value.depthMembers_le_iff.2 ?_)
  have htext (name : String) (text : Option String) :
      ∀ m ∈ toJson.textMember name text, m.2.depth ≤ n := by
    intro m hm
    obtain ⟨t, -, rfl⟩ := List.mem_map.1 hm
    exact Nat.zero_le n
  have hitems : (Value.array (r.items.map Item.toJson)).depth ≤ 2 := by
    refine Nat.succ_le_succ (Value.depthElements_le_iff.2 ?_)
    rw [List.forall_mem_map]
    exact fun item _ => Nat.le_refl 1
  simp only [List.forall_mem_append]
  refine ⟨⟨⟨⟨htext _ _, ?_⟩, htext _ _⟩, htext _ _⟩, List.forall_mem_singleton.2 h⟩
  split
  · exact nofun
  · exact List.forall_mem_singleton.2 (Nat.le_trans hitems hn)

/-- The formatting that has been given is settled and nested at most `n` levels deep. -/
def Draft.Sized (n : Nat) (d : Draft) : Prop :=
  ∀ f ∈ d.formatting, f.Settled ∧ f.toJson.depth ≤ n

theorem Draft.keeps_text {α : Type} {name : String} {get : Draft → Option α} {put : α → Draft → Draft}
    {d : Decoder α} (hput : ∀ a d, (put a d).formatting = d.formatting) :
    (Field.of name get put d).Keeps Draft.Sized :=
  Field.keeps_of fun _ _ _ a d _ _ hd f hf => hd f (hput a d ▸ hf)

theorem settled_of_read (h : decoder origin node = .ok r) :
    r.Settled ∧ r.toJson.depth ≤ max 3 (origin.room node) := by
  have hformatting : (Field.of "formatting" Draft.formatting (fun v d => { d with formatting := some v })
      Formatting.decoder).Keeps Draft.Sized := by
    refine Field.keeps_of fun origin node n f d hread hn _ => ?_
    rintro _ ⟨⟩
    obtain ⟨hsettled, hdepth⟩ := Formatting.settled_of_read hread
    exact ⟨hsettled, Nat.le_trans hdepth hn⟩
  have hfields : ∀ f ∈ form.fields, f.Keeps Draft.Sized := by
    simp only [form, List.forall_mem_cons]
    refine ⟨Draft.keeps_text ?_, Draft.keeps_text ?_, Draft.keeps_text ?_, Draft.keeps_text ?_,
      hformatting, nofun⟩
    all_goals exact fun _ _ => rfl
  have hempty : ∀ n, Draft.Sized n form.empty := by
    rintro n f ⟨⟩
  obtain ⟨n, d, hroom, hd, hr⟩ := RecordForm.decoder_keeps hempty hfields h
  have hformatting : d.formatting.getD {} = r.formatting :=
    congrArg Receipt.formatting (Except.ok.inj hr)
  have hsized : r.formatting.Settled ∧ r.formatting.toJson.depth ≤ max 2 n := by
    rw [← hformatting]
    cases hf : d.formatting with
    | none => exact ⟨Formatting.settled_empty, Nat.le_trans (by decide) (Nat.le_max_left 2 n)⟩
    | some f => exact ⟨(hd f hf).1, Nat.le_trans (hd f hf).2 (Nat.le_max_right 2 n)⟩
  rw [hroom]
  exact ⟨hsized.1, Nat.le_trans (depth_toJson_le (Nat.le_max_left 2 n) hsized.2) (by omega)⟩

end Receipt

namespace Job

variable {origin : Origin} {node : Node} {job : Job} {n : Nat}

def Settled : Job → Prop
  | .plainText _ => True
  | .receipt r => r.Settled

/-- A settled job whose content is nested at most `n` levels deep. -/
def Sized (n : Nat) : Job → Prop
  | .plainText _ => True
  | .receipt r => r.Settled ∧ r.toJson.depth ≤ n

theorem Sized.settled (h : job.Sized n) : job.Settled := by
  cases job with
  | plainText => trivial
  | receipt r => exact h.1

theorem Sized.depth_toJson_le (h : job.Sized n) : job.toJson.depth ≤ n + 1 := by
  cases job with
  | plainText text => exact Nat.succ_le_succ (Nat.zero_le n)
  | receipt r =>
    have hcontent : max r.toJson.depth 0 ≤ n := Nat.max_le.2 ⟨h.2, Nat.zero_le n⟩
    exact Nat.succ_le_succ (Nat.max_le.2 ⟨Nat.zero_le n, hcontent⟩)

theorem sized_of_content {tag : Tag} (h : contentDecoder tag origin node = .ok job)
    (hn : origin.room node ≤ n) : job.Sized (max 3 n) := by
  cases tag with
  | plainText =>
    obtain ⟨text, -, rfl⟩ := map_eq_ok_iff.1 h
    trivial
  | receipt =>
    obtain ⟨r, hr, rfl⟩ := map_eq_ok_iff.1 h
    obtain ⟨hsettled, hdepth⟩ := Receipt.settled_of_read hr
    exact ⟨hsettled, by omega⟩

/-- Content that waits for its tag is nested at most `n` levels deep. -/
def Draft.Sized (n : Nat) : Draft → Prop
  | .nothing | .tag _ => True
  | .content node => node.depth ≤ n
  | .complete job => job.Sized (max 3 n)

/-- What one member of an object does to what has been met. -/
inductive Takes (origin : Origin) : StringLiteral × Node → Draft → Draft → Prop
  | tag {key : StringLiteral} {v : Node} {tag : Tag} (hname : key.read = .ok "type")
    (htag : Decoder.variant Tag.variants origin v = .ok tag) : Takes origin (key, v) .nothing (.tag tag)
  /-- The tag comes after the content, which is read now. -/
  | lateTag {key : StringLiteral} {v node : Node} {tag : Tag} {job : Job} (hname : key.read = .ok "type")
    (htag : Decoder.variant Tag.variants origin v = .ok tag) (hjob : contentDecoder tag .ahead node = .ok job) :
    Takes origin (key, v) (.content node) (.complete job)
  /-- The content comes before the tag, and can be read as some value. -/
  | earlyContent {key : StringLiteral} {v : Node} {value : Value} (hname : key.read = .ok "content")
    (hvalue : v.resolve origin = .ok value) : Takes origin (key, v) .nothing (.content v)
  | content {key : StringLiteral} {v : Node} {tag : Tag} {job : Job} (hname : key.read = .ok "content")
    (hjob : contentDecoder tag origin v = .ok job) : Takes origin (key, v) (.tag tag) (.complete job)
  | other {key : StringLiteral} {v : Node} {name : String} {d : Draft} (hname : key.read = .ok name)
    (hskip : v.skip = .ok ()) : Takes origin (key, v) d d

theorem exists_takes {m : StringLiteral × Node} {ms : List (StringLiteral × Node)} {d d' : Draft}
    (h : takeMembers origin (m :: ms) d = .ok d') :
    ∃ d₁, Takes origin m d d₁ ∧ takeMembers origin ms d₁ = .ok d' := by
  obtain ⟨key, v⟩ := m
  obtain ⟨name, hname, h⟩ := bind_eq_ok_iff.1 h
  split at h
  · cases d with
    | nothing =>
      obtain ⟨tag, htag, h⟩ := bind_eq_ok_iff.1 h
      exact ⟨_, .tag hname htag, h⟩
    | content node =>
      obtain ⟨tag, htag, h⟩ := bind_eq_ok_iff.1 h
      obtain ⟨job, hjob, h⟩ := bind_eq_ok_iff.1 h
      exact ⟨_, .lateTag hname htag hjob, h⟩
    | tag | complete => cases h
  · cases d with
    | nothing =>
      obtain ⟨value, hvalue, h⟩ := bind_eq_ok_iff.1 h
      exact ⟨_, .earlyContent hname hvalue, h⟩
    | tag tag =>
      obtain ⟨job, hjob, h⟩ := bind_eq_ok_iff.1 h
      exact ⟨_, .content hname hjob, h⟩
    | content | complete => cases h
  · obtain ⟨_, hskip, h⟩ := bind_eq_ok_iff.1 h
    exact ⟨_, .other hname hskip, h⟩

theorem takeMembers_sized {ms : List (StringLiteral × Node)} {d d' : Draft}
    (hms : ∀ m ∈ ms, origin.room m.2 ≤ n) (hd : d.Sized n) (h : takeMembers origin ms d = .ok d') :
    d'.Sized n := by
  induction ms generalizing d with
  | nil =>
    cases h
    exact hd
  | cons m ms ih =>
    obtain ⟨hm, hms⟩ := List.forall_mem_cons.1 hms
    obtain ⟨d₁, htakes, hlater⟩ := exists_takes h
    suffices hsized : d₁.Sized n from ih hms hsized hlater
    cases htakes with
    | tag => trivial
    | lateTag _ _ hjob => exact sized_of_content hjob hd
    | earlyContent _ hvalue =>
      exact Nat.le_trans ((Node.resolve_gives hvalue).admits.le_room (Nat.le_refl _)) hm
    | content _ hjob => exact sized_of_content hjob hm
    | other => exact hd

theorem settled_of_read (h : decoder origin node = .ok job) :
    job.Settled ∧ job.toJson.depth ≤ max 4 (origin.room node) := by
  suffices hsized : ∃ n, origin.room node = n + 1 ∧ job.Sized (max 3 n) by
    obtain ⟨n, hroom, hjob⟩ := hsized
    have := hjob.depth_toJson_le
    exact ⟨hjob.settled, by omega⟩
  cases node with
  | atom => exact absurd h mismatch_ne_ok
  | array es stop =>
    obtain ⟨inner, henter, h⟩ := bind_eq_ok_iff.1 h
    obtain ⟨n, hroom, hes⟩ : ∃ n, origin.room (.array es stop) = n + 1 ∧ ∀ e ∈ es, inner.room e ≤ n :=
      Origin.room_elements henter
    refine ⟨n, hroom, ?_⟩
    rcases es with _ | ⟨t, _ | ⟨c, rest⟩⟩
    · exact nomatch bind_eq_ok_iff.1 h
    · obtain ⟨tag, -, h⟩ := bind_eq_ok_iff.1 h
      exact nomatch bind_eq_ok_iff.1 h
    · obtain ⟨tag, -, h⟩ := bind_eq_ok_iff.1 h
      obtain ⟨job, hjob, h⟩ := bind_eq_ok_iff.1 h
      obtain ⟨-, -, ⟨⟩⟩ := bind_eq_ok_iff.1 h
      exact sized_of_content hjob (hes c (by simp))
  | object ms stop =>
    obtain ⟨inner, henter, h⟩ := bind_eq_ok_iff.1 h
    obtain ⟨n, hroom, hms⟩ := Origin.room_members henter
    obtain ⟨d, hd, h⟩ := bind_eq_ok_iff.1 h
    obtain ⟨-, -, h⟩ := bind_eq_ok_iff.1 h
    refine ⟨n, hroom, ?_⟩
    have hsized : d.Sized n := takeMembers_sized hms (show Draft.Sized n .nothing from trivial) hd
    cases d with
    | complete =>
      cases h
      exact hsized
    | nothing | tag | content => nomatch h

end Job

end ThermalPrint
