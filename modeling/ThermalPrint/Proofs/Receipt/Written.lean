import ThermalPrint.Proofs.Json.Reading
import ThermalPrint.Proofs.Receipt.Settled

/-! The written forms of sizes, receipts and jobs. What is written of a settled one is read as the same
again, wherever there is room for it, and a text is read as the same again exactly if it is not
nested too deep. -/

namespace ThermalPrint

open Json

variable {literal : String → StringLiteral} {origin : Origin}

theorem Size.decoder_toJson {s : Size} (hs : s.Settled) (h : Faithful literal)
    (hdepth : origin.Admits s.toJson.depth) : decoder origin (s.toJson.tree literal) = .ok s := by
  rw [decoder, Value.resolve_tree h hdepth, hs.canonical, Except.map, hs.ofJson_toJson]

namespace Receipt

open RecordForm (takeMembers takeMembers_field)

theorem Item.decoder_toJson (item : Item) (h : Faithful literal)
    (hdepth : origin.Admits item.toJson.depth) :
    decoder origin (item.toJson.tree literal) = .ok item := by
  obtain ⟨inner, henter, hinner⟩ := Origin.Admits.enter hdepth
  have hname : Decoder.string inner ((Value.string item.name).tree literal) = .ok item.name := h.read _
  have hprice : priceDecoder inner ((Value.string item.price).tree literal) = .ok item.price := by
    rw [priceDecoder, Value.resolve_tree h .zero]
    rfl
  refine RecordForm.decoder_object (s := ⟨some item.name, some item.price⟩) henter ?_ rfl
  calc takeMembers form.fields inner (Value.treeMembers literal _) {}
    _ = takeMembers _ _ _ { name := some item.name } :=
      takeMembers_field h rfl rfl hname rfl
    _ = takeMembers _ _ _ ⟨some item.name, some item.price⟩ :=
      takeMembers_field h rfl rfl hprice rfl

namespace Formatting

variable {f : Formatting}

theorem size_of_ne_null {s : Size} (h : s.toJson ≠ .null) :
    form.size origin ((sizeJson (some s)).tree literal) =
      (Size.decoder origin (s.toJson.tree literal)).map some := by
  rw [sizeJson, Option.elim_some]
  cases hjson : s.toJson with
  | null => exact absurd hjson h
  | bool | number | string | array | object => rfl

theorem size_toJson {size : Option Size} (hsize : ∀ s ∈ size, s.Settled) (h : Faithful literal)
    (hdepth : origin.Admits (sizeJson size).depth) :
    form.size origin ((sizeJson size).tree literal) = .ok size := by
  cases size with
  | none => rfl
  | some s =>
    have hs := hsize s rfl
    rw [size_of_ne_null hs.ne_null, Size.decoder_toJson hs h hdepth]
    rfl

theorem decoder_toJson (hf : f.Settled) (h : Faithful literal) (hdepth : origin.Admits f.toJson.depth) :
    decoder origin (f.toJson.tree literal) = .ok f := by
  obtain ⟨inner, henter, hinner⟩ := Origin.Admits.enter hdepth
  have hmembers := hinner.members
  simp only [List.forall_mem_cons] at hmembers
  obtain ⟨hheader, -, hitems, -, htotal, -, hfooter, -⟩ := hmembers
  have hsize {size : Option Size} (hs : ∀ s ∈ size, s.Settled) (hd : inner.Admits (sizeJson size).depth) :
      form.size inner ((sizeJson size).tree literal) = .ok size := size_toJson hs h hd
  have hbold (b : Bool) : Decoder.bool inner ((Value.bool b).tree literal) = .ok b := rfl
  -- the fields that have been given after `n` members
  let d (n : Nat) : Draft := {
    headerSize := if n < 1 then none else some f.header.size
    headerBold := if n < 2 then none else some f.header.bold
    itemSize := if n < 3 then none else some f.items.size
    itemBold := if n < 4 then none else some f.items.bold
    totalSize := if n < 5 then none else some f.total.size
    totalBold := if n < 6 then none else some f.total.bold
    footerSize := if n < 7 then none else some f.footer.size
    footerBold := if n < 8 then none else some f.footer.bold }
  refine RecordForm.decoder_object (s := d 8) henter ?_ rfl
  calc takeMembers form.fields inner (Value.treeMembers literal _) (d 0)
    _ = takeMembers _ _ _ (d 1) :=
      takeMembers_field h rfl rfl (hsize (hf .header) hheader) rfl
    _ = takeMembers _ _ _ (d 2) := takeMembers_field h rfl rfl (hbold _) rfl
    _ = takeMembers _ _ _ (d 3) :=
      takeMembers_field h rfl rfl (hsize (hf .items) hitems) rfl
    _ = takeMembers _ _ _ (d 4) := takeMembers_field h rfl rfl (hbold _) rfl
    _ = takeMembers _ _ _ (d 5) :=
      takeMembers_field h rfl rfl (hsize (hf .total) htotal) rfl
    _ = takeMembers _ _ _ (d 6) := takeMembers_field h rfl rfl (hbold _) rfl
    _ = takeMembers _ _ _ (d 7) :=
      takeMembers_field h rfl rfl (hsize (hf .footer) hfooter) rfl
    _ = takeMembers _ _ _ (d 8) := takeMembers_field h rfl rfl (hbold _) rfl

/-- No size holds a floating-point number. -/
def FloatFree (f : Formatting) : Prop := ∀ part, ∀ s ∈ (f.style part).size, s.toJson.floatFree = true

theorem floatFree_toJson (h : f.FloatFree) : f.toJson.floatFree = true := by
  have hsize (part : Part) : (sizeJson (f.style part).size).floatFree = true := by
    cases hs : (f.style part).size with
    | none => rfl
    | some s => exact h part s hs
  refine Value.floatFreeMembers_iff.2 ?_
  simp only [List.forall_mem_cons]
  exact ⟨hsize .header, rfl, hsize .items, rfl, hsize .total, rfl, hsize .footer, rfl, nofun⟩

/-- A settled formatting is read back exactly if its written form is not nested too deep. -/
theorem decodeText_toJson_iff (hf : f.Settled) (hfloat : f.FloatFree) :
    decodeText decoder f.toJson.compact = .ok f ↔ f.toJson.depth ≤ depthLimit := by
  refine ⟨fun h => (settled_of_read (root_of_decodeText h)).2, fun h => ?_⟩
  rw [decodeText_compact decoder (floatFree_toJson hfloat)]
  exact decoder_toJson hf faithful_written h

end Formatting

variable {r : Receipt} {d d' : Draft} {ms : List (String × Value)}

theorem items_toJson (items : List Item) (h : Faithful literal)
    (hdepth : origin.Admits (Value.array (items.map Item.toJson)).depth) :
    Decoder.list Item.decoder origin ((Value.array (items.map Item.toJson)).tree literal) =
      .ok items := by
  obtain ⟨inner, henter, hinner⟩ := Origin.Admits.enter hdepth
  have helements : Decoder.elements Item.decoder inner
      (Value.treeElements literal (items.map Item.toJson)) = .ok items := by
    have hitems := List.forall_mem_map.1 hinner.elements
    clear hinner hdepth
    induction items with
    | nil => rfl
    | cons item items ih =>
      obtain ⟨hitem, hitems⟩ := List.forall_mem_cons.1 hitems
      rw [List.map_cons, Value.treeElements, Decoder.elements, Item.decoder_toJson item h hitem, ok_bind,
        ih hitems]
      rfl
  rw [Value.tree, Decoder.list, henter, ok_bind, helements]
  rfl

theorem takeMembers_text {name : String} {get : Draft → Option (Option String)}
    {put : Option String → Draft → Draft} {text : Option String} (h : Faithful literal)
    (hfind : form.fields.find? (·.name == name) = some (.of name get put (.option .string)))
    (hget : get d = none) (hput : text.elim d (fun t => put (some t) d) = d') :
    takeMembers form.fields origin (Value.treeMembers literal (toJson.textMember name text ++ ms)) d =
      takeMembers form.fields origin (Value.treeMembers literal ms) d' := by
  cases text with
  | none => exact congrArg _ hput
  | some t => exact takeMembers_field h hfind hget (congrArg (Except.map some) (h.read t)) hput

theorem takeMembers_items {items : List Item} (h : Faithful literal) (hget : d.items = none)
    (hdepth : ¬ items.isEmpty → origin.Admits (Value.array (items.map Item.toJson)).depth)
    (hput : (if items.isEmpty then d else { d with items := some items }) = d') :
    takeMembers form.fields origin (Value.treeMembers literal
      ((if items.isEmpty then [] else [("items", .array (items.map Item.toJson))]) ++ ms)) d =
      takeMembers form.fields origin (Value.treeMembers literal ms) d' := by
  by_cases hempty : items.isEmpty
  · rw [if_pos hempty] at hput ⊢
    exact congrArg _ hput
  · rw [if_neg hempty] at hput ⊢
    exact takeMembers_field h rfl hget (items_toJson items h (hdepth hempty)) hput

theorem decoder_toJson (hr : r.Settled) (h : Faithful literal) (hdepth : origin.Admits r.toJson.depth) :
    decoder origin (r.toJson.tree literal) = .ok r := by
  obtain ⟨inner, henter, hinner⟩ := Origin.Admits.enter hdepth
  have hmembers := hinner.members
  simp only [List.forall_mem_append, List.forall_mem_singleton] at hmembers
  obtain ⟨⟨⟨⟨-, hmember⟩, -⟩, -⟩, hformatting⟩ := hmembers
  have hitems (hne : ¬ r.items.isEmpty) : inner.Admits (Value.array (r.items.map Item.toJson)).depth := by
    rw [if_neg hne] at hmember
    exact hmember _ List.mem_cons_self
  -- the fields that have been given after `n` sections
  let d (n : Nat) : Draft := {
    header := if n < 1 then none else r.header.map some
    items := if n < 2 then none else if r.items.isEmpty then none else some r.items
    total := if n < 3 then none else r.total.map some
    footer := if n < 4 then none else r.footer.map some
    formatting := if n < 5 then none else some r.formatting }
  have hcomplete : form.complete (d 5) = .ok r := by
    have htext (text : Option String) : (text.map some).join = text := by cases text <;> rfl
    have hlist : (if r.items.isEmpty then none else some r.items).getD [] = r.items := by
      cases r.items <;> rfl
    simp only [form, d, Nat.reduceLT, if_false, htext, hlist]
    rfl
  refine RecordForm.decoder_object (s := d 5) henter ?_ hcomplete
  simp only [List.append_assoc]
  calc takeMembers form.fields inner (Value.treeMembers literal _) (d 0)
    _ = takeMembers _ _ _ (d 1) :=
      takeMembers_text h rfl rfl (by dsimp only [d]; cases r.header <;> rfl)
    _ = takeMembers _ _ _ (d 2) := takeMembers_items h rfl hitems (by dsimp only [d]; split <;> rfl)
    _ = takeMembers _ _ _ (d 3) :=
      takeMembers_text h rfl rfl (by dsimp only [d]; cases r.total <;> rfl)
    _ = takeMembers _ _ _ (d 4) :=
      takeMembers_text h rfl rfl (by dsimp only [d]; cases r.footer <;> rfl)
    _ = takeMembers _ _ _ (d 5) :=
      takeMembers_field h rfl rfl (Formatting.decoder_toJson hr h hformatting) rfl

/-- No size of the receipt holds a floating-point number. -/
def FloatFree (r : Receipt) : Prop := r.formatting.FloatFree

theorem floatFree_toJson (h : r.FloatFree) : r.toJson.floatFree = true := by
  have htext (name : String) (text : Option String) :
      ∀ m ∈ toJson.textMember name text, m.2.floatFree = true := by
    intro m hm
    obtain ⟨t, -, rfl⟩ := List.mem_map.1 hm
    rfl
  have hitems : (Value.array (r.items.map Item.toJson)).floatFree = true :=
    Value.floatFreeElements_iff.2 (List.forall_mem_map.2 fun _ _ => rfl)
  refine Value.floatFreeMembers_iff.2 ?_
  simp only [List.forall_mem_append]
  refine ⟨⟨⟨⟨htext _ _, ?_⟩, htext _ _⟩, htext _ _⟩, List.forall_mem_singleton.2 (Formatting.floatFree_toJson h)⟩
  split
  · exact nofun
  · exact List.forall_mem_singleton.2 hitems

theorem decodeText_toJson_iff (hr : r.Settled) (hfloat : r.FloatFree) :
    decodeText decoder r.toJson.compact = .ok r ↔ r.toJson.depth ≤ depthLimit := by
  refine ⟨fun h => (settled_of_read (root_of_decodeText h)).2, fun h => ?_⟩
  rw [decodeText_compact decoder (floatFree_toJson hfloat)]
  exact decoder_toJson hr faithful_written h

end Receipt

namespace Job

theorem takeMembers_tagged {tag : Tag} {name : String} {content : Value} {job : Job}
    (h : Faithful literal) (hname : Decoder.lookup Tag.variants name = .ok tag)
    (hcontent : contentDecoder tag origin (content.tree literal) = .ok job) :
    takeMembers origin (Value.treeMembers literal [("type", .string name), ("content", content)])
      .nothing = .ok (.complete job) := by
  have htag : Decoder.variant Tag.variants origin ((Value.string name).tree literal) = .ok tag := by
    rw [Value.tree, Decoder.variant, h.read, ok_bind, hname]
  calc takeMembers origin (Value.treeMembers literal [("type", .string name), ("content", content)])
        .nothing
    _ = takeMembers origin (Value.treeMembers literal [("content", content)]) (.tag tag) := by
      rw [Value.treeMembers, takeMembers, h.read, ok_bind]
      exact congrArg (· >>= _) htag
    _ = .ok (.complete job) := by
      rw [Value.treeMembers, takeMembers, h.read, ok_bind]
      exact congrArg (· >>= _) hcontent

theorem decoder_toJson {job : Job} (hjob : job.Settled) (h : Faithful literal)
    (hdepth : origin.Admits job.toJson.depth) : decoder origin (job.toJson.tree literal) = .ok job := by
  cases job with
  | plainText text =>
    obtain ⟨inner, henter, hinner⟩ := Origin.Admits.enter hdepth
    have hcontent : contentDecoder .plainText inner ((Value.string text).tree literal) =
        .ok (.plainText text) := congrArg (Except.map plainText) (h.read text)
    rw [toJson, Value.tree, decoder, henter, ok_bind, takeMembers_tagged h rfl hcontent]
    rfl
  | receipt r =>
    obtain ⟨inner, henter, hinner⟩ := Origin.Admits.enter hdepth
    have hcontent : contentDecoder .receipt inner (r.toJson.tree literal) = .ok (.receipt r) :=
      congrArg (Except.map receipt) (Receipt.decoder_toJson hjob h (hinner.members ("content", r.toJson) (by simp)))
    rw [toJson, Value.tree, decoder, henter, ok_bind, takeMembers_tagged h rfl hcontent]
    rfl

/-- No size of the job's receipt holds a floating-point number. -/
def FloatFree : Job → Prop
  | .plainText _ => True
  | .receipt r => r.FloatFree

variable {job : Job}

theorem floatFree_toJson (h : job.FloatFree) : job.toJson.floatFree = true := by
  cases job with
  | plainText text => rfl
  | receipt r =>
    refine Value.floatFreeMembers_iff.2 ?_
    simp only [List.forall_mem_cons]
    exact ⟨rfl, Receipt.floatFree_toJson h, nofun⟩

theorem decodeText_toJson_iff (hjob : job.Settled) (hfloat : job.FloatFree) :
    decodeText decoder job.toJson.compact = .ok job ↔ job.toJson.depth ≤ depthLimit := by
  refine ⟨fun h => (settled_of_read (root_of_decodeText h)).2, fun h => ?_⟩
  rw [decodeText_compact decoder (floatFree_toJson hfloat)]
  exact decoder_toJson hjob faithful_written h

end Job

end ThermalPrint
