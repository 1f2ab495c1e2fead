import ThermalPrint.Proofs.Escpos.Framing
import ThermalPrint.Proofs.Json.Gap
import ThermalPrint.Proofs.Json.Integer
import ThermalPrint.Proofs.Json.Source
import ThermalPrint.Proofs.Receipt.Language
import ThermalPrint.Proofs.Receipt.WellFormed

/-! Prices that are integers. A price may be written as a bare integer, which is kept and printed in the
digits in which it is written, as if they stood in quotes. -/

namespace ThermalPrint

open Json Escpos

namespace Receipt

variable {n : Int} {x : NumberText}

/-! ## The place of a price -/

theorem Item.part_price : RecordForm.Part Item.form "price" Item.Draft.price
    (fun price d => { d with price := some price }) priceDecoder where
  mem := .tail _ (.head _)
  apart := Item.orderly_form.apart
  get_put _ _ := rfl
  others := by
    simp only [Item.form, List.forall_mem_cons]
    exact ⟨fun _ => Field.get_eq_of_take fun _ _ => rfl, fun h => absurd rfl h, List.forall_mem_nil _⟩

theorem part_items : RecordForm.Part form "items" Draft.items
    (fun items d => { d with items := some items }) (.list Item.decoder) where
  mem := .tail _ (.head _)
  apart := orderly_form.apart
  get_put _ _ := rfl
  others := by
    simp only [form, List.forall_mem_cons]
    refine ⟨?_, fun h => absurd rfl h, ?_, ?_, ?_, List.forall_mem_nil _⟩
    all_goals exact fun _ => Field.get_eq_of_take fun _ _ => rfl

theorem Item.price_of_complete {d : Item.Draft} {item : Item} (h : Item.form.complete d = .ok item) :
    d.price = some item.price := by
  obtain ⟨_ | name, _ | price⟩ := d <;> cases h
  rfl

/-- A text of a receipt in which the price of one item is left out. -/
structure PriceGap where
  left : List Blank
  receipt : Gap
  items : Gap
  item : Gap
  right : List Blank
  /-- How many items come before that item. -/
  index : Nat
  isItems : receipt.IsField (form.fields.map (·.name)) "items"
  isItem : items.IsElement index
  isPrice : item.IsField (Item.form.fields.map (·.name)) "price"

namespace PriceGap

variable (g : PriceGap) {price price' : Source}

/-- The receipt with a price in the gap. -/
def fill (price : Source) : Source := g.receipt.fill (g.items.fill (g.item.fill price))

def text (price : Source) : String := Spaced.text ⟨g.left, g.fill price, g.right⟩

theorem exists_text : ∃ before after, ∀ price, (g.text price).toList = before ++ (price.chars ++ after) := by
  have hsurrounds := ((Source.Surrounds.fill g.receipt).fill_fill g.items).fill_fill g.item
  obtain ⟨before, after, htext⟩ := hsurrounds.spaced g.left g.right
  exact ⟨before, after, fun price => (String.toList_ofList).trans (htext price)⟩

theorem ofText_text : ofText (g.text price) =
    (decoder (.text depthLimit) (g.fill price).tree).mapError fun f => .badRequest f.message := by
  rw [ofText, text, Spaced.decodeText_text]

/-- Prices that are read alike make texts that are read alike. -/
theorem ofText_eq (h : priceDecoder.Alike price price') : ofText (g.text price) = ofText (g.text price') := by
  have hitem := Item.part_price.alike_fill h g.isPrice
  have hreceipt := part_items.alike_fill (hitem.list_fill g.isItem) g.isItems
  rw [ofText_text, ofText_text]
  exact congrArg _ (hreceipt _)

/-- The price in the gap is that of the item. -/
theorem exists_item {r : Receipt} (h : ofText (g.text price) = .ok r) : ∃ origin item,
    r.items[g.index]? = some item ∧ priceDecoder origin price.tree = .ok item.price := by
  rw [ofText_text] at h
  have hr := mapError_eq_ok_iff.1 h
  obtain ⟨_, items, s, hitems, hs, hcomplete⟩ := part_items.exists_of_decoder_fill g.isItems hr
  obtain ⟨_, item, hitem, hindex⟩ := Decoder.exists_of_list_fill g.isItem hitems
  obtain ⟨origin, text, d, htext, hd, hdraft⟩ := Item.part_price.exists_of_decoder_fill g.isPrice hitem
  refine ⟨origin, item, ?_, ?_⟩
  · rw [← Except.ok.inj hcomplete, hs]
    exact hindex
  · rw [htext, ← Option.some.inj (hd.symm.trans (Item.price_of_complete hdraft))]

end PriceGap

/-- In every text of which a receipt is read, the price of every item stands in a gap. -/
theorem exists_priceGap {text : String} {r : Receipt} {i : Nat} {item : Item} (h : ofText text = .ok r)
    (hi : r.items[i]? = some item) : ∃ g : PriceGap, ∃ price origin,
      g.index = i ∧ g.text price = text ∧ priceDecoder origin price.tree = .ok item.price := by
  obtain ⟨⟨left, v, right⟩, rfl⟩ := exists_source_of_ofText h
  have hr : decoder (.text depthLimit) v.tree = .ok r := by
    rw [ofText, Spaced.decodeText_text] at h
    exact mapError_eq_ok_iff.1 h
  obtain ⟨s, hcomplete, hs⟩ := part_items.exists_fill rfl hr
  cases hcomplete
  cases hitems : s.items with
  | none =>
    rw [hitems] at hi
    cases hi
  | some items =>
    rw [hitems] at hi
    obtain ⟨receipt, _, _, rfl, hlist, hread⟩ := hs items hitems
    obtain ⟨items, _, _, rfl, helement, hread⟩ := Decoder.exists_fill hread hi
    obtain ⟨d, hdraft, hd⟩ := Item.part_price.exists_fill rfl hread
    obtain ⟨element, price, origin, rfl, hfield, hread⟩ := hd item.price (Item.price_of_complete hdraft)
    exact ⟨⟨left, receipt, items, element, right, i, hlist, helement, hfield⟩, price, origin, rfl, rfl, hread⟩

/-! ## Integers -/

theorem priceDecoder_number (h : x.WritesInteger n) (origin : Origin) :
    priceDecoder origin (Source.number x).tree = .ok (String.ofList x.chars) := by
  obtain ⟨exact, hread⟩ := (x.read_eq_integer_iff n).2 h
  rw [Source.tree, hread, h.chars_eq]
  rfl

theorem priceDecoder_string (text : String) (origin : Origin) :
    priceDecoder origin (Source.string (.ofString text)).tree = .ok text := by
  have hread : (StringText.ofString text).literal.read = .ok text := StringText.writes_ofString text
  rw [Source.tree, priceDecoder, Node.resolve, Atom.resolve, hread]
  rfl

/-- The line of an item stands in the bytes of the receipt. -/
theorem line_infix {r : Receipt} {item : Item} (h : item ∈ r.items) :
    utf8 item.name ++ [0x09] ++ utf8 item.price ++ [0x0A] <:+: encodeReceipt r := by
  have hhas : r.has .items = true := by
    unfold has
    cases hitems : r.items with
    | nil => exact absurd (hitems ▸ h) List.not_mem_nil
    | cons => rfl
  have hcontent : utf8 item.name ++ [0x09] ++ utf8 item.price ++ [0x0A] <:+: r.contentBytes .items := by
    obtain ⟨before, after, hsplit⟩ := List.append_of_mem h
    rw [contentBytes, hsplit, List.flatMap_append, List.flatMap_cons, ← List.append_assoc]
    exact List.infix_append _ _ _
  have hstyled : r.contentBytes .items <:+: r.styledBytes .items := by
    rw [styledBytes, List.append_assoc]
    exact List.infix_append _ _ _
  have hsection : r.styledBytes .items <:+: r.sectionBytes .items := by
    rw [sectionBytes, if_pos hhas]
    exact (List.suffix_append _ _).isInfix
  have hblocks : r.sectionBytes .items <:+: stream (Block.commands none (blocks r)) := by
    rw [stream_blocks, List.append_assoc]
    exact List.infix_append _ _ _
  have hbytes : stream (Block.commands none (blocks r)) <:+: encodeReceipt r := by
    rw [encodeReceipt, receiptCommands, stream_cons, stream_append]
    exact List.infix_append' _ _ _
  exact (((hcontent.trans hstyled).trans hsection).trans hblocks).trans hbytes

/-- A price that is written as a bare integer of 64 bits is read as if it stood in quotes: either text is
read if the other is, as the same receipt, and the price is the digits that are written, which are printed in
the line of the item. -/
theorem ofText_keeps_integer (g : PriceGap) (x : NumberText) (n : Int) (h : x.WritesInteger n) :
    let bare := g.text (.number x)
    let quoted := g.text (.string (.ofString (String.ofList x.chars)))
    (∃ before after, bare.toList = before ++ (x.chars ++ after) ∧
      quoted.toList = before ++ ('"' :: (x.chars ++ '"' :: after))) ∧
    (∀ r, ofText bare = .ok r ↔ ofText quoted = .ok r) ∧
    ∀ r, ofText bare = .ok r → ∃ item, r.items[g.index]? = some item ∧ item.price.toList = x.chars ∧
      utf8 item.name ++ [0x09] ++ utf8 item.price ++ [0x0A] <:+: encodeReceipt r := by
  intro bare quoted
  refine ⟨?_, fun r => ?_, fun r hr => ?_⟩
  · obtain ⟨before, after, htext⟩ := g.exists_text
    refine ⟨before, after, htext _, ?_⟩
    rw [htext, Source.chars, h.chars_ofString]
    simp
  · have halike : priceDecoder.Alike (.number x) (.string (.ofString (String.ofList x.chars))) := by
      intro origin
      rw [priceDecoder_number h, priceDecoder_string]
    rw [g.ofText_eq halike]
  · obtain ⟨origin, item, hitem, hprice⟩ := g.exists_item hr
    rw [priceDecoder_number h] at hprice
    refine ⟨item, hitem, ?_, line_infix (List.mem_of_getElem? hitem)⟩
    rw [← Except.ok.inj hprice, String.toList_ofList]

/-- The receipt `{"items":[["Tea",price]]}` without the price. -/
def teaGap : PriceGap where
  left := []
  receipt := .member [] ⟨[], .ofString "items", []⟩ [] [] [] []
  items := .element [] [] [] [] []
  item := .element [⟨[], .string (.ofString "Tea"), []⟩] [] [] [] []
  right := []
  index := 0
  isItems := StringText.writes_ofString "items"
  isItem := rfl
  isPrice := rfl

theorem teaGap_tree (price : Source) : (teaGap.fill price).tree =
    .object [((StringText.ofString "items").literal, .array [.array [(Source.string (.ofString "Tea")).tree,
      price.tree] .closed] .closed)] .closed := rfl

/-- The greatest integer that is kept is `2 ^ 64 - 1`. -/
theorem ofText_keeps_integer_of_greatest :
    let digits : Digits := ⟨1, [8, 4, 4, 6, 7, 4, 4, 0, 7, 3, 7, 0, 9, 5, 5, 1, 6, 1, 5]⟩
    let x : NumberText := ⟨false, digits, fun h => absurd (congrArg Fin.val h) Nat.one_ne_zero, none, none⟩
    let r : Receipt := { items := [⟨"Tea", "18446744073709551615"⟩] }
    x.WritesInteger 18446744073709551615 ∧ ofText (teaGap.text (.number x)) = .ok r ∧
      ofText (teaGap.text (.string (.ofString "18446744073709551615"))) = .ok r ∧
      utf8 "Tea" ++ [0x09] ++ utf8 "18446744073709551615" ++ [0x0A] <:+: encodeReceipt r := by
  intro digits x r
  have hwrites : x.WritesInteger 18446744073709551615 :=
    ⟨rfl, rfl, by decide, fun h => absurd h Bool.false_ne_true, by decide⟩
  obtain ⟨exact, hread⟩ := (x.read_eq_integer_iff _).2 hwrites
  have hbare : ofText (teaGap.text (.number x)) = .ok r := by
    rw [PriceGap.ofText_text, teaGap_tree, Source.tree, hread]
    rfl
  have hchars : String.ofList x.chars = "18446744073709551615" := by decide
  obtain ⟨-, hquoted, hprice⟩ := ofText_keeps_integer teaGap x _ hwrites
  obtain ⟨item, hitem, -, hline⟩ := hprice r hbare
  cases hitem
  rw [hchars] at hquoted
  exact ⟨hwrites, hbare, (hquoted r).1 hbare, hline⟩

end Receipt

end ThermalPrint
