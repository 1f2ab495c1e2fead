import ThermalPrint.Proofs.Escpos.Fragment

/-! What a printer makes of a receipt: the printout, line by line, said without commands. -/

namespace ThermalPrint

open Escpos

/-- A line of a printout: a text, and the look of it and of the line feed after it. -/
structure Escpos.Row where
  text : Bytes
  look : Look
deriving DecidableEq, Repr

/-- What comes out of a printer for a line. -/
def Escpos.Row.output (row : Row) : List Output := (row.text ++ [lf]).map (.printed · row.look)

namespace Receipt

/-- The look of a section. Only the header is centred. -/
def look (r : Receipt) (part : Part) : Look :=
  ⟨some (if part = .header then 0x01 else 0x00), (r.formatting.style part).bold,
    (r.formatting.style part).code⟩

/-- The lines of a section. A section that is absent has none. -/
def rows (r : Receipt) : Part → List Row
  | .header => r.header.toList.flatMap fun text =>
    [⟨utf8 text, r.look .header⟩, ⟨[], r.look .header⟩]
  | .items => r.items.map fun item => ⟨utf8 item.name ++ tab :: utf8 item.price, r.look .items⟩
  | .total => r.total.toList.flatMap fun text =>
    [⟨[], r.look .total⟩, ⟨utf8 "Total: " ++ utf8 text, r.look .total⟩]
  | .footer => r.footer.toList.map fun text => ⟨utf8 text, r.look .footer⟩

/-- The lines of the sections, in print order. -/
def body (r : Receipt) : List Row := Part.all.flatMap r.rows

/-- The alignment that is in force after the sections: that of the last one that is printed. -/
def lastAlignment (r : Receipt) : Option UInt8 :=
  (Part.all.filter r.has).getLast?.bind fun part => (r.look part).alignment

/-- The three blank lines after the sections. -/
def feed (r : Receipt) : List Row := List.replicate 3 ⟨[], .calm r.lastAlignment⟩

/-- What comes out of a printer for a receipt. -/
def printout (r : Receipt) : List Output := (r.body ++ r.feed).flatMap Row.output ++ [.cut]

end Receipt

namespace Escpos

variable {r : Receipt} {part : Receipt.Part} {content : List Command}

theorem content?_isSome : (content? r part).isSome = r.has part := by
  cases part with
  | header => exact Option.isSome_map
  | items =>
    unfold content? Receipt.has
    cases r.items <;> rfl
  | total => exact Option.isSome_map
  | footer => exact Option.isSome_map

theorem rows_of_content?_eq_none (h : content? r part = none) : r.rows part = [] := by
  cases part with
  | header => rw [Receipt.rows, Option.map_eq_none_iff.1 h]; rfl
  | items =>
    simp only [content?] at h
    split at h
    · next hitems => rw [Receipt.rows, List.isEmpty_iff.1 hitems]; rfl
    · cases h
  | total => rw [Receipt.rows, Option.map_eq_none_iff.1 h]; rfl
  | footer => rw [Receipt.rows, Option.map_eq_none_iff.1 h]; rfl

/-- The commands of an item. -/
theorem stream_items (items : List Receipt.Item) :
    stream (items.flatMap fun item => [.text item.name, .tab, .text item.price, .newline]) =
      items.flatMap fun item => (utf8 item.name ++ tab :: utf8 item.price) ++ [lf] := by
  induction items with
  | nil => rfl
  | cons item items ih =>
    rw [List.flatMap_cons, stream_append, ih, List.flatMap_cons]
    simp [Command.bytes]

/-- The content of a section prints the lines of the section. -/
theorem stream_content (h : content? r part = some content) :
    (stream content).map (.printed · (r.look part)) = (r.rows part).flatMap Row.output := by
  cases part with
  | header =>
    obtain ⟨text, htext, rfl⟩ := Option.map_eq_some_iff.1 h
    simp [Receipt.rows, htext, Row.output, Command.bytes]
  | items =>
    simp only [content?] at h
    split at h
    · cases h
    · obtain rfl := Option.some.inj h
      rw [stream_items, List.map_flatMap, Receipt.rows, List.flatMap_map]
      rfl
  | total =>
    obtain ⟨text, htext, rfl⟩ := Option.map_eq_some_iff.1 h
    simp [Receipt.rows, htext, Row.output, Command.bytes]
  | footer =>
    obtain ⟨text, htext, rfl⟩ := Option.map_eq_some_iff.1 h
    simp [Receipt.rows, htext, Row.output, Command.bytes]

/-- The content of a section is texts, tabs and line feeds. -/
theorem mem_content (h : content? r part = some content) {c : Command} (hc : c ∈ content) :
    c = .tab ∨ c = .newline ∨ c = .text "Total: " ∨ ∃ text ∈ r.texts, c = .text text := by
  cases part with
  | header =>
    obtain ⟨text, htext, rfl⟩ := Option.map_eq_some_iff.1 h
    simp only [List.mem_cons, List.not_mem_nil, or_false] at hc
    rcases hc with rfl | rfl | rfl
    · exact .inr (.inr (.inr ⟨text, Receipt.header_mem_texts htext, rfl⟩))
    · exact .inr (.inl rfl)
    · exact .inr (.inl rfl)
  | items =>
    simp only [content?] at h
    split at h
    · cases h
    · obtain rfl := Option.some.inj h
      obtain ⟨item, hitem, hc⟩ := List.mem_flatMap.1 hc
      simp only [List.mem_cons, List.not_mem_nil, or_false] at hc
      rcases hc with rfl | rfl | rfl | rfl
      · exact .inr (.inr (.inr ⟨_, Receipt.name_mem_texts hitem, rfl⟩))
      · exact .inl rfl
      · exact .inr (.inr (.inr ⟨_, Receipt.price_mem_texts hitem, rfl⟩))
      · exact .inr (.inl rfl)
  | total =>
    obtain ⟨text, htext, rfl⟩ := Option.map_eq_some_iff.1 h
    simp only [List.mem_cons, List.not_mem_nil, or_false] at hc
    rcases hc with rfl | rfl | rfl | rfl
    · exact .inr (.inl rfl)
    · exact .inr (.inr (.inl rfl))
    · exact .inr (.inr (.inr ⟨text, Receipt.total_mem_texts htext, rfl⟩))
    · exact .inr (.inl rfl)
  | footer =>
    obtain ⟨text, htext, rfl⟩ := Option.map_eq_some_iff.1 h
    simp only [List.mem_cons, List.not_mem_nil, or_false] at hc
    rcases hc with rfl | rfl
    · exact .inr (.inr (.inr ⟨text, Receipt.footer_mem_texts htext, rfl⟩))
    · exact .inr (.inl rfl)

theorem content_prints (h : content? r part = some content) : ∀ c ∈ content, c.Prints := by
  intro c hc
  rcases mem_content h hc with rfl | rfl | rfl | ⟨text, -, rfl⟩ <;> rfl

/-- A text without the two characters that begin commands begins none. -/
theorem isPlain_utf8 {text : String} (hesc : '\x1b' ∉ text.toList) (hgs : '\x1d' ∉ text.toList) :
    isPlain (utf8 text) = true := by
  refine List.all_eq_true.2 fun b hb => ?_
  have hesc' : esc ∉ utf8 text := not_mem_utf8 (by decide) hesc
  have hgs' : gs ∉ utf8 text := not_mem_utf8 (by decide) hgs
  simp only [Bool.and_eq_true, decide_eq_true_eq]
  exact ⟨fun h => hesc' (h ▸ hb), fun h => hgs' (h ▸ hb)⟩

theorem content_plain (hr : r.Avoids ['\x1b', '\x1d']) (h : content? r part = some content) :
    ∀ c ∈ content, c.Plain := by
  intro c hc
  rcases mem_content h hc with rfl | rfl | rfl | ⟨text, htext, rfl⟩
  · trivial
  · trivial
  · exact isPlain_utf8 (by decide) (by decide)
  · exact isPlain_utf8 (hr text htext _ (by decide)) (hr text htext _ (by decide))

/-- The block of a section that is present. -/
def block (r : Receipt) (part : Receipt.Part) (content : List Command) : Block :=
  ⟨alignment part, (r.formatting.style part).code, (r.formatting.style part).bold, content⟩

theorem mem_blocks {b : Block} :
    b ∈ blocks r ↔ ∃ part content, content? r part = some content ∧ block r part content = b := by
  simp only [blocks, List.mem_filterMap, Option.map_eq_some_iff]
  constructor
  · rintro ⟨part, -, content, h, rfl⟩
    exact ⟨part, content, h, rfl⟩
  · rintro ⟨part, content, h, rfl⟩
    exact ⟨part, by cases part <;> decide, content, h, rfl⟩

theorem block_look : (block r part content).look = r.look part := by cases part <;> rfl

theorem blocks_output : (blocks r).flatMap Block.output = r.body.flatMap Row.output := by
  unfold blocks Receipt.body
  induction Receipt.Part.all with
  | nil => rfl
  | cons part parts ih =>
    rw [List.filterMap_cons, List.flatMap_cons, List.flatMap_append, ← ih]
    cases h : content? r part with
    | none => rw [rows_of_content?_eq_none h]; rfl
    | some content =>
      have hblock : (block r part content).output = (r.rows part).flatMap Row.output := by
        rw [← stream_content h, Block.output, block_look]
        rfl
      rw [← hblock]
      rfl

theorem blocks_last :
    ((blocks r).getLast?.map (·.alignment)).map (·.code) = r.lastAlignment := by
  have hmap : (blocks r).map (fun b => b.look.alignment) =
      (Receipt.Part.all.filter r.has).map fun part => (r.look part).alignment := by
    unfold blocks
    induction Receipt.Part.all with
    | nil => rfl
    | cons part parts ih =>
      rw [List.filterMap_cons, List.filter_cons, ← content?_isSome]
      cases h : content? r part with
      | none => exact ih
      | some content =>
        have hlook : (block r part content).look.alignment = (r.look part).alignment :=
          congrArg _ block_look
        exact List.cons_eq_cons.2 ⟨hlook, ih⟩
  have hlast := congrArg List.getLast? hmap
  rw [List.getLast?_map, List.getLast?_map] at hlast
  unfold Receipt.lastAlignment
  cases hb : (blocks r).getLast? <;> cases hp : (Receipt.Part.all.filter r.has).getLast? <;>
    rw [hb, hp] at hlast
  · rfl
  · cases hlast
  · cases hlast
  · exact Option.some.inj hlast

/-- A printer reads the bytes of a receipt as a reset, the lines of the receipt and a cut. -/
theorem receipt_plays (hr : r.Avoids ['\x1b', '\x1d']) :
    ∃ is, read (encodeReceipt r) = (.reset :: (is ++ [.cut]), []) ∧
      Plays {} is ((r.body ++ r.feed).flatMap Row.output) (.calm r.lastAlignment) := by
  have hprints : ∀ b ∈ blocks r, ∀ c ∈ b.content, c.Prints := by
    intro b hb
    obtain ⟨part, content, h, rfl⟩ := mem_blocks.1 hb
    exact content_prints h
  have hplain : ∀ b ∈ blocks r, ∀ c ∈ b.content, c.Plain := by
    intro b hb
    obtain ⟨part, content, h, rfl⟩ := mem_blocks.1 hb
    exact content_plain hr h
  have hread : read (encodeReceipt r) = (instructions (receiptCommands r), []) := by
    refine read_stream fun c hc => ?_
    rcases List.mem_cons.1 hc with rfl | hc
    · trivial
    rcases List.mem_append.1 hc with hc | hc
    · exact Block.commands_plain none hplain c hc
    · simp only [List.mem_cons, List.not_mem_nil, or_false] at hc
      rcases hc with rfl | rfl <;> trivial
  have hbody := Block.commands_plays none hprints
  rw [Option.or_none, blocks_last, blocks_output] at hbody
  have hfeed : Plays (.calm r.lastAlignment) ([lf, lf, lf].map .print)
      (r.feed.flatMap Row.output) (.calm r.lastAlignment) := .print _ [lf, lf, lf]
  have hplays := hbody.append hfeed
  rw [← List.flatMap_append] at hplays
  refine ⟨_, ?_, hplays⟩
  rw [hread, receiptCommands, List.append_assoc]
  exact congrArg (fun is => (Instruction.reset :: is, ([] : Bytes))) (instructions_append _ _)

theorem Plays.run_job {is : List Instruction} {out : List Output} {last : Look}
    (h : Plays {} is out last) (look : Look) :
    run look (.reset :: (is ++ [.cut])) = (out ++ [.cut], last) := by
  have hcut : run {} (is ++ [.cut]) = (out ++ [.cut], last) := by
    rw [run_append, h.run_eq]
    rfl
  rw [run]
  exact hcut

/-- Whatever look a printer is in, it makes the printout of a receipt of the bytes, and nothing
else: the stream is read to its end, is reset once at its beginning and cut once at its end, and
sets nothing in between that is set already. -/
theorem interpret_encodeReceipt (hr : r.Avoids ['\x1b', '\x1d']) (look : Look) :
    interpret look (encodeReceipt r) = (r.printout, .calm r.lastAlignment, []) ∧
      ∃ is, read (encodeReceipt r) = (.reset :: (is ++ [.cut]), []) ∧ .reset ∉ is ∧ .cut ∉ is ∧
        Economical {} is := by
  obtain ⟨is, hread, hplays⟩ := receipt_plays hr
  refine ⟨?_, is, hread, hplays.no_reset, hplays.no_cut, hplays.economical⟩
  rw [interpret, hread, hplays.run_job look]
  rfl

/-- A bold centred header does not change how the items and the total are printed. -/
theorem interpret_encodeReceipt_of_bold_header :
    let r : Receipt := {
      header := some "Shop", items := [⟨"Tea", "2"⟩], total := some "2",
      formatting := { header := { bold := true, size := some .large } } }
    r.Avoids ['\x1b', '\x1d'] ∧
      interpret {} (encodeReceipt r) = (r.printout, .calm (some 0x00), []) ∧
      ∃ is, read (encodeReceipt r) = (.reset :: (is ++ [.cut]), []) ∧ .reset ∉ is ∧ .cut ∉ is ∧
        Economical {} is := by
  intro r
  have hr : r.Avoids ['\x1b', '\x1d'] := by decide +kernel
  exact ⟨hr, interpret_encodeReceipt hr {}⟩

end Escpos

end ThermalPrint
