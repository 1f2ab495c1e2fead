import ThermalPrint.Proofs.Escpos.Printout

/-! The bytes of a job, section by section. What a section adds depends on its own content and style,
and on whether an earlier section is printed to the left as well. -/

namespace ThermalPrint

open Escpos

namespace Receipt

/-- The bytes of a section between those of its style. -/
def contentBytes (r : Receipt) : Part → Bytes
  | .header => r.header.elim [] fun text => utf8 text ++ [0x0A, 0x0A]
  | .items => r.items.flatMap fun item => utf8 item.name ++ [0x09] ++ utf8 item.price ++ [0x0A]
  | .total => r.total.elim [] fun text => [0x0A] ++ utf8 "Total: " ++ utf8 text ++ [0x0A]
  | .footer => r.footer.elim [] fun text => utf8 text ++ [0x0A]

/-- The sections to the left that come before a section. -/
def leftBefore : Part → List Part
  | .header | .items => []
  | .total => [.items]
  | .footer => [.items, .total]

/-- The bytes that align a section. To the left only the first section that is printed is aligned. -/
def alignmentBytes (r : Receipt) (part : Part) : Bytes :=
  if part = .header then [0x1B, 0x61, 0x01]
  else if (leftBefore part).any r.has then [] else [0x1B, 0x61, 0x00]

/-- The content of a section with its style around it. -/
def styledBytes (r : Receipt) (part : Part) : Bytes :=
  let code := (r.formatting.style part).code
  let bold := (r.formatting.style part).bold
  (if code ≠ 0 then [0x1D, 0x21, code] else []) ++ (if bold then [0x1B, 0x45, 0x01] else [])
    ++ r.contentBytes part
    ++ (if bold then [0x1B, 0x45, 0x00] else []) ++ (if code ≠ 0 then [0x1D, 0x21, 0x00] else [])

/-- The bytes of a section. One that is absent has none. -/
def sectionBytes (r : Receipt) (part : Part) : Bytes :=
  if r.has part then r.alignmentBytes part ++ r.styledBytes part else []

end Receipt

namespace Escpos

variable {r : Receipt} {part : Receipt.Part} {content : List Command}

theorem length_utf8 (s : String) : (utf8 s).length = s.utf8ByteSize := by
  rw [← List.size_toByteArray, utf8_toByteArray]
  rfl

theorem stream_content?_eq (h : content? r part = some content) : stream content = r.contentBytes part := by
  cases part with
  | header =>
    obtain ⟨text, htext, rfl⟩ := Option.map_eq_some_iff.1 h
    simp [Receipt.contentBytes, htext, Command.bytes, lf]
  | items =>
    simp only [content?] at h
    split at h
    · cases h
    · obtain rfl := Option.some.inj h
      rw [stream_items]
      simp [Receipt.contentBytes, tab, lf]
  | total =>
    obtain ⟨text, htext, rfl⟩ := Option.map_eq_some_iff.1 h
    simp [Receipt.contentBytes, htext, Command.bytes, lf]
  | footer =>
    obtain ⟨text, htext, rfl⟩ := Option.map_eq_some_iff.1 h
    simp [Receipt.contentBytes, htext, Command.bytes, lf]

theorem stream_styled (h : content? r part = some content) :
    stream (block r part content).styled = r.styledBytes part := by
  rw [Receipt.styledBytes, ← stream_content?_eq h]
  by_cases hcode : (r.formatting.style part).code = 0 <;> cases hbold : (r.formatting.style part).bold <;>
    simp [Block.styled, block, hcode, hbold, Command.bytes, Command.sizeReset, esc, gs]

/-- The blocks of some of the sections. -/
def blocksOf (r : Receipt) (parts : List Receipt.Part) : List Block :=
  parts.filterMap fun part => (content? r part).map (block r part)

/-- A section adds its bytes to those of the sections after it, which find its alignment in force. -/
theorem stream_blocksOf_cons (r : Receipt) (current : Option Alignment) (part : Receipt.Part)
    (parts : List Receipt.Part) :
    stream (Block.commands current (blocksOf r (part :: parts))) =
      if r.has part then
        (if current = some (alignment part) then [] else (Command.align (alignment part)).bytes)
          ++ r.styledBytes part
          ++ stream (Block.commands (some (alignment part)) (blocksOf r parts))
      else stream (Block.commands current (blocksOf r parts)) := by
  rw [← content?_isSome, blocksOf, List.filterMap_cons]
  cases h : content? r part with
  | none => rfl
  | some content =>
    have halign : (block r part content).alignment = alignment part := rfl
    simp only [Option.map_some, Option.isSome_some, if_true, Block.commands, stream_append, stream_styled h, halign]
    split
    · rfl
    · simp only [stream_cons, stream_nil, List.append_nil]
      rfl

/-- The sections one after another. Only the first that is printed to the left finds another alignment
in force than its own, so that the alignment in force need not be known. -/
theorem stream_blocks (r : Receipt) : stream (Block.commands none (blocks r)) =
    r.sectionBytes .header ++ r.sectionBytes .items ++ r.sectionBytes .total ++ r.sectionBytes .footer := by
  change stream (Block.commands none (blocksOf r [.header, .items, .total, .footer])) = _
  simp only [stream_blocksOf_cons, Receipt.sectionBytes, Receipt.alignmentBytes, Receipt.leftBefore, alignment]
  cases hheader : r.has .header <;> cases hitems : r.has .items <;> cases htotal : r.has .total <;>
    cases hfooter : r.has .footer <;>
    simp [hitems, htotal, blocksOf, Block.commands, Command.bytes, Alignment.code, esc]

/-- The bytes of a job, written out: a plain text is sent as it is, between a reset and the feed and cut
that end every job, and a receipt is its four sections in the same frame. -/
theorem encode_framed :
    (∀ text : String,
      encode (.plainText text) =
        [0x1B, 0x40] ++ utf8 text ++ [0x0A, 0x0A, 0x0A] ++ [0x1D, 0x56, 0x41, 0x10] ∧
      (encode (.plainText text)).length = 9 + text.utf8ByteSize ∧
      ∀ other : String, encode (.plainText other) = encode (.plainText text) ↔ other = text) ∧
    ∀ r : Receipt, encode (.receipt r) =
      [0x1B, 0x40]
        ++ (r.sectionBytes .header ++ r.sectionBytes .items ++ r.sectionBytes .total ++ r.sectionBytes .footer)
        ++ [0x0A, 0x0A, 0x0A] ++ [0x1D, 0x56, 0x41, 0x10] := by
  have hframe (text : String) : encode (.plainText text) =
      [0x1B, 0x40] ++ utf8 text ++ [0x0A, 0x0A, 0x0A] ++ [0x1D, 0x56, 0x41, 0x10] := by
    simp [encode, encodeText, textCommands, Command.bytes, esc, gs, lf]
  refine ⟨fun text => ⟨hframe text, ?_, fun other => ?_⟩, fun r => ?_⟩
  · simp only [hframe, List.length_append, length_utf8, List.length_cons, List.length_nil]
    omega
  · rw [hframe, hframe, List.append_left_inj, List.append_left_inj, List.append_right_inj, utf8_inj]
  · simp only [encode, encodeReceipt, receiptCommands, stream_cons, stream_append, stream_blocks, stream_nil]
    simp [Command.bytes, esc, gs, lf]

/-- The second of two sections to the left is not aligned, and a section without a style is its content. -/
example : encode (.receipt ⟨none, [⟨"Tea", "2"⟩], some "2", none, {}⟩) =
    [0x1B, 0x40] ++ ([0x1B, 0x61, 0x00] ++ [0x54, 0x65, 0x61, 0x09, 0x32, 0x0A])
      ++ ([0x0A] ++ [0x54, 0x6F, 0x74, 0x61, 0x6C, 0x3A, 0x20] ++ [0x32, 0x0A])
      ++ [0x0A, 0x0A, 0x0A, 0x1D, 0x56, 0x41, 0x10] := by
  decide

end Escpos

end ThermalPrint
