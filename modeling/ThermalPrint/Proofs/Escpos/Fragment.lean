import ThermalPrint.Proofs.Escpos.Text
import ThermalPrint.Escpos.Encode

/-! Fragments of print jobs: what a printer reads in the bytes of commands, and what it does on them
from one look to another. -/

namespace ThermalPrint.Escpos

namespace Command

/-- The instructions that a printer reads in the bytes of a command. -/
def instructions : Command → List Instruction
  | .reset => [.reset]
  | .align a => [.align a.code]
  | .bold on => [.bold on.toUInt8]
  | .size code => [.size code]
  | .cut => [.cut]
  | c@(.text _) | c@.tab | c@.newline | c@.feed | c@.statusInquiry | c@(.raw _) =>
    c.bytes.map .print

/-- A command sends no bytes that a printer would take for other commands. -/
def Plain : Command → Prop
  | .text s => isPlain (utf8 s) = true
  | .raw bytes => isPlain bytes = true
  | _ => True

/-- A command that is nothing but bytes to print. -/
def Prints (c : Command) : Prop := c.instructions = c.bytes.map .print

end Command

/-- The instructions that a printer reads in a stream of commands. -/
def instructions (cs : List Command) : List Instruction := cs.flatMap Command.instructions

theorem instructions_append (cs ds : List Command) :
    instructions (cs ++ ds) = instructions cs ++ instructions ds := List.flatMap_append

theorem instructions_of_prints {cs : List Command} (h : ∀ c ∈ cs, c.Prints) :
    instructions cs = (stream cs).map .print := by
  induction cs with
  | nil => rfl
  | cons c cs ih =>
    have hc : c.instructions = c.bytes.map .print := h c List.mem_cons_self
    have hcs := ih fun d hd => h d (List.mem_cons_of_mem c hd)
    rw [stream_cons, List.map_append, ← hc, ← hcs]
    rfl

/-- A printer reads the bytes of a command as the command. -/
theorem read_bytes {c : Command} (hc : c.Plain) (rest : Bytes) :
    read (c.bytes ++ rest) = (c.instructions ++ (read rest).1, (read rest).2) := by
  cases c with
  | text s => exact read_plain hc rest
  | raw bytes => exact read_plain hc rest
  | bold on => cases on <;> rfl
  | tab | newline | feed | statusInquiry => exact read_plain (by decide) rest
  | _ => rfl

/-- A printer reads a stream of commands as the commands, with nothing left over. -/
theorem read_stream {cs : List Command} (h : ∀ c ∈ cs, c.Plain) :
    read (stream cs) = (instructions cs, []) := by
  induction cs with
  | nil => rfl
  | cons c cs ih =>
    rw [stream_cons, read_bytes (h c List.mem_cons_self),
      ih fun d hd => h d (List.mem_cons_of_mem c hd)]
    rfl

/-- The instructions that set the alignment, the bold or the size. -/
def Instruction.isSetting : Instruction → Bool
  | .align _ | .bold _ | .size _ => true
  | .reset | .cut | .print _ => false

/-- No instruction sets what is set already. -/
def Economical (look : Look) : List Instruction → Prop
  | [] => True
  | i :: is => (i.isSetting = true → look.next i ≠ look) ∧ Economical (look.next i) is

theorem Economical.append {look : Look} {is js : List Instruction} (hi : Economical look is)
    (hj : Economical (run look is).2 js) : Economical look (is ++ js) := by
  induction is generalizing look with
  | nil => exact hj
  | cons i is ih => exact ⟨hi.1, ih hi.2 hj⟩

/-- A fragment that puts `out` out and leads from one look to another, with no idle setting, no
reset and no cut. -/
structure Plays (look : Look) (is : List Instruction) (out : List Output) (last : Look) : Prop where
  run_eq : run look is = (out, last)
  economical : Economical look is
  no_reset : .reset ∉ is
  no_cut : .cut ∉ is

namespace Plays

variable {look mid last : Look} {is js : List Instruction} {out out' : List Output}

theorem nil : Plays look [] [] look := ⟨rfl, trivial, List.not_mem_nil, List.not_mem_nil⟩

theorem append (hi : Plays look is out mid) (hj : Plays mid js out' last) :
    Plays look (is ++ js) (out ++ out') last where
  run_eq := by rw [run_append, hi.run_eq, hj.run_eq]
  economical := hi.economical.append (by rw [hi.run_eq]; exact hj.economical)
  no_reset h := (List.mem_append.1 h).elim hi.no_reset hj.no_reset
  no_cut h := (List.mem_append.1 h).elim hi.no_cut hj.no_cut

theorem print (look : Look) (bs : Bytes) :
    Plays look (bs.map .print) (bs.map (.printed · look)) look := by
  induction bs with
  | nil => exact nil
  | cons b bs ih =>
    have hb : Plays look [.print b] [.printed b look] look :=
      ⟨rfl, ⟨nofun, trivial⟩, by simp, by simp⟩
    exact hb.append ih

theorem set {i : Instruction} (hi : i.isSetting = true) (h : look.next i ≠ look) :
    Plays look [i] [] (look.next i) := by
  cases i with
  | align | bold | size => exact ⟨rfl, ⟨fun _ => h, trivial⟩, by simp, by simp⟩
  | reset | cut | print => cases hi

theorem align {n : UInt8} (h : look.alignment ≠ some n) :
    Plays look [.align n] [] { look with alignment := some n } :=
  set rfl fun heq => h (heq ▸ rfl)

theorem bold {on : Bool} (h : look.bold ≠ on) :
    Plays look [.bold on.toUInt8] [] { look with bold := on } := by
  have hlook : look.next (.bold on.toUInt8) = { look with bold := on } := by cases on <;> rfl
  rw [← hlook]
  refine set rfl fun heq => h ?_
  rw [← heq, hlook]

theorem size {code : UInt8} (h : look.size ≠ code) :
    Plays look [.size code] [] { look with size := code } :=
  set rfl fun heq => h (heq ▸ rfl)

end Plays

/-- The look in which nothing is styled. -/
def Look.calm (alignment : Option UInt8) : Look := ⟨alignment, false, 0x00⟩

namespace Block

variable {b : Block} {alignment : Option UInt8}

/-- The look in which a block is printed. -/
def look (b : Block) : Look := ⟨some b.alignment.code, b.bold, b.code⟩

/-- What a block puts out. -/
def output (b : Block) : List Output := (stream b.content).map (.printed · b.look)

/-- A block is printed in its style, and leaves nothing of the style behind. -/
theorem styled_plays (h : ∀ c ∈ b.content, c.Prints) :
    Plays (.calm (some b.alignment.code)) (instructions b.styled) b.output
      (.calm (some b.alignment.code)) := by
  have hopen : Plays (.calm (some b.alignment.code))
      (instructions (if b.code = 0 then [] else [.size b.code])) []
      ⟨some b.alignment.code, false, b.code⟩ := by
    split
    · next hcode => rw [hcode]; exact .nil
    · next hcode => exact .size (Ne.symm hcode)
  have hbold : Plays ⟨some b.alignment.code, false, b.code⟩
      (instructions (if b.bold then [.bold true] else [])) [] b.look := by
    unfold look
    cases b.bold with
    | false => exact .nil
    | true => exact .bold nofun
  have hcontent : Plays b.look (instructions b.content) b.output b.look := by
    rw [instructions_of_prints h]
    exact .print b.look _
  have hunbold : Plays b.look (instructions (if b.bold then [.bold false] else [])) []
      ⟨some b.alignment.code, false, b.code⟩ := by
    unfold look
    cases b.bold with
    | false => exact .nil
    | true => exact .bold nofun
  have hclose : Plays ⟨some b.alignment.code, false, b.code⟩
      (instructions (if b.code = 0 then [] else [.sizeReset])) []
      (.calm (some b.alignment.code)) := by
    split
    · next hcode => rw [hcode]; exact .nil
    · next hcode => exact .size hcode
  simp only [styled, instructions_append]
  have := (((hopen.append hbold).append hcontent).append hunbold).append hclose
  rwa [List.append_nil, List.append_nil, List.nil_append, List.nil_append] at this

/-- The alignment is stated exactly when it is not in force. -/
theorem align_plays (current : Option Alignment) (a : Alignment) :
    Plays (.calm (current.map (·.code)))
      (instructions (if current = some a then [] else [.align a])) [] (.calm (some a.code)) := by
  split
  · next hcurrent => rw [hcurrent]; exact .nil
  · next hcurrent =>
    refine .align fun heq => hcurrent ?_
    obtain ⟨a', rfl, hcode⟩ := Option.map_eq_some_iff.1 heq
    cases a' <;> cases a <;> first | rfl | cases hcode

/-- Blocks are printed one after another, each in its own look. -/
theorem commands_plays (current : Option Alignment) {bs : List Block}
    (h : ∀ b ∈ bs, ∀ c ∈ b.content, c.Prints) :
    Plays (.calm (current.map (·.code))) (instructions (commands current bs))
      (bs.flatMap output)
      (.calm (((bs.getLast?.map (·.alignment)).or current).map (·.code))) := by
  induction bs generalizing current with
  | nil => exact .nil
  | cons b bs ih =>
    have hb := styled_plays (h b List.mem_cons_self)
    have hbs := ih (some b.alignment) fun b' hb' => h b' (List.mem_cons_of_mem b hb')
    have hlast : ((b :: bs).getLast?.map (·.alignment)).or current =
        (bs.getLast?.map (·.alignment)).or (some b.alignment) := by
      rw [List.getLast?_cons]
      cases bs.getLast? <;> rfl
    simp only [commands, instructions_append, hlast, List.flatMap_cons]
    exact ((align_plays current b.alignment).append hb).append hbs

theorem commands_plain (current : Option Alignment) {bs : List Block}
    (h : ∀ b ∈ bs, ∀ c ∈ b.content, c.Plain) : ∀ c ∈ commands current bs, c.Plain := by
  induction bs generalizing current with
  | nil => exact nofun
  | cons b bs ih =>
    have hopen {p : Prop} [Decidable p] {d : Command} (hd : d.Plain) :
        ∀ c ∈ (if p then [] else [d]), c.Plain := by
      intro c hc
      split at hc
      · cases hc
      · rwa [List.mem_singleton.1 hc]
    have hbold {d : Command} (hd : d.Plain) : ∀ c ∈ (if b.bold then [d] else []), c.Plain := by
      intro c hc
      split at hc
      · rwa [List.mem_singleton.1 hc]
      · cases hc
    intro c hc
    simp only [commands, styled, List.mem_append] at hc
    rcases hc with (hc | (((hc | hc) | hc) | hc) | hc) | hc
    · exact hopen (d := .align _) trivial c hc
    · exact hopen (d := .size _) trivial c hc
    · exact hbold (d := .bold true) trivial c hc
    · exact h b List.mem_cons_self c hc
    · exact hbold (d := .bold false) trivial c hc
    · exact hopen (d := .sizeReset) trivial c hc
    · exact ih _ (fun b' hb' => h b' (List.mem_cons_of_mem b hb')) c hc

end Block

end ThermalPrint.Escpos
