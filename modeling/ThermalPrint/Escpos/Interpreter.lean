import ThermalPrint.Escpos.Command

/-! What a printer makes of the bytes that it gets. -/

namespace ThermalPrint.Escpos

/-- How a printer prints at a moment. After a reset the alignment is whatever the printer had. -/
structure Look where
  alignment : Option UInt8 := none
  bold : Bool := false
  size : UInt8 := 0x00
deriving DecidableEq, Repr

/-- What a printer reads from a stream: a command that it knows, or a byte to print. -/
inductive Instruction
  | reset
  | align (n : UInt8)
  | bold (n : UInt8)
  | size (code : UInt8)
  | cut
  | print (byte : UInt8)
deriving DecidableEq, Repr

/-- The instructions of a stream. A command that the printer does not know or that breaks off is left
over, with all that comes after it. -/
def read : Bytes → List Instruction × Bytes
  | 0x1B :: 0x40 :: bs => (.reset :: (read bs).1, (read bs).2)
  | 0x1B :: 0x61 :: n :: bs => (.align n :: (read bs).1, (read bs).2)
  | 0x1B :: 0x45 :: n :: bs => (.bold n :: (read bs).1, (read bs).2)
  | 0x1D :: 0x21 :: n :: bs => (.size n :: (read bs).1, (read bs).2)
  | 0x1D :: 0x56 :: 0x41 :: _ :: bs => (.cut :: (read bs).1, (read bs).2)
  | b :: bs =>
    if b = esc ∨ b = gs then ([], b :: bs) else (.print b :: (read bs).1, (read bs).2)
  | [] => ([], [])

/-- Bytes that begin no command. -/
def isPlain (bs : Bytes) : Bool := bs.all fun b => b ≠ esc && b ≠ gs

theorem read_plain {bs : Bytes} (h : isPlain bs = true) (rest : Bytes) :
    read (bs ++ rest) = (bs.map .print ++ (read rest).1, (read rest).2) := by
  induction bs with
  | nil => rfl
  | cons b bs ih =>
    simp only [isPlain, List.all_cons, Bool.and_eq_true, decide_eq_true_eq] at h
    obtain ⟨⟨hesc, hgs⟩, hbs⟩ := h
    rw [List.cons_append, read.eq_def]
    split <;> simp_all [isPlain, esc, gs]

/-- What comes out of a printer. -/
inductive Output
  | printed (byte : UInt8) (look : Look)
  | cut
deriving DecidableEq, Repr

namespace Look

/-- The look after an instruction. -/
def next (look : Look) : Instruction → Look
  | .reset => {}
  | .align n => { look with alignment := some n }
  | .bold n => { look with bold := n ≠ 0 }
  | .size code => { look with size := code }
  | .cut | .print _ => look

/-- What an instruction puts out. -/
def output (look : Look) : Instruction → List Output
  | .reset | .align _ | .bold _ | .size _ => []
  | .cut => [.cut]
  | .print byte => [.printed byte look]

end Look

/-- The output of instructions, and the look at their end. -/
def run (look : Look) : List Instruction → List Output × Look
  | [] => ([], look)
  | i :: is => (look.output i ++ (run (look.next i) is).1, (run (look.next i) is).2)

/-- The output for a stream, the look at its end, and what is left over of it. -/
def interpret (look : Look) (bs : Bytes) : List Output × Look × Bytes :=
  let (out, last) := run look (read bs).1
  (out, last, (read bs).2)

theorem run_append (look : Look) (is js : List Instruction) :
    run look (is ++ js) =
      ((run look is).1 ++ (run (run look is).2 js).1, (run (run look is).2 js).2) := by
  induction is generalizing look with
  | nil => rfl
  | cons i is ih => simp only [List.cons_append, run, ih, List.append_assoc]

end ThermalPrint.Escpos
