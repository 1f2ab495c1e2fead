/-! The printer's command language: the commands that a print job is made of, and their bytes. -/

namespace ThermalPrint

abbrev Bytes := List UInt8

/-- The UTF-8 bytes of a text. -/
def utf8 (s : String) : Bytes := s.toList.flatMap String.utf8EncodeChar

namespace Escpos

inductive Alignment
  | left | center
deriving DecidableEq, Repr

/-- The printer's number for an alignment. -/
def Alignment.code : Alignment → UInt8
  | .left => 0x00
  | .center => 0x01

def esc : UInt8 := 0x1B
def gs : UInt8 := 0x1D
def lf : UInt8 := 0x0A
def tab : UInt8 := 0x09

/-- One command of a print job. Texts and raw bytes are sent as they are; nothing is escaped. -/
inductive Command
  | reset
  | align (a : Alignment)
  | bold (on : Bool)
  | size (code : UInt8)
  | text (s : String)
  | tab
  | newline
  /-- Three blank lines, which move the paper past the cutter. -/
  | feed
  | cut
  | statusInquiry
  | raw (bytes : Bytes)
deriving DecidableEq, Repr

namespace Command

/-- The size that the printer has after a reset. -/
def sizeReset : Command := .size 0x00

def bytes : Command → Bytes
  | .reset => [esc, 0x40]
  | .align a => [esc, 0x61, a.code]
  | .bold true => [esc, 0x45, 0x01]
  | .bold false => [esc, 0x45, 0x00]
  | .size code => [gs, 0x21, code]
  | .text s => utf8 s
  | .tab => [Escpos.tab]
  | .newline => [lf]
  | .feed => [lf, lf, lf]
  | .cut => [gs, 0x56, 0x41, 0x10]
  | .statusInquiry => [0x10, 0x04, 0x01]
  | .raw bytes => bytes

end Command

/-- The bytes of a sequence of commands. -/
def stream (commands : List Command) : Bytes := commands.flatMap Command.bytes

@[simp] theorem stream_nil : stream [] = [] := rfl

@[simp] theorem stream_append (cs ds : List Command) : stream (cs ++ ds) = stream cs ++ stream ds := by
  simp [stream]

@[simp] theorem stream_cons (c : Command) (cs : List Command) :
    stream (c :: cs) = c.bytes ++ stream cs := by
  simp [stream]

end Escpos

end ThermalPrint
