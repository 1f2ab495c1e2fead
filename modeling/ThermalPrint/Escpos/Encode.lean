import ThermalPrint.Escpos.Command
import ThermalPrint.Receipt.Basic

/-! The commands that print a request. Equal requests give equal bytes. -/

namespace ThermalPrint

/-- What a caller wants printed. -/
inductive Job
  /-- A text that is sent as it is, control bytes included. -/
  | plainText (text : String)
  | receipt (r : Receipt)
deriving BEq

namespace Escpos

/-- A section that is printed, with everything that its commands depend on. -/
structure Block where
  alignment : Alignment
  code : UInt8
  bold : Bool
  content : List Command

namespace Block

/-- The content between the commands that switch its style on and off again. -/
def styled (b : Block) : List Command :=
  (if b.code = 0 then [] else [.size b.code]) ++ (if b.bold then [.bold true] else []) ++ b.content
    ++ (if b.bold then [.bold false] else []) ++ (if b.code = 0 then [] else [.sizeReset])

/-- The blocks one after another. The alignment is stated only where it differs from `current`, the
one stated last. -/
def commands (current : Option Alignment) : List Block → List Command
  | [] => []
  | b :: bs =>
    (if current = some b.alignment then [] else [.align b.alignment]) ++ b.styled
      ++ commands (some b.alignment) bs

end Block

/-- The content of a section that is present. -/
def content? (r : Receipt) : Receipt.Part → Option (List Command)
  | .header => r.header.map fun text => [.text text, .newline, .newline]
  | .items =>
    if r.items.isEmpty then none
    else some (r.items.flatMap fun item => [.text item.name, .tab, .text item.price, .newline])
  | .total => r.total.map fun text => [.newline, .text "Total: ", .text text, .newline]
  | .footer => r.footer.map fun text => [.text text, .newline]

/-- Only the header is centred. -/
def alignment : Receipt.Part → Alignment
  | .header => .center
  | .items | .total | .footer => .left

/-- The sections of a receipt that are present, in print order. -/
def blocks (r : Receipt) : List Block :=
  Receipt.Part.all.filterMap fun part => (content? r part).map fun content =>
    let style := r.formatting.style part
    ⟨alignment part, style.code, style.bold, content⟩

def receiptCommands (r : Receipt) : List Command :=
  .reset :: (Block.commands none (blocks r) ++ [.feed, .cut])

def textCommands (text : String) : List Command := [.reset, .text text, .feed, .cut]

def encodeReceipt (r : Receipt) : Bytes := stream (receiptCommands r)

def encodeText (text : String) : Bytes := stream (textCommands text)

/-- The bytes that print a job. -/
def encode : Job → Bytes
  | .plainText text => encodeText text
  | .receipt r => encodeReceipt r

/-- The inquiry that asks a printer for its status. -/
def statusInquiry : Bytes := stream [.statusInquiry]

theorem statusInquiry_eq : statusInquiry = [0x10, 0x04, 0x01] := rfl

end Escpos

end ThermalPrint
