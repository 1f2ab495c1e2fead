import ThermalPrint.Failure
import ThermalPrint.Receipt.Basic

/-! The JSON form of receipts. -/

namespace ThermalPrint.Receipt

open Json

/-- A price is written as a string or as a bare number, which is kept as it prints. -/
def priceDecoder : Decoder String := fun origin node => do
  match ← node.resolve origin with
  | .string text => return text
  | .number n => return String.ofList n.text
  | _ => .error (.noAlternative "Raw")

namespace Item

/-- The fields of an item as far as they have been given. -/
structure Draft where
  name : Option String := none
  price : Option String := none

def form : RecordForm Draft Item where
  name := "ReceiptItem"
  fields := [
    .of "name" Draft.name (fun v d => { d with name := some v }) Decoder.string,
    .of "price" Draft.price (fun v d => { d with price := some v }) priceDecoder]
  empty := {}
  complete d := do
    let some name := d.name | .error "name"
    let some price := d.price | .error "price"
    return ⟨name, price⟩

def decoder : Decoder Item := form.decoder

def toJson (item : Item) : Value :=
  .object [("name", .string item.name), ("price", .string item.price)]

end Item

namespace Formatting

/-- The fields of a formatting as far as they have been given. -/
structure Draft where
  headerSize : Option (Option Size) := none
  headerBold : Option Bool := none
  itemSize : Option (Option Size) := none
  itemBold : Option Bool := none
  totalSize : Option (Option Size) := none
  totalBold : Option Bool := none
  footerSize : Option (Option Size) := none
  footerBold : Option Bool := none

def form : RecordForm Draft Formatting where
  name := "ReceiptFormatting"
  fields := [
    .of "headerSize" Draft.headerSize (fun v d => { d with headerSize := some v }) size,
    .of "headerBold" Draft.headerBold (fun v d => { d with headerBold := some v }) Decoder.bool,
    .of "itemSize" Draft.itemSize (fun v d => { d with itemSize := some v }) size,
    .of "itemBold" Draft.itemBold (fun v d => { d with itemBold := some v }) Decoder.bool,
    .of "totalSize" Draft.totalSize (fun v d => { d with totalSize := some v }) size,
    .of "totalBold" Draft.totalBold (fun v d => { d with totalBold := some v }) Decoder.bool,
    .of "footerSize" Draft.footerSize (fun v d => { d with footerSize := some v }) size,
    .of "footerBold" Draft.footerBold (fun v d => { d with footerBold := some v }) Decoder.bool]
  empty := {}
  complete d := .ok {
    header := ⟨d.headerSize.join, d.headerBold.getD false⟩
    items := ⟨d.itemSize.join, d.itemBold.getD false⟩
    total := ⟨d.totalSize.join, d.totalBold.getD false⟩
    footer := ⟨d.footerSize.join, d.footerBold.getD false⟩ }
where
  size : Decoder (Option Size) := .option Size.decoder

def decoder : Decoder Formatting := form.decoder

/-- The JSON form of a size that may be absent. -/
def sizeJson (size : Option Size) : Value := size.elim .null Size.toJson

def toJson (f : Formatting) : Value := .object [
  ("headerSize", sizeJson f.header.size), ("headerBold", .bool f.header.bold),
  ("itemSize", sizeJson f.items.size), ("itemBold", .bool f.items.bold),
  ("totalSize", sizeJson f.total.size), ("totalBold", .bool f.total.bold),
  ("footerSize", sizeJson f.footer.size), ("footerBold", .bool f.footer.bold)]

end Formatting

/-- The fields of a receipt as far as they have been given. -/
structure Draft where
  header : Option (Option String) := none
  items : Option (List Item) := none
  total : Option (Option String) := none
  footer : Option (Option String) := none
  formatting : Option Formatting := none

def form : RecordForm Draft Receipt where
  name := "ReceiptTemplate"
  fields := [
    .of "header" Draft.header (fun v d => { d with header := some v }) (.option .string),
    .of "items" Draft.items (fun v d => { d with items := some v }) (.list Item.decoder),
    .of "total" Draft.total (fun v d => { d with total := some v }) (.option .string),
    .of "footer" Draft.footer (fun v d => { d with footer := some v }) (.option .string),
    .of "formatting" Draft.formatting (fun v d => { d with formatting := some v })
      Formatting.decoder]
  empty := {}
  complete d := .ok {
    header := d.header.join
    items := d.items.getD []
    total := d.total.join
    footer := d.footer.join
    formatting := d.formatting.getD {} }

def decoder : Decoder Receipt := form.decoder

/-- Absent texts and an empty list of items are left out; the formatting never is. -/
def toJson (r : Receipt) : Value :=
  .object (textMember "header" r.header
    ++ (if r.items.isEmpty then [] else [("items", .array (r.items.map Item.toJson))])
    ++ textMember "total" r.total ++ textMember "footer" r.footer
    ++ [("formatting", r.formatting.toJson)])
where
  textMember (name : String) (text : Option String) : List (String × Value) :=
    text.toList.map fun t => (name, .string t)

/-- Reads a receipt from a JSON text. -/
def ofText (text : String) : Except Failure Receipt :=
  (decodeText decoder text).mapError fun f => .badRequest f.message

/-- Reads a receipt from a JSON value. -/
def ofValue (v : Value) : Except Failure Receipt :=
  (decodeValue decoder v).mapError fun f => .badRequest f.message

end ThermalPrint.Receipt
