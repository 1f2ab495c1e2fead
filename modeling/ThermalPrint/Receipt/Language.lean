import Mathlib.Data.List.Forall2
import ThermalPrint.Json.Member
import ThermalPrint.Receipt.Basic

/-! The language of receipts: which JSON values describe which receipts. Every record may be an object or
an array of its fields; what may be left out is left out of either in the same way. -/

namespace ThermalPrint

open Json

/-- The size that a value states: a level, a name, or else the value itself. -/
inductive Size.Stated : Value → Size → Prop
  | level (n : Int64) : Stated (.number (.integer n.toInt (exact_toInt n))) (.level n)
  | named (name : String) : Stated (.string name) (.named name)
  | other {v : Value} (hlevel : ∀ n exact, v = .number (.integer n exact) → 0x8000000000000000 ≤ n)
    (hnamed : ∀ name, v ≠ .string name) : Stated v (.other v.canonical)

namespace Receipt

/-- A text that may be left out, or null instead. -/
inductive TextStated : Option Value → Option String → Prop
  | absent : TextStated none none
  | null : TextStated (some .null) none
  | text (s : String) : TextStated (some (.string s)) (some s)

/-- A price is a text, or a number that stands for how it is printed. -/
inductive PriceStated : Value → String → Prop
  | text (s : String) : PriceStated (.string s) s
  | number (n : Number) : PriceStated (.number n) (String.ofList n.text)

/-- The value describes an item, both of whose fields are given. -/
def Item.Described (v : Value) (item : Item) : Prop :=
  ∃ ms, v.members? ["name", "price"] = some ms ∧
    member? ms "name" = some (.string item.name) ∧
    ∃ price, member? ms "price" = some price ∧ PriceStated price item.price

/-- A list of items that may be left out, but is not null. -/
inductive ItemsStated : Option Value → List Item → Prop
  | absent : ItemsStated none []
  | items {vs : List Value} {items : List Item} (h : List.Forall₂ Item.Described vs items) :
    ItemsStated (some (.array vs)) items

/-- A size that may be left out, or null instead. -/
inductive SizeStated : Option Value → Option Size → Prop
  | absent : SizeStated none none
  | null : SizeStated (some .null) none
  | size {v : Value} {s : Size} (hnull : v ≠ .null) (h : s.Stated v) : SizeStated (some v) (some s)

/-- A mark that may be left out, but is not null. -/
inductive BoldStated : Option Value → Bool → Prop
  | absent : BoldStated none false
  | bold (b : Bool) : BoldStated (some (.bool b)) b

/-- The members state the style of a section, in the fields of these names. -/
structure Style.Stated (ms : List (String × Value)) (size bold : String) (style : Style) : Prop where
  size : SizeStated (member? ms size) style.size
  bold : BoldStated (member? ms bold) style.bold

/-- The value describes a formatting. -/
def Formatting.Described (v : Value) (f : Formatting) : Prop :=
  ∃ ms, v.members? ["headerSize", "headerBold", "itemSize", "itemBold", "totalSize", "totalBold",
      "footerSize", "footerBold"] = some ms ∧
    f.header.Stated ms "headerSize" "headerBold" ∧ f.items.Stated ms "itemSize" "itemBold" ∧
    f.total.Stated ms "totalSize" "totalBold" ∧ f.footer.Stated ms "footerSize" "footerBold"

/-- A formatting that may be left out, but is not null. -/
inductive FormattingStated : Option Value → Formatting → Prop
  | absent : FormattingStated none {}
  | formatting {v : Value} {f : Formatting} (h : f.Described v) : FormattingStated (some v) f

/-- The value describes a receipt. -/
def Described (v : Value) (r : Receipt) : Prop :=
  ∃ ms, v.members? ["header", "items", "total", "footer", "formatting"] = some ms ∧
    TextStated (member? ms "header") r.header ∧ ItemsStated (member? ms "items") r.items ∧
    TextStated (member? ms "total") r.total ∧ TextStated (member? ms "footer") r.footer ∧
    FormattingStated (member? ms "formatting") r.formatting

end Receipt

end ThermalPrint
