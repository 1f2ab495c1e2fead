import ThermalPrint.Size

/-! Receipts: up to four sections in a fixed order, each with its own style. -/

namespace ThermalPrint.Receipt

/-- One line of the items section. -/
structure Item where
  name : String
  price : String
deriving DecidableEq, Repr

/-- How a section is printed. Without a size it has the normal one. -/
structure Style where
  size : Option Size := none
  bold : Bool := false
deriving BEq

/-- The printer's code for the size of a section. -/
def Style.code (style : Style) : UInt8 := (style.size.map Size.code).getD 0x00

/-- The style of every section, present or not. -/
structure Formatting where
  header : Style := {}
  items : Style := {}
  total : Style := {}
  footer : Style := {}
deriving BEq

/-- The sections, in the order in which they are printed. -/
inductive Part
  | header | items | total | footer
deriving DecidableEq, Repr

def Part.all : List Part := [.header, .items, .total, .footer]

def Formatting.style (f : Formatting) : Part → Style
  | .header => f.header
  | .items => f.items
  | .total => f.total
  | .footer => f.footer

end Receipt

/-- A structured receipt. -/
structure Receipt where
  header : Option String := none
  items : List Receipt.Item := []
  total : Option String := none
  footer : Option String := none
  formatting : Receipt.Formatting := {}
deriving BEq

namespace Receipt

/-- Whether a section is printed at all. A receipt without items has no items section. -/
def has (r : Receipt) : Part → Bool
  | .header => r.header.isSome
  | .items => !r.items.isEmpty
  | .total => r.total.isSome
  | .footer => r.footer.isSome

def withHeader (r : Receipt) (text : String) : Receipt := { r with header := some text }

/-- Adds an item after those already there. -/
def withItem (r : Receipt) (name price : String) : Receipt :=
  { r with items := r.items ++ [⟨name, price⟩] }

def withTotal (r : Receipt) (text : String) : Receipt := { r with total := some text }

def withFooter (r : Receipt) (text : String) : Receipt := { r with footer := some text }

def withFormatting (r : Receipt) (f : Formatting) : Receipt := { r with formatting := f }

end Receipt

end ThermalPrint
