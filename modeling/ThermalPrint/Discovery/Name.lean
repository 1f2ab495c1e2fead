import ThermalPrint.Text.Lowercase
import ThermalPrint.Text.Search

/-! Which device names are taken for a printer's. -/

namespace ThermalPrint.Discovery

/-- Lower-case parts of a name that mark a printer. -/
def keywords : List (List Char) :=
  [['z', 'y', 'w', 'e', 'l', 'l'], ['z', 'y', 'p', 'r', 'i', 'n', 't'],
    ['p', 'r', 'i', 'n', 't', 'e', 'r']]

/-- Whether a keyword occurs in the lower-case form of a name. -/
def isPrinterName (name : String) : Bool :=
  keywords.any fun keyword => Text.occurs keyword (Text.lowercase name.toList)

end ThermalPrint.Discovery
