/-! Search for a text inside another. -/

namespace ThermalPrint.Text

/-- Whether `word` stands somewhere in a text. -/
def occurs (word : List Char) : List Char → Bool
  | [] => word.isEmpty
  | c :: cs => word.isPrefixOf (c :: cs) || occurs word cs

theorem occurs_iff {word cs : List Char} : occurs word cs = true ↔ word <:+: cs := by
  induction cs with
  | nil => simp [occurs]
  | cons c cs ih => simp [occurs, ih, List.infix_cons_iff]

end ThermalPrint.Text
