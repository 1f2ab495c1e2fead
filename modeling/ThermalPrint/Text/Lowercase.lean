import ThermalPrint.Text.Case

/-! Lower-casing of a whole text: each character by its lower-case mapping, except that a capital
sigma at the end of a word takes its final form. -/

namespace ThermalPrint.Text

/-- The lower-case form of one character, whatever stands around it. Only U+0130 has two characters
there. -/
def lowercaseChar (c : Char) : List Char :=
  if c = '\u0130' then ['i', '\u0307']
  else match lowercaseRuns.find? (·.contains c.toNat) with
    | some run => [Char.ofNat (c.toNat + run.offset).toNat]
    | none => [c]

/-- Whether the first character that is not case-ignorable is cased. -/
def meetsCased (cs : List Char) : Bool :=
  match cs.dropWhile caseIgnorable.contains with
  | c :: _ => cased.contains c
  | [] => false

/-- Lower-cases the rest of a text; `before` holds the characters already passed, newest first. A
capital sigma is final when a cased letter comes before it and none after it. -/
def lowercaseAfter : List Char → List Char → List Char
  | _, [] => []
  | before, c :: cs =>
    (if c = 'Σ' then (if meetsCased before && !meetsCased cs then ['ς'] else ['σ'])
      else lowercaseChar c) ++ lowercaseAfter (c :: before) cs

def lowercase (cs : List Char) : List Char := lowercaseAfter [] cs

end ThermalPrint.Text
