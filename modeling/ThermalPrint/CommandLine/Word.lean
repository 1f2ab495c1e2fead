import ThermalPrint.Text.Split

/-! The shapes that arguments of a command line have. -/

namespace ThermalPrint.CommandLine

inductive Word
  /-- Two dashes alone, after which every argument is an operand. -/
  | separator
  /-- A name after two dashes, perhaps with a value after an equals sign. -/
  | long (name : String) (value : Option String)
  /-- Characters after one dash. -/
  | short (first : Char) (rest : List Char)
  /-- Anything else, a dash alone included. -/
  | plain (text : String)
deriving DecidableEq, Repr

def Word.ofText (s : String) : Word :=
  match s.toList with
  | ['-', '-'] => .separator
  | '-' :: '-' :: cs =>
    match Text.splitFirst '=' cs with
    | some (name, value) => .long (String.ofList name) (some (String.ofList value))
    | none => .long (String.ofList cs) none
  | '-' :: c :: cs => .short c cs
  | _ => .plain s

/-- Whether an argument can be the value of the option before it. -/
def isValue (s : String) : Bool :=
  match Word.ofText s with
  | .plain _ => true
  | _ => false

end ThermalPrint.CommandLine
