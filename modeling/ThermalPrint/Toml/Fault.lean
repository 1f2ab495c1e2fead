import ThermalPrint.Text.Quoted

/-! What can be wrong with a TOML text, where, and how it is worded. -/

namespace ThermalPrint.Toml

inductive Problem
  | endOfText
  | charInString (c : Char)
  | badEscape (c : Char)
  | badHexEscape (c : Char)
  | badEscapeValue (n : Nat)
  | newlineInString
  | unexpected (c : Char)
  | unterminatedString
  | wanted (expected found : String)
  | badNumber
  | badDate
  | duplicateTable (name : String)
  | redefinedAsArray
  | multilineKey
  | dottedKeyType
  | unquotedString
  | duplicateKey (name : String)
  | badDatetime
  /-- Something else than a string stands where a string with a date or time is due. -/
  | noDatetime (found : String)
deriving DecidableEq, Repr

/-- A character in the messages of this format. -/
def escapedChar (c : Char) : String :=
  match c with
  | '\t' => "\\t"
  | '\n' => "\\n"
  | '\r' => "\\r"
  | '\'' => "\\'"
  | '"' => "\\\""
  | '\\' => "\\\\"
  | c =>
    if 0x20 ≤ c.toNat ∧ c.toNat < 0x7F then String.ofList [c]
    else String.ofList (['\\', 'u', '\x7b'] ++ Text.hexDigits c.toNat ++ ['\x7d'])

def Problem.message : Problem → String
  | .endOfText => "unexpected eof encountered"
  | .charInString c => s!"invalid character in string: `{escapedChar c}`"
  | .badEscape c => s!"invalid escape character in string: `{escapedChar c}`"
  | .badHexEscape c => s!"invalid hex escape character in string: `{escapedChar c}`"
  | .badEscapeValue n => s!"invalid escape value: `{n}`"
  | .newlineInString => "newline in string found"
  | .unexpected c => s!"unexpected character found: `{escapedChar c}`"
  | .unterminatedString => "unterminated string"
  | .wanted expected found => s!"expected {expected}, found {found}"
  | .badNumber => "invalid number"
  | .badDate => "invalid date"
  | .duplicateTable name => s!"redefinition of table `{name}`"
  | .redefinedAsArray => "table redefined as array"
  | .multilineKey => "multiline strings are not allowed for key"
  | .dottedKeyType => "dotted key attempted to extend non-table type"
  | .unquotedString => "invalid TOML value, did you mean to use a quoted string?"
  | .duplicateKey name => s!"duplicate key: `{name}`"
  | .badDatetime => "failed to parse datetime"
  | .noDatetime found => s!"invalid type: {found}, expected string containing a datetime"

/-- A problem with the byte at which it was met, if that is known, and the keys around it. -/
structure Fault where
  problem : Problem
  at? : Option Nat
  keys : List String := []
deriving DecidableEq, Repr

namespace Fault

/-- Adds a key around the fault. -/
def under (key : String) (f : Fault) : Fault := { f with keys := key :: f.keys }

/-- Gives a fault without a place one. -/
def placed (start : Nat) (f : Fault) : Fault := { f with at? := some (f.at?.getD start) }

/-- The line and column, both from zero, of the byte `offset`: `line` lines that began at `start` have
been passed, and `pos` is the byte of the next character. -/
def lineColumn (offset : Nat) : (line start pos : Nat) → List Char → Nat × Nat
  | line, start, pos, [] => if offset < pos + 1 ∧ start < pos then (line, offset - start) else
      (if start < pos then line + 1 else line, 0)
  | line, start, pos, c :: cs =>
    if c = '\n' then
      if offset ≤ pos then (line, offset - start) else lineColumn offset (line + 1) (pos + 1) (pos + 1) cs
    else lineColumn offset line start (pos + c.utf8Size) cs

/-- The wording of a fault in a text. -/
def message (text : List Char) (f : Fault) : String :=
  let path := ".".intercalate f.keys
  let keys := if f.keys.isEmpty then "" else s!" for key `{path}`"
  let place := match f.at? with
    | some start =>
      let (line, column) := lineColumn start 0 0 0 text
      s!" at line {line + 1} column {column + 1}"
    | none => ""
  f.problem.message ++ keys ++ place

end Fault

end ThermalPrint.Toml
