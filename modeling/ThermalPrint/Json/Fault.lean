import ThermalPrint.Json.Value
import ThermalPrint.Text.Quoted

/-! What can be wrong with a JSON text or value, and how it is worded. -/

namespace ThermalPrint.Json

/-- The ways in which a text fails to be JSON. -/
inductive Malformed
  | endInValue
  | endInString
  | endInArray
  | endInObject
  | noValue
  | brokenWord
  | noColon
  | noArrayComma
  | noObjectComma
  | trailingComma
  | keyNotString
  | brokenNumber
  | numberRange
  | badEscape
  | loneSurrogate
  | unpairedSurrogate
  | controlCharacter
  | trailingCharacters
  | tooDeep
deriving DecidableEq, Repr

def Malformed.message : Malformed → String
  | .endInValue => "EOF while parsing a value"
  | .endInString => "EOF while parsing a string"
  | .endInArray => "EOF while parsing a list"
  | .endInObject => "EOF while parsing an object"
  | .noValue => "expected value"
  | .brokenWord => "expected ident"
  | .noColon => "expected `:`"
  | .noArrayComma => "expected `,` or `]`"
  | .noObjectComma => "expected `,` or `\x7d`"
  | .trailingComma => "trailing comma"
  | .keyNotString => "key must be a string"
  | .brokenNumber => "invalid number"
  | .numberRange => "number out of range"
  | .badEscape => "invalid escape"
  | .loneSurrogate => "lone leading surrogate in hex escape"
  | .unpairedSurrogate => "unexpected end of hex escape"
  | .controlCharacter => "control character (\\u0000-\\u001F) found while parsing a string"
  | .trailingCharacters => "trailing characters"
  | .tooDeep => "recursion limit exceeded"

/-- What was found where something else was expected. -/
inductive Found
  | null
  | bool (b : Bool)
  | number (n : Number)
  | string (s : String)
  | sequence
  | map
deriving DecidableEq

def Found.text : Found → String
  | .null => "null"
  | .bool b => s!"boolean `{b}`"
  | .number (.integer n h) => s!"integer `{String.ofList (Number.integer n h).text}`"
  | .number (.float f) => s!"floating point `{String.ofList (Number.float f).text}`"
  | .string s => s!"string {Text.quoted s}"
  | .sequence => "sequence"
  | .map => "map"

/-- Why a text or value is not the JSON form of what is read. -/
inductive Fault
  | malformed (m : Malformed)
  | wrongType (found : Found) (expected : String)
  | wrongValue (found : Found) (expected : String)
  | missingField (name : String)
  | duplicateField (name : String)
  | wrongLength (length : Nat) (expected : String)
  | unknownVariant (name : String) (known : List String)
  /-- None of the alternatives of a form without a tag fits. -/
  | noAlternative (form : String)
  /-- The content is refused for a reason of its own. -/
  | refused (reason : String)
deriving DecidableEq

/-- The names of the known variants, in reverse quotes. -/
def knownText : List String → String
  | [a] => s!"`{a}`"
  | [a, b] => s!"`{a}` or `{b}`"
  | names => "one of " ++ ", ".intercalate (names.map fun n => s!"`{n}`")

def Fault.message : Fault → String
  | .malformed m => m.message
  | .wrongType found expected => s!"invalid type: {found.text}, expected {expected}"
  | .wrongValue found expected => s!"invalid value: {found.text}, expected {expected}"
  | .missingField name => s!"missing field `{name}`"
  | .duplicateField name => s!"duplicate field `{name}`"
  | .wrongLength length expected => s!"invalid length {length}, expected {expected}"
  | .unknownVariant name known => s!"unknown variant `{name}`, expected {knownText known}"
  | .noAlternative form => s!"data did not match any variant of untagged enum {form}"
  | .refused reason => reason

end ThermalPrint.Json
