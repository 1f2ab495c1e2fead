import ThermalPrint.Json.Token
import ThermalPrint.Json.Value

/-! The tree of a JSON text, read as far as the text is well formed. A text that breaks off still has
a tree, in which the place and the manner of the break are marked; what is wrong with a text is
decided by whoever walks its tree in the order of the text. -/

namespace ThermalPrint.Json

/-- Why nothing that can be read stands where a value is due. -/
inductive Absence
  | endOfText
  /-- A character stands there that begins no value. -/
  | noValue
  /-- The text ends before the colon that must come first. -/
  | colonAtEnd
  | noColon
  | brokenWord (atEnd : Bool)
  | brokenNumber (atEnd : Bool)
deriving DecidableEq, Repr

/-- A value without parts. -/
inductive Atom
  | null
  | bool (b : Bool)
  | number (n : Number)
  /-- A number beyond the range of doubles. -/
  | beyondRange
  | string (s : StringLiteral)
  | absent (why : Absence)
deriving DecidableEq

/-- What an array ends at. -/
inductive ArrayEnd
  | closed
  | endOfText
  /-- Something after an element that is neither a comma nor the end. -/
  | noComma
  | commaThenClose
  | commaThenEndOfText
  /-- The last element breaks off. -/
  | cut
deriving DecidableEq, Repr

/-- What an object ends at. -/
inductive ObjectEnd
  | closed
  | endOfText
  | noComma
  | commaThenEndOfText
  /-- Something that is not a string stands where a key is due: with `atClose`, the closing brace. -/
  | noKey (afterComma atClose : Bool)
  | cut
deriving DecidableEq

inductive Node
  | atom (a : Atom)
  | array (elements : List Node) (stop : ArrayEnd)
  | object (members : List (StringLiteral × Node)) (stop : ObjectEnd)

/-- The atom that a token is, if it is one. -/
def Token.atom? : Token → Option Atom
  | .word .null => some .null
  | .word .true => some (.bool true)
  | .word .false => some (.bool false)
  | .number n => some (n.read.elim .beyondRange .number)
  | .string s => some (.string s)
  | .brokenWord atEnd => some (.absent (.brokenWord atEnd))
  | .brokenNumber atEnd => some (.absent (.brokenNumber atEnd))
  | _ => none

/-- An array or object around the place that is being read. Parts are newest first. -/
inductive Frame
  | array (before : List Node)
  | object (before : List (StringLiteral × Node)) (name : StringLiteral)

/-- What is due next, and what has been read around it, innermost first. -/
inductive Reader
  | value (outer : List Frame)
  /-- An element or, unless a comma was read, the end of the array. -/
  | element (afterComma : Bool) (before : List Node) (outer : List Frame)
  | arrayMore (before : List Node) (outer : List Frame)
  | key (afterComma : Bool) (before : List (StringLiteral × Node)) (outer : List Frame)
  | colon (name : StringLiteral) (before : List (StringLiteral × Node)) (outer : List Frame)
  | objectMore (before : List (StringLiteral × Node)) (outer : List Frame)
  /-- The value of the text is complete. -/
  | complete (root : Node)
  /-- Nothing more is read; `trailing` says that something follows a complete value. -/
  | ended (root : Node) (trailing : Bool)

/-- The tree of a text, and whether something follows its value. -/
structure Document where
  root : Node
  trailing : Bool

namespace Reader

/-- Continues after a complete value. -/
def accept (node : Node) : List Frame → Reader
  | [] => .complete node
  | .array before :: outer => .arrayMore (node :: before) outer
  | .object before name :: outer => .objectMore ((name, node) :: before) outer

/-- The root of a text that breaks off inside `node`. -/
def cut (node : Node) : List Frame → Node
  | [] => node
  | .array before :: outer => cut (.array (node :: before).reverse .cut) outer
  | .object before name :: outer => cut (.object ((name, node) :: before).reverse .cut) outer

/-- Ends reading with a value that breaks off. -/
def abandon (node : Node) (outer : List Frame) : Reader := .ended (cut node outer) false

def endArray (before : List Node) (stop : ArrayEnd) (outer : List Frame) : Reader :=
  abandon (.array before.reverse stop) outer

def endObject (before : List (StringLiteral × Node)) (stop : ObjectEnd) (outer : List Frame) :
    Reader :=
  abandon (.object before.reverse stop) outer

/-- Reads the token at which a value begins. -/
def startValue (outer : List Frame) : Token → Reader
  | .beginArray => .element false [] outer
  | .beginObject => .key false [] outer
  | token =>
    match token.atom? with
    | some (.absent why) => abandon (.atom (.absent why)) outer
    | some (.string s) =>
      if s.stop = .closed then accept (.atom (.string s)) outer else abandon (.atom (.string s)) outer
    | some a => accept (.atom a) outer
    | none => abandon (.atom (.absent .noValue)) outer

def step : Reader → Token → Reader
  | .value outer, token => startValue outer token
  | .element afterComma before outer, token =>
    if token = .endArray then
      if afterComma then endArray before .commaThenClose outer
      else accept (.array before.reverse .closed) outer
    else startValue (.array before :: outer) token
  | .arrayMore before outer, token =>
    match token with
    | .comma => .element true before outer
    | .endArray => accept (.array before.reverse .closed) outer
    | _ => endArray before .noComma outer
  | .key afterComma before outer, token =>
    match token with
    | .string name =>
      if name.stop = .closed then .colon name before outer
      else abandon (.object ((name, .atom (.absent .colonAtEnd)) :: before).reverse .cut) outer
    | .endObject =>
      if afterComma then endObject before (.noKey true true) outer
      else accept (.object before.reverse .closed) outer
    | _ => endObject before (.noKey afterComma false) outer
  | .colon name before outer, token =>
    match token with
    | .colon => .value (.object before name :: outer)
    | _ => abandon (.atom (.absent .noColon)) (.object before name :: outer)
  | .objectMore before outer, token =>
    match token with
    | .comma => .key true before outer
    | .endObject => accept (.object before.reverse .closed) outer
    | _ => endObject before .noComma outer
  | .complete root, _ => .ended root true
  | .ended root trailing, _ => .ended root trailing

/-- The document that the end of the text leaves. -/
def finish : Reader → Document
  | .value outer => ⟨cut (.atom (.absent .endOfText)) outer, false⟩
  | .element afterComma before outer =>
    ⟨cut (.array before.reverse (if afterComma then .commaThenEndOfText else .endOfText)) outer, false⟩
  | .arrayMore before outer => ⟨cut (.array before.reverse .endOfText) outer, false⟩
  | .key afterComma before outer =>
    ⟨cut (.object before.reverse (if afterComma then .commaThenEndOfText else .endOfText)) outer, false⟩
  | .colon name before outer =>
    ⟨cut (.atom (.absent .colonAtEnd)) (.object before name :: outer), false⟩
  | .objectMore before outer => ⟨cut (.object before.reverse .endOfText) outer, false⟩
  | .complete root => ⟨root, false⟩
  | .ended root trailing => ⟨root, trailing⟩

end Reader

/-- The document of a sequence of tokens. -/
def Document.ofTokens (ts : List Token) : Document := (ts.foldl Reader.step (.value [])).finish

/-- The document of a text. -/
def Document.ofText (text : String) : Document := .ofTokens (tokens text.toList)

mutual

/-- The tree of a value held in memory. -/
def Node.ofValue : Value → Node
  | .null => .atom .null
  | .bool b => .atom (.bool b)
  | .number n => .atom (.number n)
  | .string s => .atom (.string (.ofString s))
  | .array elements => .array (ofElements elements) .closed
  | .object members => .object (ofMembers members) .closed

def Node.ofElements : List Value → List Node
  | [] => []
  | v :: vs => .ofValue v :: ofElements vs

def Node.ofMembers : List (String × Value) → List (StringLiteral × Node)
  | [] => []
  | (k, v) :: ms => (.ofString k, .ofValue v) :: ofMembers ms

end

end ThermalPrint.Json
