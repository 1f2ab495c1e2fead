import ThermalPrint.Json.Decode

/-! JSON texts as they are written: blanks, numerals, string literals with their escapes, and arrays and
objects of such. Every one of these writes a text, which is well formed whatever its numbers, the
pairing of its code units, the depth of its nesting and the names of its members. -/

namespace ThermalPrint.Json

/-! ## Blanks -/

/-- What may stand between two tokens. -/
inductive Blank
  | space | tab | newline | carriageReturn
deriving DecidableEq, Repr

def Blank.char : Blank → Char
  | .space => ' '
  | .tab => '\t'
  | .newline => '\n'
  | .carriageReturn => '\r'

/-- Something with the blanks around it. -/
structure Spaced (α : Type) where
  before : List Blank
  item : α
  after : List Blank

/-- A text with blanks around it. -/
def spacedChars (before : List Blank) (text : List Char) (after : List Blank) : List Char :=
  before.map Blank.char ++ (text ++ after.map Blank.char)

/-! ## Numbers -/

/-- At least one decimal digit. -/
structure Digits where
  first : Fin 10
  rest : List (Fin 10)
deriving DecidableEq, Repr

namespace Digits

/-- The values of the digits, most significant first. -/
def values (ds : Digits) : List Nat := (ds.first :: ds.rest).map Fin.val

def chars (ds : Digits) : List Char := ds.values.map Nat.digitChar

end Digits

/-- The sign of an exponent, which a positive one may have as well. -/
inductive ExponentSign
  | none | plus | minus
deriving DecidableEq, Repr

def ExponentSign.chars : ExponentSign → List Char
  | .none => []
  | .plus => ['+']
  | .minus => ['-']

structure ExponentText where
  /-- Whether the mark is a capital letter. -/
  capital : Bool
  sign : ExponentSign
  digits : Digits
deriving DecidableEq, Repr

def ExponentText.chars (e : ExponentText) : List Char :=
  (if e.capital then 'E' else 'e') :: (e.sign.chars ++ e.digits.chars)

/-- A number as it is written. Only zero begins with a zero. -/
structure NumberText where
  negative : Bool
  whole : Digits
  noLeadingZero : whole.first = 0 → whole.rest = []
  fraction : Option Digits
  exponent : Option ExponentText
deriving DecidableEq, Repr

namespace NumberText

def wholeChars (n : NumberText) : List Char := (if n.negative then ['-'] else []) ++ n.whole.chars

def fractionChars (n : NumberText) : List Char := n.fraction.elim [] fun ds => '.' :: ds.chars

def exponentChars (n : NumberText) : List Char := n.exponent.elim [] ExponentText.chars

def chars (n : NumberText) : List Char := n.wholeChars ++ (n.fractionChars ++ n.exponentChars)

def numeral (n : NumberText) : Numeral where
  negative := n.negative
  whole := n.whole.values
  fraction := n.fraction.elim [] Digits.values
  exponent := n.exponent.map fun e => (e.sign = .minus, e.digits.values)

end NumberText

/-! ## Strings -/

/-- A hexadecimal digit, in either case. -/
structure HexDigit where
  value : Fin 16
  capital : Bool
deriving DecidableEq, Repr

def HexDigit.char (d : HexDigit) : Char :=
  if d.capital then (Nat.digitChar d.value).toUpper else Nat.digitChar d.value

/-- The characters that are written with a backslash and one letter. -/
inductive ShortEscape
  | quote | backslash | slash | backspace | formFeed | newline | carriageReturn | tab
deriving DecidableEq, Repr

namespace ShortEscape

def letter : ShortEscape → Char
  | .quote => '"'
  | .backslash => '\\'
  | .slash => '/'
  | .backspace => 'b'
  | .formFeed => 'f'
  | .newline => 'n'
  | .carriageReturn => 'r'
  | .tab => 't'

/-- The character that is written. -/
def char : ShortEscape → Char
  | .quote => '"'
  | .backslash => '\\'
  | .slash => '/'
  | .backspace => '\x08'
  | .formFeed => '\x0c'
  | .newline => '\n'
  | .carriageReturn => '\r'
  | .tab => '\t'

end ShortEscape

/-- One unit of a string as it is written. Any code of four digits is well formed, also half a pair. -/
inductive StringPart
  | plain (c : Char) (plain : 0x20 ≤ c.toNat ∧ c ≠ '"' ∧ c ≠ '\\')
  | short (e : ShortEscape)
  | code (a b c d : HexDigit)
deriving DecidableEq, Repr

namespace StringPart

def chars : StringPart → List Char
  | .plain c _ => [c]
  | .short e => ['\\', e.letter]
  | .code a b c d => ['\\', 'u', a.char, b.char, c.char, d.char]

def unit : StringPart → StringUnit
  | .plain c _ => .char c
  | .short e => .char e.char
  | .code a b c d => .code (16 * (16 * (16 * a.value + b.value) + c.value) + d.value)

/-- The shortest part that writes a character. -/
def ofChar (c : Char) : StringPart :=
  match c with
  | '"' => .short .quote
  | '\\' => .short .backslash
  | '\x08' => .short .backspace
  | '\t' => .short .tab
  | '\n' => .short .newline
  | '\x0c' => .short .formFeed
  | '\r' => .short .carriageReturn
  | c =>
    if h : 0x20 ≤ c.toNat ∧ c ≠ '"' ∧ c ≠ '\\' then .plain c h
    else .code ⟨0, false⟩ ⟨0, false⟩ ⟨.ofNat 16 (c.toNat / 16), false⟩ ⟨.ofNat 16 c.toNat, false⟩

end StringPart

/-- A string as it is written. -/
structure StringText where
  parts : List StringPart
deriving DecidableEq, Repr

namespace StringText

def chars (s : StringText) : List Char := '"' :: (s.parts.flatMap StringPart.chars ++ ['"'])

def literal (s : StringText) : StringLiteral := ⟨s.parts.map StringPart.unit, .closed⟩

/-- Whether this is a text of a string. Code units that are not paired write none. -/
def Writes (s : StringText) (text : String) : Prop := s.literal.read = .ok text

def ofString (text : String) : StringText := ⟨text.toList.map .ofChar⟩

end StringText

/-! ## Values -/

def Word.chars : Word → List Char
  | .null => 'n' :: Word.null.tail
  | .true => 't' :: Word.true.tail
  | .false => 'f' :: Word.false.tail

/-- A value as it is written. Before the end of an array or object there may be blanks, also where it is
empty. -/
inductive Source
  | word (w : Word)
  | number (n : NumberText)
  | string (s : StringText)
  | array (elements : List (Spaced Source)) (close : List Blank)
  | object (members : List (Spaced StringText × Spaced Source)) (close : List Blank)

/-- The members of an object as they are written: names and values. -/
abbrev Members := List (Spaced StringText × Spaced Source)

namespace Source

mutual

def chars : Source → List Char
  | .word w => w.chars
  | .number n => n.chars
  | .string s => s.chars
  | .array [] close => '[' :: (close.map Blank.char ++ [']'])
  | .array (⟨before, v, after⟩ :: es) close =>
    '[' :: (spacedChars before v.chars after ++ tailElements close es)
  | .object [] close => '\x7b' :: (close.map Blank.char ++ ['\x7d'])
  | .object ((key, ⟨before, v, after⟩) :: ms) close =>
    '\x7b' :: (spacedChars key.before key.item.chars key.after ++
      ':' :: (spacedChars before v.chars after ++ tailMembers close ms))

/-- The elements after the first, and the end of the array. -/
def tailElements (close : List Blank) : List (Spaced Source) → List Char
  | [] => close.map Blank.char ++ [']']
  | ⟨before, v, after⟩ :: es => ',' :: (spacedChars before v.chars after ++ tailElements close es)

/-- The members after the first, and the end of the object. -/
def tailMembers (close : List Blank) : Members → List Char
  | [] => close.map Blank.char ++ ['\x7d']
  | (key, ⟨before, v, after⟩) :: ms =>
    ',' :: (spacedChars key.before key.item.chars key.after ++
      ':' :: (spacedChars before v.chars after ++ tailMembers close ms))

end

def wordAtom : Word → Atom
  | .null => .null
  | .true => .bool true
  | .false => .bool false

mutual

/-- The tree of a written value. -/
def tree : Source → Node
  | .word w => .atom (wordAtom w)
  | .number n => .atom (n.numeral.read.elim .beyondRange .number)
  | .string s => .atom (.string s.literal)
  | .array elements _ => .array (elementTrees elements) .closed
  | .object members _ => .object (memberTrees members) .closed

def elementTrees : List (Spaced Source) → List Node
  | [] => []
  | ⟨_, v, _⟩ :: es => v.tree :: elementTrees es

def memberTrees : Members → List (StringLiteral × Node)
  | [] => []
  | (key, ⟨_, v, _⟩) :: ms => (key.item.literal, v.tree) :: memberTrees ms

end

end Source

/-- A text that holds one value, with blanks around it. -/
def Spaced.text (s : Spaced Source) : String :=
  String.ofList (spacedChars s.before s.item.chars s.after)

end ThermalPrint.Json
