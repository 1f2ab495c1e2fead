import ThermalPrint.Json.Number

/-! The tokens of a JSON text. A text is read one character at a time by `Scan.step`; a token that
breaks off is given as far as it was read, and nothing is read after it. -/

namespace ThermalPrint.Json

/-- One unit of a string literal: a character, or a code unit written with four digits. -/
inductive StringUnit
  | char (c : Char)
  | code (n : Nat)
deriving DecidableEq, Repr

/-- What a string literal ends at. -/
inductive StringEnd
  | closed
  | endOfText
  /-- A backslash before a character that names no escape. -/
  | badEscape
  /-- Four bytes after `\u` that are not four hexadecimal digits. -/
  | badCode
  | control
deriving DecidableEq, Repr

structure StringLiteral where
  units : List StringUnit
  stop : StringEnd
deriving DecidableEq, Repr

/-- The literal of a text that is already known. -/
def StringLiteral.ofString (s : String) : StringLiteral := ⟨s.toList.map .char, .closed⟩

inductive Word
  | null | true | false
deriving DecidableEq, Repr

/-- The letters of a word after its first. -/
def Word.tail : Word → List Char
  | .null => ['u', 'l', 'l']
  | .true => ['r', 'u', 'e']
  | .false => ['a', 'l', 's', 'e']

inductive Token
  | beginArray | endArray | beginObject | endObject | colon | comma
  | word (w : Word)
  | number (n : Numeral)
  | string (s : StringLiteral)
  /-- A word with a wrong letter, or, with `atEnd`, one that the text cuts off. -/
  | brokenWord (atEnd : Bool)
  | brokenNumber (atEnd : Bool)
  /-- A character that begins no token. -/
  | stray
deriving DecidableEq, Repr

/-- The part of a number that was read last. -/
inductive NumberPart
  | sign | zero | whole | point | fraction | mark | markSign | exponent
deriving DecidableEq, Repr

/-- What is being read between two characters. Partial lists are newest first. -/
inductive Scan
  | ready
  | word (w : Word) (rest : List Char)
  | number (n : Numeral) (part : NumberPart)
  | string (units : List StringUnit)
  | escape (units : List StringUnit)
  /-- `bytes` bytes after `\u` are read; `value` is their number while they are digits. -/
  | code (units : List StringUnit) (bytes : Nat) (value : Option Nat)
  | halted
deriving DecidableEq, Repr

/-- The value of a decimal digit. -/
def digit? (c : Char) : Option Nat := if c.isDigit then some (c.toNat - '0'.toNat) else none

/-- The value of a hexadecimal digit, in either case. -/
def hexDigit? (c : Char) : Option Nat :=
  if c.isDigit then some (c.toNat - '0'.toNat)
  else if 'a' ≤ c ∧ c ≤ 'f' then some (c.toNat - 'a'.toNat + 10)
  else if 'A' ≤ c ∧ c ≤ 'F' then some (c.toNat - 'A'.toNat + 10)
  else none

/-- The only blanks between tokens. -/
def isSpace (c : Char) : Bool := c = ' ' || c = '\t' || c = '\n' || c = '\r'

/-- What a short escape stands for. -/
def shortEscape? : Char → Option Char
  | '"' => some '"'
  | '\\' => some '\\'
  | '/' => some '/'
  | 'b' => some '\x08'
  | 'f' => some '\x0c'
  | 'n' => some '\n'
  | 'r' => some '\r'
  | 't' => some '\t'
  | _ => none

namespace Numeral

/-- The digits of a numeral that was read newest first. -/
def ordered (n : Numeral) : Numeral :=
  ⟨n.negative, n.whole.reverse, n.fraction.reverse, n.exponent.map fun (s, ds) => (s, ds.reverse)⟩

def pushWhole (n : Numeral) (d : Nat) : Numeral := { n with whole := d :: n.whole }

def pushFraction (n : Numeral) (d : Nat) : Numeral := { n with fraction := d :: n.fraction }

def pushExponent (n : Numeral) (d : Nat) : Numeral :=
  { n with exponent := n.exponent.map fun (s, ds) => (s, d :: ds) }

/-- Continues a number by one character: its new state, or `none` if the character is not part of a
number after `part`. -/
def continue? (n : Numeral) (part : NumberPart) (c : Char) : Option (Numeral × NumberPart) :=
  match part, digit? c with
  | .sign, some d => some (n.pushWhole d, if d = 0 then .zero else .whole)
  | .whole, some d => some (n.pushWhole d, .whole)
  | .point, some d | .fraction, some d => some (n.pushFraction d, .fraction)
  | .mark, some d | .markSign, some d | .exponent, some d => some (n.pushExponent d, .exponent)
  | .zero, none | .whole, none =>
    if c = '.' then some (n, .point)
    else if c = 'e' ∨ c = 'E' then some ({ n with exponent := some (false, []) }, .mark)
    else none
  | .fraction, none =>
    if c = 'e' ∨ c = 'E' then some ({ n with exponent := some (false, []) }, .mark) else none
  | .mark, none =>
    if c = '+' then some (n, .markSign)
    else if c = '-' then some ({ n with exponent := some (true, []) }, .markSign)
    else none
  | _, _ => none

end Numeral

/-- Whether a number may end after this part. -/
def NumberPart.complete : NumberPart → Bool
  | .zero | .whole | .fraction | .exponent => true
  | _ => false

namespace Scan

/-- Begins the token of a character that stands where a token may begin. -/
def start (c : Char) : List Token × Scan :=
  if isSpace c then ([], .ready)
  else match c with
    | '[' => ([.beginArray], .ready)
    | ']' => ([.endArray], .ready)
    | '\x7b' => ([.beginObject], .ready)
    | '\x7d' => ([.endObject], .ready)
    | ':' => ([.colon], .ready)
    | ',' => ([.comma], .ready)
    | 'n' => ([], .word .null Word.null.tail)
    | 't' => ([], .word .true Word.true.tail)
    | 'f' => ([], .word .false Word.false.tail)
    | '"' => ([], .string [])
    | '-' => ([], .number ⟨true, [], [], none⟩ .sign)
    | c =>
      match digit? c with
      | some d => ([], .number ⟨false, [d], [], none⟩ (if d = 0 then .zero else .whole))
      | none => ([.stray], .halted)

/-- Reads one character: the tokens that it completes, and what is being read after it. -/
def step : Scan → Char → List Token × Scan
  | .ready, c => start c
  | .word w rest, c =>
    if rest.head? ≠ some c then ([.brokenWord false], .halted)
    else if rest.tail.isEmpty then ([.word w], .ready)
    else ([], .word w rest.tail)
  | .number n part, c =>
    match n.continue? part c with
    | some (n, part) => ([], .number n part)
    | none =>
      if !part.complete || (part = .zero && c.isDigit) then ([.brokenNumber false], .halted)
      else
        let (tokens, next) := start c
        (.number n.ordered :: tokens, next)
  | .string units, c =>
    if c = '"' then ([.string ⟨units.reverse, .closed⟩], .ready)
    else if c = '\\' then ([], .escape units)
    else if c.toNat < 0x20 then ([.string ⟨units.reverse, .control⟩], .halted)
    else ([], .string (.char c :: units))
  | .escape units, c =>
    if c = 'u' then ([], .code units 0 (some 0))
    else match shortEscape? c with
      | some e => ([], .string (.char e :: units))
      | none => ([.string ⟨units.reverse, .badEscape⟩], .halted)
  | .code units bytes value, c =>
    let bytes := bytes + c.utf8Size
    let value := value.bind fun v => (hexDigit? c).map (16 * v + ·)
    if bytes < 4 then ([], .code units bytes value)
    else match value with
      | some v => ([], .string (.code v :: units))
      | none => ([.string ⟨units.reverse, .badCode⟩], .halted)
  | .halted, _ => ([], .halted)

/-- The token that the end of the text leaves. -/
def finish : Scan → List Token
  | .ready | .halted => []
  | .word _ _ => [.brokenWord true]
  | .number n part => if part.complete then [.number n.ordered] else [.brokenNumber true]
  | .string units | .escape units | .code units _ _ => [.string ⟨units.reverse, .endOfText⟩]

/-- The tokens of the rest of a text. -/
def run : Scan → List Char → List Token
  | scan, [] => scan.finish
  | scan, c :: cs =>
    let (tokens, next) := scan.step c
    tokens ++ next.run cs

end Scan

/-- The tokens of a text. -/
def tokens (cs : List Char) : List Token := Scan.run .ready cs

end ThermalPrint.Json
