import ThermalPrint.Toml.Datetime
import ThermalPrint.Toml.Token

/-! The blocks of a TOML text: a header with the entries below it. Entries are read as they stand;
whether keys repeat is decided when the blocks are put together. -/

namespace ThermalPrint.Toml

/-- A value as it is written, with the byte at which it begins. A table under a dotted key is open to
further dotted keys. -/
inductive Written
  | string (s : String)
  | integer (n : Int)
  | float (f : Float)
  | bool (b : Bool)
  | datetime (cs : List Char)
  | array (elements : List (Nat × Written))
  | inline (entries : List (String × Nat × Written))
  | dotted (entries : List (String × Nat × Written))

abbrev Entries := List (String × Nat × Written)

/-- A table header, single or doubled, and the entries below it. -/
structure Block where
  start : Nat
  header : List String
  doubled : Bool
  entries : Entries

/-- A reader of a part of a text: it takes tokens from the front and gives back the rest. -/
abbrev Reading (α : Type) := List Token → Except Fault (α × List Token)

/-- The byte at which the next token begins. -/
def current (size : Nat) : List Token → Nat
  | [] => size
  | t :: _ => t.start

/-- The next token, if the text goes on. -/
def next? : List Token → Except Fault (Option Token × List Token)
  | [] => .ok (none, [])
  | ⟨.broken f, _, _⟩ :: _ => .error f
  | t :: ts => .ok (some t, ts)

/-- Takes the next token if it is of the given kind. -/
def eat (kind : Kind) (ts : List Token) : Except Fault (Bool × List Token) := do
  match ← next? ts with
  | (some t, rest) => if t.kind = kind then return (true, rest) else return (false, ts)
  | (none, _) => return (false, ts)

def wanted {α : Type} (size : Nat) (expected : String) (ts : List Token) : Except Fault α :=
  match ts with
  | t :: _ => fault (.wanted expected t.kind.name) t.start
  | [] => fault (.wanted expected "eof") size

/-- Takes the next token, which must be of the given kind. -/
def expect (size : Nat) (kind : Kind) (ts : List Token) : Except Fault (List Token) := do
  let (found, rest) ← eat kind ts
  if found then return rest else wanted size kind.name ts

/-- Passes over blanks. -/
def skipBlank : List Token → List Token
  | ⟨.blank _, _, _⟩ :: ts => ts
  | ts => ts

/-- The end of a line, perhaps after a comment. -/
def endLine (size : Nat) (ts : List Token) : Except Fault (List Token) := do
  let ts := match ts with
    | ⟨.comment, _, _⟩ :: rest => rest
    | ts => ts
  match ← next? ts with
  | (none, rest) => return rest
  | (some t, rest) => if t.kind = .newline then return rest else wanted size "newline" ts

/-- A part of a key. -/
def readKey (size : Nat) : Reading String := fun ts => do
  match ← next? ts with
  | (some ⟨.word cs, _, _⟩, rest) => return (String.ofList cs, rest)
  | (some ⟨.text s false, _, _⟩, rest) => return (s, rest)
  | (some ⟨.text _ true, start, _⟩, _) => fault .multilineKey start
  | _ => wanted size "a table key" ts

/-- A key: parts with periods between them. -/
def readKeys (size : Nat) : (fuel : Nat) → Reading (List String)
  | 0, ts => wanted size "a table key" ts
  | fuel + 1, ts => do
    let (key, ts) ← readKey size ts
    let (more, ts) ← eat .period (skipBlank ts)
    if more then
      let (keys, ts) ← readKeys size fuel (skipBlank ts)
      return (key :: keys, ts)
    else return ([key], ts)

/-! ### Numbers -/

/-- The digit characters of a base. -/
def isDigitIn (base : Nat) (c : Char) : Bool :=
  if c.isDigit then c.toNat - 48 < base else base = 16 && 'a' ≤ c.toLower && c.toLower ≤ 'f'

/-- Reads the digits of a number, and what follows them. Underscores stand between digits only, and a
zero leads no other digit unless `zeros` allows it. `first`, `zero` and `underscore` tell what came
before the character at `pos`; the number began at `start`. -/
def scanDigits (base : Nat) (zeros : Bool) (start : Nat) : (pos : Nat) →
    (first zero underscore : Bool) → List Char → Except Fault (List Char × List Char)
  | _, first, _, underscore, [] => if first || underscore then fault .badNumber start else .ok ([], [])
  | pos, first, zero, underscore, c :: cs =>
    if c = '0' && first then
      (scanDigits base zeros start (pos + 1) false true underscore cs).map
        fun (ds, rest) => (c :: ds, rest)
    else if isDigitIn base c then
      if !first && zero && !zeros then fault .badNumber pos
      else
        (scanDigits base zeros start (pos + 1) false zero false cs).map
          fun (ds, rest) => (c :: ds, rest)
    else if c = '_' && first then fault .badNumber pos
    else if c = '_' && !underscore then scanDigits base zeros start (pos + 1) false zero true cs
    else if first || underscore then fault .badNumber start
    else .ok ([], c :: cs)

/-- The sign, digits and rest of the number that begins at byte `start`. -/
def scanInteger (base : Nat) (signed zeros : Bool) (start : Nat) (cs : List Char) :
    Except Fault (Bool × List Char × List Char) :=
  match signed, cs with
  | true, '-' :: cs => (scanDigits base zeros start (start + 1) true false false cs).map (true, ·)
  | true, '+' :: cs => (scanDigits base zeros start (start + 1) true false false cs).map (false, ·)
  | _, cs => (scanDigits base zeros start start true false false cs).map (false, ·)

/-- The value of digits in a base. -/
def digitsIn (base : Nat) (cs : List Char) : Nat :=
  cs.foldl (fun n c =>
    base * n + (if c.isDigit then c.toNat - 48 else c.toLower.toNat - 87)) 0

/-- An integer of 64 bits. -/
def readInteger (base start : Nat) (cs : List Char) : Except Fault Int := do
  let (negative, digits, rest) ← scanInteger base (base = 10) (base ≠ 10) start cs
  let n : Int := if negative then -(digitsIn base digits) else digitsIn base digits
  if rest.isEmpty ∧ -0x8000000000000000 ≤ n ∧ n < 0x8000000000000000 then return n else fault .badNumber start

/-- The double nearest to a decimal, which must be finite. -/
def double? (negative : Bool) (whole fraction : List Char) (exponentNegative : Bool)
    (exponent : List Char) : Option Float :=
  let mantissa := digitsIn 10 (whole ++ fraction)
  let written : Int := digitsIn 10 exponent
  let e : Int := (if exponentNegative then -written else written) - fraction.length
  let digits : Int := (Decimal.digitChars mantissa).length
  let f : Float :=
    if mantissa = 0 ∨ e + digits < -400 then 0.0
    else if 400 < e + digits then 1.0 / 0.0
    else Float.ofScientific mantissa (e < 0) e.natAbs
  let f := if negative then -f else f
  if f.isInf then none else some f

/-- Reads a number with a fraction or an exponent, which begins with the word `cs` at byte `start`. The
words after a period and after the plus of an exponent are tokens of their own. -/
def readFloat (start : Nat) (cs : List Char) (after : Option (Nat × List Char)) (ts : List Token) :
    Except Fault (Written × List Token) := do
  let (negative, whole, suffix) ← scanInteger 10 true false start cs
  let (fraction, suffixStart, suffix) ← match after with
    | none => pure ([], start + (cs.length - suffix.length), suffix)
    | some (at_, after) =>
      if !suffix.isEmpty then fault .badNumber start
      else do
        let (_, fraction, rest) ← scanInteger 10 false true at_ after
        pure (fraction, at_ + (after.length - rest.length), rest)
  let finish (down : Bool) (exponent : List Char) (ts : List Token) :
      Except Fault (Written × List Token) :=
    match double? negative whole fraction down exponent with
    | some f => .ok (.float f, ts)
    | none => fault .badNumber start
  match suffix with
  | [] => finish false [] ts
  | e :: digits =>
    if e ≠ 'e' ∧ e ≠ 'E' then fault .badNumber start
    else if digits.isEmpty then
      let (_, ts) ← eat .plus ts
      match ← next? ts with
      | (some ⟨.word digits, at_, _⟩, ts) =>
        let (_, exponent, rest) ← scanInteger 10 false true at_ digits
        if rest.isEmpty then finish false exponent ts else fault .badNumber start
      | _ => fault .badNumber start
    else
      let (down, exponent, rest) ← scanInteger 10 true true (suffixStart + 1) digits
      if rest.isEmpty then finish down exponent ts else fault .badNumber start

/-- Reads the number that begins with the word `cs` at byte `start`. A number with a fraction is placed
where its fraction begins, every other one at byte `place`. -/
def readNumber (size place start : Nat) (cs : List Char) : Reading (Nat × Written) := fun ts => do
  match cs with
  | '0' :: 'x' :: digits => return ((place, .integer (← readInteger 16 (start + 2) digits)), ts)
  | '0' :: 'o' :: digits => return ((place, .integer (← readInteger 8 (start + 2) digits)), ts)
  | '0' :: 'b' :: digits => return ((place, .integer (← readInteger 2 (start + 2) digits)), ts)
  | cs =>
    if cs.contains 'e' || cs.contains 'E' then
      let (value, ts) ← readFloat start cs none ts
      return ((place, value), ts)
    else
      let (period, rest) ← eat .period ts
      if period then
        match ← next? rest with
        | (some ⟨.word after, at_, _⟩, rest) =>
          let (value, rest) ← readFloat start cs (some (at_, after)) rest
          return ((at_, value), rest)
        | _ => fault .badNumber (current size rest)
      else match cs with
        | ['i', 'n', 'f'] => return ((place, .float (1.0 / 0.0)), ts)
        | ['-', 'i', 'n', 'f'] => return ((place, .float (-1.0 / 0.0)), ts)
        | ['n', 'a', 'n'] | ['-', 'n', 'a', 'n'] => return ((place, .float (0.0 / 0.0)), ts)
        | cs => return ((place, .integer (← readInteger 10 start cs)), ts)

/-- Takes a word that a date or time goes on with. -/
def dateWord (start : Nat) (ts : List Token) : Except Fault (List Token) := do
  match ← next? ts with
  | (some ⟨.word _, _, _⟩, ts) => return ts
  | _ => fault .badDate start

/-- The tokens after a date or time whose first word is already taken, and after its first colon if
`colon` says so. -/
def skipDatetime (size start : Nat) (colon : Bool) (ts : List Token) : Except Fault (List Token) := do
  let ts := match ts with
    | ⟨.blank [' '], _, _⟩ :: ⟨.word _, _, _⟩ :: rest => rest
    | ts => ts
  let (time, ts) ← if colon then pure (true, ts) else eat .colon ts
  if !time then return ts
  let ts ← dateWord start ts
  let ts ← expect size .colon ts
  let ts ← dateWord start ts
  let (fraction, ts) ← eat .period ts
  let ts ← if fraction then dateWord start ts else pure ts
  let (plus, ts) ← eat .plus ts
  let ts ← if plus then dateWord start ts else pure ts
  let (minutes, ts) ← eat .colon ts
  if minutes then dateWord start ts else return ts

/-- Whether a word can only begin a date or a time with a zone. -/
def looksLikeDate (cs : List Char) : Bool :=
  let hasSigned := (cs.zip cs.tail).any fun (a, b) => (a = 'e' || a = 'E') && b = '-'
  cs.contains 'T' || cs.contains 't' || (cs.tail.contains '-' && !hasSigned)

/-- The characters between two bytes of a text, of which the next character is at byte `pos`. -/
def slice (start stop : Nat) : (pos : Nat) → List Char → List Char
  | _, [] => []
  | pos, c :: cs =>
    if stop ≤ pos then []
    else if start ≤ pos then c :: slice start stop (pos + c.utf8Size) cs
    else slice start stop (pos + c.utf8Size) cs

/-! ### Values

Reading a value and reading the elements of an array take fuel of their own. A nested value takes at
least one token, so that twice the number of tokens is fuel enough. -/

/-- Puts a value under a dotted key. -/
def addDotted (start : Nat) (value : Written) : List String → Entries → Except Fault Entries
  | [], entries => .ok entries
  | [key], entries => .ok (entries ++ [(key, start, value)])
  | key :: keys, entries =>
    match entries.find? (·.1 = key) with
    | some (_, at_, .dotted inner) => do
      let inner ← addDotted start value keys inner
      let i := entries.findIdx (·.1 = key)
      return entries.set i (key, at_, .dotted inner)
    | some (_, at_, _) => fault .dottedKeyType at_
    | none => do
      let inner ← addDotted start value keys []
      return entries ++ [(key, start, .dotted inner)]

/-- Passes over blanks, comments and line ends inside an array. -/
def skipLines (size : Nat) : (fuel : Nat) → List Token → Except Fault (List Token)
  | 0, ts => .ok ts
  | fuel + 1, ts => do
    let ts := skipBlank ts
    let (newline, rest) ← eat .newline ts
    if newline then skipLines size fuel rest
    else match ts with
      | ⟨.comment, _, _⟩ :: _ => do skipLines size fuel (← endLine size ts)
      | ts => return ts

mutual

/-- Reads a value: with the byte at which it begins. -/
def readValue (text : List Char) (size : Nat) : (fuel : Nat) → Reading (Nat × Written)
  | 0, _ => fault .endOfText size
  | fuel + 1, ts => do
    let start := current size ts
    match ← next? ts with
    | (none, _) => fault .endOfText size
    | (some t, rest) =>
      match t.kind with
      | .text s _ => return ((start, .string s), rest)
      | .word ['t', 'r', 'u', 'e'] => return ((start, .bool true), rest)
      | .word ['f', 'a', 'l', 's', 'e'] => return ((start, .bool false), rest)
      | .word cs =>
        if !(cs = ['i', 'n', 'f'] || cs = ['n', 'a', 'n'] ||
            cs.head?.any fun c => c = '-' || c.isDigit) then fault .unquotedString start
        else
          let (colon, rest') ← if looksLikeDate cs then pure (false, rest) else eat .colon rest
          if colon || looksLikeDate cs then
            let rest ← skipDatetime size start colon rest'
            return ((start, .datetime (slice start (current size rest) 0 text)), rest)
          else readNumber size start start cs rest
      | .plus =>
        match ← next? rest with
        | (some ⟨.word cs, at_, _⟩, rest') =>
          readNumber size start at_ cs rest'
        | _ => fault .badNumber (current size rest)
      | .leftBrace =>
        let (closed, rest') ← eat .rightBrace (skipBlank rest)
        if closed then return ((start, .inline []), rest')
        let (entries, rest) ← readInline text size fuel (skipBlank rest) []
        return ((start, .inline entries), rest)
      | .leftBracket =>
        let (elements, rest) ← readElements text size fuel rest
        return ((start, .array elements), rest)
      | _ => wanted size "a value" ts

/-- Reads the entries of an inline table after those in `before`. -/
def readInline (text : List Char) (size : Nat) : (fuel : Nat) → List Token → Entries →
    Except Fault (Entries × List Token)
  | 0, _, _ => fault .endOfText size
  | fuel + 1, ts, before => do
    let (keys, ts) ← readKeys size ts.length ts
    let ts ← expect size .equals (skipBlank ts)
    let ((start, value), ts) ← readValue text size fuel (skipBlank ts)
    let entries ← addDotted start value keys before
    let ts := skipBlank ts
    let (closed, rest) ← eat .rightBrace ts
    if closed then return (entries, rest)
    let ts ← expect size .comma ts
    readInline text size fuel (skipBlank ts) entries

/-- Reads the rest of an array. -/
def readElements (text : List Char) (size : Nat) : (fuel : Nat) → Reading (List (Nat × Written))
  | 0, _ => fault .endOfText size
  | fuel + 1, ts => do
    let ts ← skipLines size ts.length ts
    let (closed, rest) ← eat .rightBracket ts
    if closed then return ([], rest)
    let (value, ts) ← readValue text size fuel ts
    let ts ← skipLines size ts.length ts
    let (more, rest) ← eat .comma ts
    if more then
      let (values, rest) ← readElements text size fuel rest
      return (value :: values, rest)
    else
      let ts ← expect size .rightBracket ts
      return ([value], ts)

end

/-! ### Lines -/

/-- Reads a header after its first bracket. -/
def readHeader (size : Nat) (ts : List Token) : Except Fault ((Bool × List String) × List Token) := do
  let (doubled, ts) ← eat .leftBracket ts
  let (keys, ts) ← readKeys size ts.length (skipBlank ts)
  let ts ← expect size .rightBracket ts
  let ts ← if doubled then expect size .rightBracket ts else pure ts
  let ts ← endLine size (skipBlank ts)
  return ((doubled, keys), ts)

/-- Reads the lines of a text onto the blocks before, newest first. -/
def readLines (text : List Char) (size : Nat) : (fuel : Nat) → List Token → List Block →
    Except Fault (List Block)
  | 0, _, blocks => .ok blocks
  | fuel + 1, ts, blocks => do
    let ts := skipBlank ts
    match ts with
    | ⟨.comment, _, _⟩ :: _ => readLines text size fuel (← endLine size ts) blocks
    | ts =>
      match ← next? ts with
      | (none, _) => return blocks
      | (some ⟨.newline, _, _⟩, rest) => readLines text size fuel rest blocks
      | (some ⟨.leftBracket, start, _⟩, rest) =>
        let ((doubled, header), rest) ← readHeader size rest
        readLines text size fuel rest (⟨start, header, doubled, []⟩ :: blocks)
      | (some _, _) =>
        let (keys, rest) ← readKeys size ts.length ts
        let rest ← expect size .equals (skipBlank rest)
        let ((start, value), rest) ← readValue text size (2 * rest.length + 1) (skipBlank rest)
        let rest ← endLine size (skipBlank rest)
        match blocks with
        | [] =>
          let entries ← addDotted start value keys []
          readLines text size fuel rest [⟨0, [], false, entries⟩]
        | block :: blocks =>
          let entries ← addDotted start value keys block.entries
          readLines text size fuel rest ({ block with entries } :: blocks)

/-- The blocks of a text, in its order. -/
def readBlocks (text : List Char) : Except Fault (List Block) := do
  let ts := tokens text
  let size := (String.ofList text).utf8ByteSize
  return (← readLines text size (ts.length + 1) ts []).reverse

end ThermalPrint.Toml
