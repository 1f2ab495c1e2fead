import ThermalPrint.Toml.Fault

/-! The tokens of a TOML text, each with the bytes between which it stands. A text that cannot be
read to its end has the fault as its last token, which is met only when reading comes that far. -/

namespace ThermalPrint.Toml

inductive Kind
  | newline
  | blank (cs : List Char)
  | comment
  | equals | period | comma | colon | plus
  | leftBrace | rightBrace | leftBracket | rightBracket
  /-- Letters, digits, `-` and `_`. -/
  | word (cs : List Char)
  | text (value : String) (multiline : Bool)
  | broken (fault : Fault)
deriving DecidableEq, Repr

structure Token where
  kind : Kind
  start : Nat
  stop : Nat
deriving DecidableEq, Repr

/-- How a token is called in messages. -/
def Kind.name : Kind → String
  | .newline => "a newline"
  | .blank _ => "whitespace"
  | .comment => "a comment"
  | .equals => "an equals"
  | .period => "a period"
  | .comma => "a comma"
  | .colon => "a colon"
  | .plus => "a plus"
  | .leftBrace => "a left brace"
  | .rightBrace => "a right brace"
  | .leftBracket => "a left bracket"
  | .rightBracket => "a right bracket"
  | .word _ => "an identifier"
  | .text _ true => "a multiline string"
  | .text _ false => "a string"
  | .broken _ => "nothing"

/-- Characters with the bytes at which they begin. -/
abbrev Located := List (Nat × Char)

/-- Locates the characters of a text; a carriage return before a line feed is left out. -/
def locate : Nat → List Char → Located
  | _, [] => []
  | pos, '\r' :: '\n' :: cs => (pos, '\n') :: locate (pos + 2) cs
  | pos, c :: cs => (pos, c) :: locate (pos + c.utf8Size) cs

def isWordChar (c : Char) : Bool := c.isAlphanum || c = '-' || c = '_'

/-- Characters that a string may hold as themselves. -/
def isStringChar (c : Char) : Bool := c = '\t' || (0x20 ≤ c.toNat && c.toNat ≠ 0x7F)

def fault {α : Type} (problem : Problem) (start : Nat) : Except Fault α :=
  .error { problem, at? := some start }

/-- Reads `n` hexadecimal digits onto `value`; `start` is where the string began. -/
def readHex (start : Nat) : Nat → Nat → Located → Except Fault (Nat × Located)
  | 0, value, cs => .ok (value, cs)
  | n + 1, value, (i, c) :: cs =>
    if c.isDigit then readHex start n (16 * value + (c.toNat - 48)) cs
    else if 'a' ≤ c ∧ c ≤ 'f' then readHex start n (16 * value + (c.toNat - 87)) cs
    else if 'A' ≤ c ∧ c ≤ 'F' then readHex start n (16 * value + (c.toNat - 55)) cs
    else fault (.badHexEscape c) i
  | _ + 1, _, [] => fault .unterminatedString start

def isBlankChar (c : Char) : Bool := c = ' ' || c = '\t'

/-- Reads what follows a backslash: the characters that it stands for. A multi-line string may break
its line there, and continues with the next character that is not blank. -/
def readEscape (start : Nat) (multiline : Bool) : Located → Except Fault (List Char × Located)
  | [] => fault .unterminatedString start
  | (i, c) :: cs =>
    match c with
    | '"' => .ok (['"'], cs)
    | '\\' => .ok (['\\'], cs)
    | 'b' => .ok (['\x08'], cs)
    | 'f' => .ok (['\x0c'], cs)
    | 'n' => .ok (['\n'], cs)
    | 'r' => .ok (['\r'], cs)
    | 't' => .ok (['\t'], cs)
    | 'u' => code i 4 cs
    | 'U' => code i 8 cs
    | c =>
      if multiline ∧ (c = '\n' ∨ isBlankChar c) then
        let rest := if c = '\n' then cs else cs.dropWhile (isBlankChar ·.2)
        match rest with
        | (_, d) :: _ =>
          if c = '\n' ∨ d = '\n' then
            .ok ([], rest.dropWhile fun p => p.2 = '\n' || isBlankChar p.2)
          else fault (.badEscape c) i
        | [] => .ok ([], [])
      else fault (.badEscape c) i
where
  code (i digits : Nat) (cs : Located) : Except Fault (List Char × Located) := do
    let (n, rest) ← readHex start digits 0 cs
    if n.isValidChar then return ([Char.ofNat n], rest) else fault (.badEscapeValue n) i

/-- Reads a string after its opening quotes. `first` says that nothing has been read yet: a newline
there does not count. -/
def readString (quote : Char) (start : Nat) (multiline : Bool) :
    (fuel : Nat) → (first : Bool) → List Char → Located → Except Fault (List Char × Located)
  | 0, _, _, _ => fault .unterminatedString start
  | _ + 1, _, _, [] => fault .unterminatedString start
  | fuel + 1, first, acc, (i, c) :: cs =>
    if c = '\n' then
      if !multiline then fault .newlineInString i
      else readString quote start multiline fuel false (if first then acc else '\n' :: acc) cs
    else if c = quote then
      if !multiline then .ok (acc.reverse, cs)
      else
        let quotes := 1 + (cs.takeWhile (·.2 = quote)).length
        if quotes < 3 then
          readString quote start multiline fuel false (List.replicate quotes quote ++ acc)
            (cs.drop (quotes - 1))
        else
          let inside := min (quotes - 3) 2
          .ok (acc.reverse ++ List.replicate inside quote, cs.drop (2 + inside))
    else if c = '\\' ∧ quote = '"' then do
      let (escaped, rest) ← readEscape start multiline cs
      readString quote start multiline fuel false (escaped.reverse ++ acc) rest
    else if isStringChar c then readString quote start multiline fuel false (c :: acc) cs
    else fault (.charInString c) i

/-- Reads the string that begins with a quote at `start`; `cs` follows the quote. -/
def readQuoted (quote : Char) (start : Nat) (cs : Located) : Except Fault (Kind × Located) :=
  match cs with
  | (_, a) :: (_, b) :: rest =>
    if a = quote ∧ b = quote then do
      let (value, rest) ← readString quote start true (cs.length + 1) true [] rest
      return (.text (String.ofList value) true, rest)
    else short
  | _ => short
where
  short : Except Fault (Kind × Located) := do
    let (value, rest) ← readString quote start false (cs.length + 1) true [] cs
    return (.text (String.ofList value) false, rest)

/-- The token that is one character. -/
def punctuation? : Char → Option Kind
  | '\n' => some .newline
  | '=' => some .equals
  | '.' => some .period
  | ',' => some .comma
  | ':' => some .colon
  | '+' => some .plus
  | '\x7b' => some .leftBrace
  | '\x7d' => some .rightBrace
  | '[' => some .leftBracket
  | ']' => some .rightBracket
  | _ => none

/-- The token that begins with the character `c` at byte `i`, and what follows it. -/
def readToken (i : Nat) (c : Char) (cs : Located) : Except Fault (Kind × Located) :=
  match punctuation? c with
  | some kind => .ok (kind, cs)
  | none =>
    if isBlankChar c then
      let blank := cs.takeWhile (isBlankChar ·.2)
      .ok (.blank (c :: blank.map (·.2)), cs.drop blank.length)
    else if c = '#' then
      .ok (.comment, cs.dropWhile fun p => p.2 = '\t' || 0x20 ≤ p.2.toNat)
    else if c = '\'' ∨ c = '"' then readQuoted c i cs
    else if isWordChar c then
      let word := cs.takeWhile (isWordChar ·.2)
      .ok (.word (c :: word.map (·.2)), cs.drop word.length)
    else fault (.unexpected c) i

/-- The tokens of a text of `size` bytes. Every token takes a character, so that the length of the
text is fuel enough. -/
def readTokens (size : Nat) : Nat → Located → List Token
  | 0, _ | _, [] => []
  | fuel + 1, (i, c) :: cs =>
    match readToken i c cs with
    | .error f => [⟨.broken f, i, size⟩]
    | .ok (kind, rest) =>
      ⟨kind, i, (rest.head?.map (·.1)).getD size⟩ :: readTokens size fuel rest

/-- The tokens of a text; a byte-order mark at its start does not count. -/
def tokens (text : List Char) : List Token :=
  let size := (String.ofList text).utf8ByteSize
  let located := match text with
    | '\ufeff' :: rest => locate 3 rest
    | _ => locate 0 text
  readTokens size (located.length + 1) located

end ThermalPrint.Toml
