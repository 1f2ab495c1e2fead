import ThermalPrint.Environment.Basic
import ThermalPrint.Text.Alphanumeric
import ThermalPrint.Text.Blank
import ThermalPrint.Text.Split

/-! Files that define variables, one a line. A value may be quoted, and outside single quotes it may
refer to variables that have a value already. -/

namespace ThermalPrint.Environment

/-! ### Values -/

inductive Quote
  | unquoted
  /-- Between single quotes every character stands for itself. -/
  | strong
  /-- Between double quotes a backslash and a dollar sign keep their meaning. -/
  | weak
deriving DecidableEq, Repr

/-- What the next character of a value belongs to. Names are newest character first. -/
inductive Expected
  | text
  | escape
  /-- The name of a variable after a dollar sign. -/
  | name (soFar : List Char)
  | bracedName (soFar : List Char)
  /-- Nothing but a comment may follow. -/
  | ending
  | comment
deriving DecidableEq, Repr

/-- A value that is being read, newest character first. -/
structure Reading where
  quote : Quote := .unquoted
  expected : Expected := .text
  value : List Char := []

namespace Reading

def push (c : Char) (r : Reading) : Reading := { r with expected := .text, value := c :: r.value }

/-- Puts in the value of a variable, or nothing if it has none. -/
def substitute (env : Environment) (name : List Char) (r : Reading) : Reading :=
  { r with
    expected := .text
    value := ((env.lookUp? name.reverse).getD []).reverse ++ r.value }

/-- The character that stands for an escaped one. -/
def unescape? : Char → Option Char
  | 'n' => some '\n'
  | c => if c = '\\' || c = '\'' || c = '"' || c = '$' || c = ' ' then some c else none

/-- Reads a character of the value itself. -/
def stepText (r : Reading) (c : Char) : Reading :=
  match r.quote with
  | .strong => if c = '\'' then { r with quote := .unquoted } else r.push c
  | .weak =>
    if c = '$' then { r with expected := .name [] }
    else if c = '"' then { r with quote := .unquoted }
    else if c = '\\' then { r with expected := .escape }
    else r.push c
  | .unquoted =>
    if c = '$' then { r with expected := .name [] }
    else if c = '\'' then { r with quote := .strong }
    else if c = '"' then { r with quote := .weak }
    else if c = '\\' then { r with expected := .escape }
    else if c = ' ' || c = '\t' then { r with expected := .ending }
    else r.push c

/-- Reads a character; the one after the name of a variable stands for itself. -/
def step (env : Environment) (r : Reading) (c : Char) : Option Reading :=
  match r.expected with
  | .text => some (r.stepText c)
  | .escape => (unescape? c).map r.push
  | .name soFar =>
    if Text.isAlphanumeric c then some { r with expected := .name (c :: soFar) }
    else if c = '{' ∧ soFar = [] then some { r with expected := .bracedName [] }
    else if c = '$' then some { r.substitute env soFar with expected := .name [] }
    else some ((r.substitute env soFar).push c)
  | .bracedName soFar =>
    if c = '}' then some (r.substitute env soFar)
    else some { r with expected := .bracedName (c :: soFar) }
  | .ending =>
    if c = ' ' || c = '\t' then some r
    else if c = '#' then some { r with expected := .comment }
    else none
  | .comment => some r

/-- The value when the line is at its end, unless a quote or a brace is open. -/
def finish? (env : Environment) (r : Reading) : Option (List Char) :=
  if r.quote ≠ .unquoted then none
  else match r.expected with
    | .bracedName _ => none
    | .name soFar => some (r.substitute env soFar).value.reverse
    | _ => some r.value.reverse

end Reading

/-- The value that the rest of a line writes. -/
def value? (env : Environment) (cs : List Char) : Option (List Char) := do
  (← cs.foldlM (Reading.step env) {}).finish? env

/-! ### Lines -/

def isNameChar (c : Char) : Bool := c.isAlphanum || c = '_' || c = '.'

/-- The name at the start of a text, and the text after it and its blanks. -/
def name? (cs : List Char) : Option (List Char × List Char) :=
  let name := cs.takeWhile isNameChar
  match name with
  | c :: _ =>
    if c.isAlpha || c = '_' then some (name, (cs.drop name.length).dropWhile Text.isBlank) else none
  | [] => none

/-- What a line defines: the name of a variable, and the text that writes its value. The word `export`
may stand before the name, and is a name itself when an equals sign follows. -/
def definition? (cs : List Char) : Option (List Char × List Char) := do
  let (name, cs) ← name? cs
  match cs with
  | '=' :: cs => return (name, cs.dropWhile Text.isBlank)
  | cs =>
    guard (name = "export".toList)
    let (name, cs) ← name? cs
    match cs with
    | '=' :: cs => return (name, cs.dropWhile Text.isBlank)
    | _ => none

/-- Reads a line. A blank line and a comment define nothing; `none` is a line that cannot be read. -/
def readLine (env : Environment) (line : List Char) : Option Environment :=
  match (Text.trimEnd line).dropWhile Text.isBlank with
  | [] | '#' :: _ => some env
  | cs => do
    let (name, cs) ← definition? cs
    let value ← match cs with
      | [] | '#' :: _ => pure []
      | cs => value? env cs
    return env.define (String.ofList name) (String.ofList value)

/-- Reads lines up to the first that cannot be read. -/
def readLines (env : Environment) : List (List Char) → Environment
  | [] => env
  | line :: lines =>
    match env.readLine line with
    | some env => env.readLines lines
    | none => env

/-- The environment with the variables of a file that have no value in it. -/
def withFile (env : Environment) (text : String) : Environment :=
  env.readLines (Text.split '\n' text.toList)

example : withFile [("A", "1")] "# x\n export B = \"$A \\\" b\" # y\nA=2\nC='$A'${B}$A-\n" =
    [("A", "1"), ("B", "1 \" b"), ("C", "$A1 \" b1-")] := by decide +kernel

end ThermalPrint.Environment
