import ThermalPrint.Json.Fault
import ThermalPrint.Json.Tree

/-! Reading domain values off the tree of a text. Every reader walks its tree in the order of the
text, so that the first problem on the way is the one it reports, be it of form or of content. -/

namespace ThermalPrint.Json

/-- Where a tree comes from. Only a text has a limit of nesting: `levels` more arrays and objects may
be entered. -/
inductive Origin
  | text (levels : Nat)
  | value
  /-- A part of a text that was read ahead and found well formed. -/
  | ahead
deriving DecidableEq, Repr

/-- The reading of an `α` off a tree. -/
abbrev Decoder (α : Type) := Origin → Node → Except Fault α

def malformed {α : Type} (m : Malformed) : Except Fault α := .error (.malformed m)

/-- Enters an array or object. -/
def Origin.enter : Origin → Except Fault Origin
  | .text 0 => malformed .tooDeep
  | .text (n + 1) => .ok (.text n)
  | origin => .ok origin

/-- Arrays and objects may be nested this deep in a text. -/
def depthLimit : Nat := 127

namespace Absence

/-- The problem met where a value is read. -/
def problem : Absence → Malformed
  | .endOfText => .endInValue
  | .noValue => .noValue
  | .colonAtEnd => .endInObject
  | .noColon => .noColon
  | .brokenWord atEnd => if atEnd then .endInValue else .brokenWord
  | .brokenNumber atEnd => if atEnd then .endInValue else .brokenNumber

/-- The problem met where a value is skipped. -/
def skipProblem : Absence → Malformed
  | .brokenNumber _ => .brokenNumber
  | why => why.problem

end Absence

/-- The problem met at the end of an array that is read. -/
def ArrayEnd.problem? : ArrayEnd → Option Malformed
  | .closed | .cut => none
  | .endOfText => some .endInArray
  | .noComma => some .noArrayComma
  | .commaThenClose => some .trailingComma
  | .commaThenEndOfText => some .endInValue

/-- The problem met at the end of an array that is skipped. -/
def ArrayEnd.skipProblem? : ArrayEnd → Option Malformed
  | .commaThenClose => some .noValue
  | stop => stop.problem?

/-- The problem met at the end of an object that is read. -/
def ObjectEnd.problem? : ObjectEnd → Option Malformed
  | .closed | .cut => none
  | .endOfText => some .endInObject
  | .noComma => some .noObjectComma
  | .commaThenEndOfText => some .endInValue
  | .noKey true true => some .trailingComma
  | .noKey _ _ => some .keyNotString

/-- The problem met at the end of an object that is skipped. -/
def ObjectEnd.skipProblem? : ObjectEnd → Option Malformed
  | .commaThenEndOfText => some .endInObject
  | .noKey _ _ => some .keyNotString
  | stop => stop.problem?

/-- Raises a problem, if there is one. -/
def raise : Option Malformed → Except Fault Unit
  | some m => malformed m
  | none => .ok ()

/-- The problem at the end of a string literal. -/
def StringEnd.problem? : StringEnd → Option Malformed
  | .closed => none
  | .endOfText => some .endInString
  | .badEscape | .badCode => some .badEscape
  | .control => some .controlCharacter

/-- The problem at the end of a string literal whose last unit waits for the second of its pair. -/
def StringEnd.unpairedProblem : StringEnd → Malformed
  | .endOfText => .endInString
  | .badCode => .badEscape
  | .closed | .badEscape | .control => .unpairedSurrogate

/-- Code units that begin a pair. -/
def isHighSurrogate (n : Nat) : Bool := 0xD800 ≤ n && n < 0xDC00

/-- Code units that end a pair. -/
def isLowSurrogate (n : Nat) : Bool := 0xDC00 ≤ n && n < 0xE000

/-- The character that a pair of code units writes. -/
def pairedChar (high low : Nat) : Char :=
  Char.ofNat ((high - 0xD800) * 0x400 + (low - 0xDC00) + 0x10000)

namespace StringLiteral

/-- The characters of a literal's units; code units of a pair must come together. -/
def readUnits (stop : StringEnd) : List StringUnit → Except Fault (List Char)
  | [] => (raise stop.problem?).map fun _ => []
  | .char c :: rest => (readUnits stop rest).map (c :: ·)
  | .code n :: .code m :: rest =>
    if isLowSurrogate n then malformed .loneSurrogate
    else if isHighSurrogate n then
      if isLowSurrogate m then (readUnits stop rest).map (pairedChar n m :: ·)
      else malformed .loneSurrogate
    else (readUnits stop (.code m :: rest)).map (Char.ofNat n :: ·)
  | [.code n] =>
    if isLowSurrogate n then malformed .loneSurrogate
    else if isHighSurrogate n then malformed stop.unpairedProblem
    else (raise stop.problem?).map fun _ => [Char.ofNat n]
  | .code n :: .char c :: rest =>
    if isLowSurrogate n then malformed .loneSurrogate
    else if isHighSurrogate n then malformed .unpairedSurrogate
    else (readUnits stop (.char c :: rest)).map (Char.ofNat n :: ·)

/-- The text of a literal. -/
def read (s : StringLiteral) : Except Fault String := (readUnits s.stop s.units).map String.ofList

/-- A literal that is skipped need not pair its code units. -/
def skip (s : StringLiteral) : Except Fault Unit := raise s.stop.problem?

end StringLiteral

/-- A member of a text's object is met after its key, so that its colon may still be missing. -/
def Atom.skip : Atom → Except Fault Unit
  | .string s => s.skip
  | .absent why => malformed why.skipProblem
  | .null | .bool _ | .number _ | .beyondRange => .ok ()

mutual

/-- Passes over a value of which only the form is checked. Depth, the range of numbers and the pairing
of code units are not looked at. -/
def Node.skip : Node → Except Fault Unit
  | .atom a => a.skip
  | .array elements stop => do
    skipElements elements
    raise stop.skipProblem?
  | .object members stop => do
    skipMembers members
    raise stop.skipProblem?

def skipElements : List Node → Except Fault Unit
  | [] => .ok ()
  | e :: es => do
    e.skip
    skipElements es

def skipMembers : List (StringLiteral × Node) → Except Fault Unit
  | [] => .ok ()
  | (key, v) :: ms => do
    key.skip
    v.skip
    skipMembers ms

end

/-- Reads an atom as the value that it is. -/
def Atom.resolve : Atom → Except Fault Value
  | .null => .ok .null
  | .bool b => .ok (.bool b)
  | .number n => .ok (.number n)
  | .beyondRange => malformed .numberRange
  | .string s => s.read.map .string
  | .absent why => malformed why.problem

mutual

/-- Reads a whole value, whatever it is; its objects are in canonical form. -/
def Node.resolve (origin : Origin) : Node → Except Fault Value
  | .atom a => a.resolve
  | .array elements stop => do
    let vs ← resolveElements (← origin.enter) elements
    raise stop.problem?
    return .array vs
  | .object members stop => do
    let ms ← resolveMembers (← origin.enter) members
    raise stop.problem?
    return .object (Value.sortMembers ms)

def resolveElements (origin : Origin) : List Node → Except Fault (List Value)
  | [] => .ok []
  | e :: es => do
    let v ← e.resolve origin
    let vs ← resolveElements origin es
    return v :: vs

def resolveMembers (origin : Origin) : List (StringLiteral × Node) → Except Fault (List (String × Value))
  | [] => .ok []
  | (key, e) :: ms => do
    let k ← key.read
    let v ← e.resolve origin
    let rest ← resolveMembers origin ms
    return (k, v) :: rest

end

/-- What is found where something else is expected. Of an array or object nothing is read then. -/
def Node.found : Node → Except Fault Found
  | .atom .null => .ok .null
  | .atom (.bool b) => .ok (.bool b)
  | .atom (.number n) => .ok (.number n)
  | .atom .beyondRange => malformed .numberRange
  | .atom (.string s) => s.read.map .string
  | .atom (.absent why) => malformed why.problem
  | .array _ _ => .ok .sequence
  | .object _ _ => .ok .map

/-- Reports a value of another type than the expected one. -/
def mismatch {α : Type} (node : Node) (expected : String) : Except Fault α := do
  .error (.wrongType (← node.found) expected)

namespace Decoder

def string : Decoder String
  | _, .atom (.string s) => s.read
  | _, node => mismatch node "a string"

def bool : Decoder Bool
  | _, .atom (.bool b) => .ok b
  | _, node => mismatch node "a boolean"

/-- The integers from zero to below `limit`, called `name`. -/
def natural (name : String) (limit : Nat) : Decoder Nat
  | _, .atom (.number (.integer n h)) =>
    if 0 ≤ n ∧ n < limit then .ok n.toNat else .error (.wrongValue (.number (.integer n h)) name)
  | _, node => mismatch node name

/-- A value that may be null. -/
def option {α : Type} (d : Decoder α) : Decoder (Option α)
  | _, .atom .null => .ok none
  | origin, node => (d origin node).map some

def elements {α : Type} (d : Decoder α) (origin : Origin) : List Node → Except Fault (List α)
  | [] => .ok []
  | e :: es => do
    let x ← d origin e
    let xs ← elements d origin es
    return x :: xs

def list {α : Type} (d : Decoder α) : Decoder (List α)
  | origin, .array es stop => do
    let xs ← elements d (← origin.enter) es
    raise stop.problem?
    return xs
  | _, node => mismatch node "a sequence"

/-- Looks a variant's name up. -/
def lookup {α : Type} (variants : List (String × α)) (name : String) : Except Fault α :=
  match variants.find? (·.1 == name) with
  | some (_, a) => .ok a
  | none => .error (.unknownVariant name (variants.map (·.1)))

/-- The null that stands beside the name of a variant. -/
def unit : Decoder Unit
  | _, .atom .null => .ok ()
  | _, node => mismatch node "unit"

/-- A variant without data: its name, or an object with its name alone, at which null stands. -/
def variant {α : Type} (variants : List (String × α)) : Decoder α
  | _, .atom (.string s) => do lookup variants (← s.read)
  | _, .atom (.absent (.brokenWord _)) | _, .atom (.absent (.brokenNumber _)) => malformed .noValue
  | _, .atom (.absent why) => malformed why.problem
  | .text levels, .object members stop => do
    let origin ← Origin.enter (.text levels)
    match members, stop with
    | (key, v) :: rest, stop =>
      let a ← lookup variants (← key.read)
      unit origin v
      match rest, stop with
      | [], .closed => return a
      | [], .endOfText => malformed .endInObject
      | _, _ => malformed .noValue
    | [], .noKey _ _ => malformed .keyNotString
    | [], .endOfText => malformed .endInValue
    | [], _ => malformed .noValue
  | .text _, _ => malformed .noValue
  | origin, .object members _ =>
    match members with
    | [(key, v)] => do
      let a ← lookup variants (← key.read)
      unit origin v
      return a
    | _ => .error (.wrongValue .map "map with a single key")
  | _, node => mismatch node "string or map"

end Decoder

/-- One field of a record that is being collected in a `σ`. -/
structure Field (σ : Type) where
  name : String
  given : σ → Bool
  take : Origin → Node → σ → Except Fault σ

/-- A field that is kept in an optional part of the record being collected. -/
def Field.of {σ α : Type} (name : String) (get : σ → Option α) (put : α → σ → σ) (d : Decoder α) :
    Field σ where
  name := name
  given s := (get s).isSome
  take origin node s := (d origin node).map (put · s)

/-- The JSON form of a record: an object with its fields, or an array of them in their order. -/
structure RecordForm (σ α : Type) where
  name : String
  fields : List (Field σ)
  empty : σ
  /-- The record, or the name of the first field without a value. -/
  complete : σ → Except String α

namespace RecordForm

variable {σ α : Type}

/-- A count of elements, in words. -/
def counted (n : Nat) : String := if n = 1 then s!"{n} element" else s!"{n} elements"

/-- What follows the last field in an array is refused. -/
def surplus (origin : Origin) (total : Nat) (fields : Nat) (rest : List Node) (stop : ArrayEnd) :
    Except Fault Unit :=
  match origin, rest, stop with
  | .text _, [], .closed => .ok ()
  | .text _, [], .endOfText => malformed .endInArray
  | .text _, [], .commaThenClose => malformed .trailingComma
  | .text _, _, _ => malformed .trailingCharacters
  | _, [], _ => .ok ()
  | .value, _, _ => .error (.wrongLength total "fewer elements in array")
  | .ahead, _, _ => .error (.wrongLength total (counted fields ++ " in sequence"))

/-- Fills the fields in their order; the elements that are left. -/
def fill (origin : Origin) : List (Field σ) → List Node → σ → Except Fault (σ × List Node)
  | f :: fs, e :: es, s => do fill origin fs es (← f.take origin e s)
  | _, es, s => .ok (s, es)

/-- Takes the members that are fields and passes over the others. A field may be given once. -/
def takeMembers (fields : List (Field σ)) (origin : Origin) :
    List (StringLiteral × Node) → σ → Except Fault σ
  | [], s => .ok s
  | (key, v) :: ms, s => do
    let name ← key.read
    match fields.find? (·.name == name) with
    | some f =>
      if f.given s then .error (.duplicateField name)
      else takeMembers fields origin ms (← f.take origin v s)
    | none => do
      v.skip
      takeMembers fields origin ms s

def decoder (form : RecordForm σ α) : Decoder α
  | origin, .array es stop => do
    let inner ← origin.enter
    let (s, rest) ← fill inner form.fields es form.empty
    if es.length < form.fields.length then raise stop.problem?
    match form.complete s with
    | .error missing =>
      let place := form.fields.findIdx (·.name == missing)
      .error (.wrongLength place
        s!"struct {form.name} with {counted form.fields.length}")
    | .ok a =>
      if es.length < form.fields.length then return a
      surplus origin es.length form.fields.length rest stop
      return a
  | origin, .object members stop => do
    let inner ← origin.enter
    let s ← takeMembers form.fields inner members form.empty
    raise stop.problem?
    match form.complete s with
    | .error missing => .error (.missingField missing)
    | .ok a => return a
  | _, node => mismatch node s!"struct {form.name}"

end RecordForm

/-- Reads a text that holds one value. -/
def decodeText {α : Type} (d : Decoder α) (text : String) : Except Fault α := do
  let doc := Document.ofText text
  let a ← d (.text depthLimit) doc.root
  if doc.trailing then malformed .trailingCharacters
  return a

/-- Reads a value held in memory, whose objects are walked in the order of their keys. -/
def decodeValue {α : Type} (d : Decoder α) (v : Value) : Except Fault α :=
  d .value (.ofValue v.canonical)

end ThermalPrint.Json
