import ThermalPrint.Json.Value
import ThermalPrint.Toml.Table

/-! Layers of settings. A layer is a tree of values that remember where they were given; a later layer
goes over an earlier one, tables key by key and everything else as a whole. -/

namespace ThermalPrint.Settings

inductive Scalar
  | nothing
  | bool (b : Bool)
  | integer (n : Int)
  | float (f : Float)
  | text (s : String)
deriving DecidableEq

/-- A value of a layer, with the name of the file or the like that gave it. Tables that were made by
putting values into them come from nowhere. -/
inductive Given
  | scalar (origin : Option String) (s : Scalar)
  | list (origin : Option String) (elements : List Given)
  | table (origin : Option String) (members : List (String × Given))

namespace Given

def emptyTable : Given := .table none []

/-- What stands at a key that has just come into being. -/
def nothing : Given := .scalar none .nothing

mutual

def ofToml (origin : String) : Toml.Value → Given
  | .string s => .scalar origin (.text s)
  | .integer n => .scalar origin (.integer n)
  | .float f => .scalar origin (.float f)
  | .bool b => .scalar origin (.bool b)
  | .array elements => .list origin (tomlElements origin elements)
  | .table members => .table origin (tomlMembers origin members)

def tomlElements (origin : String) : List Toml.Value → List Given
  | [] => []
  | v :: vs => ofToml origin v :: tomlElements origin vs

def tomlMembers (origin : String) : List (String × Toml.Value) → List (String × Given)
  | [] => []
  | (k, v) :: ms => (k, ofToml origin v) :: tomlMembers origin ms

end

mutual

/-- Integers beyond 63 bits become floats. -/
def ofJson (origin : String) : Json.Value → Given
  | .null => .scalar origin .nothing
  | .bool b => .scalar origin (.bool b)
  | .number (.integer n _) =>
    if n < 0x8000000000000000 then .scalar origin (.integer n)
    else .scalar origin (.float (UInt64.ofNat n.toNat).toFloat)
  | .number (.float f) => .scalar origin (.float f)
  | .string s => .scalar origin (.text s)
  | .array elements => .list origin (jsonElements origin elements)
  | .object members => .table origin (jsonMembers origin members)

def jsonElements (origin : String) : List Json.Value → List Given
  | [] => []
  | v :: vs => ofJson origin v :: jsonElements origin vs

def jsonMembers (origin : String) : List (String × Json.Value) → List (String × Given)
  | [] => []
  | (k, v) :: ms => (k, ofJson origin v) :: jsonMembers origin ms

end

/-- The members of a table; other values have none. -/
def members : Given → List (String × Given)
  | .table _ ms => ms
  | _ => []

/-- A table as it is, and a fresh one in place of any other value. -/
def asTable : Given → Given
  | .table origin ms => .table origin ms
  | _ => emptyTable

/-- A list as it is, and a fresh one in place of any other value. -/
def asList : Given → Given
  | .list origin es => .list origin es
  | _ => .list none []

/-- Changes the value at a key, which comes into being if it is missing. -/
def updateMember (key : String) (f : Given → Given) : List (String × Given) → List (String × Given)
  | [] => [(key, f nothing)]
  | (k, v) :: rest => if k = key then (k, f v) :: rest else (k, v) :: updateMember key f rest

/-- Changes the value at a key of what is then a table. -/
def updateKey (key : String) (f : Given → Given) (v : Given) : Given :=
  match v.asTable with
  | .table origin ms => .table origin (updateMember key f ms)
  | v => v

/-- Changes the element at a place of what is then a list, which is made long enough. A place below
zero counts from the end. -/
def updateIndex (i : Int) (f : Given → Given) (v : Given) : Given :=
  match v.asList with
  | .list origin es =>
    let place := if 0 ≤ i then i.toNat else es.length - i.natAbs
    let es := es ++ List.replicate (place + 1 - es.length) nothing
    .list origin (es.modify place f)
  | v => v

mutual

/-- Puts a value at a key of what is then a table. The members of a table are put one by one onto what
stands at the key; every other value takes its place. -/
def putKey (key : String) (value : Given) (target : Given) : Given :=
  match value with
  | .table _ ms =>
    let here := (target.members.find? (·.1 = key)).elim emptyTable (·.2)
    updateKey key (fun _ => putMembers ms here) target
  | .scalar origin s => updateKey key (fun _ => .scalar origin s) target
  | .list origin es => updateKey key (fun _ => .list origin es) target

def putMembers : List (String × Given) → Given → Given
  | [], target => target
  | (k, v) :: ms, target => putMembers ms (putKey k v target)

end

end Given

/-- A path to a value: keys with periods between them, and places of lists in brackets. -/
inductive Path
  | key (name : String)
  | child (parent : Path) (name : String)
  | index (parent : Path) (place : Int)
deriving DecidableEq, Repr

namespace Path

/-- Changes the value at a path. What is on the way becomes a table or list as needed. -/
def update (f : Given → Given) : Path → Given → Given
  | .key name, root => root.updateKey name f
  | .child parent name, root => parent.update (·.updateKey name f) root
  | .index parent place, root => parent.update (·.updateIndex place f) root

/-- Puts a value at a path. -/
def put (value : Given) : Path → Given → Given
  | .key name, root => Given.putKey name value root
  | .child parent name, root => parent.update (Given.putKey name value) root
  | .index parent place, root => parent.update (·.updateIndex place fun _ => value) root

def isNameChar (c : Char) : Bool := c.isAlphanum || c = ' ' || c = '_' || c = '-'

/-- The only blanks that may stand around a place. -/
def isBlankChar (c : Char) : Bool := c = ' ' || c = '\t'

/-- The place between brackets, and what follows them. -/
def place? (cs : List Char) : Option (Int × List Char) := do
  let cs := cs.dropWhile isBlankChar
  let (negative, cs) := match cs with
    | '-' :: cs => (true, cs)
    | cs => (false, cs)
  let digits := cs.takeWhile Char.isDigit
  guard !digits.isEmpty
  let n : Int := Toml.digitsIn 10 digits
  let n := if negative then -n else n
  guard (-0x8000000000000000 ≤ n ∧ n < 0x8000000000000000)
  match (cs.drop digits.length).dropWhile isBlankChar with
  | ']' :: rest => return (n, rest)
  | _ => none

/-- Continues a path to the end of a text. -/
def continue? : (fuel : Nat) → Path → List Char → Option Path
  | _, path, [] => some path
  | 0, _, _ => none
  | fuel + 1, path, '.' :: cs =>
    let name := cs.takeWhile isNameChar
    if name.isEmpty then none
    else continue? fuel (.child path (String.ofList name)) (cs.drop name.length)
  | fuel + 1, path, '[' :: cs => do
    let (n, rest) ← place? cs
    continue? fuel (.index path n) rest
  | _, _, _ => none

/-- The path that a text writes. A text that writes none is a key as a whole. -/
def ofText (s : String) : Path :=
  let cs := s.toList
  let name := cs.takeWhile isNameChar
  let path? := if name.isEmpty then none
    else continue? cs.length (.key (String.ofList name)) (cs.drop name.length)
  path?.getD (.key s)

end Path

/-- Puts the values of a layer, each at the path that its key writes, over what is there. -/
def overlay (layer : List (String × Given)) (target : Given) : Given :=
  layer.foldl (fun target (key, value) => (Path.ofText key).put value target) target

/-- Several layers, the later over the earlier. -/
def stack (layers : List (List (String × Given))) : List (String × Given) :=
  (layers.foldl (fun target layer => overlay layer target) Given.emptyTable).members

end ThermalPrint.Settings
