import ThermalPrint.Toml.Block

/-! The value that a TOML text describes. Its blocks are put together key by key: blocks whose headers
share a key make up that key's table, or its array of tables. No key may be given twice.

A table whose first key is `datetimeKey` is no table but the date or time in the string at that key.
Nothing below it is looked at, and the blocks that would go on with it are left to what is around. -/

namespace ThermalPrint.Toml

inductive Value
  | string (s : String)
  | integer (n : Int)
  | float (f : Float)
  | bool (b : Bool)
  | array (elements : List Value)
  | table (members : List (String × Value))

abbrev Members := List (String × Value)

/-- The first key of a table that stands for a date or time. -/
def datetimeKey : String := "$__toml_private_datetime"

/-- The fault of a key that is given twice. -/
def checkNew (key : String) (members : Members) : Except Fault Unit :=
  if members.any (·.1 = key) then .error { problem := .duplicateKey key, at? := none } else .ok ()

/-- The date or time that a text at byte `start` holds, in its normal form. -/
def datetimeValue (start : Nat) (cs : List Char) : Except Fault Value :=
  match datetime? cs with
  | some text => .ok (.string (String.ofList text))
  | none => fault .badDatetime start

namespace Written

/-- How a float is called. -/
def floatName (f : Float) : String := s!"floating point `{String.ofList (Decimal.Layout.plain.text f)}`"

/-- The date or time in the string that is written at byte `start`. -/
def asDatetime (start : Nat) : Written → Except Fault Value
  | .string s => datetimeValue start s.toList
  | .integer n => fault (.noDatetime s!"integer `{n}`") start
  | .float f => fault (.noDatetime (floatName f)) start
  | .bool b => fault (.noDatetime s!"boolean `{b}`") start
  | .array _ => .error { problem := .noDatetime "sequence", at? := none }
  | .datetime _ | .inline _ | .dotted _ => fault (.noDatetime "map") start

end Written

mutual

/-- The value that is written at byte `start`. -/
def Written.value (start : Nat) : Written → Except Fault Value
  | .string s => .ok (.string s)
  | .integer n => .ok (.integer n)
  | .float f => .ok (.float f)
  | .bool b => .ok (.bool b)
  | .datetime cs => datetimeValue start cs
  | .array elements => (elementValues elements).map .array
  | .inline entries | .dotted entries => (tableValue entries).mapError (·.placed start)

def elementValues : List (Nat × Written) → Except Fault (List Value)
  | [] => .ok []
  | (start, w) :: rest => do
    let v ← w.value start
    return v :: (← elementValues rest)

/-- The table of some entries, or what its first entry stands for. -/
def tableValue : List (String × Nat × Written) → Except Fault Value
  | [] => .ok (.table [])
  | (key, start, w) :: rest => do
    if key = datetimeKey then w.asDatetime start
    else
      let v ← w.value start
      return .table (← entryValues rest [(key, v)])

/-- The members that entries add to those before them. -/
def entryValues : List (String × Nat × Written) → Members → Except Fault Members
  | [], members => .ok members
  | (key, start, w) :: rest, members => do
    checkNew key members
    let v ← w.value start
    entryValues rest (members ++ [(key, v)])

end

/-- The members that the entries of a block add; a fault names the key that it is under. -/
def blockValues : Entries → Members → Except Fault Members
  | [], members => .ok members
  | (key, start, w) :: rest, members => do
    checkNew key members
    let v ← (w.value start).mapError (·.under key)
    blockValues rest (members ++ [(key, v)])

namespace Block

/-- Whether the block is about the key `key` at a depth of headers. -/
def isUnder (depth : Nat) (key : String) (b : Block) : Bool := b.header[depth]? = some key

/-- Whether the block begins an element of the array of tables at a depth of headers. -/
def beginsElement (depth : Nat) (b : Block) : Bool := b.doubled && b.header.length = depth

/-- The date or time that the block's table stands for, if it does. -/
def datetime? (b : Block) : Option (Except Fault Value) :=
  match b.entries with
  | (key, start, w) :: _ =>
    if key = datetimeKey then some ((w.asDatetime start).mapError (·.under key)) else none
  | [] => none

end Block

/-- Cuts blocks into the elements of an array of tables, each of which begins with its own block. -/
def elementBlocks (depth : Nat) : List Block → List (List Block)
  | [] => []
  | b :: bs =>
    match elementBlocks depth bs with
    | [] => [[b]]
    | (c :: cs) :: rest =>
      if c.beginsElement depth then [b] :: (c :: cs) :: rest else (b :: c :: cs) :: rest
    | [] :: rest => [b] :: rest

/-- The blocks that are not about a key, and those of them that were left when it was read. -/
def without (depth : Nat) (key : String) (left : List Block) (bs : List Block) : List Block :=
  bs.filter fun b => !b.isUnder depth key || left.any (·.start = b.start)

mutual

/-- Puts together the blocks whose headers share their first `depth` keys, onto the members that are
there already: the value, and the blocks that are left. `leader` is the block with the shortest header
so far, which no other block may repeat. -/
def assemble : (fuel : Nat) → (depth : Nat) → (leader : Block) → List Block → Members →
    Except Fault (Value × List Block)
  | 0, _, _, _, members | _, _, _, [], members => .ok (.table members, [])
  | fuel + 1, depth, leader, b :: bs, members =>
    if b.start ≠ leader.start ∧ b.header = leader.header then
      fault (.duplicateTable (".".intercalate b.header)) b.start
    else
      let leader := if b.header.length < leader.header.length then b else leader
      match b.header[depth]? with
      | none =>
        if b.doubled then fault .redefinedAsArray b.start
        else assembleOwn fuel depth leader b bs members
      | some key => do
        checkNew key members
        let begins := b.beginsElement (depth + 1)
        if members.isEmpty ∧ key = datetimeKey then
          let found := if begins then "sequence" else "map"
          .error { problem := .noDatetime found, at? := none, keys := [key] }
        else
          let group := b :: bs.filter (·.isUnder depth key)
          let (v, left) ←
            (if begins then
              (assembleElements fuel (depth + 1) [] (elementBlocks (depth + 1) group)).map
                fun (vs, left) => (.array vs, left)
            else assemble fuel (depth + 1) b group []).mapError (·.under key)
          assemble fuel depth leader (without depth key left bs) (members ++ [(key, v)])

/-- Goes on with a table's own block `b` and the blocks after it. -/
def assembleOwn : (fuel : Nat) → (depth : Nat) → (leader b : Block) → List Block → Members →
    Except Fault (Value × List Block)
  | 0, _, _, _, _, members => .ok (.table members, [])
  | fuel + 1, depth, leader, b, bs, members =>
    match members, b.datetime? with
    | [], some v => v.map fun v => (v, bs)
    | members, _ => do assemble fuel depth leader bs (← blockValues b.entries members)

/-- Puts together the elements of an array of tables. The blocks that one element leaves come first in
the next. -/
def assembleElements : (fuel : Nat) → (depth : Nat) → (left : List Block) → List (List Block) →
    Except Fault (List Value × List Block)
  | 0, _, left, _ | _, _, left, [] => .ok ([], left)
  | fuel + 1, depth, left, blocks :: rest => do
    let (v, left) ← match blocks with
      | b :: bs => assembleOwn fuel depth b b (left ++ bs) []
      | [] => pure (.table [], left)
    let (vs, left) ← assembleElements fuel depth left rest
    return (v :: vs, left)

end

/-- The value of a text: a table, or a date or time that stands for one. -/
def parse (text : List Char) : Except Fault Value := do
  match ← readBlocks text with
  | [] => return .table []
  | b :: bs =>
    let fuel := (b :: bs).foldr (fun b n => 4 * (b.header.length + 2) + n) 1
    let last := (bs.getLast?.getD b).start
    ((assemble fuel 0 b (b :: bs) []).map (·.1)).mapError (·.placed last)

end ThermalPrint.Toml
