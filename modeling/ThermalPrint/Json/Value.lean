import ThermalPrint.Json.Number

/-! JSON values held in memory, their canonical form, and their compact and indented texts. -/

namespace ThermalPrint.Json

inductive Value
  | null
  | bool (b : Bool)
  | number (n : Number)
  | string (s : String)
  | array (elements : List Value)
  | object (members : List (String × Value))
deriving BEq

namespace Value

/-- Puts a member at its place by its key, instead of one with the same key. -/
def insertMember (key : String) (value : Value) : List (String × Value) → List (String × Value)
  | [] => [(key, value)]
  | (k, v) :: rest =>
    if key < k then (key, value) :: (k, v) :: rest
    else if key = k then (key, value) :: rest
    else (k, v) :: insertMember key value rest

/-- Members in ascending order of their keys; of several with one key, the last. -/
def sortMembers (members : List (String × Value)) : List (String × Value) :=
  members.foldl (fun sorted (k, v) => insertMember k v sorted) []

mutual

/-- The value with the members of every object in canonical order. -/
def canonical : Value → Value
  | .array elements => .array (canonicalElements elements)
  | .object members => .object (sortMembers (canonicalMembers members))
  | v => v

def canonicalElements : List Value → List Value
  | [] => []
  | v :: vs => v.canonical :: canonicalElements vs

def canonicalMembers : List (String × Value) → List (String × Value)
  | [] => []
  | (k, v) :: ms => (k, v.canonical) :: canonicalMembers ms

end

/-- A character inside a string literal. -/
def escapedChar (c : Char) : List Char :=
  match c with
  | '"' => ['\\', '"']
  | '\\' => ['\\', '\\']
  | '\x08' => ['\\', 'b']
  | '\t' => ['\\', 't']
  | '\n' => ['\\', 'n']
  | '\x0c' => ['\\', 'f']
  | '\r' => ['\\', 'r']
  | c =>
    if c.toNat < 0x20 then
      ['\\', 'u', '0', '0', Nat.digitChar (c.toNat / 16), Nat.digitChar (c.toNat % 16)]
    else [c]

/-- A string literal. -/
def stringText (s : String) : List Char := '"' :: (s.toList.flatMap escapedChar ++ ['"'])

mutual

/-- The compact text of a value. -/
def chars : Value → List Char
  | .null => ['n', 'u', 'l', 'l']
  | .bool true => ['t', 'r', 'u', 'e']
  | .bool false => ['f', 'a', 'l', 's', 'e']
  | .number n => n.text
  | .string s => stringText s
  | .array [] => ['[', ']']
  | .array (v :: vs) => '[' :: (v.chars ++ tailChars vs)
  | .object [] => ['\x7b', '\x7d']
  | .object ((k, v) :: ms) => '\x7b' :: (stringText k ++ ':' :: (v.chars ++ tailMembers ms))

/-- The elements after the first, and the end of the array. -/
def tailChars : List Value → List Char
  | [] => [']']
  | v :: vs => ',' :: (v.chars ++ tailChars vs)

/-- The members after the first, and the end of the object. -/
def tailMembers : List (String × Value) → List Char
  | [] => ['\x7d']
  | (k, v) :: ms => ',' :: (stringText k ++ ':' :: (v.chars ++ tailMembers ms))

end

def compact (v : Value) : String := String.ofList v.chars

/-- A new line at a depth of two blanks each. -/
def newline (depth : Nat) : List Char := '\n' :: List.replicate (2 * depth) ' '

mutual

/-- The text of a value with one element or member a line. -/
def indentedChars (depth : Nat) : Value → List Char
  | .array (v :: vs) =>
    '[' :: (newline (depth + 1) ++ v.indentedChars (depth + 1) ++ indentedTail depth vs)
  | .object ((k, v) :: ms) =>
    '\x7b' :: (newline (depth + 1) ++ stringText k ++ ':' :: ' ' ::
      (v.indentedChars (depth + 1) ++ indentedMembers depth ms))
  | .array [] => ['[', ']']
  | .object [] => ['\x7b', '\x7d']
  | .null => chars .null
  | .bool b => chars (.bool b)
  | .number n => n.text
  | .string s => stringText s

def indentedTail (depth : Nat) : List Value → List Char
  | [] => newline depth ++ [']']
  | v :: vs => ',' :: (newline (depth + 1) ++ v.indentedChars (depth + 1) ++ indentedTail depth vs)

def indentedMembers (depth : Nat) : List (String × Value) → List Char
  | [] => newline depth ++ ['\x7d']
  | (k, v) :: ms =>
    ',' :: (newline (depth + 1) ++ stringText k ++ ':' :: ' ' ::
      (v.indentedChars (depth + 1) ++ indentedMembers depth ms))

end

def indented (v : Value) : String := String.ofList (v.indentedChars 0)

end Value

end ThermalPrint.Json
