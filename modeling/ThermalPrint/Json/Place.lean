import ThermalPrint.Json.Decode

/-! Where a text stops being the beginning of a JSON value. A number is judged when it is read to its
end, everything else as soon as a character does not fit. -/

namespace ThermalPrint.Json

/-- Whether more text could mend a problem. -/
def Malformed.isAtEnd : Malformed → Bool
  | .endInValue | .endInString | .endInArray | .endInObject => true
  | _ => false

/-- Reads a text as a value of any kind. -/
def readValue (text : String) : Except Fault Value :=
  decodeText (fun origin node => node.resolve origin) text

/-- Whether the exponent of a numeral passes 31 bits, so that its next digits are not looked at. -/
def Numeral.exponentIsBeyond (x : Numeral) : Bool :=
  x.exponent.any fun (_, digits) => (readExponent 0 digits).isNone

namespace Scan

/-- What is being read after some characters. -/
def after (cs : List Char) : Scan := cs.foldl (fun scan c => (scan.step c).2) .ready

/-- Whether a number is being read that the next character goes on with. -/
def isWithinNumber : Scan → Option Char → Bool
  | .number x part, some c => (x.continue? part c).isSome && !x.ordered.exponentIsBeyond
  | _, _ => false

/-- How many bytes of a character are left when it does not fit: all but its first, or those after the
four bytes of a code. -/
def unread : Scan → Char → Nat
  | .code _ bytes _, c => bytes + c.utf8Size - 4
  | _, c => c.utf8Size - 1

end Scan

/-- The problem of a text that no text after it can mend; `next` is the character that follows. -/
def lastingProblem? (cs : List Char) (next : Option Char) : Option Malformed :=
  match readValue (String.ofList cs) with
  | .error (.malformed m) =>
    if m.isAtEnd || (m = .numberRange && (Scan.after cs).isWithinNumber next) then none else some m
  | _ => none

/-- The number of characters after which the problem of a text is met. -/
def problemAt? (cs : List Char) : Option Nat :=
  (List.range (cs.length + 1)).find? fun n => (lastingProblem? (cs.take n) cs[n]?).isSome

/-- The line in which the problem of a text is met and the number of bytes read of that line. -/
def problemPlace (cs : List Char) : Nat × Nat :=
  let at? := problemAt? cs
  let seen := cs.take (at?.getD cs.length)
  let line := (seen.reverse.takeWhile (· ≠ '\n')).reverse
  let unread := match at?, seen.getLast? with
    | some _, some c => (Scan.after seen.dropLast).unread c
    | _, _ => 0
  (seen.count '\n' + 1, (String.ofList line).utf8ByteSize - unread)

example : problemPlace "\x7b\n \"é\": 1 é".toList = (2, 10) := by decide +kernel

example : problemPlace "[1,\n".toList = (2, 0) := by decide +kernel

example : problemPlace "[1e400.5]".toList = (1, 6) ∧ problemPlace "[1e99999999999]".toList = (1, 13) := by
  decide +kernel

example : problemPlace "\"\\u12€\"".toList = (1, 7) := by decide +kernel

end ThermalPrint.Json
