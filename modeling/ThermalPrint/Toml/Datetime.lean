import ThermalPrint.Decimal.Layout

/-! Dates and times of day, which a TOML text writes without quotes. They are kept as texts in one
normal form. -/

namespace ThermalPrint.Toml

/-- The two digits at the start of a text. -/
def twoDigits? : List Char → Option (Nat × List Char)
  | a :: b :: cs =>
    if a.isDigit ∧ b.isDigit then some (10 * (a.toNat - 48) + (b.toNat - 48), cs) else none
  | _ => none

/-- A number with zeros before it up to a width. -/
def padded (width n : Nat) : List Char :=
  let digits := Decimal.digitChars n
  List.replicate (width - digits.length) '0' ++ digits

/-- Passes over one character. -/
def expectChar (c : Char) : List Char → Option (List Char)
  | d :: cs => if d = c then some cs else none
  | [] => none

/-- A year, month and day. -/
def date? (cs : List Char) : Option (List Char × List Char) := do
  let (century, cs) ← twoDigits? cs
  let (year, cs) ← twoDigits? cs
  let (month, cs) ← twoDigits? (← expectChar '-' cs)
  let (day, cs) ← twoDigits? (← expectChar '-' cs)
  guard (1 ≤ month ∧ month ≤ 12 ∧ 1 ≤ day ∧ day ≤ 31)
  return (padded 4 (100 * century + year) ++ '-' :: padded 2 month ++ '-' :: padded 2 day, cs)

/-- A fraction of a second: nine digits count, and zeros at its end are left out. -/
def fraction? (cs : List Char) : Option (List Char × List Char) :=
  match cs with
  | '.' :: cs =>
    let digits := cs.takeWhile Char.isDigit
    if digits.isEmpty then none
    else
      let kept := ((digits.take 9).reverse.dropWhile (· = '0')).reverse
      some (if kept.isEmpty then [] else '.' :: kept, cs.drop digits.length)
  | cs => some ([], cs)

/-- A time of day. -/
def time? (cs : List Char) : Option (List Char × List Char) := do
  let (hour, cs) ← twoDigits? cs
  let (minute, cs) ← twoDigits? (← expectChar ':' cs)
  let (second, cs) ← twoDigits? (← expectChar ':' cs)
  let (fraction, cs) ← fraction? cs
  guard (hour ≤ 24 ∧ minute ≤ 59 ∧ second ≤ 59)
  return (padded 2 hour ++ ':' :: padded 2 minute ++ ':' :: padded 2 second ++ fraction, cs)

/-- The distance from universal time, at the end of a text. -/
def offset? : List Char → Option (List Char)
  | [] => some []
  | ['Z'] | ['z'] => some ['Z']
  | sign :: cs => do
    guard (sign = '+' ∨ sign = '-')
    let (hours, cs) ← twoDigits? cs
    let (minutes, cs) ← twoDigits? (← expectChar ':' cs)
    guard cs.isEmpty
    let sign := if hours = 0 then '+' else sign
    return sign :: padded 2 hours ++ ':' :: padded 2 minutes

/-- The normal form of a date, a time of day, or both. -/
def datetime? (cs : List Char) : Option (List Char) := do
  guard (3 ≤ cs.length)
  if cs[2]? = some ':' then
    let (time, rest) ← time? cs
    guard rest.isEmpty
    return time
  else
    let (date, rest) ← date? cs
    match rest with
    | c :: rest =>
      guard (c = 'T' ∨ c = 't' ∨ c = ' ')
      let (time, rest) ← time? rest
      return date ++ 'T' :: time ++ (← offset? rest)
    | [] => return date

end ThermalPrint.Toml
