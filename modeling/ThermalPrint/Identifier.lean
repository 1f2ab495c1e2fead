import ThermalPrint.Failure
import ThermalPrint.Ipv4
import ThermalPrint.Text.Blank
import ThermalPrint.Text.Quoted

/-! Printer identifiers: a wireless hardware address or a dotted quad, kept as it was given. -/

namespace ThermalPrint

/-- What keeps a text from being an identifier. -/
inductive IdentifierDefect
  | empty
  /-- The text has this many bytes, more than an identifier may have. -/
  | tooLong (bytes : Nat)
  | blankOrControl
deriving DecidableEq, Repr

namespace Identifier

/-- The greatest length of an identifier in bytes. -/
def maxBytes : Nat := 64

/-- The first defect of a text, in the order in which they are reported. -/
def defect? (s : String) : Option IdentifierDefect :=
  if s.isEmpty then some .empty
  else if s.utf8ByteSize > maxBytes then some (.tooLong s.utf8ByteSize)
  else if s.toList.any fun c => Text.isBlank c || Text.isControl c then some .blankOrControl
  else none

theorem defect?_eq_none_iff {s : String} : defect? s = none ↔ s ≠ "" ∧ s.utf8ByteSize ≤ maxBytes ∧
    ∀ c ∈ s.toList, Text.isBlank c = false ∧ Text.isControl c = false := by
  have hany : (s.toList.any fun c => Text.isBlank c || Text.isControl c) = false ↔
      ∀ c ∈ s.toList, Text.isBlank c = false ∧ Text.isControl c = false := by
    simp only [List.any_eq_false, Bool.not_eq_true, Bool.or_eq_false_iff]
  rw [← hany]
  unfold defect?
  split
  · next h => simp [String.isEmpty_iff.1 h]
  · next h =>
    have hne : s ≠ "" := fun e => h (String.isEmpty_iff.2 e)
    split
    · next h => simp [Nat.not_le.2 h]
    · next h => simp [hne, Nat.not_lt.1 h]

end Identifier

/-- How a defect of the text `s` is reported. -/
def IdentifierDefect.reason (s : String) : IdentifierDefect → String
  | .empty => "Identifier cannot be empty"
  | .tooLong bytes => s!"Identifier too long: {bytes} chars (max {Identifier.maxBytes})"
  | .blankOrControl =>
    s!"Identifier {Text.quoted s} must not contain whitespace or control characters"

/-- A text that names a printer. -/
@[ext]
structure Identifier where
  text : String
  sound : Identifier.defect? text = none
deriving DecidableEq

namespace Identifier

/-- The identifier with the given text, unless the text has a defect. -/
def ofText (s : String) : Except Failure Identifier :=
  match h : defect? s with
  | none => .ok ⟨s, h⟩
  | some defect => .error (.invalidIdentifier (defect.reason s))

/-- The identifier with the text of a part of a text. -/
def ofSlice (s : String.Slice) : Except Failure Identifier := ofText s.copy

/-- An identifier is displayed as it was given. -/
instance : ToString Identifier := ⟨text⟩

/-- The address that the identifier writes, if it is a dotted quad. -/
def ipv4? (id : Identifier) : Option Ipv4 := Ipv4.ofText? id.text

def isNetworkAddress (id : Identifier) : Bool := id.ipv4?.isSome

theorem ofText_eq_ok_iff {s : String} {id : Identifier} : ofText s = .ok id ↔ id.text = s := by
  unfold ofText
  split
  · next h =>
    simp only [Except.ok.injEq]
    exact ⟨fun e => e ▸ rfl, fun e => by cases id; cases e; rfl⟩
  · next d h =>
    simp only [reduceCtorEq, false_iff]
    rintro rfl
    rw [id.sound] at h
    exact absurd h (by simp)

end Identifier

end ThermalPrint
