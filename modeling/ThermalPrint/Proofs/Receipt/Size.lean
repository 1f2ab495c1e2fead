import ThermalPrint.Proofs.Json.Integer
import ThermalPrint.Proofs.Json.Source
import ThermalPrint.Proofs.Receipt.Language
import ThermalPrint.Proofs.Receipt.Settled

/-! Sizes that are read. Every JSON value is a size, which keeps the value as it is; integers of 64 bits with
a sign are levels, strings are names, and only three levels and two names have a code of their own. -/

namespace ThermalPrint

open Json

namespace Size

variable {v : Value} {size : Size}

/-- The size keeps the value that it is read of, and has the code that a printer has for that value. -/
structure StandsFor (size : Size) (v : Value) : Prop where
  level (n : Int) : (∃ m : Int64, size = .level m ∧ m.toInt = n) ↔
    v.IsInteger n ∧ -0x8000000000000000 ≤ n ∧ n < 0x8000000000000000
  named (name : String) : size = .named name ↔ v = .string name
  other (w : Value) : size = .other w ↔
    w = v ∧ (∀ n, v.IsInteger n → 0x8000000000000000 ≤ n) ∧ ∀ name, v ≠ .string name
  written : size.toJson.compact = v.compact
  double : size.code = 0x11 ↔ v.IsInteger 2 ∨ v = .string "large"
  triple : size.code = 0x22 ↔ v.IsInteger 3 ∨ v = .string "xlarge"
  quadruple : size.code = 0x33 ↔ v.IsInteger 4
  normal : size.code = 0x00 ↔
    (¬ v.IsInteger 2 ∧ v ≠ .string "large") ∧ (¬ v.IsInteger 3 ∧ v ≠ .string "xlarge") ∧ ¬ v.IsInteger 4

/-! ## Codes -/

theorem code_level (m : Int64) : code (.level m) =
    if m.toInt = 2 then 0x11 else if m.toInt = 3 then 0x22 else if m.toInt = 4 then 0x33 else 0x00 := by
  simp only [code]
  split
  · next h => rw [h]; rfl
  · next h => rw [h]; rfl
  · next h => rw [h]; rfl
  · next h₂ h₃ h₄ => rw [if_neg h₂, if_neg h₃, if_neg h₄]

theorem code_named (name : String) : code (.named name) =
    if name = "large" then 0x11 else if name = "xlarge" then 0x22 else 0x00 := by
  unfold code
  split
  · contradiction
  · next h => cases h; rfl
  · next h => cases h; rfl
  · next hlarge hxlarge h =>
    cases h
    rw [if_neg hlarge, if_neg hxlarge]
  · contradiction

/-! ## Variants -/

theorem standsFor_level (m : Int64) :
    (level m).StandsFor (.number (.integer m.toInt (exact_toInt m))) := by
  have hinteger (n : Int) : (Value.number (.integer m.toInt (exact_toInt m))).IsInteger n ↔ m.toInt = n :=
    Value.isInteger_integer_iff
  refine ⟨fun n => ?level, fun name => ⟨nofun, nofun⟩, fun w => ⟨nofun, ?other⟩, rfl, ?_, ?_, ?_, ?_⟩
  case level =>
    rw [hinteger]
    constructor
    · rintro ⟨m, ⟨⟩, rfl⟩
      exact ⟨rfl, Int64.le_toInt m, Int64.toInt_lt m⟩
    · rintro ⟨rfl, -⟩
      exact ⟨m, rfl, rfl⟩
  case other =>
    rintro ⟨-, hlevel, -⟩
    have hle := hlevel m.toInt ((hinteger _).2 rfl)
    exact absurd (Int64.toInt_lt m) (Int.not_lt.2 hle)
  all_goals
    rw [code_level]
    simp only [hinteger, reduceCtorEq, or_false, ne_eq, not_false_eq_true, and_true]
    split_ifs <;> simp_all

theorem standsFor_named (name : String) : (named name).StandsFor (.string name) := by
  have hinteger (n : Int) : ¬ (Value.string name).IsInteger n := by
    rintro ⟨_, ⟨⟩⟩
  refine ⟨fun n => ?level, fun s => ?named, fun w => ⟨nofun, ?other⟩, rfl, ?_, ?_, ?_, ?_⟩
  case level =>
    refine ⟨?_, fun h => absurd h.1 (hinteger n)⟩
    rintro ⟨_, ⟨⟩, -⟩
  case named =>
    rw [named.injEq, Value.string.injEq]
  case other =>
    exact fun h => absurd rfl (h.2.2 name)
  all_goals
    rw [code_named]
    simp only [hinteger, Value.string.injEq, false_or, not_false_eq_true, ne_eq, true_and, and_true]
    split_ifs <;> simp_all

theorem standsFor_other (hlevel : ∀ n, v.IsInteger n → 0x8000000000000000 ≤ n)
    (hnamed : ∀ name, v ≠ .string name) : (other v).StandsFor v := by
  have hsmall (n : Int) (hn : n < 0x8000000000000000) : ¬ v.IsInteger n :=
    fun h => absurd hn (Int.not_lt.2 (hlevel n h))
  have hcode : code (other v) = 0x00 := rfl
  refine ⟨fun n => ?level, fun name => ⟨nofun, ?named⟩, fun w => ?other, rfl, ?_, ?_, ?_, ?_⟩
  case level =>
    refine ⟨?_, fun h => absurd h.1 (hsmall n h.2.2)⟩
    rintro ⟨_, ⟨⟩, -⟩
  case named =>
    exact fun h => absurd h (hnamed name)
  case other =>
    constructor
    · rintro ⟨⟩
      exact ⟨rfl, hlevel, hnamed⟩
    · rintro ⟨rfl, -⟩
      rfl
  all_goals
    rw [hcode]
    simp [hsmall, hnamed]

/-- What a value in canonical form states stands for that value. -/
theorem Stated.standsFor (h : size.Stated v) (hcanonical : v.canonical = v) : size.StandsFor v := by
  cases h with
  | level m => exact standsFor_level m
  | named name => exact standsFor_named name
  | other hlevel hnamed =>
    rw [hcanonical]
    refine standsFor_other ?_ hnamed
    rintro n ⟨exact, hv⟩
    exact hlevel n exact hv

/-! ## Texts -/

/-- A value that is read of a number is an integer exactly if the number is written as one. -/
theorem isInteger_of_decodeText {d : Spaced Source} {x : NumberText} (hx : d.item = .number x)
    (h : decodeText Node.resolve d.text = .ok v) (n : Int) : v.IsInteger n ↔ x.WritesInteger n := by
  rw [d.decodeText_text, hx, Source.tree] at h
  rw [← x.read_eq_integer_iff]
  cases hread : x.numeral.read with
  | none =>
    rw [hread] at h
    cases h
  | some number =>
    rw [hread] at h
    cases h
    simp only [Value.IsInteger, Value.number.injEq, Option.some.injEq]

/-- A size is read of a text as of the value that the text writes. -/
theorem decodeText_decoder (text : String) : decodeText decoder text = (decodeText Node.resolve text).map ofJson := by
  rw [decodeText, decodeText]
  cases hvalue : (Document.ofText text).root.resolve (.text depthLimit) with
  | error f => rw [decoder, hvalue]; rfl
  | ok v =>
    rw [decoder, hvalue]
    cases (Document.ofText text).trailing <;> rfl

/-- Whatever value is read of a text, a size is read of the text and of the value, and it keeps the value and
has the code of that value. -/
theorem standsFor_of_decodeText (text : String) (v : Value) (h : decodeText Node.resolve text = .ok v) :
    ∃ size, decodeText decoder text = .ok size ∧ decodeValue decoder v = .ok size ∧ size.StandsFor v ∧
      ∀ d : Spaced Source, d.text = text → ∀ x, d.item = .number x → ∀ n,
        v.IsInteger n ↔ x.WritesInteger n := by
  have hcanonical : v.canonical = v := (Node.resolve_gives (root_of_decodeText h)).canonical
  have hstated : (ofJson v).Stated v := (ofJson_canonical_eq_iff _).1 (congrArg ofJson hcanonical)
  refine ⟨ofJson v, ?_, (reads_decoder v _).2 hstated, hstated.standsFor hcanonical, ?_⟩
  · rw [decodeText_decoder, h]
    rfl
  · rintro d rfl x hx n
    exact isInteger_of_decodeText hx h n

/-- The number 2.0 is two, and yet neither an integer nor the level of the double size. -/
theorem standsFor_of_decodeText_two : ∃ v size, decodeText Node.resolve "2.0" = .ok v ∧
    ¬ v.IsInteger 2 ∧ decodeText decoder "2.0" = .ok size ∧ size = .other v ∧ size.code = 0x00 := by
  let x : NumberText := ⟨false, ⟨2, []⟩, by decide, some ⟨0, []⟩, none⟩
  let d : Spaced Source := ⟨[], .number x, []⟩
  have htext : d.text = "2.0" := by decide
  have hread : x.numeral.read.isSome = true := by decide +kernel
  obtain ⟨number, hnumber⟩ := Option.isSome_iff_exists.1 hread
  have hv : decodeText Node.resolve "2.0" = .ok (.number number) := by
    rw [← htext, d.decodeText_text, Source.tree, hnumber]
    rfl
  obtain ⟨size, hsize, -, hstands, hinteger⟩ := standsFor_of_decodeText _ _ hv
  have hnone (n : Int) : ¬ (Value.number number).IsInteger n := by
    intro h
    have hfraction := ((hinteger d htext x rfl n).1 h).fraction
    contradiction
  have hname (name : String) : Value.number number ≠ .string name := by
    intro h
    cases h
  have hother := (hstands.other _).2 ⟨rfl, fun n hn => absurd hn (hnone n), hname⟩
  have hnormal := hstands.normal.2 ⟨⟨hnone 2, hname _⟩, ⟨hnone 3, hname _⟩, hnone 4⟩
  exact ⟨_, size, hv, hnone 2, hsize, hother, hnormal⟩

end Size

end ThermalPrint
