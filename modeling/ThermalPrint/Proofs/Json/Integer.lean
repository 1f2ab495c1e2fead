import ThermalPrint.Proofs.Json.Token
import ThermalPrint.Proofs.Text.Quad

/-! Integers as they are written. A number is read as an integer exactly if it is written as one of 64 bits,
and every such integer is written in one way. -/

namespace ThermalPrint.Json

variable {n : Int} {m k : Nat}

/-- The value is an integer, and not a floating-point number of the same magnitude. -/
def Value.IsInteger (v : Value) (n : Int) : Prop := ∃ exact, v = .number (.integer n exact)

theorem Value.isInteger_integer_iff {k : Int} {exact : Exact n} :
    (Value.number (.integer n exact)).IsInteger k ↔ n = k := by
  constructor
  · rintro ⟨_, ⟨⟩⟩
    rfl
  · rintro rfl
    exact ⟨exact, rfl⟩

namespace NumberText

/-- The integer that the digits before the point write, with the sign before them. -/
def integer (x : NumberText) : Int :=
  if x.negative then -(Nat.ofDigitChars 10 x.whole.chars 0) else Nat.ofDigitChars 10 x.whole.chars 0

/-- The number is written as an integer of 64 bits: without fraction and exponent, and not as minus zero. -/
structure WritesInteger (x : NumberText) (n : Int) : Prop where
  fraction : x.fraction = none
  exponent : x.exponent = none
  value : x.integer = n
  ne_zero : x.negative = true → n ≠ 0
  exact : Exact n

end NumberText

/-! ## Digits -/

namespace Digits

variable (ds : Digits)

theorem isDigits_chars : Text.isDigits ds.chars = true := by
  have hdigit : ∀ d : Fin 10, (Nat.digitChar d).isDigit = true := by decide
  refine Text.isDigits_iff.2 ⟨List.cons_ne_nil _ _, fun c hc => ?_⟩
  rw [chars, values, List.map_map] at hc
  obtain ⟨d, -, rfl⟩ := List.mem_map.1 hc
  exact hdigit d

theorem ofDigitChars_chars : Nat.ofDigitChars 10 ds.chars 0 = Numeral.digitsValue ds.values 0 := by
  have hdigit : ∀ d : Fin 10, (Nat.digitChar d).toNat - '0'.toNat = d.val := by decide
  have hfold (fs : List (Fin 10)) (m : Nat) :
      Nat.ofDigitChars 10 ((fs.map Fin.val).map Nat.digitChar) m =
        Numeral.digitsValue (fs.map Fin.val) m := by
    induction fs generalizing m with
    | nil => rfl
    | cons f fs ih =>
      rw [List.map_cons, List.map_cons, Nat.ofDigitChars_cons, hdigit, ih, Nat.mul_comm]
      rfl
  exact hfold (ds.first :: ds.rest) 0

theorem isPadded_chars (h : ds.first = 0 → ds.rest = []) : Text.isPadded ds.chars = false := by
  have hzero : ∀ d : Fin 10, Nat.digitChar d = '0' → d = 0 := by decide
  unfold Text.isPadded
  split
  · next c cs hchars =>
    obtain ⟨hfirst, hrest⟩ := List.cons.inj hchars
    rw [h (hzero _ hfirst)] at hrest
    cases hrest
  · rfl

/-- Digits without a leading zero are those in which their value is written. -/
theorem chars_eq (h : ds.first = 0 → ds.rest = []) :
    ds.chars = Decimal.digitChars (Nat.ofDigitChars 10 ds.chars 0) :=
  (Text.digitChars_digitsValue ds.isDigits_chars (ds.isPadded_chars h)).symm

end Digits

/-! ## Reading and writing -/

namespace Numeral

theorem digitsValue_of_readDigits {ds : List Nat} (h : readDigits m ds = (k, [])) : digitsValue ds m = k := by
  induction ds generalizing m with
  | nil => exact congrArg Prod.fst h
  | cons d ds ih =>
    rw [readDigits] at h
    split at h
    · exact ih h
    · cases h

/-- A numeral is read as an integer exactly if it has no fraction and no exponent, and is not minus zero. -/
theorem read_eq_integer_iff (y : Numeral) (n : Int) : (∃ exact, y.read = some (.integer n exact)) ↔
    y.fraction = [] ∧ y.exponent = none ∧
      (if y.negative then -(digitsValue y.whole 0) else digitsValue y.whole 0 : Int) = n ∧
      (y.negative = true → n ≠ 0) ∧ Exact n := by
  constructor
  · rintro ⟨exact, h⟩
    have hinteger : y.integer? = some (.integer n exact) := by
      rw [read] at h
      cases hinteger : y.integer? with
      | some number =>
        rw [hinteger] at h
        exact h
      | none =>
        rw [hinteger] at h
        obtain ⟨f, -, hf⟩ := Option.map_eq_some_iff.1 h
        cases hf
    simp only [integer?, Option.ite_none_left_eq_some, Option.ite_none_right_eq_some,
      Option.dite_none_right_eq_some, Option.some.injEq, Number.integer.injEq] at hinteger
    obtain ⟨hwhole, ⟨hbeyond, hzero⟩, -, hvalue⟩ := hinteger
    have hdigits : digitsValue y.whole 0 = (readDigits 0 y.whole).1 :=
      digitsValue_of_readDigits (Prod.ext rfl (List.isEmpty_iff.1 hbeyond))
    have hparts : y.fraction.isEmpty = true ∧ y.exponent.isNone = true := by simpa [isWhole] using hwhole
    rw [← hdigits] at hzero hvalue
    refine ⟨List.isEmpty_iff.1 hparts.1, Option.isNone_iff_eq_none.1 hparts.2, hvalue, ?_, exact⟩
    intro hnegative hn
    rw [if_pos hnegative] at hvalue
    exact hzero ⟨hnegative, by omega⟩
  · rintro ⟨hfraction, hexponent, hvalue, hzero, exact⟩
    refine ⟨exact, ?_⟩
    obtain ⟨negative, whole, fraction, exponent⟩ := y
    dsimp only at hfraction hexponent hvalue hzero
    have hsign : negative = decide (n < 0) := by
      cases negative with
      | false =>
        rw [eq_comm, decide_eq_false_iff_not, ← hvalue]
        exact Int.not_lt.2 (Int.natCast_nonneg _)
      | true =>
        rw [eq_comm, decide_eq_true_eq]
        have hn := hzero rfl
        rw [if_pos rfl] at hvalue
        omega
    have hdigits : digitsValue whole 0 = n.natAbs := by
      rw [← hvalue]
      cases negative <;> simp
    rw [hfraction, hexponent, hsign]
    exact read_integer exact hdigits

end Numeral

namespace NumberText

variable {x : NumberText}

theorem WritesInteger.chars_eq_wholeChars (h : x.WritesInteger n) : x.chars = x.wholeChars := by
  rw [chars, fractionChars, exponentChars, h.fraction, h.exponent]
  exact List.append_nil _

/-- An integer is written in its own digits. -/
theorem WritesInteger.chars_eq (h : x.WritesInteger n) : x.chars = integerText n := by
  have hwhole := x.whole.chars_eq x.noLeadingZero
  rw [h.chars_eq_wholeChars, wholeChars, hwhole, integerText]
  obtain ⟨-, -, hvalue, hzero, -⟩ := h
  rw [integer] at hvalue
  generalize Nat.ofDigitChars 10 x.whole.chars 0 = m at hvalue
  cases hnegative : x.negative with
  | false =>
    rw [hnegative, if_neg Bool.false_ne_true] at hvalue
    subst hvalue
    rw [if_neg (Int.not_lt.2 (Int.natCast_nonneg m))]
    rfl
  | true =>
    have hn := hzero hnegative
    rw [hnegative, if_pos rfl] at hvalue
    subst hvalue
    have hneg : -(m : Int) < 0 := by omega
    rw [if_pos hneg, Int.natAbs_neg]
    rfl

/-- An integer in quotes needs no escapes. -/
theorem WritesInteger.chars_ofString (h : x.WritesInteger n) :
    (StringText.ofString (String.ofList x.chars)).chars = '"' :: (x.chars ++ ['"']) := by
  have hdigit : ∀ d : Fin 10, Value.escapedChar (Nat.digitChar d) = [Nat.digitChar d] := by decide
  have hplain : ∀ c ∈ x.chars, Value.escapedChar c = [c] := by
    intro c hc
    rw [h.chars_eq_wholeChars, wholeChars, Digits.chars, Digits.values, List.map_map] at hc
    rcases List.mem_append.1 hc with hsign | hc
    · split at hsign
      · cases List.mem_singleton.1 hsign
        rfl
      · cases hsign
    · obtain ⟨d, -, rfl⟩ := List.mem_map.1 hc
      exact hdigit d
  have hchars : x.chars.flatMap Value.escapedChar = x.chars := by
    rw [List.flatMap_def, List.map_congr_left hplain, ← List.flatMap_def, List.flatMap_singleton']
  rw [StringText.chars_ofString, Value.stringText, String.toList_ofList, hchars]

/-- A number is read as an integer exactly if it is written as one. -/
theorem read_eq_integer_iff (x : NumberText) (n : Int) :
    (∃ exact, x.numeral.read = some (.integer n exact)) ↔ x.WritesInteger n := by
  have hfraction : x.numeral.fraction = [] ↔ x.fraction = none := by
    cases hx : x.fraction <;> simp [numeral, hx, Digits.values]
  have hexponent : x.numeral.exponent = none ↔ x.exponent = none := Option.map_eq_none_iff
  have hvalue : (if x.numeral.negative then -(Numeral.digitsValue x.numeral.whole 0)
      else Numeral.digitsValue x.numeral.whole 0 : Int) = x.integer := by
    rw [integer, Digits.ofDigitChars_chars]
    rfl
  rw [Numeral.read_eq_integer_iff, hfraction, hexponent, hvalue]
  constructor
  · rintro ⟨hf, he, hv, hz, exact⟩
    exact ⟨hf, he, hv, hz, exact⟩
  · rintro ⟨hf, he, hv, hz, exact⟩
    exact ⟨hf, he, hv, hz, exact⟩

end NumberText

end ThermalPrint.Json
