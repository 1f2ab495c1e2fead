import ThermalPrint.Json.Decode
import ThermalPrint.Json.Source

/-! The tokens of written numbers and strings, whatever follows them, and what they are read as. The
compact form of an integer or a string is one of the texts that write it. -/

namespace ThermalPrint.Json

variable {rest : List Char} {n : Int} {m : Nat}

/-- The characters that may follow a value: commas, closing brackets and blanks. -/
def followers : List Char := [',', ']', '\x7d', ' ', '\t', '\n', '\r']

/-- What may follow a value. -/
def Ends (rest : List Char) : Prop := ∀ c ∈ rest.head?, c ∈ followers

theorem ends_nil : Ends [] := nofun

theorem ends_cons {c : Char} (h : c ∈ followers) : Ends (c :: rest) := by
  rintro _ ⟨⟩
  exact h

theorem ends_blanks (blanks : List Blank) (h : Ends rest) : Ends (blanks.map Blank.char ++ rest) := by
  cases blanks with
  | nil => exact h
  | cons b bs => cases b <;> exact ends_cons (by decide)

/-! ## Numbers -/

theorem Numeral.ordered_ordered (x : Numeral) : x.ordered.ordered = x := by
  obtain ⟨negative, whole, fraction, _ | ⟨s, ds⟩⟩ := x <;> simp [ordered]

theorem digit?_digitChar : ∀ d : Fin 10, digit? (Nat.digitChar d) = some d.val := by decide

namespace Scan

variable {f : List Nat → Numeral} {part next : NumberPart}

theorem run_blank (b : Blank) (rest : List Char) : run .ready (b.char :: rest) = run .ready rest := by
  cases b <;> rfl

theorem run_continue {x y : Numeral} {c : Char} (h : x.continue? part c = some (y, next)) :
    run (.number x part) (c :: rest) = run (.number y next) rest := by
  simp [run, step, h]

/-- Digits that leave a number in the same part of itself; `f` is the number up to those read. -/
theorem run_digitList
    (h : ∀ (d : Fin 10) (ds : List Nat), (f ds).continue? part (Nat.digitChar d) = some (f (d :: ds), part))
    (ds : List (Fin 10)) (before : List Nat) :
    run (.number (f before) part) ((ds.map Fin.val).map Nat.digitChar ++ rest) =
      run (.number (f ((ds.map Fin.val).reverse ++ before)) part) rest := by
  induction ds generalizing before with
  | nil => rfl
  | cons d ds ih =>
    rw [List.map_cons, List.map_cons, List.cons_append, run_continue (h d before), ih]
    simp

/-- The digits of a part of a number that the first of them begins. -/
theorem run_digits (hfirst : ∀ d : Fin 10, (f []).continue? part (Nat.digitChar d) = some (f [d], next))
    (hnext : ∀ (d : Fin 10) (ds : List Nat),
      (f ds).continue? next (Nat.digitChar d) = some (f (d :: ds), next)) (ds : Digits) :
    run (.number (f []) part) (ds.chars ++ rest) = run (.number (f ds.values.reverse) next) rest := by
  have hchars : ds.chars ++ rest =
      Nat.digitChar ds.first :: ((ds.rest.map Fin.val).map Nat.digitChar ++ rest) := rfl
  rw [hchars, run_continue (hfirst ds.first), run_digitList hnext]
  simp [Digits.values]

theorem start_digitChar : ∀ d : Fin 10, start (Nat.digitChar d) =
    ([], .number ⟨false, [d.val], [], none⟩ (if d.val = 0 then .zero else .whole)) := by
  decide

theorem continue?_sign (d : Fin 10) : Numeral.continue? ⟨true, [], [], none⟩ .sign (Nat.digitChar d) =
    some (⟨true, [d.val], [], none⟩, if d.val = 0 then .zero else .whole) := by
  simp [Numeral.continue?, digit?_digitChar, Numeral.pushWhole]

/-- The digits before the point. After a zero there are no more of them. -/
theorem run_wholeChars (n : NumberText) (rest : List Char) : ∃ part, (part = .zero ∨ part = .whole) ∧
    run .ready (n.wholeChars ++ rest) =
      run (.number ⟨n.negative, n.whole.values.reverse, [], none⟩ part) rest := by
  have hfirst : run .ready (n.wholeChars ++ rest) =
      run (.number ⟨n.negative, [n.whole.first.val], [], none⟩
        (if n.whole.first.val = 0 then .zero else .whole))
        ((n.whole.rest.map Fin.val).map Nat.digitChar ++ rest) := by
    unfold NumberText.wholeChars
    cases n.negative with
    | false => simp [Digits.chars, Digits.values, run, step, start_digitChar]
    | true => exact run_continue (continue?_sign n.whole.first)
  by_cases hzero : n.whole.first = 0
  · refine ⟨.zero, .inl rfl, ?_⟩
    rw [hfirst, Digits.values, n.noLeadingZero hzero, hzero]
    rfl
  · have hval : n.whole.first.val ≠ 0 := fun h => hzero (Fin.ext h)
    have hnext (d : Fin 10) (ds : List Nat) :
        Numeral.continue? ⟨n.negative, ds, [], none⟩ .whole (Nat.digitChar d) =
          some (⟨n.negative, d.val :: ds, [], none⟩, .whole) := by
      simp [Numeral.continue?, digit?_digitChar, Numeral.pushWhole]
    refine ⟨.whole, .inr rfl, ?_⟩
    rw [hfirst, if_neg hval]
    refine (run_digitList (f := fun ds => ⟨n.negative, ds, [], none⟩) hnext n.whole.rest _).trans ?_
    simp [Digits.values]

/-- The point and the digits after it. -/
theorem run_fractionChars (n : NumberText) (hpart : part = .zero ∨ part = .whole) (rest : List Char) :
    ∃ next, (next = .zero ∨ next = .whole ∨ next = .fraction) ∧
      run (.number ⟨n.negative, n.whole.values.reverse, [], none⟩ part) (n.fractionChars ++ rest) =
        run (.number { n.numeral.ordered with exponent := none } next) rest := by
  unfold NumberText.fractionChars
  cases hfraction : n.fraction with
  | none =>
    refine ⟨part, hpart.imp_right .inl, ?_⟩
    simp [Numeral.ordered, NumberText.numeral, hfraction]
  | some ds =>
    let x (ds : List Nat) : Numeral := ⟨n.negative, n.whole.values.reverse, ds, none⟩
    have hpoint : (x []).continue? part '.' = some (x [], .point) := by
      rcases hpart with rfl | rfl <;> rfl
    have hdigit (p : NumberPart) (hp : p = .point ∨ p = .fraction) (d : Fin 10) (ds : List Nat) :
        (x ds).continue? p (Nat.digitChar d) = some (x (d.val :: ds), .fraction) := by
      rcases hp with rfl | rfl <;> simp [x, Numeral.continue?, digit?_digitChar, Numeral.pushFraction]
    have hfinal : { n.numeral.ordered with exponent := none } = x ds.values.reverse := by
      simp [x, Numeral.ordered, NumberText.numeral, hfraction]
    refine ⟨.fraction, .inr (.inr rfl), ?_⟩
    rw [hfinal, Option.elim_some, List.cons_append, run_continue hpoint]
    exact run_digits (hdigit .point (.inl rfl) · []) (hdigit .fraction (.inr rfl)) ds

/-- The mark of the exponent, its sign and its digits. -/
theorem run_exponentChars (n : NumberText)
    (hpart : part = .zero ∨ part = .whole ∨ part = .fraction) (rest : List Char) :
    ∃ next, next.complete = true ∧
      run (.number { n.numeral.ordered with exponent := none } part) (n.exponentChars ++ rest) =
        run (.number n.numeral.ordered next) rest := by
  unfold NumberText.exponentChars
  cases hexponent : n.exponent with
  | none =>
    refine ⟨part, by rcases hpart with rfl | rfl | rfl <;> rfl, ?_⟩
    simp [Numeral.ordered, NumberText.numeral, hexponent]
  | some e =>
    let x (exponent : Option (Bool × List Nat)) : Numeral := { n.numeral.ordered with exponent }
    have hmark : (x none).continue? part (if e.capital then 'E' else 'e') =
        some (x (some (false, [])), .mark) := by
      rcases hpart with rfl | rfl | rfl <;> cases e.capital <;> rfl
    have hsign : ∃ p, (p = .mark ∨ p = .markSign) ∧
        run (.number (x (some (false, []))) .mark) (e.sign.chars ++ (e.digits.chars ++ rest)) =
          run (.number (x (some (e.sign = .minus, []))) p) (e.digits.chars ++ rest) := by
      cases e.sign with
      | none => exact ⟨.mark, .inl rfl, rfl⟩
      | plus => exact ⟨.markSign, .inr rfl, rfl⟩
      | minus => exact ⟨.markSign, .inr rfl, rfl⟩
    have hdigit (p : NumberPart) (hp : p = .mark ∨ p = .markSign ∨ p = .exponent) (d : Fin 10)
        (ds : List Nat) : (x (some (e.sign = .minus, ds))).continue? p (Nat.digitChar d) =
          some (x (some (e.sign = .minus, d.val :: ds)), .exponent) := by
      rcases hp with rfl | rfl | rfl <;> simp [x, Numeral.continue?, digit?_digitChar, Numeral.pushExponent]
    have hfinal : n.numeral.ordered = x (some (e.sign = .minus, e.digits.values.reverse)) := by
      simp [x, Numeral.ordered, NumberText.numeral, hexponent]
    obtain ⟨p, hp, hsign⟩ := hsign
    refine ⟨.exponent, rfl, ?_⟩
    rw [Option.elim_some, ExponentText.chars, List.cons_append, List.append_assoc, run_continue hmark,
      hsign, hfinal]
    exact run_digits (hdigit p (hp.imp_right .inl) · []) (hdigit .exponent (.inr (.inr rfl))) e.digits

/-- No follower is part of a number. -/
theorem not_part_of_mem_followers :
    ∀ c ∈ followers, digit? c = none ∧ c.isDigit = false ∧ c ≠ '.' ∧ c ≠ 'e' ∧ c ≠ 'E' := by
  intro c hc
  simp only [followers, List.mem_cons, List.not_mem_nil, or_false] at hc
  rcases hc with rfl | rfl | rfl | rfl | rfl | rfl | rfl <;> decide

/-- A number that may end does where nothing follows that could be part of it. -/
theorem run_ends (h : Ends rest) (x : Numeral) (hpart : part.complete = true) :
    run (.number x part) rest = .number x.ordered :: run .ready rest := by
  cases rest with
  | nil => simp [run, finish, hpart]
  | cons c cs =>
    obtain ⟨hvalue, hdigit, hpoint, hmark, hcapital⟩ := not_part_of_mem_followers c (h c rfl)
    have hnone : x.continue? part c = none := by
      cases part <;> first | contradiction | simp [Numeral.continue?, hvalue, hpoint, hmark, hcapital]
    simp [run, step, hnone, hpart, hdigit]

/-- A written number is read up to its end. -/
theorem run_numberText (h : Ends rest) (n : NumberText) :
    run .ready (n.chars ++ rest) = .number n.numeral :: run .ready rest := by
  obtain ⟨p, hp, hwhole⟩ := run_wholeChars n (n.fractionChars ++ (n.exponentChars ++ rest))
  obtain ⟨q, hq, hfraction⟩ := run_fractionChars n hp (n.exponentChars ++ rest)
  obtain ⟨r, hr, hexponent⟩ := run_exponentChars n hq rest
  rw [NumberText.chars, List.append_assoc, List.append_assoc, hwhole, hfraction, hexponent,
    run_ends h _ hr, Numeral.ordered_ordered]

/-! ## Strings -/

theorem hexDigit?_char (d : HexDigit) : hexDigit? d.char = some d.value.val := by
  obtain ⟨value, capital⟩ := d
  revert value capital
  decide

theorem utf8Size_char (d : HexDigit) : d.char.utf8Size = 1 := by
  obtain ⟨value, capital⟩ := d
  revert value capital
  decide

variable {us : List StringUnit} {bytes v : Nat}

theorem run_code (hbytes : bytes + 1 < 4) (d : HexDigit) :
    run (.code us bytes (some v)) (d.char :: rest) = run (.code us (bytes + 1) (some (16 * v + d.value))) rest := by
  simp [run, step, hexDigit?_char, utf8Size_char, hbytes]

theorem run_lastCode (d : HexDigit) :
    run (.code us 3 (some v)) (d.char :: rest) = run (.string (.code (16 * v + d.value) :: us)) rest := by
  simp [run, step, hexDigit?_char, utf8Size_char]

theorem run_part (us : List StringUnit) (p : StringPart) :
    run (.string us) (p.chars ++ rest) = run (.string (p.unit :: us)) rest := by
  cases p with
  | plain c h =>
    obtain ⟨hcontrol, hquote, hbackslash⟩ := h
    simp [StringPart.chars, StringPart.unit, run, step, hquote, hbackslash, Nat.not_lt.2 hcontrol]
  | short e => cases e <;> rfl
  | code a b c d =>
    have hescape : run (.string us) (['\\', 'u', a.char, b.char, c.char, d.char] ++ rest) =
        run (.code us 0 (some 0)) (a.char :: b.char :: c.char :: d.char :: rest) := rfl
    rw [StringPart.chars, hescape, run_code (by decide), run_code (by decide), run_code (by decide),
      run_lastCode, Nat.mul_zero, Nat.zero_add]
    rfl

/-- A written string is read up to its end. -/
theorem run_stringText (s : StringText) :
    run .ready (s.chars ++ rest) = .string s.literal :: run .ready rest := by
  have hparts (ps : List StringPart) (us : List StringUnit) :
      run (.string us) (ps.flatMap StringPart.chars ++ '"' :: rest) =
        .string ⟨us.reverse ++ ps.map StringPart.unit, .closed⟩ :: run .ready rest := by
    induction ps generalizing us with
    | nil => simp [run, step]
    | cons p ps ih =>
      rw [List.flatMap_cons, List.append_assoc, run_part, ih]
      simp
  have hopen : run .ready ('"' :: (s.parts.flatMap StringPart.chars ++ '"' :: rest)) =
      run (.string []) (s.parts.flatMap StringPart.chars ++ '"' :: rest) := rfl
  rw [StringText.chars, List.cons_append, List.append_assoc, List.singleton_append, hopen, hparts]
  rfl

end Scan

/-! ## Compact forms -/

/-- The number that digits write, read onto `m`. -/
def Numeral.digitsValue (ds : List Nat) (m : Nat) : Nat := ds.foldl (fun n d => n * 10 + d) m

theorem exists_digits (m : Nat) : ∃ ds : Digits, ds.chars = Decimal.digitChars m ∧
    Numeral.digitsValue ds.values 0 = m ∧ (ds.first = 0 → m = 0 ∧ ds.rest = []) := by
  induction m using Nat.strongRecOn with
  | ind m ih =>
    rw [Decimal.digitChars, Nat.toDigits_eq_if (by decide)]
    split
    · next hm =>
      refine ⟨⟨⟨m, hm⟩, []⟩, rfl, ?_, fun h => ⟨congrArg Fin.val h, rfl⟩⟩
      simp [Numeral.digitsValue, Digits.values]
    · next hm =>
      obtain ⟨ds, hchars, hvalue, hzero⟩ := ih (m / 10) (by omega)
      refine ⟨⟨ds.first, ds.rest ++ [⟨m % 10, Nat.mod_lt m (by decide)⟩]⟩, ?_, ?_, fun h => ?_⟩
      · rw [Decimal.digitChars] at hchars
        simp [← hchars, Digits.chars, Digits.values]
      · simp only [Numeral.digitsValue, Digits.values, List.map_cons, List.map_append, List.foldl_cons,
          List.foldl_append, List.map_nil, List.foldl_nil] at hvalue ⊢
        omega
      · have := (hzero h).1
        omega

namespace Numeral

theorem le_digitsValue (ds : List Nat) (m : Nat) : m ≤ digitsValue ds m := by
  induction ds generalizing m with
  | nil => exact Nat.le_refl m
  | cons d ds ih => exact Nat.le_trans (by omega) (ih (m * 10 + d))

theorem readDigits_eq {ds : List Nat} (h : digitsValue ds m ≤ digitLimit) :
    readDigits m ds = (digitsValue ds m, []) := by
  induction ds generalizing m with
  | nil => rfl
  | cons d ds ih =>
    have hm : m * 10 + d ≤ digitLimit := Nat.le_trans (le_digitsValue ds _) h
    rw [readDigits, if_pos hm]
    exact ih h

/-- An integer of 64 bits is read back from its digits. -/
theorem read_integer (h : Exact n) {ds : List Nat} (hds : digitsValue ds 0 = n.natAbs) :
    read ⟨n < 0, ds, [], none⟩ = some (.integer n h) := by
  have hlimit : digitsValue ds 0 ≤ digitLimit := by
    have := h.1
    have := h.2
    unfold digitLimit
    omega
  have hvalue : (if n < 0 then -(n.natAbs : Int) else n.natAbs) = n := by split <;> omega
  have hzero : ¬ (n < 0 ∧ n.natAbs = 0) := by omega
  have hinteger : integer? ⟨n < 0, ds, [], none⟩ = some (.integer n h) := by
    simp only [integer?, isWhole, readDigits_eq hlimit, hds, List.isEmpty_nil, Option.isNone_none,
      Bool.and_self, Bool.not_true, Bool.false_eq_true, if_false, decide_eq_true_eq, hvalue, hzero,
      not_false_eq_true, and_self, if_true, dif_pos h]
  rw [read, hinteger]

end Numeral

/-- The digits of an integer of 64 bits write it. -/
theorem exists_numberText (h : Exact n) :
    ∃ x : NumberText, x.chars = integerText n ∧ x.numeral.read = some (.integer n h) := by
  obtain ⟨ds, hchars, hvalue, hzero⟩ := exists_digits n.natAbs
  refine ⟨⟨n < 0, ds, fun h => (hzero h).2, none, none⟩, ?_, Numeral.read_integer h hvalue⟩
  simp only [NumberText.chars, NumberText.wholeChars, NumberText.fractionChars,
    NumberText.exponentChars, Option.elim_none, List.append_nil, integerText, hchars]
  by_cases hn : n < 0 <;> simp [hn]

/-- The unit that a written character is read as. Control characters without a letter of their own
are written as codes. -/
def StringUnit.written (c : Char) : StringUnit :=
  if c.toNat < 0x20 ∧ c ∉ ['\x08', '\t', '\n', '\x0c', '\r'] then .code c.toNat else .char c

/-- The literal that a string is written as. -/
def StringLiteral.written (s : String) : StringLiteral := ⟨s.toList.map .written, .closed⟩

namespace StringPart

theorem ofChar_eq (c : Char) : (ofChar c).chars = Value.escapedChar c ∧ (ofChar c).unit = .written c := by
  unfold ofChar
  split
  case h_8 h1 h2 h3 h4 h5 h6 h7 =>
    have hescaped : Value.escapedChar c = if c.toNat < 0x20 then
        ['\\', 'u', '0', '0', Nat.digitChar (c.toNat / 16), Nat.digitChar (c.toNat % 16)] else [c] := by
      unfold Value.escapedChar
      split
      case h_8 => rfl
      all_goals contradiction
    rw [hescaped]
    split
    · next hplain =>
      exact ⟨(if_neg (Nat.not_lt.2 hplain.1)).symm, (if_neg fun h => Nat.not_lt.2 hplain.1 h.1).symm⟩
    · next hplain =>
      have hc : c.toNat < 0x20 := Nat.not_le.1 fun h => hplain ⟨h, h1, h2⟩
      have hunit : StringUnit.written c = .code c.toNat := if_pos ⟨hc, by simp_all⟩
      have hhigh : c.toNat / 16 % 16 = c.toNat / 16 := by omega
      have hvalue : 16 * (c.toNat / 16) + c.toNat % 16 = c.toNat := by omega
      simp [chars, unit, HexDigit.char, hc, hunit, hhigh, hvalue]
  all_goals exact ⟨rfl, rfl⟩

end StringPart

namespace StringText

theorem chars_ofString (s : String) : (ofString s).chars = Value.stringText s := by
  simp only [chars, ofString, List.flatMap_map, Value.stringText, StringPart.ofChar_eq]

theorem literal_ofString (s : String) : (ofString s).literal = .written s := by
  simp only [literal, ofString, List.map_map, Function.comp_def, StringPart.ofChar_eq, StringLiteral.written]

end StringText

namespace StringLiteral

/-- A code below the surrogates stands for a character, whatever follows it. -/
theorem readUnits_code {k : Nat} (h : k < 0xD800) (stop : StringEnd) (us : List StringUnit) :
    readUnits stop (.code k :: us) = (readUnits stop us).map (Char.ofNat k :: ·) := by
  have hlow : isLowSurrogate k = false := by simp [isLowSurrogate]; omega
  have hhigh : isHighSurrogate k = false := by simp [isHighSurrogate]; omega
  cases us with
  | nil =>
    simp only [readUnits, hlow, hhigh]
    cases stop.problem? <;> rfl
  | cons u us => cases u <;> simp [readUnits, hlow, hhigh]

theorem read_written (s : String) : (written s).read = .ok s := by
  have hunits (cs : List Char) : readUnits .closed (cs.map .written) = .ok cs := by
    induction cs with
    | nil => rfl
    | cons c cs ih =>
      rw [List.map_cons, StringUnit.written]
      split
      · next hc =>
        rw [readUnits_code (Nat.lt_of_lt_of_le hc.1 (by decide)), ih]
        simp [Except.map]
      · rw [readUnits, ih]
        rfl
  rw [read, written, hunits]
  exact congrArg Except.ok String.ofList_toList

theorem read_ofString (s : String) : (ofString s).read = .ok s := by
  have hunits (cs : List Char) : readUnits .closed (cs.map .char) = .ok cs := by
    induction cs with
    | nil => rfl
    | cons c cs ih =>
      rw [List.map_cons, readUnits, ih]
      rfl
  rw [read, ofString, hunits]
  exact congrArg Except.ok String.ofList_toList

end StringLiteral

theorem StringText.writes_ofString (s : String) : (ofString s).Writes s := by
  rw [Writes, literal_ofString]
  exact StringLiteral.read_written s

end ThermalPrint.Json
