import Mathlib.Data.List.Basic
import ThermalPrint.Proofs.Json.Token
import ThermalPrint.Proofs.Text.Quad

/-! What the characters of a token can be. A token that is read without a fault is read of characters that
write it. -/

namespace ThermalPrint.Json

variable {c : Char} {pre : List Char}

/-! ## Digits -/

theorem exists_digit {d : Nat} (h : digit? c = some d) : ∃ k : Fin 10, c = Nat.digitChar k ∧ d = k := by
  unfold digit? at h
  split at h
  · next hc =>
    cases h
    exact ⟨⟨_, Text.digitValue_lt hc⟩, (Text.digitChar_digitValue hc).symm, rfl⟩
  · cases h

theorem toNat_digitChar_of_ten_le : ∀ d : Fin 16, 10 ≤ d.val →
    (Nat.digitChar d).toNat = d + 87 ∧ (Nat.digitChar d).toUpper.toNat = d + 55 := by
  decide

theorem exists_hexDigit {d : Nat} (h : hexDigit? c = some d) : ∃ k : HexDigit, c = k.char ∧ d = k.value := by
  unfold hexDigit? at h
  split at h
  · next hc =>
    obtain ⟨k, rfl, hk⟩ := exists_digit (if_pos hc : digit? c = some _)
    cases h
    exact ⟨⟨⟨k, by omega⟩, false⟩, rfl, hk⟩
  · split at h
    · next hc =>
      cases h
      have hlow : 97 ≤ c.toNat := hc.1
      have hhigh : c.toNat ≤ 102 := hc.2
      let k : Fin 16 := ⟨c.toNat - 97 + 10, by omega⟩
      have hk := (toNat_digitChar_of_ten_le k (Nat.le_add_left _ _)).1
      refine ⟨⟨k, false⟩, Char.toNat_inj.1 (Eq.trans ?_ hk.symm), rfl⟩
      simp only [k]
      omega
    · split at h
      · next hc =>
        cases h
        have hlow : 65 ≤ c.toNat := hc.1
        have hhigh : c.toNat ≤ 70 := hc.2
        let k : Fin 16 := ⟨c.toNat - 65 + 10, by omega⟩
        have hk := (toNat_digitChar_of_ten_le k (Nat.le_add_left _ _)).2
        refine ⟨⟨k, true⟩, Char.toNat_inj.1 (Eq.trans ?_ hk.symm), rfl⟩
        simp only [k]
        omega
      · cases h

namespace Digits

def push (ds : Digits) (d : Fin 10) : Digits := ⟨ds.first, ds.rest ++ [d]⟩

theorem chars_push (ds : Digits) (d : Fin 10) : (ds.push d).chars = ds.chars ++ [Nat.digitChar d] := by
  simp [push, chars, values]

theorem values_push (ds : Digits) (d : Fin 10) : (ds.push d).values = ds.values ++ [d.val] := by
  simp [push, values]

end Digits

/-! ## Numbers -/

/-- The part of a number that its last characters are. -/
inductive NumberText.EndsIn : NumberText → NumberPart → Prop
  | zero {n : NumberText} (h : n.whole.first = 0) (hf : n.fraction = none) (he : n.exponent = none) :
    EndsIn n .zero
  | whole {n : NumberText} (h : n.whole.first ≠ 0) (hf : n.fraction = none) (he : n.exponent = none) :
    EndsIn n .whole
  | fraction {n : NumberText} {ds : Digits} (hf : n.fraction = some ds) (he : n.exponent = none) :
    EndsIn n .fraction
  | exponent {n : NumberText} {e : ExponentText} (he : n.exponent = some e) : EndsIn n .exponent

/-- A number that has been read up to the end of a part of it, and its characters. -/
inductive NumberPrefix : Numeral → NumberPart → List Char → Prop
  | sign : NumberPrefix ⟨true, [], [], none⟩ .sign ['-']
  | number {n : NumberText} {part : NumberPart} (h : n.EndsIn part) :
    NumberPrefix n.numeral.ordered part n.chars
  | point {n : NumberText} (hf : n.fraction = none) (he : n.exponent = none) :
    NumberPrefix n.numeral.ordered .point (n.chars ++ ['.'])
  | mark {n : NumberText} (he : n.exponent = none) (capital : Bool) :
    NumberPrefix { n.numeral.ordered with exponent := some (false, []) } .mark
      (n.chars ++ [if capital then 'E' else 'e'])
  | markSign {n : NumberText} (he : n.exponent = none) (capital negative : Bool) :
    NumberPrefix { n.numeral.ordered with exponent := some (negative, []) } .markSign
      (n.chars ++ [if capital then 'E' else 'e', if negative then '-' else '+'])

namespace NumberPrefix

variable {x y : Numeral} {part next : NumberPart} {n : NumberText}

theorem of_eq (h : n.EndsIn part) (hx : n.numeral.ordered = x) (hpre : n.chars = pre) :
    NumberPrefix x part pre := by
  subst hx hpre
  exact number h

theorem first_digit (negative : Bool) (k : Fin 10) :
    NumberPrefix ⟨negative, [k.val], [], none⟩ (if k.val = 0 then .zero else .whole)
      ((if negative then ['-'] else []) ++ [Nat.digitChar k]) := by
  let n : NumberText := ⟨negative, ⟨k, []⟩, fun _ => rfl, none, none⟩
  have hchars : n.chars = (if negative then ['-'] else []) ++ [Nat.digitChar k] := by
    simp [n, NumberText.chars, NumberText.wholeChars, NumberText.fractionChars, NumberText.exponentChars,
      Digits.chars, Digits.values]
  by_cases hk : k = 0
  · subst hk
    exact of_eq (n := n) (.zero rfl rfl rfl) rfl hchars
  · have hval : k.val ≠ 0 := fun h => hk (Fin.ext h)
    rw [if_neg hval]
    exact of_eq (n := n) (.whole hk rfl rfl) rfl hchars

/-- The first digit after the point. -/
theorem fraction_digit (hf : n.fraction = none) (he : n.exponent = none) (k : Fin 10) :
    NumberPrefix (n.numeral.ordered.pushFraction k) .fraction (n.chars ++ ['.', Nat.digitChar k]) := by
  refine of_eq (n := { n with fraction := some ⟨k, []⟩ }) (.fraction rfl he) ?_ ?_
  · simp [NumberText.numeral, Numeral.ordered, Numeral.pushFraction, Digits.values, hf]
  · simp [NumberText.chars, NumberText.wholeChars, NumberText.fractionChars, NumberText.exponentChars, hf, he,
      Digits.chars, Digits.values]

/-- The first digit of an exponent. -/
theorem exponent_digit (he : n.exponent = none) (capital : Bool) (sign : ExponentSign) (k : Fin 10) :
    NumberPrefix { n.numeral.ordered with exponent := some (sign = .minus, [k.val]) } .exponent
      (n.chars ++ (if capital then 'E' else 'e') :: (sign.chars ++ [Nat.digitChar k])) := by
  refine of_eq (n := { n with exponent := some ⟨capital, sign, ⟨k, []⟩⟩ }) (.exponent rfl) ?_ ?_
  · simp [NumberText.numeral, Numeral.ordered, Digits.values]
  · simp [NumberText.chars, NumberText.exponentChars, NumberText.fractionChars, NumberText.wholeChars,
      ExponentText.chars, he, Digits.chars, Digits.values]

/-- One more digit of the part that a number ends in. No digit follows a leading zero. -/
theorem more_digit (h : n.EndsIn part) (k : Fin 10)
    (hc : n.numeral.ordered.continue? part (Nat.digitChar k) = some (y, next)) :
    NumberPrefix y next (n.chars ++ [Nat.digitChar k]) := by
  simp only [Numeral.continue?, digit?_digitChar] at hc
  cases h with
  | zero => cases hc
  | whole h hf he =>
    cases hc
    let n' : NumberText := { n with whole := n.whole.push k, noLeadingZero := fun h' => absurd h' h }
    refine of_eq (n := n') (.whole h hf he) ?_ ?_
    · simp [n', NumberText.numeral, Numeral.ordered, Numeral.pushWhole, Digits.values_push]
    · simp [n', NumberText.chars, NumberText.wholeChars, NumberText.fractionChars, NumberText.exponentChars,
        hf, he, Digits.chars_push]
  | @fraction ds hf he =>
    cases hc
    refine of_eq (n := { n with fraction := some (ds.push k) }) (.fraction rfl he) ?_ ?_
    · simp [NumberText.numeral, Numeral.ordered, Numeral.pushFraction, Digits.values_push, hf]
    · simp [NumberText.chars, NumberText.wholeChars, NumberText.fractionChars, NumberText.exponentChars, hf,
        he, Digits.chars_push]
  | @exponent e he =>
    cases hc
    refine of_eq (n := { n with exponent := some { e with digits := e.digits.push k } }) (.exponent rfl) ?_ ?_
    · simp [NumberText.numeral, Numeral.ordered, Numeral.pushExponent, Digits.values_push, he]
    · simp [NumberText.chars, NumberText.wholeChars, NumberText.fractionChars, NumberText.exponentChars,
        ExponentText.chars, he, Digits.chars_push]

theorem continue_digit (h : NumberPrefix x part pre) (k : Fin 10)
    (hc : x.continue? part (Nat.digitChar k) = some (y, next)) :
    NumberPrefix y next (pre ++ [Nat.digitChar k]) := by
  cases h with
  | number h => exact more_digit h k hc
  | sign =>
    simp only [Numeral.continue?, digit?_digitChar] at hc
    cases hc
    exact first_digit true k
  | point hf he =>
    simp only [Numeral.continue?, digit?_digitChar] at hc
    cases hc
    rw [List.append_assoc]
    exact fraction_digit hf he k
  | mark he capital =>
    simp only [Numeral.continue?, digit?_digitChar] at hc
    cases hc
    rw [List.append_assoc]
    exact exponent_digit he capital .none k
  | markSign he capital negative =>
    simp only [Numeral.continue?, digit?_digitChar] at hc
    cases hc
    rw [List.append_assoc]
    cases negative with
    | false => exact exponent_digit he capital .plus k
    | true => exact exponent_digit he capital .minus k

theorem continue_mark (he : n.exponent = none)
    (hc : (if c = 'e' ∨ c = 'E' then some ({ n.numeral.ordered with exponent := some (false, []) }, .mark)
      else none) = some (y, next)) : NumberPrefix y next (n.chars ++ [c]) := by
  split at hc
  · next hmark =>
    cases hc
    rcases hmark with rfl | rfl
    · exact mark he false
    · exact mark he true
  · cases hc

theorem continue_point (hf : n.fraction = none) (he : n.exponent = none)
    (hc : (if c = '.' then some (n.numeral.ordered, .point)
      else if c = 'e' ∨ c = 'E' then some ({ n.numeral.ordered with exponent := some (false, []) }, .mark)
      else none) = some (y, next)) : NumberPrefix y next (n.chars ++ [c]) := by
  split at hc
  · next hpoint =>
    cases hc
    exact hpoint ▸ point hf he
  · exact continue_mark he hc

/-- The point, the mark of an exponent and its sign. -/
theorem continue_other (h : NumberPrefix x part pre) (hd : digit? c = none)
    (hc : x.continue? part c = some (y, next)) : NumberPrefix y next (pre ++ [c]) := by
  simp only [Numeral.continue?, hd] at hc
  cases h with
  | sign => cases hc
  | number h =>
    cases h with
    | zero h hf he => exact continue_point hf he hc
    | whole h hf he => exact continue_point hf he hc
    | fraction hf he => exact continue_mark he hc
    | exponent he => cases hc
  | point => cases hc
  | mark he capital =>
    rw [List.append_assoc]
    dsimp only at hc
    split at hc
    · next hplus =>
      cases hc
      exact hplus ▸ markSign he capital false
    · split at hc
      · next hminus =>
        cases hc
        exact hminus ▸ markSign he capital true
      · cases hc
  | markSign => cases hc

theorem continue? (h : NumberPrefix x part pre) (hc : x.continue? part c = some (y, next)) :
    NumberPrefix y next (pre ++ [c]) := by
  cases hd : digit? c with
  | none => exact h.continue_other hd hc
  | some d =>
    obtain ⟨k, rfl, -⟩ := exists_digit hd
    exact h.continue_digit k hc

/-- A number that may end here is a written one. -/
theorem exists_text (h : NumberPrefix x part pre) (hpart : part.complete = true) :
    ∃ n : NumberText, n.chars = pre ∧ n.numeral = x.ordered := by
  cases h with
  | number h => exact ⟨_, rfl, (Numeral.ordered_ordered _).symm⟩
  | sign | point | mark | markSign => cases hpart

end NumberPrefix

/-! ## Tokens -/

/-- A token that no written text has. -/
def Token.Broken : Token → Prop
  | .brokenWord _ | .brokenNumber _ | .stray => True
  | .string s => s.stop ≠ .closed
  | _ => False

/-- The characters that write a token. -/
inductive Token.Written : Token → List Char → Prop
  | beginArray : Written .beginArray ['[']
  | endArray : Written .endArray [']']
  | beginObject : Written .beginObject ['\x7b']
  | endObject : Written .endObject ['\x7d']
  | colon : Written .colon [':']
  | comma : Written .comma [',']
  | word (w : Word) : Written (.word w) w.chars
  | number (n : NumberText) : Written (.number n.numeral) n.chars
  | string (s : StringText) : Written (.string s.literal) s.chars

namespace Scan

/-- The number that hexadecimal digits write. -/
def codeValue (ds : List HexDigit) : Nat := ds.foldl (fun v d => 16 * v + d.value) 0

/-- A token that has been read in part, and its characters. Of a code with a wrong digit no token comes
that could be written. -/
inductive Prefix : Scan → List Char → Prop
  | word {w : Word} {pre rest : List Char} (h : w.chars = pre ++ rest) (hrest : rest ≠ []) :
    Prefix (.word w rest) pre
  | number {x : Numeral} {part : NumberPart} {pre : List Char} (h : NumberPrefix x part pre) :
    Prefix (.number x part) pre
  | string (ps : List StringPart) :
    Prefix (.string (ps.map StringPart.unit).reverse) ('"' :: ps.flatMap StringPart.chars)
  | escape (ps : List StringPart) :
    Prefix (.escape (ps.map StringPart.unit).reverse) ('"' :: (ps.flatMap StringPart.chars ++ ['\\']))
  | code (ps : List StringPart) (ds : List HexDigit) (h : ds.length < 4) :
    Prefix (.code (ps.map StringPart.unit).reverse ds.length (some (codeValue ds)))
      ('"' :: (ps.flatMap StringPart.chars ++ '\\' :: 'u' :: ds.map HexDigit.char))
  | lost (us : List StringUnit) (bytes : Nat) (pre : List Char) : Prefix (.code us bytes none) pre

/-- What a character makes of a token that has been read in part. -/
inductive Continues (scan : Scan) (pre : List Char) (c : Char) : Prop
  | more {next : Scan} (hstep : scan.step c = ([], next)) (h : Prefix next (pre ++ [c]))
  | token {t : Token} (hstep : scan.step c = ([t], .ready)) (h : t.Written (pre ++ [c]))
  /-- The token has ended before the character. -/
  | next {t : Token} (hstep : scan.step c = (t :: (start c).1, (start c).2)) (h : t.Written pre)
  | broken {t : Token} {ts : List Token} {next : Scan} (hstep : scan.step c = (t :: ts, next)) (h : t.Broken)

variable {scan : Scan}

theorem continues_word {w : Word} {rest : List Char} (h : w.chars = pre ++ rest) (hrest : rest ≠ [])
    (c : Char) : Continues (.word w rest) pre c := by
  cases rest with
  | nil => contradiction
  | cons r rest =>
    by_cases hc : r = c
    · subst hc
      have hchars : w.chars = pre ++ [r] ++ rest := by rw [h, List.append_assoc, List.singleton_append]
      cases rest with
      | nil =>
        have hstep : step (.word w [r]) r = ([.word w], .ready) := by simp [step]
        rw [List.append_nil] at hchars
        exact .token hstep (hchars ▸ .word w)
      | cons s rest =>
        have hstep : step (.word w (r :: s :: rest)) r = ([], .word w (s :: rest)) := by simp [step]
        exact .more hstep (.word hchars (List.cons_ne_nil s rest))
    · have hstep : step (.word w (r :: rest)) c = ([.brokenWord false], .halted) := by simp [step, hc]
      exact .broken hstep trivial

theorem continues_number {x : Numeral} {part : NumberPart} (h : NumberPrefix x part pre) (c : Char) :
    Continues (.number x part) pre c := by
  cases hc : x.continue? part c with
  | some next =>
    have hstep : step (.number x part) c = ([], .number next.1 next.2) := by simp [step, hc]
    exact .more hstep (.number (h.continue? hc))
  | none =>
    cases hend : !part.complete || (part = .zero && c.isDigit) with
    | true =>
      have hstep : step (.number x part) c = ([.brokenNumber false], .halted) := by
        simp only [step, hc, hend, if_true]
      exact .broken hstep trivial
    | false =>
      have hcomplete : part.complete = true := by simp_all
      obtain ⟨n, rfl, hnumeral⟩ := h.exists_text hcomplete
      have hstep : step (.number x part) c = (.number n.numeral :: (start c).1, (start c).2) := by
        simp only [step, hc, hend, hnumeral]
        rfl
      exact .next hstep (.number n)

theorem continues_string (ps : List StringPart) (c : Char) :
    Continues (.string (ps.map StringPart.unit).reverse) ('"' :: ps.flatMap StringPart.chars) c := by
  by_cases hquote : c = '"'
  · subst hquote
    have hstep : step (.string (ps.map StringPart.unit).reverse) '"' =
        ([.string ⟨ps.map StringPart.unit, .closed⟩], .ready) := by simp [step]
    exact .token hstep (.string ⟨ps⟩)
  · by_cases hbackslash : c = '\\'
    · subst hbackslash
      exact .more rfl (.escape ps)
    · by_cases hcontrol : c.toNat < 0x20
      · have hstep : step (.string (ps.map StringPart.unit).reverse) c =
            ([.string ⟨ps.map StringPart.unit, .control⟩], .halted) := by
          simp [step, hquote, hbackslash, hcontrol]
        exact .broken hstep (by simp [Token.Broken])
      · have hstep : step (.string (ps.map StringPart.unit).reverse) c =
            ([], .string (.char c :: (ps.map StringPart.unit).reverse)) := by
          simp [step, hquote, hbackslash, hcontrol]
        refine .more hstep ?_
        have hnext := Prefix.string (ps ++ [.plain c ⟨Nat.not_lt.1 hcontrol, hquote, hbackslash⟩])
        simpa [StringPart.chars, StringPart.unit] using hnext

theorem exists_shortEscape {e : Char} (h : shortEscape? c = some e) :
    ∃ k : ShortEscape, k.letter = c ∧ k.char = e := by
  unfold shortEscape? at h
  split at h
  · exact ⟨.quote, rfl, Option.some.inj h⟩
  · exact ⟨.backslash, rfl, Option.some.inj h⟩
  · exact ⟨.slash, rfl, Option.some.inj h⟩
  · exact ⟨.backspace, rfl, Option.some.inj h⟩
  · exact ⟨.formFeed, rfl, Option.some.inj h⟩
  · exact ⟨.newline, rfl, Option.some.inj h⟩
  · exact ⟨.carriageReturn, rfl, Option.some.inj h⟩
  · exact ⟨.tab, rfl, Option.some.inj h⟩
  · cases h

theorem continues_escape (ps : List StringPart) (c : Char) :
    Continues (.escape (ps.map StringPart.unit).reverse) ('"' :: (ps.flatMap StringPart.chars ++ ['\\'])) c := by
  by_cases hu : c = 'u'
  · subst hu
    have hnext := Prefix.code ps [] (by decide)
    exact .more rfl (by simpa [codeValue] using hnext)
  · cases he : shortEscape? c with
    | none =>
      have hstep : step (.escape (ps.map StringPart.unit).reverse) c =
          ([.string ⟨ps.map StringPart.unit, .badEscape⟩], .halted) := by simp [step, hu, he]
      exact .broken hstep (by simp [Token.Broken])
    | some e =>
      obtain ⟨k, rfl, rfl⟩ := exists_shortEscape he
      have hstep : step (.escape (ps.map StringPart.unit).reverse) k.letter =
          ([], .string (.char k.char :: (ps.map StringPart.unit).reverse)) := by simp [step, hu, he]
      have hnext := Prefix.string (ps ++ [.short k])
      exact .more hstep (by simpa [StringPart.chars, StringPart.unit] using hnext)

theorem continues_lost (us : List StringUnit) (bytes : Nat) (pre : List Char) {value : Option Nat}
    (hvalue : (value.bind fun v => (hexDigit? c).map (16 * v + ·)) = none) :
    Continues (.code us bytes value) pre c := by
  by_cases hbytes : bytes + c.utf8Size < 4
  · have hstep : step (.code us bytes value) c = ([], .code us (bytes + c.utf8Size) none) := by
      simp [step, hbytes, hvalue]
    exact .more hstep (.lost us _ _)
  · have hstep : step (.code us bytes value) c = ([.string ⟨us.reverse, .badCode⟩], .halted) := by
      simp [step, hbytes, hvalue]
    exact .broken hstep (by simp [Token.Broken])

theorem continues_code (ps : List StringPart) {ds : List HexDigit} (h : ds.length < 4) (c : Char) :
    Continues (.code (ps.map StringPart.unit).reverse ds.length (some (codeValue ds)))
      ('"' :: (ps.flatMap StringPart.chars ++ '\\' :: 'u' :: ds.map HexDigit.char)) c := by
  cases hdigit : hexDigit? c with
  | none => exact continues_lost _ _ _ (by simp [hdigit])
  | some d =>
    obtain ⟨k, rfl, rfl⟩ := exists_hexDigit hdigit
    have hvalue : 16 * codeValue ds + k.value = codeValue (ds ++ [k]) := by simp [codeValue]
    by_cases hlast : ds.length + 1 < 4
    · have hstep : step (.code (ps.map StringPart.unit).reverse ds.length (some (codeValue ds))) k.char =
          ([], .code (ps.map StringPart.unit).reverse (ds ++ [k]).length (some (codeValue (ds ++ [k])))) := by
        simp [step, hdigit, utf8Size_char, hlast, hvalue]
      have hnext := Prefix.code ps (ds ++ [k]) (by simpa using hlast)
      exact .more hstep (by simpa using hnext)
    · have hstep : step (.code (ps.map StringPart.unit).reverse ds.length (some (codeValue ds))) k.char =
          ([], .string (.code (codeValue (ds ++ [k])) :: (ps.map StringPart.unit).reverse)) := by
        simp [step, hdigit, utf8Size_char, hlast, hvalue]
      obtain ⟨a, b, e, rfl⟩ := List.length_eq_three.1 (show ds.length = 3 by omega)
      have hnext := Prefix.string (ps ++ [.code a b e k])
      exact .more hstep (by simpa [StringPart.chars, StringPart.unit, codeValue] using hnext)

theorem Prefix.continues (h : Prefix scan pre) (c : Char) : Continues scan pre c := by
  cases h with
  | word h hrest => exact continues_word h hrest c
  | number h => exact continues_number h c
  | string ps => exact continues_string ps c
  | escape ps => exact continues_escape ps c
  | code ps ds h => exact continues_code ps h c
  | lost us bytes => exact continues_lost us bytes pre rfl

/-- What is read of the rest of a text: a token of the next characters, or one that no text writes. -/
inductive Reads (scan : Scan) (pre cs : List Char) : Prop
  | token {t : Token} {text rest : List Char} (hrun : run scan cs = t :: run .ready rest) (h : t.Written text)
    (htext : pre ++ cs = text ++ rest)
  | broken {t : Token} {ts : List Token} (hrun : run scan cs = t :: ts) (h : t.Broken)

theorem Prefix.finish (h : Prefix scan pre) : Reads scan pre [] := by
  cases h with
  | word h hrest => exact .broken (t := .brokenWord true) rfl trivial
  | @number x part _ h =>
    cases hpart : part.complete with
    | false =>
      have hrun : run (.number x part) [] = [.brokenNumber true] := by simp [run, Scan.finish, hpart]
      exact .broken hrun trivial
    | true =>
      obtain ⟨n, hchars, hnumeral⟩ := h.exists_text hpart
      have hrun : run (.number x part) [] = .number n.numeral :: run .ready [] := by
        simp [run, Scan.finish, hpart, hnumeral]
      exact .token hrun (.number n) (by rw [hchars])
  | string | escape | code | lost => exact .broken rfl (by simp [Token.Broken])

theorem run_of_step {next : Scan} {ts : List Token} (h : scan.step c = (ts, next)) (cs : List Char) :
    run scan (c :: cs) = ts ++ run next cs := by
  rw [run, h]

/-- Reading on, a token comes that is written by the characters that were read. -/
theorem Prefix.reads (h : Prefix scan pre) (cs : List Char) : Reads scan pre cs := by
  induction cs generalizing scan pre with
  | nil => exact h.finish
  | cons c cs ih =>
    cases h.continues c with
    | more hstep h =>
      cases ih h with
      | token hrun ht htext =>
        exact .token ((run_of_step hstep cs).trans hrun) ht ((List.append_assoc pre [c] cs).symm.trans htext)
      | broken hrun ht => exact .broken ((run_of_step hstep cs).trans hrun) ht
    | token hstep ht => exact .token (run_of_step hstep cs) ht (List.append_assoc pre [c] cs).symm
    | next hstep ht =>
      have hready : run .ready (c :: cs) = (start c).1 ++ run (start c).2 cs := rfl
      exact .token ((run_of_step hstep cs).trans (by rw [hready]; rfl)) ht rfl
    | broken hstep ht => exact .broken (run_of_step hstep cs) ht

/-- Where a token may begin stands a blank, or what is read is a token or cannot be one. -/
theorem ready_reads (c : Char) (cs : List Char) :
    (∃ b : Blank, c = b.char) ∨ Reads .ready [] (c :: cs) := by
  have hpunctuation {t : Token} (hstart : step .ready c = ([t], .ready)) (ht : t.Written [c]) :
      Reads .ready [] (c :: cs) := .token (run_of_step hstart cs) ht rfl
  have hprefix {next : Scan} (hstart : step .ready c = ([], next)) (h : Prefix next [c]) :
      Reads .ready [] (c :: cs) := by
    have hrun : run .ready (c :: cs) = run next cs := run_of_step hstart cs
    cases h.reads cs with
    | token hnext ht htext => exact .token (hrun.trans hnext) ht htext
    | broken hnext ht => exact .broken (hrun.trans hnext) ht
  by_cases hspace : isSpace c = true
  · left
    simp only [isSpace, Bool.or_eq_true, decide_eq_true_eq] at hspace
    rcases hspace with ((rfl | rfl) | rfl) | rfl
    · exact ⟨.space, rfl⟩
    · exact ⟨.tab, rfl⟩
    · exact ⟨.newline, rfl⟩
    · exact ⟨.carriageReturn, rfl⟩
  · right
    have hstart : step .ready c = start c := rfl
    rw [start.eq_def, if_neg hspace] at hstart
    split at hstart
    · exact hpunctuation hstart .beginArray
    · exact hpunctuation hstart .endArray
    · exact hpunctuation hstart .beginObject
    · exact hpunctuation hstart .endObject
    · exact hpunctuation hstart .colon
    · exact hpunctuation hstart .comma
    · exact hprefix hstart (.word (w := .null) rfl (by simp [Word.tail]))
    · exact hprefix hstart (.word (w := .true) rfl (by simp [Word.tail]))
    · exact hprefix hstart (.word (w := .false) rfl (by simp [Word.tail]))
    · exact hprefix hstart (.string [])
    · exact hprefix hstart (.number .sign)
    · split at hstart
      · next d hd =>
        obtain ⟨k, rfl, rfl⟩ := exists_digit hd
        exact hprefix hstart (.number (.first_digit false k))
      · exact .broken (t := .stray) (run_of_step hstart cs) trivial

/-- What comes next in a text: blanks alone, or a token after blanks, or one that no text writes. -/
inductive Next (cs : List Char) : Prop
  | nothing (blanks : List Blank) (h : cs = blanks.map Blank.char)
  | token (blanks : List Blank) {t : Token} {text rest : List Char} (ht : t.Written text)
    (h : cs = blanks.map Blank.char ++ (text ++ rest)) (hrun : run .ready cs = t :: run .ready rest)
  | broken {t : Token} {ts : List Token} (ht : t.Broken) (hrun : run .ready cs = t :: ts)

theorem next (cs : List Char) : Next cs := by
  induction cs with
  | nil => exact .nothing [] rfl
  | cons c cs ih =>
    rcases ready_reads c cs with ⟨b, rfl⟩ | h
    · have hrun := run_blank b cs
      cases ih with
      | nothing blanks h => exact .nothing (b :: blanks) (congrArg (b.char :: ·) h)
      | token blanks ht h hnext => exact .token (b :: blanks) ht (congrArg (b.char :: ·) h) (hrun.trans hnext)
      | broken ht hnext => exact .broken ht (hrun.trans hnext)
    · cases h with
      | token hrun ht htext => exact .token [] ht htext hrun
      | broken hrun ht => exact .broken ht hrun

end Scan

end ThermalPrint.Json
