import ThermalPrint.Identifier

/-! The spellings of an address. Leading zeros are all in which dotted quads of one address can differ:
without them an address has one spelling only. -/

namespace ThermalPrint

namespace Text

/-- A number of several digits, the first of which is a zero. -/
def isPadded : List Char → Bool
  | '0' :: _ :: _ => true
  | _ => false

/-- The value of a digit. -/
def digitValue (c : Char) : Nat := c.toNat - '0'.toNat

theorem digitValue_lt {c : Char} (h : c.isDigit = true) : digitValue c < 10 := by
  obtain ⟨-, hle⟩ := Char.isDigit_iff_toNat.1 h
  have h0 : '0'.toNat = 48 := rfl
  have h9 : '9'.toNat = 57 := rfl
  rw [digitValue]
  omega

theorem digitChar_digitValue {c : Char} (h : c.isDigit = true) : Nat.digitChar (digitValue c) = c := by
  obtain ⟨hge, -⟩ := Char.isDigit_iff_toNat.1 h
  have h0 : '0'.toNat = 48 := rfl
  refine Char.toNat_inj.1 ?_
  rw [Nat.toNat_digitChar_of_lt_ten (digitValue_lt h), digitValue]
  omega

theorem toDigits_digitValue {c : Char} (h : c.isDigit = true) : Nat.toDigits 10 (digitValue c) = [c] := by
  rw [Nat.toDigits_of_lt_base (digitValue_lt h), digitChar_digitValue h]

/-- Digits that are read onto a number are written after it. -/
theorem toDigits_foldl {cs : List Char} (h : ∀ c ∈ cs, c.isDigit = true) {n : Nat} (hn : 0 < n) :
    Nat.toDigits 10 (cs.foldl (fun n c => 10 * n + digitValue c) n) = Nat.toDigits 10 n ++ cs := by
  induction cs generalizing n with
  | nil => exact (List.append_nil _).symm
  | cons c cs ih =>
    obtain ⟨hc, hcs⟩ := List.forall_mem_cons.1 h
    have hpush := Nat.toDigits_append_toDigits (by decide) hn (digitValue_lt hc)
    rw [toDigits_digitValue hc] at hpush
    rw [List.foldl_cons, ih hcs (by omega), ← hpush, List.append_assoc]
    rfl

/-- Digits without a leading zero are those in which their value is written. -/
theorem digitChars_digitsValue {cs : List Char} (hdigits : isDigits cs = true)
    (hplain : isPadded cs = false) : Decimal.digitChars (digitsValue cs) = cs := by
  cases cs with
  | nil => nomatch hdigits
  | cons c cs =>
    have hall : ∀ d ∈ c :: cs, d.isDigit = true := List.all_eq_true.1 hdigits
    obtain ⟨hc, hcs⟩ := List.forall_mem_cons.1 hall
    have hvalue : digitsValue (c :: cs) = cs.foldl (fun n c => 10 * n + digitValue c) (digitValue c) := by
      change cs.foldl _ (10 * 0 + digitValue c) = _
      rw [Nat.mul_zero, Nat.zero_add]
      rfl
    rw [Decimal.digitChars, hvalue]
    cases cs with
    | nil => exact toDigits_digitValue hc
    | cons d ds =>
      have hpos : 0 < digitValue c := by
        rw [Nat.pos_iff_ne_zero]
        intro hzero
        have hc0 : '0' = c := by rw [← digitChar_digitValue hc, hzero]; rfl
        subst hc0
        nomatch hplain
      rw [toDigits_foldl hcs hpos, toDigits_digitValue hc]
      rfl

end Text

namespace Ipv4

/-- Whether an octet of a dotted quad is written with a leading zero. -/
def isPadded (s : String) : Bool := (Text.split '.' s.toList).any Text.isPadded

theorem octetText_of_octet? {cs : List Char} {n : UInt8} (h : octet? cs = some n)
    (hplain : Text.isPadded cs = false) : octetText n = cs := by
  obtain ⟨m, hm, rfl⟩ := Option.map_eq_some_iff.1 h
  obtain ⟨hdigits, rfl, hlt⟩ := Text.readBelow_eq_some_iff.1 hm
  rw [octetText, UInt8.toNat_ofNat_of_lt' hlt, Text.digitChars_digitsValue hdigits hplain]

/-- Without leading zeros an address is spelled in one way. -/
theorem text_of_ofText? {s : String} {ip : Ipv4} (h : ofText? s = some ip)
    (hplain : isPadded s = false) : ip.text = s := by
  have hparts : ∀ part ∈ Text.split '.' s.toList, Text.isPadded part = false := by
    simpa only [isPadded, List.any_eq_false, Bool.not_eq_true] using hplain
  unfold ofText? at h
  split at h
  · next a b c d hsplit =>
    obtain ⟨oa, ha, h⟩ := Option.bind_eq_some_iff.1 h
    obtain ⟨ob, hb, h⟩ := Option.bind_eq_some_iff.1 h
    obtain ⟨oc, hc, h⟩ := Option.bind_eq_some_iff.1 h
    obtain ⟨od, hd, ⟨⟩⟩ := Option.bind_eq_some_iff.1 h
    simp only [hsplit, List.forall_mem_cons] at hparts
    obtain ⟨pa, pb, pc, pd, -⟩ := hparts
    rw [text, octetText_of_octet? ha pa, octetText_of_octet? hb pb, octetText_of_octet? hc pc,
      octetText_of_octet? hd pd, ← hsplit, Text.join_split]
    exact String.ofList_toList
  · nomatch h

end Ipv4

end ThermalPrint
