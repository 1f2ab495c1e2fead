import ThermalPrint.Text.Ranges

/-! White space and control characters, which no identifier may hold, and the cutting of white
space at the two ends of a text. -/

namespace ThermalPrint.Text

/-- The twenty-five characters of property White_Space. -/
def blanks : Ranges := [
  (0x0009, 0x000D), (0x0020, 0x0020), (0x0085, 0x0085), (0x00A0, 0x00A0), (0x1680, 0x1680),
  (0x2000, 0x200A), (0x2028, 0x2029), (0x202F, 0x202F), (0x205F, 0x205F), (0x3000, 0x3000)]

def isBlank (c : Char) : Bool := blanks.contains c

/-- The characters of general category Cc. -/
def isControl (c : Char) : Bool := c.toNat < 0x20 || (0x7F ≤ c.toNat && c.toNat < 0xA0)

theorem isBlank_of_isDigit {c : Char} (h : c.isDigit = true) : isBlank c = false := by
  have hout : ∀ r ∈ blanks, r.2 < '0'.toNat ∨ '9'.toNat < r.1 := by decide
  obtain ⟨hge, hle⟩ := Char.isDigit_iff_toNat.1 h
  rw [Bool.eq_false_iff]
  intro hblank
  obtain ⟨r, hr, hfrom, hto⟩ := Ranges.contains_iff.1 hblank
  rcases hout r hr with hlt | hlt
  · exact Nat.not_le.2 hlt (Nat.le_trans hge hto)
  · exact Nat.not_le.2 hlt (Nat.le_trans hfrom hle)

theorem isControl_of_isDigit {c : Char} (h : c.isDigit = true) : isControl c = false := by
  obtain ⟨hge, hle⟩ := Char.isDigit_iff_toNat.1 h
  have h0 : '0'.toNat = 48 := rfl
  have h9 : '9'.toNat = 57 := rfl
  simp only [isControl, Bool.or_eq_false_iff, Bool.and_eq_false_iff, decide_eq_false_iff_not]
  omega

/-- The text without the blanks at its start and its end. -/
def trim (cs : List Char) : List Char :=
  ((cs.dropWhile isBlank).reverse.dropWhile isBlank).reverse

/-- The text without the blanks at its end. -/
def trimEnd (cs : List Char) : List Char := (cs.reverse.dropWhile isBlank).reverse

/-- What is cut off at the two ends is blank. -/
theorem exists_trim (cs : List Char) : ∃ before after : List Char, cs = before ++ trim cs ++ after ∧
    (∀ c ∈ before, isBlank c = true) ∧ ∀ c ∈ after, isBlank c = true := by
  let rest := cs.dropWhile isBlank
  let after := (rest.reverse.takeWhile isBlank).reverse
  have hrest : trim cs ++ after = rest := by
    rw [trim, ← List.reverse_append, List.takeWhile_append_dropWhile, List.reverse_reverse]
  refine ⟨cs.takeWhile isBlank, after, ?_, List.all_eq_true.1 List.all_takeWhile, fun c hc => ?_⟩
  · rw [List.append_assoc, hrest, List.takeWhile_append_dropWhile]
  · exact List.all_eq_true.1 List.all_takeWhile c (List.mem_reverse.1 hc)

/-- Of a text without blanks, with blanks around it, these are cut off. -/
theorem trim_append {before cs after : List Char} (hbefore : ∀ c ∈ before, isBlank c = true)
    (hcs : ∀ c ∈ cs, isBlank c = false) (hafter : ∀ c ∈ after, isBlank c = true) :
    trim (before ++ cs ++ after) = cs := by
  have hkeep {ds rest : List Char} (hne : ds ≠ []) (hds : ∀ c ∈ ds, isBlank c = false) :
      (ds ++ rest).dropWhile isBlank = ds ++ rest := by
    obtain ⟨d, ds, rfl⟩ := List.exists_cons_of_ne_nil hne
    exact List.dropWhile_cons_of_neg (by simp [hds d List.mem_cons_self])
  rw [trim, List.append_assoc, List.dropWhile_append_of_pos hbefore]
  by_cases hne : cs = []
  · subst hne
    rw [List.nil_append, ← List.append_nil after, List.dropWhile_append_of_pos hafter]
    rfl
  · have hreverse : ∀ c ∈ cs.reverse, isBlank c = false := fun c hc => hcs c (List.mem_reverse.1 hc)
    rw [hkeep hne hcs, List.reverse_append,
      List.dropWhile_append_of_pos fun c hc => hafter c (List.mem_reverse.1 hc),
      ← List.append_nil cs.reverse, hkeep (by simpa using hne) hreverse, List.append_nil,
      List.reverse_reverse]

end ThermalPrint.Text
