import ThermalPrint.Text.Lowercase
import ThermalPrint.Text.Search

/-! Search in lower case. ASCII characters are lower-cased one by one, and of other characters nothing comes
that a plain word could be found in, however the text around them is lower-cased. -/

namespace ThermalPrint.Text

variable {word : List Char} {c d : Char}

/-! ## Characters -/

theorem lowercaseChar_of_ascii (h : c.toNat < 0x80) : lowercaseChar c = [c.toLower] := by
  have htable : ∀ n : Fin 0x80, lowercaseChar (Char.ofNat n) = [(Char.ofNat n).toLower] := by decide +kernel
  have hc := htable ⟨c.toNat, h⟩
  rwa [Char.ofNat_toNat] at hc

theorem toLower_of_not_ascii (h : 0x80 ≤ c.toNat) : c.toLower = c := by
  have hZ : 'Z'.val.toNat = 0x5A := rfl
  refine dif_neg fun hupper => ?_
  have hle : c.toNat ≤ 'Z'.val.toNat := UInt32.le_iff_toNat_le.1 hupper.2
  omega

/-- Of all the runs beyond ASCII only that of the Kelvin sign leads to an ASCII character, and none leads to a
code point that is no character. -/
theorem lowercaseRuns_beyond_ascii : ∀ r ∈ lowercaseRuns,
    r.last < 0x80 ∨ (r.first = 0x212A ∧ r.last = 0x212A ∧ r.offset = -8383) ∨
      0x80 ≤ r.first + r.offset ∧
        (r.last + r.offset < 0xD800 ∨ 0xE000 ≤ r.first + r.offset ∧ r.last + r.offset < 0x110000) := by
  decide +kernel

theorem lowercaseChar_of_not_ascii (h : 0x80 ≤ c.toNat) (hdotted : c ≠ '\u0130') :
    ∃ d, lowercaseChar c = [d] ∧ (d = 'k' ∨ 0x80 ≤ d.toNat) := by
  rw [lowercaseChar, if_neg hdotted]
  split
  · next run hfind =>
    have hcontains : run.contains c.toNat = true := by simpa using List.find?_some hfind
    simp only [CaseRun.contains, Bool.and_eq_true, decide_eq_true_eq] at hcontains
    obtain ⟨⟨hfirst, hlast⟩, -⟩ := hcontains
    refine ⟨_, rfl, ?_⟩
    rcases lowercaseRuns_beyond_ascii run (List.mem_of_find?_eq_some hfind) with
      hascii | ⟨hfirst', hlast', hoffset⟩ | ⟨hbeyond, hvalid⟩
    · omega
    · have hkelvin : c.toNat = 0x212A := by omega
      rw [hkelvin, hoffset]
      exact .inl rfl
    · have hchar : (c.toNat + run.offset).toNat.isValidChar := by
        unfold Nat.isValidChar
        omega
      refine .inr ?_
      rw [Char.ofNat, dif_pos hchar]
      change 0x80 ≤ (c.toNat + run.offset).toNat
      omega
  · exact ⟨c, rfl, .inr h⟩

/-! ## Words -/

/-- A word that can be searched for in lower case: of no other character than its own letters comes one of
them. The lower-case form of U+212A is k, and that of U+0130 is an i with a dot, after which no letter of the
word stands. -/
structure Plain (word : List Char) : Prop where
  ascii : ∀ c ∈ word, c.toNat < 0x80
  kelvin : 'k' ∉ word
  last : ∀ init, word ≠ init ++ ['i']

/-- A part of a text across which the word is not found. -/
def Separates (word part : List Char) : Prop :=
  ∀ before after, word <:+: before ++ (part ++ after) ↔ word <:+: before ∨ word <:+: after

theorem separates_of_not_mem (h : c ∉ word) : Separates word [c] := by
  have hbegins {w after : List Char} (hw : w <+: c :: after) (hc : c ∉ w) : w = [] := by
    rcases List.prefix_cons_iff.1 hw with rfl | ⟨t, rfl, -⟩
    · rfl
    · exact absurd List.mem_cons_self hc
  intro before after
  constructor
  · intro hinfix
    rcases List.infix_append_iff.1 hinfix with hbefore | hafter | ⟨l, r, rfl, hl, hr⟩
    · exact .inl hbefore
    · rcases List.infix_cons_iff.1 hafter with hstart | hafter
      · rw [hbegins hstart h]
        exact .inl List.nil_infix
      · exact .inr hafter
    · rw [hbegins hr fun hc => h (List.mem_append_right l hc), List.append_nil]
      exact .inl hl.isInfix
  · rintro (hbefore | hafter)
    · exact hbefore.trans (List.prefix_append _ _).isInfix
    · exact hafter.trans (List.suffix_append_of_suffix (List.suffix_append _ _)).isInfix

namespace Plain

theorem not_mem (h : Plain word) (hc : 0x80 ≤ c.toNat) : c ∉ word :=
  fun hmem => absurd (h.ascii c hmem) (Nat.not_lt.2 hc)

/-- Of an i with a dot no word is found that the dot does not belong to. -/
theorem separates_dotted (h : Plain word) : Separates word ['i', '\u0307'] := by
  have hi (before : List Char) : word <:+: before ++ ['i'] ↔ word <:+: before := by
    rw [List.infix_concat_iff, List.suffix_concat_iff]
    constructor
    · rintro ((rfl | ⟨t, ht, -⟩) | hbefore)
      · exact List.nil_infix
      · exact absurd ht (h.last t)
      · exact hbefore
    · exact .inr
  intro before after
  rw [← hi before]
  have hdot := separates_of_not_mem (h.not_mem (c := '\u0307') (by decide)) (before ++ ['i']) after
  rwa [List.append_assoc] at hdot

theorem separates_lowercaseChar (h : Plain word) (hc : 0x80 ≤ c.toNat) : Separates word (lowercaseChar c) := by
  by_cases hdotted : c = '\u0130'
  · rw [lowercaseChar, if_pos hdotted]
    exact h.separates_dotted
  · obtain ⟨d, hd, rfl | hbeyond⟩ := lowercaseChar_of_not_ascii hc hdotted
    · rw [hd]
      exact separates_of_not_mem h.kelvin
    · rw [hd]
      exact separates_of_not_mem (h.not_mem hbeyond)

/-- A word is found in a lower-cased text exactly if it is found in the text with its ASCII letters in lower
case. -/
theorem occurs_lowercase_iff (h : Plain word) (cs : List Char) :
    occurs word (lowercase cs) = true ↔ word <:+: cs.map Char.toLower := by
  -- the characters passed since the last one that is not ASCII may begin the word
  have hafter (passed before : List Char) : word <:+: passed ++ lowercaseAfter before cs ↔
      word <:+: passed ++ cs.map Char.toLower := by
    induction cs generalizing passed before with
    | nil => exact .rfl
    | cons c cs ih =>
      rw [lowercaseAfter, List.map_cons]
      by_cases hc : c.toNat < 0x80
      · have hsigma : c ≠ 'Σ' := by
          rintro rfl
          revert hc
          decide
        have hpassed := ih (passed ++ [c.toLower]) (c :: before)
        rw [List.append_assoc, List.append_assoc] at hpassed
        rwa [if_neg hsigma, lowercaseChar_of_ascii hc]
      · have hbeyond := Nat.not_lt.1 hc
        have hsigma (d : Char) (hd : 0x80 ≤ d.toNat) : Separates word [d] := separates_of_not_mem (h.not_mem hd)
        have hpiece : Separates word (if c = 'Σ' then
            (if meetsCased before && !meetsCased cs then ['ς'] else ['σ']) else lowercaseChar c) := by
          split
          · split
            · exact hsigma 'ς' (by decide)
            · exact hsigma 'σ' (by decide)
          · exact h.separates_lowercaseChar hbeyond
        have hrest := ih [] (c :: before)
        rw [List.nil_append, List.nil_append] at hrest
        rw [hpiece, hrest, toLower_of_not_ascii hbeyond]
        exact (hsigma c hbeyond passed _).symm
  rw [occurs_iff, lowercase]
  exact hafter [] []

end Plain

end ThermalPrint.Text
