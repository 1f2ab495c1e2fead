import ThermalPrint.Discovery.Name
import ThermalPrint.Proofs.Text.Lowercase

/-! Names of printers are told by their ASCII letters alone. Although a name is lower-cased as a whole, it is
searched as if no other character had a lower-case form. -/

namespace ThermalPrint

/-- Texts that are the same up to the case of ASCII letters. -/
def Text.Caseless (s t : List Char) : Prop := s.map Char.toLower = t.map Char.toLower

instance (s t : List Char) : Decidable (Text.Caseless s t) := inferInstanceAs (Decidable (_ = _))

namespace Discovery

theorem keywords_eq : keywords = ["zywell", "zyprint", "printer"].map String.toList := rfl

theorem plain_of_mem_keywords {word : List Char} (h : word ∈ keywords) : Text.Plain word := by
  have hwords : ∀ word ∈ keywords,
      word.all (·.toNat < 0x80) = true ∧ 'k' ∉ word ∧ word.getLast? ≠ some 'i' := by decide
  obtain ⟨hascii, hkelvin, hlast⟩ := hwords word h
  refine ⟨fun c hc => of_decide_eq_true (List.all_eq_true.1 hascii c hc), hkelvin, ?_⟩
  rintro init rfl
  exact hlast List.getLast?_concat

theorem map_toLower_of_mem_keywords : ∀ word ∈ keywords, word.map Char.toLower = word := by decide

theorem isPrinterName_iff (cs : List Char) : isPrinterName (String.ofList cs) = true ↔
    ∃ word ∈ keywords, word <:+: cs.map Char.toLower := by
  rw [isPrinterName, String.toList_ofList, List.any_eq_true]
  exact exists_congr fun word => and_congr_right fun h => (plain_of_mem_keywords h).occurs_lowercase_iff cs

/-- A name is a printer's exactly if some of its characters in a row are a keyword up to the case of ASCII
letters. A character that is not ASCII has no part in that: it stands between two texts that may be such
names by themselves. -/
theorem isPrinterName_caseless (name : String) :
    (isPrinterName name = true ↔ ∃ run, run <:+: name.toList ∧
      ∃ keyword ∈ ["zywell", "zyprint", "printer"], Text.Caseless run keyword.toList) ∧
    ∀ before c after, name.toList = before ++ c :: after → 0x80 ≤ c.toNat →
      (isPrinterName name = true ↔
        isPrinterName (String.ofList before) = true ∨ isPrinterName (String.ofList after) = true) := by
  have hname := isPrinterName_iff name.toList
  rw [String.ofList_toList] at hname
  constructor
  · rw [hname, keywords_eq]
    constructor
    · rintro ⟨word, hword, hwithin⟩
      obtain ⟨keyword, hkeyword, rfl⟩ := List.mem_map.1 hword
      obtain ⟨run, hrun, heq⟩ := List.infix_map_iff.1 hwithin
      rw [← keywords_eq] at hword
      exact ⟨run, hrun, keyword, hkeyword, heq.symm.trans (map_toLower_of_mem_keywords _ hword).symm⟩
    · rintro ⟨run, hrun, keyword, hkeyword, hcaseless⟩
      have hword := List.mem_map_of_mem (f := String.toList) hkeyword
      refine ⟨keyword.toList, hword, ?_⟩
      rw [← keywords_eq] at hword
      rw [← map_toLower_of_mem_keywords _ hword, ← hcaseless]
      exact hrun.map Char.toLower
  · intro before c after hsplit hc
    rw [hname, isPrinterName_iff, isPrinterName_iff, hsplit, List.map_append, List.map_cons,
      Text.toLower_of_not_ascii hc]
    have hparts {word : List Char} (h : word ∈ keywords) (l r : List Char) :
        word <:+: l ++ c :: r ↔ word <:+: l ∨ word <:+: r :=
      Text.separates_of_not_mem ((plain_of_mem_keywords h).not_mem hc) l r
    constructor
    · rintro ⟨word, hword, hwithin⟩
      exact ((hparts hword _ _).1 hwithin).imp (⟨word, hword, ·⟩) (⟨word, hword, ·⟩)
    · rintro (⟨word, hword, hwithin⟩ | ⟨word, hword, hwithin⟩)
      · exact ⟨word, hword, (hparts hword _ _).2 (.inl hwithin)⟩
      · exact ⟨word, hword, (hparts hword _ _).2 (.inr hwithin)⟩

/-- The lower-case form of U+0130 begins with an i, and yet takes no part in a keyword. -/
theorem isPrinterName_caseless_dotted :
    let name := "PR\u0130NTER-pRiNtEr"
    name.toList = ['P', 'R'] ++ '\u0130' :: "NTER-pRiNtEr".toList ∧ 0x80 ≤ '\u0130'.toNat ∧
      isPrinterName name = true ∧ isPrinterName "PR\u0130NTER" = false := by
  intro name
  have hsplit : name.toList = ['P', 'R'] ++ '\u0130' :: "NTER-pRiNtEr".toList := by decide
  have hc : 0x80 ≤ '\u0130'.toNat := by decide
  refine ⟨hsplit, hc, ((isPrinterName_caseless name).2 _ _ _ hsplit hc).2 (.inr ?_), by decide +kernel⟩
  have hwithin : "pRiNtEr".toList <:+: "NTER-pRiNtEr".toList := ⟨"NTER-".toList, [], by decide⟩
  exact (isPrinterName_caseless _).1.2 ⟨_, hwithin, "printer", by decide, by decide⟩

end Discovery

end ThermalPrint
