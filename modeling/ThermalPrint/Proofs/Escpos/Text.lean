import ThermalPrint.Escpos.Interpreter
import ThermalPrint.Receipt.Basic

/-! The bytes of texts: no byte of another character is mistaken for a control character, and a text
is known by its bytes. -/

namespace ThermalPrint

/-- A byte below 0x80 stands for the character of that number and for no other. -/
theorem toNat_eq_of_mem_utf8EncodeChar {b : UInt8} {c : Char} (hb : b ∈ String.utf8EncodeChar c)
    (hlt : b.toNat < 0x80) : b.toNat = c.toNat := by
  -- every byte of a longer sequence has its highest bit set
  have high (n m k : Nat) (hm : 0 < m) (hk : 0x80 ≤ k) (hsum : m + k ≤ 256)
      (hb : b = UInt8.ofNat (n % m + k)) : False := by
    have hn : n % m < m := Nat.mod_lt n hm
    rw [hb, UInt8.toNat_ofNat', Nat.mod_eq_of_lt (by omega)] at hlt
    omega
  revert hb
  fun_cases String.utf8EncodeChar c with
  | case1 v hv =>
    intro hb
    rw [List.mem_singleton.1 hb, UInt8.toNat_ofNat']
    exact Nat.mod_eq_of_lt (Nat.lt_of_le_of_lt hv (by decide))
  | case2 =>
    intro hb
    simp only [List.mem_cons, List.not_mem_nil, or_false] at hb
    rcases hb with hb | hb <;> exact (high _ _ _ (by decide) (by decide) (by decide) hb).elim
  | case3 =>
    intro hb
    simp only [List.mem_cons, List.not_mem_nil, or_false] at hb
    rcases hb with hb | hb | hb <;> exact (high _ _ _ (by decide) (by decide) (by decide) hb).elim
  | case4 =>
    intro hb
    simp only [List.mem_cons, List.not_mem_nil, or_false] at hb
    rcases hb with hb | hb | hb | hb <;>
      exact (high _ _ _ (by decide) (by decide) (by decide) hb).elim

/-- A text has the byte of an ASCII character only where it has the character. -/
theorem not_mem_utf8 {c : Char} {s : String} (hc : c.toNat < 0x80) (h : c ∉ s.toList) :
    UInt8.ofNat c.toNat ∉ utf8 s := by
  intro hmem
  obtain ⟨d, hd, hb⟩ := List.mem_flatMap.1 hmem
  have hbyte : (UInt8.ofNat c.toNat).toNat = c.toNat := by
    rw [UInt8.toNat_ofNat']
    exact Nat.mod_eq_of_lt (by omega)
  have hcd := toNat_eq_of_mem_utf8EncodeChar hb (by rw [hbyte]; exact hc)
  rw [hbyte] at hcd
  exact h (Char.toNat_inj.1 hcd ▸ hd)

theorem utf8_toByteArray (s : String) : (utf8 s).toByteArray = s.toByteArray := by
  conv => rhs; rw [← String.ofList_toList (s := s)]
  rw [String.toByteArray_ofList]
  rfl

theorem utf8_inj {s t : String} : utf8 s = utf8 t ↔ s = t := by
  refine ⟨fun h => ?_, fun h => h ▸ rfl⟩
  rw [← String.toByteArray_inj, ← utf8_toByteArray, h, utf8_toByteArray]

namespace Receipt

/-- The texts that a caller gave for a receipt. -/
def texts (r : Receipt) : List String :=
  r.header.toList ++ r.items.flatMap (fun item => [item.name, item.price]) ++ r.total.toList
    ++ r.footer.toList

/-- None of the characters is in a text of the receipt. -/
def Avoids (r : Receipt) (chars : List Char) : Prop :=
  ∀ text ∈ r.texts, ∀ c ∈ chars, c ∉ text.toList

instance (r : Receipt) (chars : List Char) : Decidable (r.Avoids chars) :=
  decidable_of_iff ((r.texts.all fun text => chars.all fun c => !text.toList.contains c) = true)
    (by simp [Avoids])

variable {r : Receipt} {text : String} {item : Item}

theorem Avoids.mono {chars less : List Char} (h : r.Avoids chars) (hless : ∀ c ∈ less, c ∈ chars) :
    r.Avoids less := fun text ht c hc => h text ht c (hless c hc)

theorem header_mem_texts (h : r.header = some text) : text ∈ r.texts := by simp [texts, h]

theorem name_mem_texts (h : item ∈ r.items) : item.name ∈ r.texts := by
  simp only [texts, List.mem_append, List.mem_flatMap]
  exact .inl (.inl (.inr ⟨item, h, List.mem_cons_self⟩))

theorem price_mem_texts (h : item ∈ r.items) : item.price ∈ r.texts := by
  simp only [texts, List.mem_append, List.mem_flatMap]
  exact .inl (.inl (.inr ⟨item, h, List.mem_cons_of_mem _ List.mem_cons_self⟩))

theorem total_mem_texts (h : r.total = some text) : text ∈ r.texts := by simp [texts, h]

theorem footer_mem_texts (h : r.footer = some text) : text ∈ r.texts := by simp [texts, h]

end Receipt

end ThermalPrint
