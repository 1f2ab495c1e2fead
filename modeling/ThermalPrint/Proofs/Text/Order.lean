import ThermalPrint.Escpos.Command

/-! Texts are in the order of their bytes. -/

namespace ThermalPrint

theorem toNat_val_lt (c : Char) : c.val.toNat < 0x110000 := by
  rcases c.valid with h | h
  · exact Nat.lt_trans h (by decide)
  · exact h.2

/-- A number below another differs from it before or at the last of its digits. -/
theorem digits_lt {m n : Nat} (h : m < n) :
    m / 64 < n / 64 ∨ m / 64 = n / 64 ∧ m % 64 < n % 64 := by
  omega

/-- The bytes of a smaller character come first, whatever follows either. -/
theorem utf8EncodeChar_append_lt {c d : Char} (h : c < d) (x y : Bytes) :
    String.utf8EncodeChar c ++ x < String.utf8EncodeChar d ++ y := by
  have hlt : c.val.toNat < d.val.toNat := h
  have hd := toNat_val_lt d
  generalize hm : c.val.toNat = m at hlt
  generalize hn : d.val.toNat = n at hlt hd
  -- how the numerals of the two characters compare, from the last digit to the first
  have h₁ := digits_lt hlt
  have h₂ (h : m / 64 < n / 64) := digits_lt h
  have h₃ (h : m / 64 / 64 < n / 64 / 64) := digits_lt h
  simp only [Nat.div_div_eq_div_mul, Nat.reduceMul] at h₂ h₃
  unfold String.utf8EncodeChar
  simp only [hm, hn]
  -- a longer sequence begins with a greater byte, and sequences of one length are numerals
  (repeat' split) <;>
    simp (disch := omega) only [List.cons_append, List.nil_append, List.cons_lt_cons_iff,
      UInt8.lt_iff_toNat_lt, ← UInt8.toNat_inj, UInt8.toNat_ofNat', Nat.mod_eq_of_lt] <;>
    omega

theorem utf8_lt_of_lt {s t : String} (h : s < t) : utf8 s < utf8 t := by
  rw [String.lt_iff] at h
  unfold utf8
  generalize s.toList = cs at h
  generalize t.toList = ds at h
  induction cs generalizing ds with
  | nil =>
    cases ds with
    | nil => exact absurd h (List.lt_irrefl [])
    | cons d ds =>
      obtain ⟨b, bs, hb⟩ := List.exists_cons_of_ne_nil (String.utf8EncodeChar_ne_nil (c := d))
      simp only [List.flatMap_nil, List.flatMap_cons, hb, List.cons_append]
      exact List.nil_lt_cons _ _
  | cons c cs ih =>
    cases ds with
    | nil => cases h
    | cons d ds =>
      simp only [List.flatMap_cons]
      rcases List.cons_lt_cons_iff.1 h with hcd | ⟨rfl, hlt⟩
      · exact utf8EncodeChar_append_lt hcd _ _
      · exact List.append_left_lt (ih ds hlt)

end ThermalPrint
