import ThermalPrint.Identifier

/-! Octets and addresses as they are written: in decimal digits, with any leading zeros. An address is
written in exactly the texts of which it is read. -/

namespace ThermalPrint.Ipv4

/-- A text that writes an octet: at least one decimal digit, and nothing else. -/
structure WritesOctet (cs : List Char) (n : UInt8) : Prop where
  ne_nil : cs ≠ []
  digits : ∀ c ∈ cs, c.isDigit = true
  value : Nat.ofDigitChars 10 cs 0 = n.toNat

/-- A text that writes an address: four octets with dots between them. -/
inductive WritesQuad : List Char → Ipv4 → Prop
  | intro {as bs cs ds : List Char} {a b c d : UInt8} (ha : WritesOctet as a) (hb : WritesOctet bs b)
    (hc : WritesOctet cs c) (hd : WritesOctet ds d) :
    WritesQuad (as ++ '.' :: (bs ++ '.' :: (cs ++ '.' :: ds))) ⟨a, b, c, d⟩

variable {as bs cs ds : List Char} {a b c d n : UInt8} {ip : Ipv4}

/-! ## Octets -/

theorem octet?_eq_some_iff : octet? cs = some n ↔ WritesOctet cs n := by
  unfold octet?
  constructor
  · intro h
    obtain ⟨m, hm, rfl⟩ := Option.map_eq_some_iff.1 h
    obtain ⟨hdigits, rfl, hlt⟩ := Text.readBelow_eq_some_iff.1 hm
    obtain ⟨hne, hall⟩ := Text.isDigits_iff.1 hdigits
    exact ⟨hne, hall, (UInt8.toNat_ofNat_of_lt' hlt).symm⟩
  · rintro ⟨hne, hall, hvalue⟩
    have hread : Text.readBelow 256 cs = some n.toNat :=
      Text.readBelow_eq_some_iff.2 ⟨Text.isDigits_iff.2 ⟨hne, hall⟩, hvalue, n.toNat_lt⟩
    rw [hread, Option.map_some, UInt8.ofNat_toNat]

theorem WritesOctet.not_mem (h : WritesOctet cs n) {x : Char} (hx : x.isDigit = false) : x ∉ cs :=
  fun hmem => Bool.false_ne_true (hx.symm.trans (h.digits x hmem))

/-- An octet is written in its shortest form. -/
theorem writesOctet_octetText (n : UInt8) : WritesOctet (octetText n) n where
  ne_nil := Nat.toDigits_ne_nil
  digits _ hc := Nat.isDigit_of_mem_toDigits (by decide) (by decide) hc
  value := Nat.ofDigitChars_ten_toDigits

/-- An octet has at most three digits. -/
theorem length_octetText_le (n : UInt8) : (octetText n).length ≤ 3 :=
  (Nat.length_toDigits_le_iff (by decide) (by decide)).2 (Nat.lt_trans n.toNat_lt (by decide))

/-! ## Addresses -/

/-- The four parts of an address are read one by one. -/
theorem ofText?_eq {s : String} (ha : '.' ∉ as) (hb : '.' ∉ bs) (hc : '.' ∉ cs) (hd : '.' ∉ ds)
    (hs : s.toList = as ++ '.' :: (bs ++ '.' :: (cs ++ '.' :: ds))) :
    ofText? s =
      (do return ⟨← octet? as, ← octet? bs, ← octet? cs, ← octet? ds⟩ : Option Ipv4) := by
  rw [ofText?, hs, Text.split_append ha, Text.split_append hb, Text.split_append hc,
    Text.split_of_not_mem hd]

theorem ofText?_eq_some_iff {s : String} : ofText? s = some ip ↔ WritesQuad s.toList ip := by
  constructor
  · intro h
    unfold ofText? at h
    split at h
    · next as bs cs ds hsplit =>
      obtain ⟨a, ha, h⟩ := Option.bind_eq_some_iff.1 h
      obtain ⟨b, hb, h⟩ := Option.bind_eq_some_iff.1 h
      obtain ⟨c, hc, h⟩ := Option.bind_eq_some_iff.1 h
      obtain ⟨d, hd, ⟨⟩⟩ := Option.bind_eq_some_iff.1 h
      have hjoin := Text.join_split '.' s.toList
      rw [hsplit] at hjoin
      rw [← hjoin]
      exact .intro (octet?_eq_some_iff.1 ha) (octet?_eq_some_iff.1 hb) (octet?_eq_some_iff.1 hc)
        (octet?_eq_some_iff.1 hd)
    · cases h
  · intro h
    generalize hs : s.toList = text at h
    obtain ⟨ha, hb, hc, hd⟩ := h
    have hdot : '.'.isDigit = false := rfl
    have hread := ofText?_eq (ha.not_mem hdot) (hb.not_mem hdot) (hc.not_mem hdot) (hd.not_mem hdot) hs
    rw [octet?_eq_some_iff.2 ha, octet?_eq_some_iff.2 hb, octet?_eq_some_iff.2 hc,
      octet?_eq_some_iff.2 hd] at hread
    exact hread

/-- An address is written as its text. -/
theorem writesQuad_text (ip : Ipv4) : WritesQuad ip.text.toList ip := by
  rw [text, String.toList_ofList]
  exact .intro (writesOctet_octetText _) (writesOctet_octetText _) (writesOctet_octetText _)
    (writesOctet_octetText _)

end ThermalPrint.Ipv4
