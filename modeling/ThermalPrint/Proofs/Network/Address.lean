import ThermalPrint.Proofs.Network.Range

/-! Addresses as identifiers. The identifiers of an address are those that write it, its own text is
one of them, and an identifier agrees with a range about the octets that both begin with. -/

namespace ThermalPrint

/-- No character has more than four bytes. -/
theorem utf8ByteSize_ofList_le (cs : List Char) : (String.ofList cs).utf8ByteSize ≤ 4 * cs.length := by
  induction cs with
  | nil => exact Nat.le_refl 0
  | cons c cs ih =>
    have hc := Char.utf8Size_le_four c
    rw [String.ofList_cons, String.utf8ByteSize_append, String.utf8ByteSize_singleton, List.length_cons]
    omega

namespace Ipv4

variable (ip : Ipv4)

theorem length_text_le : ip.text.toList.length ≤ 15 := by
  have ha := length_octetText_le ip.a
  have hb := length_octetText_le ip.b
  have hc := length_octetText_le ip.c
  have hd := length_octetText_le ip.d
  simp only [text, String.toList_ofList, Text.join, List.length_append, List.length_cons]
  omega

theorem WritesQuad.isDigit_or_eq_dot {ip : Ipv4} {text : List Char} (h : WritesQuad text ip) {c : Char}
    (hc : c ∈ text) : c.isDigit = true ∨ c = '.' := by
  obtain ⟨ha, hb, hc', hd⟩ := h
  simp only [List.mem_append, List.mem_cons] at hc
  rcases hc with hc | rfl | hc | rfl | hc | rfl | hc
  · exact .inl (ha.digits c hc)
  · exact .inr rfl
  · exact .inl (hb.digits c hc)
  · exact .inr rfl
  · exact .inl (hc'.digits c hc)
  · exact .inr rfl
  · exact .inl (hd.digits c hc)

theorem defect?_text : Identifier.defect? ip.text = none := by
  have hdot : '.' ∈ ip.text.toList := by simp [text, Text.join]
  have hlength := ip.length_text_le
  have hsize := utf8ByteSize_ofList_le ip.text.toList
  rw [String.ofList_toList] at hsize
  refine Identifier.defect?_eq_none_iff.2 ⟨fun hempty => ?_, ?_, fun c hc => ?_⟩
  · simp [hempty] at hdot
  · rw [Identifier.maxBytes]
    omega
  · rcases (writesQuad_text ip).isDigit_or_eq_dot hc with hdigit | rfl
    · exact ⟨Text.isBlank_of_isDigit hdigit, Text.isControl_of_isDigit hdigit⟩
    · decide

/-- The identifier that an address is written as. -/
def identifier : Identifier := ⟨ip.text, ip.defect?_text⟩

theorem ofText_text : Identifier.ofText ip.text = .ok ip.identifier := Identifier.ofText_eq_ok_iff.2 rfl

theorem ipv4?_identifier : ip.identifier.ipv4? = some ip := ofText?_eq_some_iff.2 (writesQuad_text ip)

end Ipv4

namespace Identifier

/-- The address of an identifier begins with the range that is written before its last dot. -/
theorem ipv4?_eq_some_iff_range (id : Identifier) {p t : String} {d : UInt8} (hslash : '/' ∉ p.toList)
    (hdots : p.toList.count '.' = 2) (ht : Ipv4.WritesOctet t.toList d) (htext : id.text = p ++ "." ++ t)
    (a b c : UInt8) :
    id.ipv4? = some ⟨a, b, c, d⟩ ↔ Network.Range.ofText p = .ok ⟨a, b, c⟩ := by
  have hblank : ∀ c ∈ p.toList, Text.isBlank c = false := by
    obtain ⟨-, -, hsound⟩ := defect?_eq_none_iff.1 id.sound
    exact fun c hc => (hsound c (by simp [htext, hc])).1
  obtain ⟨as, bs, cs, ha, hb, hc, hp⟩ := Network.Range.exists_spelled hslash hblank hdots
  have hs : id.text.toList = as ++ '.' :: (bs ++ '.' :: (cs ++ '.' :: t.toList)) := by
    simp [htext, hp, Network.Range.spelled, Network.Range.Ending.chars]
  rw [Network.Range.ofText_eq_ok_iff, hp, Network.Range.trim_spelled ha hb hc,
    Network.Range.read?_spelled ha hb hc, ipv4?,
    Ipv4.ofText?_eq ha.dot_not_mem hb.dot_not_mem hc.dot_not_mem (ht.not_mem rfl) hs,
    Ipv4.octet?_eq_some_iff.2 ht]
  cases Ipv4.octet? as <;> cases Ipv4.octet? bs <;> cases Ipv4.octet? cs <;> simp

/-- The address of an identifier is the one that it writes, if it writes any; the text of the address is
an identifier of it too, and what stands before the last dot is the range of the address. -/
theorem ipv4?_reads_quad (id : Identifier) :
    (∀ ip, id.ipv4? = some ip ↔ Ipv4.WritesQuad id.text.toList ip) ∧
    (∀ ip, id.ipv4? = some ip → ∃ id', ofText ip.text = .ok id' ∧ id'.ipv4? = some ip) ∧
    ∀ (p t : String) (d : UInt8), '/' ∉ p.toList → p.toList.count '.' = 2 →
      Ipv4.WritesOctet t.toList d → id.text = p ++ "." ++ t → ∀ a b c,
      (id.ipv4? = some ⟨a, b, c, d⟩ ↔ Network.Range.ofText p = .ok ⟨a, b, c⟩) :=
  ⟨fun _ => Ipv4.ofText?_eq_some_iff, fun ip _ => ⟨ip.identifier, ip.ofText_text, ip.ipv4?_identifier⟩,
    fun _ _ _ hslash hdots ht htext => ipv4?_eq_some_iff_range id hslash hdots ht htext⟩

/-- Leading zeros are read, and are not written. -/
theorem ipv4?_reads_quad_padded :
    let id : Identifier := ⟨"192.168.001.020", rfl⟩
    id.ipv4? = some ⟨192, 168, 1, 20⟩ ∧
      (∃ id', ofText "192.168.1.20" = .ok id' ∧ id'.ipv4? = some ⟨192, 168, 1, 20⟩) ∧
      Network.Range.ofText "192.168.001" = .ok ⟨192, 168, 1⟩ := by
  intro id
  obtain ⟨hwrites, htext, hrange⟩ := ipv4?_reads_quad id
  have hip : id.ipv4? = some ⟨192, 168, 1, 20⟩ := (hwrites _).2 (Ipv4.ofText?_eq_some_iff.1 (by decide))
  refine ⟨hip, htext _ hip, ?_⟩
  exact (hrange "192.168.001" "020" 20 (by decide) rfl (Ipv4.octet?_eq_some_iff.1 rfl) rfl _ _ _).1 hip

end Identifier

end ThermalPrint
