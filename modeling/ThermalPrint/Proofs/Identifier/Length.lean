import ThermalPrint.Identifier

/-! The length of identifiers. It is limited in bytes and reported as if these were characters, which they
are in ASCII texts only. -/

namespace ThermalPrint

/-- A text has a byte for every character at least, and no more than that if it is ASCII. -/
theorem length_le_utf8ByteSize (cs : List Char) : cs.length ≤ (String.ofList cs).utf8ByteSize ∧
    ((String.ofList cs).utf8ByteSize = cs.length ↔ ∀ c ∈ cs, c.toNat < 0x80) := by
  induction cs with
  | nil => exact ⟨Nat.le_refl 0, fun _ => List.forall_mem_nil _, fun _ => rfl⟩
  | cons c cs ih =>
    obtain ⟨hle, hiff⟩ := ih
    have hpos := Char.utf8Size_pos c
    have hone : c.utf8Size = 1 ↔ c.toNat < 0x80 := by
      rw [Char.utf8Size_eq_one_iff, UInt32.le_iff_toNat_le]
      exact Nat.lt_succ_iff.symm
    rw [String.ofList_cons, String.utf8ByteSize_append, String.utf8ByteSize_singleton, List.length_cons,
      List.forall_mem_cons, ← hiff, ← hone]
    omega

namespace Identifier

variable {s : String}

theorem exists_ofText_iff : (∃ id, ofText s = .ok id) ↔ defect? s = none := by
  constructor
  · rintro ⟨id, h⟩
    rw [← ofText_eq_ok_iff.1 h]
    exact id.sound
  · exact fun h => ⟨⟨s, h⟩, ofText_eq_ok_iff.2 rfl⟩

theorem ofText_of_defect {d : IdentifierDefect} (h : defect? s = some d) :
    ofText s = .error (.invalidIdentifier (d.reason s)) := by
  unfold ofText
  split
  · next hnone =>
    rw [hnone] at h
    cases h
  · next d' hd =>
    rw [hd] at h
    cases h
    rfl

theorem defect?_of_long (hempty : s ≠ "") (hlong : 64 < s.utf8ByteSize) :
    defect? s = some (.tooLong s.utf8ByteSize) := by
  rw [defect?, if_neg fun h => hempty (String.isEmpty_iff.1 h)]
  exact if_pos hlong

theorem reason_tooLong (n : Nat) :
    (IdentifierDefect.tooLong n).reason s = s!"Identifier too long: {n} chars (max 64)" := by
  change "Identifier too long: " ++ toString n ++ " chars (max " ++ "64" ++ ")" =
    "Identifier too long: " ++ toString n ++ " chars (max 64)"
  rw [String.append_assoc, String.append_assoc]
  rfl

/-- A text is an identifier, and is kept as it is, exactly if it is not empty, has at most 64 bytes and
holds no white space and no control character. What is longer is refused, and the bytes are given for
its characters. In an ASCII text these are the same; every other text has fewer characters than bytes. -/
theorem ofText_limits_bytes (s : String) :
    ((∃ id, ofText s = .ok id) ↔ s ≠ "" ∧ s.utf8ByteSize ≤ 64 ∧
      ∀ c ∈ s.toList, Text.isBlank c = false ∧ Text.isControl c = false) ∧
    (∀ id, ofText s = .ok id → id.text = s) ∧
    (s ≠ "" → 64 < s.utf8ByteSize → ofText s =
      .error (.invalidIdentifier s!"Identifier too long: {s.utf8ByteSize} chars (max 64)")) ∧
    s.length ≤ s.utf8ByteSize ∧ (s.utf8ByteSize = s.length ↔ ∀ c ∈ s.toList, c.toNat < 0x80) := by
  have hlength := length_le_utf8ByteSize s.toList
  rw [String.ofList_toList, String.length_toList] at hlength
  refine ⟨?_, fun id => ofText_eq_ok_iff.1, fun hempty hlong => ?_, hlength⟩
  · rw [exists_ofText_iff, defect?_eq_none_iff]
    rfl
  · rw [ofText_of_defect (defect?_of_long hempty hlong), reason_tooLong]

/-- Seventeen characters of four bytes each. -/
def faces : String := String.ofList (List.replicate 17 '😀')

theorem toList_faces : faces.toList = List.replicate 17 '😀' := String.toList_ofList

theorem ofText_limits_bytes_of_faces :
    (faces ≠ "" ∧ 64 < faces.utf8ByteSize) ∧
      ofText faces = .error (.invalidIdentifier "Identifier too long: 68 chars (max 64)") := by
  have hempty : faces ≠ "" := by decide
  have hlong : 64 < faces.utf8ByteSize := by decide
  exact ⟨⟨hempty, hlong⟩, (ofText_limits_bytes faces).2.2.1 hempty hlong⟩

/-- A text of seventeen characters, none of them blank or a control character, is refused for its length,
which is given as 68 characters. -/
theorem ofText_refuses_faces :
    (faces ≠ "" ∧ faces.length = 17 ∧ ∀ c ∈ faces.toList, Text.isBlank c = false ∧ Text.isControl c = false) ∧
      (¬ ∃ id, ofText faces = .ok id) ∧
      ofText faces = .error (.invalidIdentifier "Identifier too long: 68 chars (max 64)") := by
  have hdefect : defect? faces = some (.tooLong 68) := by decide
  have hface : Text.isBlank '😀' = false ∧ Text.isControl '😀' = false := by decide
  have hplain : ∀ c ∈ faces.toList, Text.isBlank c = false ∧ Text.isControl c = false := by
    rw [toList_faces]
    intro c hc
    exact List.eq_of_mem_replicate hc ▸ hface
  refine ⟨⟨by decide, by decide, hplain⟩, ?_, by rw [ofText_of_defect hdefect, reason_tooLong]; rfl⟩
  rw [exists_ofText_iff, hdefect]
  exact Option.some_ne_none _

end Identifier

end ThermalPrint
