import ThermalPrint.Network.Range
import ThermalPrint.Proofs.Text.Octet

/-! Ranges as they are written. A range is read of exactly the texts that write it in one of four
notations, with any blanks around these, and every other text is refused. -/

namespace ThermalPrint.Network.Range

/-- What may follow the three octets of a range. -/
inductive Ending
  | bare
  | zero
  | mask
  | zeroMask
deriving DecidableEq, Repr

def Ending.chars : Ending → List Char
  | .bare => []
  | .zero => ['.', '0']
  | .mask => ['/', '2', '4']
  | .zeroMask => ['.', '0', '/', '2', '4']

/-- Three parts with dots between them, and an ending. -/
def spelled (as bs cs : List Char) (e : Ending) : List Char :=
  as ++ '.' :: (bs ++ '.' :: (cs ++ e.chars))

/-- A text that writes a range: three octets and an ending. -/
inductive Written : List Char → Range → Prop
  | intro {as bs cs : List Char} {a b c : UInt8} (ha : Ipv4.WritesOctet as a)
    (hb : Ipv4.WritesOctet bs b) (hc : Ipv4.WritesOctet cs c) (e : Ending) :
    Written (spelled as bs cs e) ⟨a, b, c⟩

/-- A part of a range that holds nothing of what stands around and between the parts. -/
def IsPart (cs : List Char) : Prop := ∀ c ∈ cs, c ≠ '.' ∧ c ≠ '/' ∧ Text.isBlank c = false

variable {as bs cs base text : List Char} {r : Range}

theorem IsPart.dot_not_mem (h : IsPart cs) : '.' ∉ cs := fun hmem => (h _ hmem).1 rfl

theorem IsPart.slash_not_mem (h : IsPart cs) : '/' ∉ cs := fun hmem => (h _ hmem).2.1 rfl

theorem isPart_of_writesOctet {n : UInt8} (h : Ipv4.WritesOctet cs n) : IsPart cs := by
  intro c hc
  have hdigit := h.digits c hc
  refine ⟨?_, ?_, Text.isBlank_of_isDigit hdigit⟩
  · rintro rfl
    cases hdigit
  · rintro rfl
    cases hdigit

/-- A text with two dots, without slashes and without blanks, is three parts with nothing after them. -/
theorem exists_spelled (hslash : '/' ∉ text) (hblank : ∀ c ∈ text, Text.isBlank c = false)
    (hdots : text.count '.' = 2) :
    ∃ as bs cs, IsPart as ∧ IsPart bs ∧ IsPart cs ∧ text = spelled as bs cs .bare := by
  have hlength : (Text.split '.' text).length = 3 := by rw [Text.length_split, hdots]
  obtain ⟨as, bs, cs, hsplit⟩ : ∃ as bs cs, Text.split '.' text = [as, bs, cs] := by
    match Text.split '.' text, hlength with
    | [as, bs, cs], _ => exact ⟨as, bs, cs, rfl⟩
  have hjoin := Text.join_split '.' text
  rw [hsplit] at hjoin
  have hpart : ∀ part ∈ [as, bs, cs], (∀ c ∈ part, c ∈ text) → IsPart part := by
    intro part hmem hsub c hc
    refine ⟨?_, ?_, hblank c (hsub c hc)⟩
    · rintro rfl
      exact Text.not_mem_of_mem_split (hsplit ▸ hmem) hc
    · rintro rfl
      exact hslash (hsub _ hc)
  refine ⟨as, bs, cs, hpart as (by simp) ?_, hpart bs (by simp) ?_, hpart cs (by simp) ?_, ?_⟩
  · simp +contextual [← hjoin, Text.join]
  · simp +contextual [← hjoin, Text.join]
  · simp +contextual [← hjoin, Text.join]
  · simp [← hjoin, Text.join, spelled, Ending.chars]

/-! ## Reading one notation -/

theorem base?_of_not_mem (h : '/' ∉ text) : base? text = some text := by
  rw [base?, Text.splitFirst_eq_none_iff.2 h]

theorem base?_masked (h : '/' ∉ text) : base? (text ++ ['/', '2', '4']) = some text := by
  simp only [base?, Text.splitFirst_append h]

/-- A mask adds nothing. -/
theorem base?_spelled (ha : IsPart as) (hb : IsPart bs) (hc : IsPart cs) (e : Ending) :
    base? (spelled as bs cs e) = some (spelled as bs cs .bare) ∨
      base? (spelled as bs cs e) = some (spelled as bs cs .zero) := by
  have hbare : '/' ∉ spelled as bs cs .bare := by
    simp [spelled, Ending.chars, ha.slash_not_mem, hb.slash_not_mem, hc.slash_not_mem]
  have hzero : '/' ∉ spelled as bs cs .zero := by
    simp [spelled, Ending.chars, ha.slash_not_mem, hb.slash_not_mem, hc.slash_not_mem]
  cases e with
  | bare => exact .inl (base?_of_not_mem hbare)
  | zero => exact .inr (base?_of_not_mem hzero)
  | mask =>
    refine .inl ?_
    rw [← base?_masked hbare]
    simp [spelled, Ending.chars]
  | zeroMask =>
    refine .inr ?_
    rw [← base?_masked hzero]
    simp [spelled, Ending.chars]

/-- The three octets of a range are read whatever its ending. -/
theorem read?_spelled (ha : IsPart as) (hb : IsPart bs) (hc : IsPart cs) (e : Ending) :
    read? (spelled as bs cs e) =
      (do return ⟨← Ipv4.octet? as, ← Ipv4.octet? bs, ← Ipv4.octet? cs⟩ : Option Range) := by
  have hbare : Text.split '.' (spelled as bs cs .bare) = [as, bs, cs] := by
    rw [spelled, Text.split_append ha.dot_not_mem, Text.split_append hb.dot_not_mem, Ending.chars,
      List.append_nil, Text.split_of_not_mem hc.dot_not_mem]
  have hzero : Text.split '.' (spelled as bs cs .zero) = [as, bs, cs, ['0']] := by
    rw [spelled, Text.split_append ha.dot_not_mem, Text.split_append hb.dot_not_mem, Ending.chars,
      Text.split_append hc.dot_not_mem]
    rfl
  rcases base?_spelled ha hb hc e with hbase | hbase
  · simp only [read?, hbase, hbare, Option.bind_eq_bind, Option.bind_some]
  · simp only [read?, hbase, hzero, Option.bind_eq_bind, Option.bind_some]

/-! ## The language of ranges -/

theorem eq_of_base? (h : base? text = some base) : text = base ∨ text = base ++ ['/', '2', '4'] := by
  unfold base? at h
  split at h
  · exact .inl (Option.some.inj h)
  · next before hsplit =>
    cases h
    exact .inr (Text.eq_append_of_splitFirst hsplit)
  · cases h

/-- The base of a text is three parts, perhaps with a zero after them. The text has an ending of its own. -/
theorem exists_ending (h : base? text = some base)
    (hbase : base = spelled as bs cs .bare ∨ base = spelled as bs cs .zero) :
    ∃ e, text = spelled as bs cs e := by
  rcases hbase with rfl | rfl <;> rcases eq_of_base? h with rfl | rfl
  · exact ⟨.bare, rfl⟩
  · exact ⟨.mask, by simp [spelled, Ending.chars]⟩
  · exact ⟨.zero, rfl⟩
  · exact ⟨.zeroMask, by simp [spelled, Ending.chars]⟩

/-- Parts that are read as octets write a range with any ending. -/
theorem written_of_octets
    (h : (do return ⟨← Ipv4.octet? as, ← Ipv4.octet? bs, ← Ipv4.octet? cs⟩ : Option Range) = some r)
    (e : Ending) : Written (spelled as bs cs e) r := by
  obtain ⟨a, ha, h⟩ := Option.bind_eq_some_iff.1 h
  obtain ⟨b, hb, h⟩ := Option.bind_eq_some_iff.1 h
  obtain ⟨c, hc, ⟨⟩⟩ := Option.bind_eq_some_iff.1 h
  exact .intro (Ipv4.octet?_eq_some_iff.1 ha) (Ipv4.octet?_eq_some_iff.1 hb)
    (Ipv4.octet?_eq_some_iff.1 hc) e

theorem written_of_read? (h : read? text = some r) : Written text r := by
  obtain ⟨base, hbase, hparts⟩ := Option.bind_eq_some_iff.1 h
  have hjoin := Text.join_split '.' base
  -- the base has three parts, or a fourth that is a zero
  split at hparts
  · next as bs cs hsplit =>
    rw [hsplit] at hjoin
    have hbare : base = spelled as bs cs .bare := by
      rw [← hjoin]
      simp [spelled, Ending.chars, Text.join]
    obtain ⟨e, rfl⟩ := exists_ending hbase (.inl hbare)
    exact written_of_octets hparts e
  · next as bs cs hsplit =>
    rw [hsplit] at hjoin
    have hzero : base = spelled as bs cs .zero := by
      rw [← hjoin]
      simp [spelled, Ending.chars, Text.join]
    obtain ⟨e, rfl⟩ := exists_ending hbase (.inr hzero)
    exact written_of_octets hparts e
  · cases hparts

theorem read?_eq_some_iff : read? text = some r ↔ Written text r := by
  refine ⟨written_of_read?, ?_⟩
  rintro ⟨ha, hb, hc, e⟩
  rw [read?_spelled (isPart_of_writesOctet ha) (isPart_of_writesOctet hb) (isPart_of_writesOctet hc),
    Ipv4.octet?_eq_some_iff.2 ha, Ipv4.octet?_eq_some_iff.2 hb, Ipv4.octet?_eq_some_iff.2 hc]
  rfl

/-! ## Blanks around a range -/

theorem ofText_eq_ok_iff {s : String} : ofText s = .ok r ↔ read? (Text.trim s.toList) = some r := by
  unfold ofText
  split
  · next range hread => rw [hread, Except.ok.injEq, Option.some.injEq]
  · next hread => simp [hread]

theorem isBlank_of_mem_spelled (ha : IsPart as) (hb : IsPart bs) (hc : IsPart cs) (e : Ending) :
    ∀ c ∈ spelled as bs cs e, Text.isBlank c = false := by
  have hending : e.chars.any Text.isBlank = false := by cases e <;> rfl
  have hdot : Text.isBlank '.' = false := rfl
  intro c hmem
  simp only [spelled, List.mem_append, List.mem_cons] at hmem
  rcases hmem with hmem | rfl | hmem | rfl | hmem | hmem
  · exact (ha c hmem).2.2
  · exact hdot
  · exact (hb c hmem).2.2
  · exact hdot
  · exact (hc c hmem).2.2
  · exact Bool.eq_false_iff.2 (List.any_eq_false.1 hending c hmem)

theorem trim_spelled (ha : IsPart as) (hb : IsPart bs) (hc : IsPart cs) (e : Ending) :
    Text.trim (spelled as bs cs e) = spelled as bs cs e := by
  have htrim : Text.trim ([] ++ spelled as bs cs e ++ []) = spelled as bs cs e :=
    Text.trim_append (List.forall_mem_nil _) (isBlank_of_mem_spelled ha hb hc e) (List.forall_mem_nil _)
  rwa [List.nil_append, List.append_nil] at htrim

/-- A text that writes a range, with any blanks around it. -/
def Writes (s : String) (r : Range) : Prop :=
  ∃ before text after : List Char, s.toList = before ++ text ++ after ∧
    (∀ c ∈ before, Text.isBlank c = true) ∧ (∀ c ∈ after, Text.isBlank c = true) ∧ Written text r

theorem writes_iff {s : String} : Writes s r ↔ Written (Text.trim s.toList) r := by
  constructor
  · rintro ⟨before, text, after, heq, hbefore, hafter, ⟨ha, hb, hc, e⟩⟩
    have hblank := isBlank_of_mem_spelled (isPart_of_writesOctet ha) (isPart_of_writesOctet hb)
      (isPart_of_writesOctet hc) e
    rw [heq, Text.trim_append hbefore hblank hafter]
    exact .intro ha hb hc e
  · intro h
    obtain ⟨before, after, heq, hbefore, hafter⟩ := Text.exists_trim s.toList
    exact ⟨before, _, after, heq, hbefore, hafter, h⟩

/-- A range is read of exactly the texts that write it, and of every other text it is told that it
writes none. All endings of three parts are read alike. -/
theorem ofText_reads_written (s : String) :
    (∀ r, ofText s = .ok r ↔ Writes s r) ∧
    ((∀ r, ¬ Writes s r) →
      ofText s = .error (.badConfiguration s!"Invalid network range {Text.quoted s}")) ∧
    ∀ as bs cs, IsPart as → IsPart bs → IsPart cs → ∀ (e e' : Ending) (r : Range),
      ofText (String.ofList (spelled as bs cs e)) = .ok r ↔
        ofText (String.ofList (spelled as bs cs e')) = .ok r := by
  have hread (r : Range) : ofText s = .ok r ↔ Writes s r := by
    rw [ofText_eq_ok_iff, read?_eq_some_iff, writes_iff]
  refine ⟨hread, fun hnone => ?_, fun as bs cs ha hb hc e e' r => ?_⟩
  · unfold ofText
    split
    · next r h => exact absurd ((hread r).1 (ofText_eq_ok_iff.2 h)) (hnone r)
    · rfl
  · rw [ofText_eq_ok_iff, ofText_eq_ok_iff, String.toList_ofList, String.toList_ofList,
      trim_spelled ha hb hc, trim_spelled ha hb hc, read?_spelled ha hb hc, read?_spelled ha hb hc]

/-- Leading zeros, a mask and an ideographic space are taken; a part without a digit is not. -/
theorem ofText_reads_written_masked :
    Writes " 192.168.001.0/24\u3000" ⟨192, 168, 1⟩ ∧
      ofText " 192.168.001.0/24\u3000" = .ok ⟨192, 168, 1⟩ ∧
      (∀ r, ¬ Writes " 1..2" r) ∧
      ofText " 1..2" = .error (.badConfiguration "Invalid network range \" 1..2\"") ∧
      ∀ e, ofText (String.ofList (spelled ['1', '0'] ['0', '0'] ['7'] e)) = .ok ⟨10, 0, 7⟩ := by
  have hwrites : Writes " 192.168.001.0/24\u3000" ⟨192, 168, 1⟩ :=
    writes_iff.2 (read?_eq_some_iff.1 (by decide))
  have hnone (r : Range) : ¬ Writes " 1..2" r := by
    intro h
    have hread : read? (Text.trim " 1..2".toList) = none := by decide
    cases hread.symm.trans (read?_eq_some_iff.2 (writes_iff.1 h))
  obtain ⟨-, -, hnotations⟩ := ofText_reads_written ""
  have hpart {cs : List Char} {n : UInt8} (h : Ipv4.octet? cs = some n) : IsPart cs :=
    isPart_of_writesOctet (Ipv4.octet?_eq_some_iff.1 h)
  refine ⟨hwrites, ((ofText_reads_written _).1 _).2 hwrites, hnone, ?_, fun e => ?_⟩
  · exact (ofText_reads_written _).2.1 hnone
  · exact (hnotations _ _ _ (hpart rfl) (hpart rfl) (hpart rfl) e .bare _).2 rfl

end ThermalPrint.Network.Range
