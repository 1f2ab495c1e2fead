import ThermalPrint.Proofs.Receipt.Written

/-! Requests are read back from what is written of them, unless it is nested more than `depthLimit`
levels deep. A receipt or job that was read as such is not; one that took over a formatting, or a
receipt, that was read from a text of its own can be. -/

namespace ThermalPrint

open Json

variable {literal : String → StringLiteral}

/-! ## Requests that a caller comes by -/

/-- Receipts that are read from a text, alone or in a job, or put together from texts and from a
formatting that was read. -/
inductive Receipt.Sourced : Receipt → Prop
  | read {text : String} {r : Receipt} (h : decodeText decoder text = .ok r) : Sourced r
  | content {text : String} {r : Receipt} (h : decodeText Job.decoder text = .ok (.receipt r)) : Sourced r
  | empty : Sourced {}
  | withHeader {r : Receipt} (h : Sourced r) (text : String) : Sourced (r.withHeader text)
  | withItem {r : Receipt} (h : Sourced r) (name price : String) : Sourced (r.withItem name price)
  | withTotal {r : Receipt} (h : Sourced r) (text : String) : Sourced (r.withTotal text)
  | withFooter {r : Receipt} (h : Sourced r) (text : String) : Sourced (r.withFooter text)
  | withFormatting {r : Receipt} (h : Sourced r) {text : String} {f : Formatting}
      (hf : decodeText Formatting.decoder text = .ok f) : Sourced (r.withFormatting f)
  /-- The formatting of another receipt. -/
  | withFormattingOf {r r' : Receipt} (h : Sourced r) (h' : Sourced r') :
      Sourced (r.withFormatting r'.formatting)

inductive Job.Sourced : Job → Prop
  | read {text : String} {job : Job} (h : decodeText decoder text = .ok job) : Sourced job
  | plainText (text : String) : Sourced (.plainText text)
  | receipt {r : Receipt} (h : r.Sourced) : Sourced (.receipt r)

theorem Receipt.Sourced.settled {r : Receipt} (h : r.Sourced) : r.Settled := by
  induction h with
  | read h => exact (settled_of_read (root_of_decodeText h)).1
  | content h => exact (Job.settled_of_read (root_of_decodeText h)).1
  | empty => exact Formatting.settled_empty
  | withHeader _ _ ih | withItem _ _ _ ih | withTotal _ _ ih | withFooter _ _ ih => exact ih
  | withFormatting _ hf => exact (Formatting.settled_of_read (root_of_decodeText hf)).1
  | withFormattingOf _ _ _ ih' => exact ih'

theorem Job.Sourced.settled {job : Job} (h : job.Sourced) : job.Settled := by
  cases h with
  | read h => exact (settled_of_read (root_of_decodeText h)).1
  | plainText text => trivial
  | receipt h => exact h.settled

/-! ## Formattings -/

/-- A formatting with a size that is no printer's size. -/
def oddFormatting : Receipt.Formatting := {
  header := { size := some (.other (.object [
    ("a", .number (.integer 9223372036854775808 (by decide))), ("b", .array [.null])])), bold := true } }

theorem decodeText_oddFormatting :
    decodeText Receipt.Formatting.decoder oddFormatting.toJson.compact = .ok oddFormatting := by
  have hsettled : oddFormatting.Settled := by
    rintro (_ | _ | _ | _) s ⟨⟩
    exact ⟨rfl, rfl, nofun⟩
  have hfloat : oddFormatting.FloatFree := by
    rintro (_ | _ | _ | _) s ⟨⟩
    rfl
  exact (Receipt.Formatting.decodeText_toJson_iff hsettled hfloat).2 (by decide)

/-- A receipt that was put together. -/
def oddReceipt : Receipt :=
  (((({} : Receipt).withHeader "Caf\u00e9 \"1\"\n\x01").withItem "Tea" "1.5").withItem "" "").withFormatting
    oddFormatting

/-- An array inside `n` others. -/
def nested : Nat → Value
  | 0 => .array []
  | n + 1 => .array [nested n]

theorem canonical_nested (n : Nat) : (nested n).canonical = nested n := by
  induction n with
  | zero => rfl
  | succ n ih => exact Value.canonical_array (List.forall_mem_singleton.2 ih)

theorem depth_nested (n : Nat) : (nested n).depth = n + 1 := by
  induction n with
  | zero => rfl
  | succ n ih =>
    rw [nested, Value.depth, Value.depthElements, ih]
    rfl

theorem floatFree_nested (n : Nat) : (nested n).floatFree = true := by
  induction n with
  | zero => rfl
  | succ n ih => exact Value.floatFreeElements_iff.2 (List.forall_mem_singleton.2 ih)

/-- A formatting with one size that is nested as deep as a text of its own allows. -/
def deepFormatting : Receipt.Formatting := { header := { size := some (.other (nested 125)) } }

theorem floatFree_deepFormatting : deepFormatting.FloatFree := by
  rintro (_ | _ | _ | _) s ⟨⟩
  exact floatFree_nested 125

theorem decodeText_deepFormatting :
    decodeText Receipt.Formatting.decoder deepFormatting.toJson.compact = .ok deepFormatting := by
  have hsettled : deepFormatting.Settled := by
    rintro (_ | _ | _ | _) s ⟨⟩
    exact ⟨canonical_nested 125, rfl, nofun⟩
  refine (Receipt.Formatting.decodeText_toJson_iff hsettled floatFree_deepFormatting).2 ?_
  refine Receipt.Formatting.depth_toJson_le ?_
  rintro (_ | _ | _ | _) s ⟨⟩
  exact Nat.le_of_eq (depth_nested 125)

/-- A header size that is nested too deep makes a text unreadable. -/
theorem Receipt.Formatting.decoder_tooDeep {f : Formatting} {s : Size} {levels : Nat}
    (h : Faithful literal) (hs : f.header.size = some s) (hdepth : levels < s.toJson.depth) :
    decoder (.text (levels + 1)) (f.toJson.tree literal) = .error (.malformed .tooDeep) := by
  have hnull : s.toJson ≠ .null := by
    intro hnull
    rw [hnull] at hdepth
    exact Nat.not_lt_zero levels hdepth
  have hsize : form.size (.text levels) ((sizeJson f.header.size).tree literal) =
      .error (.malformed .tooDeep) := by
    rw [hs, size_of_ne_null hnull, Size.decoder, Value.resolve_tree_tooDeep h levels _ hdepth]
    rfl
  refine RecordForm.decoder_object_error rfl ?_
  refine (RecordForm.takeMembers_cons h rfl rfl).trans ?_
  rw [hsize]
  rfl

theorem Receipt.decoder_withFormatting_tooDeep {f : Formatting} {levels : Nat} (h : Faithful literal)
    (hf : Formatting.decoder (.text levels) (f.toJson.tree literal) = .error (.malformed .tooDeep)) :
    decoder (.text (levels + 1)) ((withFormatting {} f).toJson.tree literal) =
      .error (.malformed .tooDeep) := by
  refine RecordForm.decoder_object_error rfl ?_
  refine (RecordForm.takeMembers_cons h rfl rfl).trans ?_
  rw [withFormatting, hf]
  rfl

/-! ## Reading back -/

/-- Every request is read back from its text, as the same request, exactly if the text is nested at
most `depthLimit` levels deep. A receipt that was read as one, and a job that was read as one, are. -/
theorem decodeText_compact_toJson_iff :
    (∀ r : Receipt, r.Sourced → r.FloatFree →
      (decodeText Receipt.decoder r.toJson.compact = .ok r ↔ r.toJson.depth ≤ depthLimit)) ∧
    (∀ job : Job, job.Sourced → job.FloatFree →
      (decodeText Job.decoder job.toJson.compact = .ok job ↔ job.toJson.depth ≤ depthLimit)) ∧
    (∀ text r, decodeText Receipt.decoder text = .ok r → r.toJson.depth ≤ depthLimit) ∧
    (∀ text job, decodeText Job.decoder text = .ok job → job.toJson.depth ≤ depthLimit) := by
  refine ⟨fun r hr hfloat => ?_, fun job hjob hfloat => ?_, fun text r h => ?_, fun text job h => ?_⟩
  · exact Receipt.decodeText_toJson_iff hr.settled hfloat
  · exact Job.decodeText_toJson_iff hjob.settled hfloat
  · exact (Receipt.settled_of_read (root_of_decodeText h)).2
  · exact (Job.settled_of_read (root_of_decodeText h)).2

theorem decodeText_oddReceipt :
    oddReceipt.Sourced ∧ oddReceipt.FloatFree ∧
      decodeText Receipt.decoder oddReceipt.toJson.compact = .ok oddReceipt ∧
      decodeText Job.decoder (Job.receipt oddReceipt).toJson.compact = .ok (.receipt oddReceipt) ∧
      oddReceipt.toJson.depth ≤ depthLimit ∧ (Job.receipt oddReceipt).toJson.depth ≤ depthLimit := by
  obtain ⟨hreceipt, hjob, hread, hreadJob⟩ := decodeText_compact_toJson_iff
  have hsourced : oddReceipt.Sourced :=
    .withFormatting (.withItem (.withItem (.withHeader .empty _) _ _) _ _) decodeText_oddFormatting
  have hfloat : oddReceipt.FloatFree := by
    rintro (_ | _ | _ | _) s ⟨⟩
    rfl
  have hr := (hreceipt oddReceipt hsourced hfloat).2 (by decide)
  have hj := (hjob (.receipt oddReceipt) (.receipt hsourced) hfloat).2 (by decide)
  exact ⟨hsourced, hfloat, hr, hj, hread _ _ hr, hreadJob _ _ hj⟩

/-- A receipt that takes over this formatting is not read back. -/
theorem decodeText_deepReceipt :
    (Receipt.withFormatting {} deepFormatting).Sourced ∧
      (Receipt.withFormatting {} deepFormatting).FloatFree ∧
      decodeText Receipt.decoder (Receipt.withFormatting {} deepFormatting).toJson.compact =
        .error (.malformed .tooDeep) := by
  have hfloat : (Receipt.withFormatting {} deepFormatting).FloatFree := floatFree_deepFormatting
  refine ⟨.withFormatting .empty decodeText_deepFormatting, hfloat, ?_⟩
  rw [decodeText_compact _ (Receipt.floatFree_toJson hfloat)]
  have hdepth : 125 < (nested 125).depth := Nat.lt_of_lt_of_eq (by decide) (depth_nested 125).symm
  exact Receipt.decoder_withFormatting_tooDeep faithful_written
    (Receipt.Formatting.decoder_tooDeep faithful_written rfl hdepth)

end ThermalPrint
