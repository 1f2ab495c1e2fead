import ThermalPrint.Proofs.Identifier.Length
import ThermalPrint.Proofs.Identifier.Reading
import ThermalPrint.Proofs.Json.Gap

/-! Candidates that are read. The identifier of a candidate stands in its text as a string that has been
checked, and what is written of a candidate is read as the same again, whatever its name. -/

namespace ThermalPrint

open Json

namespace Discovery

variable {literal : String → StringLiteral} {origin : Origin}

/-! ## Variants -/

theorem Reachability.decoder_name (state : Reachability) (h : Faithful literal) :
    decoder origin ((Value.string state.name).tree literal) = .ok state := by
  rw [decoder, Value.tree, Decoder.variant, h.read, ok_bind]
  cases state <;> rfl

theorem Medium.decoder_name (medium : Medium) (h : Faithful literal) :
    decoder origin ((Value.string medium.name).tree literal) = .ok medium := by
  rw [decoder, Value.tree, Decoder.variant, h.read, ok_bind]
  cases medium <;> rfl

namespace Candidate

variable {c : Candidate}

/-! ## Fields -/

theorem apart_form : form.fields.Pairwise Field.Apart := by
  simp only [form, List.pairwise_cons, List.forall_mem_cons, List.not_mem_nil, false_imp_iff,
    implies_true, List.Pairwise.nil, and_true]
  and_intros <;> exact Field.apart_of (by decide) (fun _ _ => rfl) (fun _ _ => rfl) fun _ _ _ => rfl

theorem part_identifier : RecordForm.Part form "identifier" Draft.identifier
    (fun id d => { d with identifier := some id }) Identifier.decoder where
  mem := .head _
  apart := apart_form
  get_put _ _ := rfl
  others := by
    simp only [form, List.forall_mem_cons]
    refine ⟨fun h => absurd rfl h, ?_, ?_, ?_, List.forall_mem_nil _⟩
    all_goals exact fun _ => Field.get_eq_of_take fun _ _ => rfl

theorem identifier_of_complete {d : Draft} (h : form.complete d = .ok c) :
    d.identifier = some c.identifier := by
  obtain ⟨_ | identifier, _ | name, _ | state, _ | medium⟩ := d <;> cases h
  rfl

theorem thorough_decoder : decoder.Thorough := by
  refine RecordForm.thorough_decoder ?_
  simp only [form, List.forall_mem_cons]
  exact ⟨Field.thorough_of Identifier.thorough_decoder _ _ _, Field.thorough_of Decoder.thorough_string _ _ _,
    Field.thorough_of (Decoder.thorough_variant _) _ _ _, Field.thorough_of (Decoder.thorough_variant _) _ _ _,
    List.forall_mem_nil _⟩

/-! ## The place of the identifier -/

/-- A text of a candidate in which the identifier is left out. -/
structure IdentifierGap where
  left : List Blank
  candidate : Gap
  right : List Blank
  isIdentifier : candidate.IsField (form.fields.map (·.name)) "identifier"

namespace IdentifierGap

variable (g : IdentifierGap) {v : Source}

/-- The text with a value for the identifier. -/
def text (v : Source) : String := Spaced.text ⟨g.left, g.candidate.fill v, g.right⟩

/-- Only an identifier is read in the gap. -/
theorem exists_string (h : decodeText decoder (g.text v) = .ok c) :
    ∃ st : StringText, v = .string st ∧ st.Writes c.identifier.text := by
  rw [text, Spaced.decodeText_text] at h
  obtain ⟨_, id, d, hid, hd, hcomplete⟩ := part_identifier.exists_of_decoder_fill g.isIdentifier h
  obtain rfl := Option.some.inj (hd.symm.trans (identifier_of_complete hcomplete))
  exact Source.exists_of_string (Identifier.decoder_eq_ok_iff.1 hid)

theorem refuses {st : StringText} {s : String} {f : Failure} (hst : st.Writes s)
    (hs : Identifier.ofText s = .error f) : ∃ e, decodeText decoder (g.text (.string st)) = .error e := by
  cases hread : decodeText decoder (g.text (.string st)) with
  | error e => exact ⟨e, rfl⟩
  | ok c =>
    obtain ⟨_, ⟨⟩, hc⟩ := g.exists_string hread
    have htext := Except.ok.inj (hc.symm.trans hst)
    rw [Identifier.ofText_eq_ok_iff.2 htext] at hs
    cases hs

end IdentifierGap

/-- In every text of which a candidate is read, its identifier stands in a gap. -/
theorem exists_identifierGap {text : String} (h : decodeText decoder text = .ok c) :
    ∃ g : IdentifierGap, ∃ v, g.text v = text := by
  obtain ⟨⟨left, v, right⟩, rfl⟩ := exists_source_of_decodeText thorough_decoder h
  rw [Spaced.decodeText_text] at h
  obtain ⟨d, hcomplete, hd⟩ := part_identifier.exists_fill rfl h
  obtain ⟨candidate, v, _, rfl, hfield, -⟩ := hd c.identifier (identifier_of_complete hcomplete)
  exact ⟨⟨left, candidate, right, hfield⟩, v, rfl⟩

/-! ## What is written -/

open RecordForm (takeMembers takeMembers_field) in
theorem decoder_toJson (c : Candidate) (h : Faithful literal) (hdepth : origin.Admits c.toJson.depth) :
    decoder origin (c.toJson.tree literal) = .ok c := by
  obtain ⟨inner, henter, -⟩ := Origin.Admits.enter hdepth
  -- the fields that have been given after `n` members
  let d (n : Nat) : Draft := {
    identifier := if n < 1 then none else some c.identifier
    name := if n < 2 then none else some c.name
    state := if n < 3 then none else some c.state
    medium := if n < 4 then none else some c.medium }
  refine RecordForm.decoder_object (s := d 4) henter ?_ rfl
  calc takeMembers form.fields inner (Value.treeMembers literal _) (d 0)
    _ = takeMembers _ _ _ (d 1) := takeMembers_field h rfl rfl (c.identifier.decoder_toJson h) rfl
    _ = takeMembers _ _ _ (d 2) := takeMembers_field h rfl rfl (h.read c.name) rfl
    _ = takeMembers _ _ _ (d 3) := takeMembers_field h rfl rfl (c.state.decoder_name h) rfl
    _ = takeMembers _ _ _ (d 4) := takeMembers_field h rfl rfl (c.medium.decoder_name h) rfl

theorem decodeText_toJson (c : Candidate) : decodeText decoder c.toJson.compact = .ok c := by
  have hdepth : (Origin.text depthLimit).Admits c.toJson.depth := by
    change 1 ≤ depthLimit
    decide
  rw [decodeText_compact decoder rfl]
  exact c.decoder_toJson faithful_written hdepth

end Candidate

/-- No identifier comes in without being checked. A text, a part of a text and a string that is read, however
it is written, are the same identifier or are refused with the same message, and an identifier is displayed and
written as it was given. The identifier of a candidate that is read stands in its text as such a string, no
candidate is read with another string in its place, and what is written of a candidate is read again. -/
theorem identifiers_checked :
    (∀ s : String, Identifier.ofSlice s.toSlice = Identifier.ofText s ∧
      (∀ (left right : List Blank) (st : StringText), st.Writes s →
        (decodeText Identifier.decoder (Spaced.text ⟨left, .string st, right⟩)).mapError Fault.message =
          (Identifier.ofText s).mapError Failure.message) ∧
      (decodeText Identifier.decoder (Value.string s).compact).mapError Fault.message =
        (Identifier.ofText s).mapError Failure.message ∧
      (decodeValue Identifier.decoder (.string s)).mapError Fault.message =
        (Identifier.ofText s).mapError Failure.message ∧
      ∀ id, Identifier.ofText s = .ok id → toString id = s ∧ id.text = s ∧
        decodeText Identifier.decoder id.toJson.compact = .ok id) ∧
    (∀ text id, decodeText Identifier.decoder text = .ok id → ∃ left st right,
      Spaced.text ⟨left, .string st, right⟩ = text ∧ st.Writes id.text) ∧
    (∀ text c, decodeText Candidate.decoder text = .ok c →
      (∃ (g : Candidate.IdentifierGap) (st : StringText), g.text (.string st) = text ∧
        st.Writes c.identifier.text) ∧
      Identifier.ofText c.identifier.text = .ok c.identifier) ∧
    (∀ c : Candidate, decodeText Candidate.decoder c.toJson.compact = .ok c) ∧
    ∀ (g : Candidate.IdentifierGap) (st : StringText) s f, st.Writes s → Identifier.ofText s = .error f →
      ∃ e, decodeText Candidate.decoder (g.text (.string st)) = .error e := by
  refine ⟨fun s => ⟨Identifier.ofSlice_toSlice s, ?_, Identifier.decodeText_compact_string s, ?_, ?_⟩,
    fun _ _ => Identifier.exists_stringText,
    fun text c h => ⟨?_, Identifier.ofText_eq_ok_iff.2 rfl⟩, Candidate.decodeText_toJson,
    fun g _ _ _ => g.refuses⟩
  · exact fun left right st hst => Identifier.decodeText_string hst left right
  · exact Identifier.decoder_of_string (faithful_ofString.read s)
  · intro id hid
    have htext := Identifier.ofText_eq_ok_iff.1 hid
    exact ⟨htext, htext, id.decodeText_toJson⟩
  · obtain ⟨g, v, rfl⟩ := Candidate.exists_identifierGap h
    obtain ⟨st, rfl, hst⟩ := g.exists_string h
    exact ⟨g, st, rfl, hst⟩

/-- The text `{"identifier":identifier,"name":"\u0000","state":"ready","connectionType":"wifi"}` without the
identifier. -/
def Candidate.namelessGap : IdentifierGap where
  left := []
  candidate := .member [] ⟨[], .ofString "identifier", []⟩ [] []
    ([("name", "\x00"), ("state", "ready"), ("connectionType", "wifi")].map fun m =>
      (⟨[], .ofString m.1, []⟩, ⟨[], .string (.ofString m.2), []⟩)) []
  right := []
  isIdentifier := StringText.writes_ofString "identifier"

theorem identifiers_checked_of_escapes :
    let s := "\"\\😀"
    let st : StringText := ⟨[.short .quote, .short .backslash,
      .code ⟨13, false⟩ ⟨8, false⟩ ⟨3, false⟩ ⟨13, false⟩, .code ⟨13, true⟩ ⟨14, true⟩ ⟨0, false⟩ ⟨0, false⟩]⟩
    ∃ id, Identifier.ofText s = .ok id ∧
      decodeText Identifier.decoder (Spaced.text ⟨[.tab], .string st, []⟩) = .ok id ∧
      decodeText Identifier.decoder id.toJson.compact = .ok id ∧
      let c : Candidate := ⟨id, "\x00", .ready, .wifi⟩
      decodeText Candidate.decoder (Candidate.namelessGap.text (.string st)) = .ok c ∧
      decodeText Candidate.decoder c.toJson.compact = .ok c ∧
      ∃ e, decodeText Candidate.decoder (Candidate.namelessGap.text (.string (.ofString " "))) = .error e := by
  intro s st
  obtain ⟨hdoors, -, -, hwritten, hrefused⟩ := identifiers_checked
  have hst : st.Writes s := rfl
  have hid : Identifier.ofText s = .ok ⟨s, by decide⟩ := Identifier.ofText_eq_ok_iff.2 rfl
  obtain ⟨-, hstring, -, -, hshown⟩ := hdoors s
  refine ⟨_, hid, ?_, (hshown _ hid).2.2, ?_⟩
  · have hdoor := hstring [.tab] [] st hst
    rw [hid] at hdoor
    exact mapError_eq_ok_iff.1 hdoor
  · intro c
    have hc : decodeText Candidate.decoder (Candidate.namelessGap.text (.string st)) = .ok c := by
      rw [Candidate.IdentifierGap.text, Spaced.decodeText_text]
      rfl
    have hblank : Identifier.defect? " " = some .blankOrControl := by decide
    exact ⟨hc, hwritten c,
      hrefused _ _ _ _ (StringText.writes_ofString " ") (Identifier.ofText_of_defect hblank)⟩

end Discovery

end ThermalPrint
