import ThermalPrint.Discovery.Candidate
import ThermalPrint.Proofs.Json.Reading
import ThermalPrint.Proofs.Json.Thorough

/-! Identifiers that are read. Only a string is read as an identifier, however it is written, and its text is
checked like any other. -/

namespace ThermalPrint

open Json

variable {literal : String → StringLiteral} {origin : Origin} {node : Node} {text : String}

namespace Identifier

variable {s : String} {st : StringText} {id : Identifier}

theorem ofSlice_toSlice (s : String) : ofSlice s.toSlice = ofText s := by
  rw [ofSlice, String.copy_toSlice]

/-- A text that is read is checked, and refused with the same message. -/
theorem decoder_of_string (h : Decoder.string origin node = .ok s) :
    (decoder origin node).mapError Fault.message = (ofText s).mapError Failure.message := by
  rw [decoder, h, ok_bind]
  cases ofText s <;> rfl

theorem decoder_eq_ok_iff : decoder origin node = .ok id ↔ Decoder.string origin node = .ok id.text := by
  simp only [decoder, bind_eq_ok_iff, mapError_eq_ok_iff, ofText_eq_ok_iff, exists_eq_right']

theorem decoder_toJson (id : Identifier) (h : Faithful literal) :
    decoder origin (id.toJson.tree literal) = .ok id :=
  decoder_eq_ok_iff.2 (h.read id.text)

theorem thorough_decoder : decoder.Thorough := Decoder.thorough_string.bind _

theorem decodeText_string (h : st.Writes s) (left right : List Blank) :
    (decodeText decoder (Spaced.text ⟨left, .string st, right⟩)).mapError Fault.message =
      (ofText s).mapError Failure.message := by
  rw [Spaced.decodeText_text]
  exact decoder_of_string h

theorem decodeText_compact_string (s : String) :
    (decodeText decoder (Value.string s).compact).mapError Fault.message =
      (ofText s).mapError Failure.message := by
  rw [decodeText_compact decoder rfl]
  exact decoder_of_string (faithful_written.read s)

theorem decodeText_toJson (id : Identifier) : decodeText decoder id.toJson.compact = .ok id := by
  rw [decodeText_compact decoder rfl, decoder_toJson id faithful_written]

/-- Every text of which an identifier is read is a string that writes it. -/
theorem exists_stringText (h : decodeText decoder text = .ok id) :
    ∃ left st right, Spaced.text ⟨left, .string st, right⟩ = text ∧ st.Writes id.text := by
  obtain ⟨⟨left, v, right⟩, rfl⟩ := exists_source_of_decodeText thorough_decoder h
  rw [Spaced.decodeText_text] at h
  obtain ⟨st, rfl, hst⟩ := Source.exists_of_string (decoder_eq_ok_iff.1 h)
  exact ⟨left, st, right, rfl, hst⟩

end Identifier

end ThermalPrint
