import ThermalPrint.Proofs.Json.Thorough
import ThermalPrint.Proofs.Receipt.Settled

/-! Receipts are read of well-formed texts only. Every text of which one is read is a written value with
blanks around it, also in the members that are passed over. -/

namespace ThermalPrint

open Json

variable {text : String}

theorem Size.thorough_decoder : Size.decoder.Thorough := Decoder.thorough_resolve.map ofJson

namespace Receipt

theorem thorough_price : priceDecoder.Thorough := Decoder.thorough_resolve.bind _

theorem Item.thorough_decoder : Item.decoder.Thorough := by
  refine RecordForm.thorough_decoder ?_
  simp only [form, List.forall_mem_cons]
  exact ⟨Field.thorough_of Decoder.thorough_string _ _ _, Field.thorough_of thorough_price _ _ _,
    List.forall_mem_nil _⟩

theorem Formatting.thorough_decoder : Formatting.decoder.Thorough := by
  have hsize : form.size.Thorough := Decoder.thorough_option Size.thorough_decoder
  have hbold : Decoder.bool.Thorough := Decoder.thorough_bool
  refine RecordForm.thorough_decoder ?_
  simp only [form, List.forall_mem_cons]
  exact ⟨Field.thorough_of hsize _ _ _, Field.thorough_of hbold _ _ _, Field.thorough_of hsize _ _ _,
    Field.thorough_of hbold _ _ _, Field.thorough_of hsize _ _ _, Field.thorough_of hbold _ _ _,
    Field.thorough_of hsize _ _ _, Field.thorough_of hbold _ _ _, List.forall_mem_nil _⟩

theorem thorough_decoder : decoder.Thorough := by
  have htext : (Decoder.option Decoder.string).Thorough := Decoder.thorough_option Decoder.thorough_string
  have hitems : (Decoder.list Item.decoder).Thorough := Decoder.thorough_list Item.thorough_decoder
  refine RecordForm.thorough_decoder ?_
  simp only [form, List.forall_mem_cons]
  exact ⟨Field.thorough_of htext _ _ _, Field.thorough_of hitems _ _ _, Field.thorough_of htext _ _ _,
    Field.thorough_of htext _ _ _, Field.thorough_of Formatting.thorough_decoder _ _ _, List.forall_mem_nil _⟩

/-- Every text of which a receipt is read is well formed. -/
theorem exists_source_of_ofText {r : Receipt} (h : ofText text = .ok r) :
    ∃ s : Spaced Source, s.text = text :=
  exists_source_of_decodeText thorough_decoder (mapError_eq_ok_iff.1 h)

end Receipt

end ThermalPrint
