import ThermalPrint.Proofs.Json.Reading
import ThermalPrint.Receipt.Json

/-! Receipts are read alike from a value held in memory and from its compact text. -/

namespace ThermalPrint

open Json

theorem Size.steady_decoder : Size.decoder.Steady := Decoder.steady_resolve.map ofJson

namespace Receipt

theorem steady_price : priceDecoder.Steady := Decoder.steady_resolve.bind _

theorem Item.steady_decoder : Item.decoder.Steady := by
  refine RecordForm.steady_decoder ?_
  simp only [form, List.forall_mem_cons]
  exact ⟨Field.steady_of Decoder.steady_string _ _ _, Field.steady_of steady_price _ _ _, nofun⟩

theorem Formatting.steady_decoder : Formatting.decoder.Steady := by
  have hsize : form.size.Steady := Decoder.steady_option Size.steady_decoder
  have hbold : Decoder.bool.Steady := Decoder.steady_bool
  refine RecordForm.steady_decoder ?_
  simp only [form, List.forall_mem_cons]
  exact ⟨Field.steady_of hsize _ _ _, Field.steady_of hbold _ _ _, Field.steady_of hsize _ _ _,
    Field.steady_of hbold _ _ _, Field.steady_of hsize _ _ _, Field.steady_of hbold _ _ _,
    Field.steady_of hsize _ _ _, Field.steady_of hbold _ _ _, nofun⟩

theorem steady_decoder : decoder.Steady := by
  have htext : (Decoder.option Decoder.string).Steady := Decoder.steady_option Decoder.steady_string
  have hitems : (Decoder.list Item.decoder).Steady := Decoder.steady_list Item.steady_decoder
  refine RecordForm.steady_decoder ?_
  simp only [form, List.forall_mem_cons]
  exact ⟨Field.steady_of htext _ _ _, Field.steady_of hitems _ _ _, Field.steady_of htext _ _ _,
    Field.steady_of htext _ _ _, Field.steady_of Formatting.steady_decoder _ _ _, nofun⟩

/-- A receipt is read of a value in memory exactly if it is read of the compact text of the value;
a value that states no receipt is a malformed request both ways. -/
theorem ofValue_eq_ok_iff_ofText (v : Value) (hfloat : v.floatFree = true)
    (hdepth : v.depth ≤ depthLimit) :
    (∀ r, ofValue v = .ok r ↔ ofText v.canonical.compact = .ok r) ∧
      ((∀ r, ofValue v ≠ .ok r) → ∃ f g, ofValue v = .error f ∧ ofText v.canonical.compact = .error g ∧
        f.kind = "encoding" ∧ g.kind = "encoding") := by
  have hagree : Agree Eq (decodeText decoder v.canonical.compact) (decodeValue decoder v) :=
    steady_decoder.agree_decode hfloat hdepth
  unfold ofValue ofText
  obtain ⟨r, htext, hvalue⟩ | ⟨e, e', htext, hvalue⟩ := hagree.ok_or_error
  · rw [htext, hvalue]
    exact ⟨fun _ => .rfl, fun h => absurd rfl (h r)⟩
  · rw [htext, hvalue]
    exact ⟨fun _ => ⟨nofun, nofun⟩, fun _ => ⟨_, _, rfl, rfl, rfl, rfl⟩⟩

/-- A receipt whose items and formatting are given by position, with a price that is a number and a
size whose members are not in order. -/
def positional : Value := .object [
  ("items", .array [.array [.string "Tea", .number (.integer 25 (by decide))]]),
  ("formatting", .array [.object [
    ("b", .null), ("a", .number (.integer 18446744073709551615 (by decide)))]])]

theorem ofText_positional :
    positional.floatFree = true ∧ positional.depth ≤ depthLimit ∧
      ofText positional.canonical.compact = .ok {
        items := [⟨"Tea", "25"⟩]
        formatting := { header := { size := some (.other (.object [
          ("a", .number (.integer 18446744073709551615 (by decide))), ("b", .null)])) } } } := by
  have hfloat : positional.floatFree = true := by decide
  have hdepth : positional.depth ≤ depthLimit := by decide
  exact ⟨hfloat, hdepth, ((ofValue_eq_ok_iff_ofText positional hfloat hdepth).1 _).1 rfl⟩

end Receipt

end ThermalPrint
