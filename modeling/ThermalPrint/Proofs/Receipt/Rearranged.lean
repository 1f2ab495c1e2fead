import ThermalPrint.Proofs.Json.Rearranged
import ThermalPrint.Proofs.Receipt.Language

/-! Receipts whose text is rearranged: the members of the receipt, of its formatting and of its items may
come in any order, and other members do not matter. -/

namespace ThermalPrint

open Json

namespace Receipt

/-- The same item, or an object with its members rearranged. -/
def Item.Rearranged : Source → Source → Prop :=
  Source.Rearranged (form.fields.map (·.name)) fun _ => Eq

/-- The same formatting, or an object with its members rearranged. -/
def Formatting.Rearranged : Source → Source → Prop :=
  Source.Rearranged (form.fields.map (·.name)) fun _ => Eq

/-- What may be rearranged in the value of a receipt's field. -/
def FieldRearranged (name : String) : Source → Source → Prop :=
  if name = "items" then Source.Elementwise Item.Rearranged
  else if name = "formatting" then Formatting.Rearranged
  else Eq

/-- The same receipt, or an object with its members rearranged, and those of its items and formatting. -/
def Rearranged : Source → Source → Prop :=
  Source.Rearranged (form.fields.map (·.name)) FieldRearranged

theorem Item.respects_decoder : Item.decoder.Respects Item.Rearranged := by
  refine RecordForm.respects_decoder orderly_form.apart ?_
  simp only [form, List.forall_mem_cons]
  exact ⟨Field.respects_of (fun _ _ => rfl) (Decoder.respects_eq _),
    Field.respects_of (fun _ _ => rfl) (Decoder.respects_eq _), List.forall_mem_nil _⟩

theorem Formatting.respects_decoder : Formatting.decoder.Respects Formatting.Rearranged := by
  refine RecordForm.respects_decoder orderly_form.apart ?_
  simp only [form, List.forall_mem_cons]
  and_intros
  on_goal 9 => exact List.forall_mem_nil _
  all_goals exact Field.respects_of (fun _ _ => rfl) (Decoder.respects_eq _)

theorem respects_decoder : decoder.Respects Rearranged := by
  refine RecordForm.respects_decoder orderly_form.apart ?_
  simp only [form, List.forall_mem_cons]
  exact ⟨Field.respects_of (fun _ _ => rfl) (Decoder.respects_eq _),
    Field.respects_of (fun _ _ => rfl) Item.respects_decoder.list,
    Field.respects_of (fun _ _ => rfl) (Decoder.respects_eq _),
    Field.respects_of (fun _ _ => rfl) (Decoder.respects_eq _),
    Field.respects_of (fun _ _ => rfl) Formatting.respects_decoder, List.forall_mem_nil _⟩

/-- A text of which a receipt is read can be rearranged, and the same receipt is read of it: the members of
the receipt, of its formatting and of its items may be put in any order, members that are no fields may be
taken out, and others of any value put in. -/
theorem ofText_rearranged {d d' : Spaced Source} {r : Receipt} (h : Rearranged d.item d'.item)
    (hr : ofText d.text = .ok r) : ofText d'.text = .ok r := by
  rw [ofText, Spaced.decodeText_text] at hr ⊢
  cases hread : decoder (.text depthLimit) d.item.tree with
  | error e =>
    rw [hread] at hr
    cases hr
  | ok r' =>
    rw [hread] at hr
    rw [respects_decoder h hread]
    exact hr

theorem fieldRearranged_refl (name : String) (v : Source) : FieldRearranged name v v := by
  unfold FieldRearranged
  split
  · exact .same v
  · split
    · exact .same v
    · rfl

/-- A member without blanks. -/
def member (name : String) (v : Source) : Spaced StringText × Spaced Source :=
  (⟨[], .ofString name, []⟩, ⟨[], v, []⟩)

/-- A receipt with one item, `{"items":[item],"formatting":formatting}`. -/
def oneItem (item formatting : Members) : Members :=
  [member "items" (.array [⟨[], .object item [], []⟩] []), member "formatting" (.object formatting [])]

theorem ofText_rearranged_tea :
    let name := member "name" (.string (.ofString "Tea"))
    let price := member "price" (.number ⟨false, ⟨2, []⟩, fun _ => rfl, none, none⟩)
    let bold := member "headerBold" (.word .true)
    -- half a pair of code units, of which no string can be read
    let note := member "note" (.string ⟨[.code ⟨13, false⟩ ⟨8, false⟩ ⟨0, false⟩ ⟨0, false⟩]⟩)
    let d : Spaced Source := ⟨[], .object (oneItem [name, price] [bold]) [], []⟩
    let d' : Spaced Source := ⟨[.newline], .object (note :: (oneItem [price, name] [bold, note]).reverse) [], []⟩
    let r : Receipt := { items := [⟨"Tea", "2"⟩], formatting := { header := { bold := true } } }
    Rearranged d.item d'.item ∧ ofText d.text = .ok r ∧ ofText d'.text = .ok r := by
  intro name price bold note d d' r
  have hnote : StringText.Writes (.ofString "note") "note" := StringText.writes_ofString "note"
  have hitem : Item.Rearranged (.object [name, price] []) (.object [price, name] []) :=
    .object (.swap name price []) [] []
  have hitems : Source.Elementwise Item.Rearranged (.array [⟨[], .object [name, price] [], []⟩] [])
      (.array [⟨[], .object [price, name] [], []⟩] []) := .array (.cons hitem .nil) [] []
  have hformatting : Formatting.Rearranged (.object [bold] []) (.object [bold, note] []) :=
    .object (.cons rfl (fun _ _ => rfl) (.insert hnote (by decide) _ _)) [] []
  have hvalues : Json.Rearranged (form.fields.map (·.name)) FieldRearranged (oneItem [name, price] [bold])
      (oneItem [price, name] [bold, note]) := by
    refine .cons rfl (fun key hkey => ?_) (.cons rfl (fun key hkey => ?_) .nil)
    · obtain rfl := Except.ok.inj ((StringText.writes_ofString "items").symm.trans hkey)
      exact hitems
    · obtain rfl := Except.ok.inj ((StringText.writes_ofString "formatting").symm.trans hkey)
      exact hformatting
  have hrearranged : Rearranged d.item d'.item :=
    .object (hvalues.trans (.trans (.of_perm fieldRearranged_refl (List.reverse_perm _).symm)
      (.insert hnote (by decide) _ _))) [] []
  have hread : ofText d.text = .ok r := by
    rw [ofText, Spaced.decodeText_text]
    rfl
  exact ⟨hrearranged, hread, ofText_rearranged hrearranged hread⟩

end Receipt

end ThermalPrint
