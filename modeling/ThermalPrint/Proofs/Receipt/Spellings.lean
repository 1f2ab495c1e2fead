import ThermalPrint.Job
import ThermalPrint.Proofs.Json.Ahead

/-! The three spellings of a job: an array of its tag and its content, an object with its tag first, and an
object with its content first, which is read ahead then. -/

namespace ThermalPrint

open Json

theorem Size.direct_decoder : Size.decoder.Direct := Decoder.direct_resolve.map ofJson

namespace Receipt

theorem direct_price : priceDecoder.Direct := Decoder.direct_resolve.bind _

theorem Item.direct_decoder : Item.decoder.Direct := by
  refine RecordForm.direct_decoder ?_
  simp only [form, List.forall_mem_cons]
  exact ⟨Field.direct_of Decoder.direct_string _ _ _, Field.direct_of direct_price _ _ _, List.forall_mem_nil _⟩

theorem Formatting.direct_decoder : Formatting.decoder.Direct := by
  have hsize : form.size.Direct := Decoder.direct_option Size.direct_decoder
  have hbold : Decoder.bool.Direct := Decoder.direct_bool
  refine RecordForm.direct_decoder ?_
  simp only [form, List.forall_mem_cons]
  exact ⟨Field.direct_of hsize _ _ _, Field.direct_of hbold _ _ _, Field.direct_of hsize _ _ _,
    Field.direct_of hbold _ _ _, Field.direct_of hsize _ _ _, Field.direct_of hbold _ _ _,
    Field.direct_of hsize _ _ _, Field.direct_of hbold _ _ _, List.forall_mem_nil _⟩

theorem direct_decoder : decoder.Direct := by
  have htext : (Decoder.option Decoder.string).Direct := Decoder.direct_option Decoder.direct_string
  have hitems : (Decoder.list Item.decoder).Direct := Decoder.direct_list Item.direct_decoder
  refine RecordForm.direct_decoder ?_
  simp only [form, List.forall_mem_cons]
  exact ⟨Field.direct_of htext _ _ _, Field.direct_of hitems _ _ _, Field.direct_of htext _ _ _,
    Field.direct_of htext _ _ _, Field.direct_of Formatting.direct_decoder _ _ _, List.forall_mem_nil _⟩

end Receipt

namespace Job

/-- The name of a tag. -/
def Tag.name : Tag → String
  | .plainText => "plainText"
  | .receipt => "receipt"

/-- An array of two values. The blanks may differ at every place. -/
def arrayOf (v v' : Source) (b : Nat → List Blank) : Spaced Source :=
  ⟨b 0, .array [⟨b 1, v, b 2⟩, ⟨b 3, v', b 4⟩] (b 5), b 6⟩

/-- An object of two members. The blanks may differ at every place. -/
def objectOf (key : StringText) (v : Source) (key' : StringText) (v' : Source) (b : Nat → List Blank) :
    Spaced Source :=
  ⟨b 0, .object [(⟨b 1, key, b 2⟩, ⟨b 3, v, b 4⟩), (⟨b 5, key', b 6⟩, ⟨b 7, v', b 8⟩)] (b 9), b 10⟩

theorem direct_contentDecoder (tag : Tag) : (contentDecoder tag).Direct := by
  cases tag with
  | plainText => exact Decoder.direct_string.map plainText
  | receipt => exact Receipt.direct_decoder.map receipt

variable {tag : Tag} {tagText type content : StringText} {origin : Origin} {v : Node}
  {ms : List (StringLiteral × Node)}

theorem variant_tagText (h : tagText.Writes tag.name) :
    Decoder.variant Tag.variants origin (Source.string tagText).tree = .ok tag := by
  rw [Source.tree, Decoder.variant, h, ok_bind]
  cases tag <;> rfl

/-! ## Members -/

theorem takeMembers_type {key : StringText} (h : key.Writes "type") :
    takeMembers origin ((key.literal, v) :: ms) .nothing =
      Decoder.variant Tag.variants origin v >>= fun tag => takeMembers origin ms (.tag tag) := by
  rw [takeMembers, h]
  rfl

theorem takeMembers_type_of_content {key : StringText} (h : key.Writes "type") (node : Node) :
    takeMembers origin ((key.literal, v) :: ms) (.content node) =
      Decoder.variant Tag.variants origin v >>= fun tag =>
        contentDecoder tag .ahead node >>= fun job => takeMembers origin ms (.complete job) := by
  rw [takeMembers, h]
  rfl

theorem takeMembers_content {key : StringText} (h : key.Writes "content") :
    takeMembers origin ((key.literal, v) :: ms) .nothing =
      v.resolve origin >>= fun _ => takeMembers origin ms (.content v) := by
  rw [takeMembers, h]
  rfl

theorem takeMembers_content_of_tag {key : StringText} (h : key.Writes "content") (tag : Tag) :
    takeMembers origin ((key.literal, v) :: ms) (.tag tag) =
      contentDecoder tag origin v >>= fun job => takeMembers origin ms (.complete job) := by
  rw [takeMembers, h]
  rfl

/-! ## Spellings -/

/-- The room that a text leaves for the content of a job. -/
def contentOrigin : Origin := .text (depthLimit - 1)

/-- The content of a job whose tag is known is read where it stands. -/
theorem decodeText_arrayOf (h : tagText.Writes tag.name) (c : Source) (b : Nat → List Blank) :
    decodeText decoder (arrayOf (.string tagText) c b).text = contentDecoder tag contentOrigin c.tree := by
  rw [Spaced.decodeText_text]
  change (Decoder.variant Tag.variants contentOrigin (Source.string tagText).tree >>= fun tag =>
    contentDecoder tag contentOrigin c.tree >>= fun job => .ok job) = _
  rw [variant_tagText h, ok_bind]
  cases contentDecoder tag contentOrigin c.tree <;> rfl

theorem decodeText_typeFirst (htag : tagText.Writes tag.name) (htype : type.Writes "type")
    (hcontent : content.Writes "content") (c : Source) (b : Nat → List Blank) :
    decodeText decoder (objectOf type (.string tagText) content c b).text =
      contentDecoder tag contentOrigin c.tree := by
  rw [Spaced.decodeText_text]
  change (takeMembers contentOrigin [(type.literal, (Source.string tagText).tree), (content.literal, c.tree)]
    .nothing >>= _) = _
  rw [takeMembers_type htype, variant_tagText htag, ok_bind, takeMembers_content_of_tag hcontent]
  cases contentDecoder tag contentOrigin c.tree <;> rfl

/-- Content that comes first must be readable as some value, and is read again when its tag is known. -/
theorem decodeText_contentFirst (htag : tagText.Writes tag.name) (htype : type.Writes "type")
    (hcontent : content.Writes "content") (c : Source) (b : Nat → List Blank) :
    decodeText decoder (objectOf content c type (.string tagText) b).text =
      c.tree.resolve contentOrigin >>= fun _ => contentDecoder tag .ahead c.tree := by
  rw [Spaced.decodeText_text]
  change (takeMembers contentOrigin [(content.literal, c.tree), (type.literal, (Source.string tagText).tree)]
    .nothing >>= _) = _
  rw [takeMembers_content hcontent]
  cases c.tree.resolve contentOrigin with
  | error e => rfl
  | ok v =>
    rw [ok_bind, ok_bind, takeMembers_type_of_content htype, variant_tagText htag, ok_bind]
    cases contentDecoder tag .ahead c.tree <;> rfl

/-- The three spellings of a job agree. An array of tag and content and an object with the tag first are
read alike, and what is read of an object with the content first is read of these as well. Content that
is read ahead must be readable throughout, also in members that a receipt does not have. -/
theorem spellings_agree (tag : Tag) {tagText type content : StringText} (htag : tagText.Writes tag.name)
    (htype : type.Writes "type") (hcontent : content.Writes "content") (c : Source)
    (b b' b'' : Nat → List Blank) :
    (∀ job, decodeText decoder (arrayOf (.string tagText) c b).text = .ok job ↔
      decodeText decoder (objectOf type (.string tagText) content c b').text = .ok job) ∧
    ∀ job, decodeText decoder (objectOf content c type (.string tagText) b'').text = .ok job →
      decodeText decoder (objectOf type (.string tagText) content c b').text = .ok job := by
  rw [decodeText_arrayOf htag, decodeText_typeFirst htag htype hcontent,
    decodeText_contentFirst htag htype hcontent]
  refine ⟨fun job => .rfl, fun job h => ?_⟩
  obtain ⟨v, hv, h⟩ := bind_eq_ok_iff.1 h
  exact direct_contentDecoder tag ⟨v, hv⟩ h

/-- A receipt's content with a member `x` that no receipt has: `{"items":[["Tea",price]],"x":x}`. -/
def teaContent (price x : Source) : Source :=
  let item : Source := .array [⟨[], .string (.ofString "Tea"), []⟩, ⟨[], price, []⟩] []
  .object [(⟨[], .ofString "items", []⟩, ⟨[], .array [⟨[], item, []⟩] [], []⟩),
    (⟨[], .ofString "x", []⟩, ⟨[], x, []⟩)] []

theorem spellings_agree_of_tea :
    let tag : StringText := .ofString "receipt"
    let type : StringText := .ofString "type"
    let content : StringText := .ofString "content"
    let c := teaContent (.number ⟨false, ⟨2, []⟩, fun _ => rfl, none, none⟩) (.word .null)
    let job := receipt { items := [⟨"Tea", "2"⟩] }
    (tag.Writes Tag.receipt.name ∧ type.Writes "type" ∧ content.Writes "content") ∧
    decodeText decoder (objectOf content c type (.string tag) fun _ => [.newline]).text = .ok job ∧
    decodeText decoder (objectOf type (.string tag) content c fun _ => [.space]).text = .ok job ∧
    decodeText decoder (arrayOf (.string tag) c fun _ => []).text = .ok job := by
  intro tag type content c job
  have htag : tag.Writes Tag.receipt.name := StringText.writes_ofString _
  have htype : type.Writes "type" := StringText.writes_ofString _
  have hcontent : content.Writes "content" := StringText.writes_ofString _
  have hread : decodeText decoder (objectOf content c type (.string tag) fun _ => [.newline]).text = .ok job := by
    rw [decodeText_contentFirst htag htype hcontent]
    rfl
  have hagree := spellings_agree .receipt htag htype hcontent c (fun _ => []) (fun _ => [.space])
    fun _ => [.newline]
  exact ⟨⟨htag, htype, hcontent⟩, hread, hagree.2 job hread, (hagree.1 job).2 (hagree.2 job hread)⟩

/-- Half a pair of code units is passed over where it stands, but cannot be read ahead. -/
example (b : Nat → List Blank) :
    let c := teaContent (.string (.ofString "2"))
      (.string ⟨[.code ⟨13, false⟩ ⟨8, false⟩ ⟨0, false⟩ ⟨0, false⟩]⟩)
    let tag : Source := .string (.ofString "receipt")
    decodeText decoder (objectOf (.ofString "type") tag (.ofString "content") c b).text =
        .ok (receipt { items := [⟨"Tea", "2"⟩] }) ∧
      decodeText decoder (objectOf (.ofString "content") c (.ofString "type") tag b).text =
        malformed .unpairedSurrogate := by
  simp only [Spaced.decodeText_text]
  exact ⟨rfl, rfl⟩

end Job

end ThermalPrint
