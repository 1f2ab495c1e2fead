import ThermalPrint.Escpos.Encode
import ThermalPrint.Receipt.Json

/-! The JSON form of print jobs: the kind of job under `type`, and what it prints under `content`. -/

namespace ThermalPrint.Job

open Json

inductive Tag
  | plainText | receipt
deriving DecidableEq, Repr

def Tag.variants : List (String × Tag) := [("plainText", .plainText), ("receipt", .receipt)]

/-- The content that belongs to a tag. -/
def contentDecoder : Tag → Decoder Job
  | .plainText => fun origin node => (Decoder.string origin node).map .plainText
  | .receipt => fun origin node => (Receipt.decoder origin node).map .receipt

/-- What has been met in an object. Content that comes before its tag is kept until the tag is
known. -/
inductive Draft
  | nothing
  | tag (t : Tag)
  | content (node : Node)
  | complete (job : Job)

/-- Walks the members of an object. Each of the two keys may come once. -/
def takeMembers (origin : Origin) : List (StringLiteral × Node) → Draft → Except Fault Draft
  | [], draft => .ok draft
  | (key, v) :: ms, draft => do
    match ← key.read with
    | "type" =>
      match draft with
      | .nothing => do takeMembers origin ms (.tag (← Decoder.variant Tag.variants origin v))
      | .content node => do
        let tag ← Decoder.variant Tag.variants origin v
        takeMembers origin ms (.complete (← contentDecoder tag .ahead node))
      | .tag _ | .complete _ => .error (.duplicateField "type")
    | "content" =>
      match draft with
      | .nothing => do
        let _ ← v.resolve origin
        takeMembers origin ms (.content v)
      | .tag tag => do takeMembers origin ms (.complete (← contentDecoder tag origin v))
      | .content _ | .complete _ => .error (.duplicateField "content")
    | _ => do
      v.skip
      takeMembers origin ms draft

def decoder : Decoder Job
  | origin, .array es stop => do
    let inner ← origin.enter
    match es with
    | [] =>
      raise stop.problem?
      .error (.wrongLength 0 "adjacently tagged enum PrintRequest")
    | [t] =>
      let _ ← Decoder.variant Tag.variants inner t
      raise stop.problem?
      .error (.wrongLength 1 "adjacently tagged enum PrintRequest")
    | t :: c :: rest =>
      let tag ← Decoder.variant Tag.variants inner t
      let job ← contentDecoder tag inner c
      RecordForm.surplus origin es.length 2 rest stop
      return job
  | origin, .object members stop => do
    let draft ← takeMembers (← origin.enter) members .nothing
    raise stop.problem?
    match draft with
    | .complete job => return job
    | .tag _ => .error (.missingField "content")
    | .nothing | .content _ => .error (.missingField "type")
  | _, node => mismatch node "adjacently tagged enum PrintRequest"

def toJson : Job → Value
  | .plainText text => .object [("type", .string "plainText"), ("content", .string text)]
  | .receipt r => .object [("type", .string "receipt"), ("content", r.toJson)]

end ThermalPrint.Job
