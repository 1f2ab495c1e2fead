import ThermalPrint.Proofs.Json.Reads
import ThermalPrint.Receipt.Json
import ThermalPrint.Receipt.Language

/-! Receipts are read of exactly the values that describe them, as what these describe. -/

namespace ThermalPrint

open Json RecordForm

variable {v : Value} {x : Option Value} {ms : List (String × Value)}

/-! ## Sizes -/

namespace Size

theorem ofJson_of_lt {n : Int} (exact : Exact n) (h : n < 0x8000000000000000) :
    ∃ m : Int64, ofJson (.number (.integer n exact)) = .level m ∧ m.toInt = n := by
  refine ⟨Int64.ofInt n, if_pos h, ?_⟩
  exact Int64.toInt_ofInt_of_le exact.1 h

theorem ofJson_of_le {n : Int} (exact : Exact n) (h : 0x8000000000000000 ≤ n) :
    ofJson (.number (.integer n exact)) = .other (.number (.integer n exact)) :=
  if_neg (Int.not_lt.2 h)

theorem stated_ofJson (v : Value) : (ofJson v.canonical).Stated v := by
  cases v with
  | null | bool | array | object => exact .other (fun _ _ h => nomatch h) nofun
  | string name => exact .named name
  | number n =>
    cases n with
    | integer n exact =>
      change (ofJson (.number (.integer n exact))).Stated (.number (.integer n exact))
      by_cases hlt : n < 0x8000000000000000
      · obtain ⟨m, hm, rfl⟩ := ofJson_of_lt exact hlt
        rw [hm]
        exact .level m
      · have hle := Int.not_lt.1 hlt
        rw [ofJson_of_le exact hle]
        refine .other ?_ nofun
        rintro _ _ ⟨⟩
        exact hle
    | float => exact .other (fun _ _ h => nomatch h) nofun

theorem Stated.eq_ofJson {s : Size} (h : s.Stated v) : ofJson v.canonical = s := by
  cases h with
  | level n =>
    obtain ⟨m, hm, he⟩ := ofJson_of_lt (exact_toInt n) (Int64.toInt_lt n)
    exact hm.trans (congrArg _ (Int64.toInt_inj.1 he))
  | named name => rfl
  | other hlevel hnamed =>
    cases v with
    | null | bool | array | object => rfl
    | string name => exact absurd rfl (hnamed name)
    | number n =>
      cases n with
      | integer n exact => exact ofJson_of_le exact (hlevel n exact rfl)
      | float => rfl

/-- Whatever a value is, it states one size. -/
theorem ofJson_canonical_eq_iff (s : Size) : ofJson v.canonical = s ↔ s.Stated v :=
  ⟨fun h => h ▸ stated_ofJson v, Stated.eq_ofJson⟩

theorem reads_decoder : decoder.Reads Stated := by
  intro v s
  have hread : decodeValue decoder v = (decodeValue Node.resolve v).map ofJson := rfl
  rw [hread, Decoder.decodeValue_resolve, ← ofJson_canonical_eq_iff]
  exact ⟨Except.ok.inj, congrArg Except.ok⟩

end Size

namespace Receipt

open Decoder

/-! ## Fields -/

theorem textStated_iff {s : Option String} :
    TextStated x s ↔ ∃ o, Option.Rel (Nullable fun v s => v = .string s) x o ∧ o.join = s := by
  constructor
  · rintro (_ | _ | s)
    · exact ⟨none, .none, rfl⟩
    · exact ⟨some none, .some .null, rfl⟩
    · exact ⟨some (some s), .some (.value nofun rfl), rfl⟩
  · rintro ⟨_, (_ | ⟨-, rfl⟩) | _, rfl⟩
    · exact .null
    · exact .text _
    · exact .absent

theorem sizeStated_iff {s : Option Size} :
    SizeStated x s ↔ ∃ o, Option.Rel (Nullable Size.Stated) x o ∧ o.join = s := by
  constructor
  · rintro (_ | _ | ⟨hnull, h⟩)
    · exact ⟨none, .none, rfl⟩
    · exact ⟨some none, .some .null, rfl⟩
    · exact ⟨_, .some (.value hnull h), rfl⟩
  · rintro ⟨_, (_ | ⟨hnull, h⟩) | _, rfl⟩
    · exact .null
    · exact .size hnull h
    · exact .absent

theorem boldStated_iff {b : Bool} :
    BoldStated x b ↔ ∃ o, Option.Rel (fun v b => v = .bool b) x o ∧ o.getD false = b := by
  constructor
  · rintro (_ | b)
    · exact ⟨none, .none, rfl⟩
    · exact ⟨some b, .some rfl, rfl⟩
  · rintro ⟨_, rfl | _, rfl⟩
    · exact .bold _
    · exact .absent

theorem itemsStated_iff {items : List Item} :
    ItemsStated x items ↔ ∃ o, Option.Rel (Listed Item.Described) x o ∧ o.getD [] = items := by
  constructor
  · rintro (_ | h)
    · exact ⟨none, .none, rfl⟩
    · exact ⟨some _, .some (.array h), rfl⟩
  · rintro ⟨_, ⟨⟨h⟩⟩ | _, rfl⟩
    · exact .items h
    · exact .absent

theorem formattingStated_iff {f : Formatting} :
    FormattingStated x f ↔ ∃ o, Option.Rel Formatting.Described x o ∧ o.getD {} = f := by
  constructor
  · rintro (_ | h)
    · exact ⟨none, .none, rfl⟩
    · exact ⟨some f, .some h, rfl⟩
  · rintro ⟨_, h | _, rfl⟩
    · exact .formatting h
    · exact .absent

theorem reads_price : priceDecoder.Reads PriceStated := by
  intro v s
  change (decodeValue Node.resolve v >>= _) = Except.ok s ↔ _
  rw [decodeValue_resolve, ok_bind]
  constructor
  · intro h
    cases v with
    | string text =>
      cases h
      exact .text s
    | number n =>
      cases h
      exact .number n
    | null | bool | array | object => nomatch h
  · rintro (_ | _) <;> rfl

/-! ## Records -/

theorem Item.orderly_form : form.Orderly where
  apart := by
    simp only [form, List.pairwise_cons, List.forall_mem_cons, List.not_mem_nil, false_imp_iff,
      implies_true, List.Pairwise.nil, and_true]
    exact Field.apart_of (by decide) (fun _ _ => rfl) (fun _ _ => rfl) fun _ _ _ => rfl
  new := by
    simp only [form, List.forall_mem_cons]
    exact ⟨rfl, rfl, nofun⟩

theorem Formatting.orderly_form : form.Orderly where
  apart := by
    simp only [form, List.pairwise_cons, List.forall_mem_cons, List.not_mem_nil, false_imp_iff,
      implies_true, List.Pairwise.nil, and_true]
    and_intros <;> exact Field.apart_of (by decide) (fun _ _ => rfl) (fun _ _ => rfl) fun _ _ _ => rfl
  new := by
    simp only [form, List.forall_mem_cons]
    exact ⟨rfl, rfl, rfl, rfl, rfl, rfl, rfl, rfl, nofun⟩

theorem orderly_form : form.Orderly where
  apart := by
    simp only [form, List.pairwise_cons, List.forall_mem_cons, List.not_mem_nil, false_imp_iff,
      implies_true, List.Pairwise.nil, and_true]
    and_intros <;> exact Field.apart_of (by decide) (fun _ _ => rfl) (fun _ _ => rfl) fun _ _ _ => rfl
  new := by
    simp only [form, List.forall_mem_cons]
    exact ⟨rfl, rfl, rfl, rfl, rfl, nofun⟩

/-- The fields of an item as they are collected. -/
theorem Item.collect_iff {s : Draft} : collect (givenBy ms) form.fields form.empty = .ok s ↔
    ∃ name, Option.Rel (fun v s => v = .string s) (member? ms "name") name ∧
    ∃ price, Option.Rel PriceStated (member? ms "price") price ∧ Draft.mk name price = s := by
  refine collect_of_iff reads_string (fun name => { name }) rfl (fun _ => rfl) fun name => ?_
  refine collect_of_iff reads_price (fun price => { name, price }) rfl (fun _ => rfl) fun price => ?_
  exact collect_nil_iff

theorem Item.reads_decoder : decoder.Reads Described := by
  intro v item
  refine (orderly_form.decodeValue_eq_ok_iff v item).trans
    (exists_congr fun ms => and_congr_right fun _ => ?_)
  simp only [collect_iff]
  constructor
  · rintro ⟨_, ⟨_, hname, _, hprice, rfl⟩, hcomplete⟩
    generalize member? ms "name" = x at hname ⊢
    generalize member? ms "price" = y at hprice ⊢
    cases hname with
    | none => nomatch hcomplete
    | some hname =>
      cases hprice with
      | none => nomatch hcomplete
      | some hprice =>
        cases hcomplete
        exact ⟨congrArg _ hname, _, rfl, hprice⟩
  · rintro ⟨hname, price, hprice, hstated⟩
    rw [hname, hprice]
    exact ⟨_, ⟨some item.name, .some rfl, some item.price, .some hstated, rfl⟩, rfl⟩

/-- The fields of a formatting as they are collected. -/
theorem Formatting.collect_iff {s : Draft} : collect (givenBy ms) form.fields form.empty = .ok s ↔
    ∃ headerSize, Option.Rel (Nullable Size.Stated) (member? ms "headerSize") headerSize ∧
    ∃ headerBold, Option.Rel (fun v b => v = .bool b) (member? ms "headerBold") headerBold ∧
    ∃ itemSize, Option.Rel (Nullable Size.Stated) (member? ms "itemSize") itemSize ∧
    ∃ itemBold, Option.Rel (fun v b => v = .bool b) (member? ms "itemBold") itemBold ∧
    ∃ totalSize, Option.Rel (Nullable Size.Stated) (member? ms "totalSize") totalSize ∧
    ∃ totalBold, Option.Rel (fun v b => v = .bool b) (member? ms "totalBold") totalBold ∧
    ∃ footerSize, Option.Rel (Nullable Size.Stated) (member? ms "footerSize") footerSize ∧
    ∃ footerBold, Option.Rel (fun v b => v = .bool b) (member? ms "footerBold") footerBold ∧
      Draft.mk headerSize headerBold itemSize itemBold totalSize totalBold footerSize footerBold = s := by
  have hsize : form.size.Reads (Nullable Size.Stated) := Size.reads_decoder.option
  have hbold : bool.Reads fun v b => v = .bool b := reads_bool
  refine collect_of_iff hsize (.mk · none none none none none none none) rfl (fun _ => rfl) fun hs => ?_
  refine collect_of_iff hbold (.mk hs · none none none none none none) rfl (fun _ => rfl) fun hb => ?_
  refine collect_of_iff hsize (.mk hs hb · none none none none none) rfl (fun _ => rfl) fun is => ?_
  refine collect_of_iff hbold (.mk hs hb is · none none none none) rfl (fun _ => rfl) fun ib => ?_
  refine collect_of_iff hsize (.mk hs hb is ib · none none none) rfl (fun _ => rfl) fun ts => ?_
  refine collect_of_iff hbold (.mk hs hb is ib ts · none none) rfl (fun _ => rfl) fun tb => ?_
  refine collect_of_iff hsize (.mk hs hb is ib ts tb · none) rfl (fun _ => rfl) fun fs => ?_
  refine collect_of_iff hbold (.mk hs hb is ib ts tb fs) rfl (fun _ => rfl) fun fb => ?_
  exact collect_nil_iff

theorem Formatting.reads_decoder : decoder.Reads Described := by
  intro v f
  refine (orderly_form.decodeValue_eq_ok_iff v f).trans
    (exists_congr fun ms => and_congr_right fun _ => ?_)
  simp only [collect_iff]
  constructor
  · rintro ⟨_, ⟨hs, h₁, hb, h₂, is, h₃, ib, h₄, ts, h₅, tb, h₆, fs, h₇, fb, h₈, rfl⟩, ⟨⟩⟩
    exact ⟨⟨sizeStated_iff.2 ⟨hs, h₁, rfl⟩, boldStated_iff.2 ⟨hb, h₂, rfl⟩⟩,
      ⟨sizeStated_iff.2 ⟨is, h₃, rfl⟩, boldStated_iff.2 ⟨ib, h₄, rfl⟩⟩,
      ⟨sizeStated_iff.2 ⟨ts, h₅, rfl⟩, boldStated_iff.2 ⟨tb, h₆, rfl⟩⟩,
      ⟨sizeStated_iff.2 ⟨fs, h₇, rfl⟩, boldStated_iff.2 ⟨fb, h₈, rfl⟩⟩⟩
  · obtain ⟨⟨_, _⟩, ⟨_, _⟩, ⟨_, _⟩, ⟨_, _⟩⟩ := f
    rintro ⟨hheader, hitems, htotal, hfooter⟩
    obtain ⟨hs, h₁, ⟨⟩⟩ := sizeStated_iff.1 hheader.size
    obtain ⟨hb, h₂, ⟨⟩⟩ := boldStated_iff.1 hheader.bold
    obtain ⟨is, h₃, ⟨⟩⟩ := sizeStated_iff.1 hitems.size
    obtain ⟨ib, h₄, ⟨⟩⟩ := boldStated_iff.1 hitems.bold
    obtain ⟨ts, h₅, ⟨⟩⟩ := sizeStated_iff.1 htotal.size
    obtain ⟨tb, h₆, ⟨⟩⟩ := boldStated_iff.1 htotal.bold
    obtain ⟨fs, h₇, ⟨⟩⟩ := sizeStated_iff.1 hfooter.size
    obtain ⟨fb, h₈, ⟨⟩⟩ := boldStated_iff.1 hfooter.bold
    exact ⟨_, ⟨hs, h₁, hb, h₂, is, h₃, ib, h₄, ts, h₅, tb, h₆, fs, h₇, fb, h₈, rfl⟩, rfl⟩

/-- The fields of a receipt as they are collected. -/
theorem collect_iff {s : Draft} : collect (givenBy ms) form.fields form.empty = .ok s ↔
    ∃ header, Option.Rel (Nullable fun v s => v = .string s) (member? ms "header") header ∧
    ∃ items, Option.Rel (Listed Item.Described) (member? ms "items") items ∧
    ∃ total, Option.Rel (Nullable fun v s => v = .string s) (member? ms "total") total ∧
    ∃ footer, Option.Rel (Nullable fun v s => v = .string s) (member? ms "footer") footer ∧
    ∃ formatting, Option.Rel Formatting.Described (member? ms "formatting") formatting ∧
      Draft.mk header items total footer formatting = s := by
  have htext := reads_string.option
  have hitems := Item.reads_decoder.list
  refine collect_of_iff htext (.mk · none none none none) rfl (fun _ => rfl) fun header => ?_
  refine collect_of_iff hitems (.mk header · none none none) rfl (fun _ => rfl) fun items => ?_
  refine collect_of_iff htext (.mk header items · none none) rfl (fun _ => rfl) fun total => ?_
  refine collect_of_iff htext (.mk header items total · none) rfl (fun _ => rfl) fun footer => ?_
  refine collect_of_iff Formatting.reads_decoder (.mk header items total footer) rfl (fun _ => rfl)
    fun formatting => ?_
  exact collect_nil_iff

theorem reads_decoder : decoder.Reads Described := by
  intro v r
  refine (orderly_form.decodeValue_eq_ok_iff v r).trans
    (exists_congr fun ms => and_congr_right fun _ => ?_)
  simp only [collect_iff]
  constructor
  · rintro ⟨_, ⟨header, h₁, items, h₂, total, h₃, footer, h₄, formatting, h₅, rfl⟩, ⟨⟩⟩
    exact ⟨textStated_iff.2 ⟨header, h₁, rfl⟩, itemsStated_iff.2 ⟨items, h₂, rfl⟩,
      textStated_iff.2 ⟨total, h₃, rfl⟩, textStated_iff.2 ⟨footer, h₄, rfl⟩,
      formattingStated_iff.2 ⟨formatting, h₅, rfl⟩⟩
  · obtain ⟨_, _, _, _, _⟩ := r
    rintro ⟨hheader, hitems, htotal, hfooter, hformatting⟩
    obtain ⟨header, h₁, ⟨⟩⟩ := textStated_iff.1 hheader
    obtain ⟨items, h₂, ⟨⟩⟩ := itemsStated_iff.1 hitems
    obtain ⟨total, h₃, ⟨⟩⟩ := textStated_iff.1 htotal
    obtain ⟨footer, h₄, ⟨⟩⟩ := textStated_iff.1 hfooter
    obtain ⟨formatting, h₅, ⟨⟩⟩ := formattingStated_iff.1 hformatting
    exact ⟨_, ⟨header, h₁, items, h₂, total, h₃, footer, h₄, formatting, h₅, rfl⟩, rfl⟩

/-- A receipt is read of exactly the values that describe one, and it is the receipt that they
describe; every other value is a malformed request. -/
theorem ofValue_eq_ok_iff_described (v : Value) :
    (∀ r, ofValue v = .ok r ↔ Described v r) ∧
      ((∀ r, ¬ Described v r) → ∃ f, ofValue v = .error f ∧ f.kind = "encoding") := by
  have hread (r : Receipt) : ofValue v = .ok r ↔ Described v r := by
    rw [← reads_decoder v r, ofValue]
    cases decodeValue decoder v with
    | ok r' => exact ⟨fun h => congrArg _ (Except.ok.inj h), fun h => congrArg _ (Except.ok.inj h)⟩
    | error f => exact ⟨nofun, nofun⟩
  refine ⟨hread, fun hnone => ?_⟩
  cases hv : decodeValue decoder v with
  | ok r => exact absurd ((reads_decoder v r).1 hv) (hnone r)
  | error f => exact ⟨_, congrArg (Except.mapError _) hv, rfl⟩

/-- A receipt has five fields; a sixth element is one too many. -/
example : ofValue (.array [.null, .array [], .null, .null, .object []]) = .ok {} ∧
    ∃ f, ofValue (.array [.null, .array [], .null, .null, .object [], .null]) = .error f :=
  ⟨rfl, _, rfl⟩

end Receipt

end ThermalPrint
