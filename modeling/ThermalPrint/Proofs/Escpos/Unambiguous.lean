import ThermalPrint.Proofs.Escpos.Printout

/-! A receipt can be told from its bytes, up to the styles of sections that it does not have. -/

namespace ThermalPrint

open Escpos

namespace Receipt

/-- The same contents, and the same styles wherever there is something to style. -/
structure Alike (r s : Receipt) : Prop where
  header_eq : r.header = s.header
  items_eq : r.items = s.items
  total_eq : r.total = s.total
  footer_eq : r.footer = s.footer
  bold_eq : ∀ part, r.has part = true →
    (r.formatting.style part).bold = (s.formatting.style part).bold
  code_eq : ∀ part, r.has part = true →
    (r.formatting.style part).code = (s.formatting.style part).code

end Receipt

section Lists

variable {α : Type _} {p : α → Prop} {x x' y y' : List α} {a a' : α}

/-- Lists that end at their first separators are told apart by what comes before. -/
private theorem split_at_first (hx : ∀ b ∈ x, ¬p b) (hx' : ∀ b ∈ x', ¬p b) (ha : p a) (ha' : p a')
    (h : x ++ a :: y = x' ++ a' :: y') : x = x' ∧ a = a' ∧ y = y' := by
  induction x generalizing x' with
  | nil =>
    cases x' with
    | nil => exact ⟨rfl, List.cons_eq_cons.1 h⟩
    | cons b x' =>
      obtain ⟨rfl, -⟩ := List.cons_eq_cons.1 h
      exact absurd ha (hx' a List.mem_cons_self)
  | cons b x ih =>
    cases x' with
    | nil =>
      obtain ⟨rfl, -⟩ := List.cons_eq_cons.1 h
      exact absurd ha' (hx b List.mem_cons_self)
    | cons b' x' =>
      obtain ⟨rfl, htail⟩ := List.cons_eq_cons.1 h
      obtain ⟨rfl, rest⟩ := ih (fun c hc => hx c (List.mem_cons_of_mem b hc))
        (fun c hc => hx' c (List.mem_cons_of_mem b hc)) htail
      exact ⟨rfl, rest⟩

/-- A list is told from what follows it by a property of its own elements. -/
private theorem split_where (hx : ∀ b ∈ x, p b) (hx' : ∀ b ∈ x', p b) (hy : ∀ b ∈ y, ¬p b)
    (hy' : ∀ b ∈ y', ¬p b) (h : x ++ y = x' ++ y') : x = x' ∧ y = y' := by
  classical
  have hfilter := congrArg (List.filter fun b => decide (p b)) h
  rw [List.filter_append, List.filter_append,
    List.filter_eq_self.2 fun b hb => decide_eq_true (hx b hb),
    List.filter_eq_self.2 fun b hb => decide_eq_true (hx' b hb),
    List.filter_eq_nil_iff.2 fun b hb => by simpa using hy b hb,
    List.filter_eq_nil_iff.2 fun b hb => by simpa using hy' b hb,
    List.append_nil, List.append_nil] at hfilter
  subst hfilter
  exact ⟨rfl, List.append_cancel_left h⟩

end Lists

namespace Escpos

variable {r s : Receipt}

/-- Lines without line feeds can be told from their output. -/
theorem Row.output_inj {rows rows' : List Row} (h : ∀ row ∈ rows, lf ∉ row.text)
    (h' : ∀ row ∈ rows', lf ∉ row.text)
    (heq : rows.flatMap Row.output = rows'.flatMap Row.output) : rows = rows' := by
  induction rows generalizing rows' with
  | nil =>
    cases rows' with
    | nil => rfl
    | cons row' rows' => simp [Row.output] at heq
  | cons row rows ih =>
    cases rows' with
    | nil => simp [Row.output] at heq
    | cons row' rows' =>
      have hplain {row : Row} (hrow : lf ∉ row.text) :
          ∀ o ∈ row.text.map (Output.printed · row.look), ¬∃ look, o = .printed lf look := by
        rintro o ho ⟨look, rfl⟩
        obtain ⟨b, hb, hlook⟩ := List.mem_map.1 ho
        cases hlook
        exact hrow hb
      simp only [List.flatMap_cons, Row.output, List.map_append, List.append_assoc] at heq
      obtain ⟨htext, hlf, hrest⟩ := split_at_first (hplain (h row List.mem_cons_self))
        (hplain (h' row' List.mem_cons_self)) ⟨_, rfl⟩ ⟨_, rfl⟩ heq
      obtain rfl := ih (fun q hq => h q (List.mem_cons_of_mem row hq))
        (fun q hq => h' q (List.mem_cons_of_mem row' hq)) hrest
      obtain ⟨text, look⟩ := row
      obtain ⟨text', look'⟩ := row'
      obtain ⟨-, rfl⟩ := Output.printed.inj hlf
      obtain rfl := (List.map_inj_right fun a b hab => (Output.printed.inj hab).1).1 htext
      rfl

/-- A byte that no text has is in a line only as the tab of an item. -/
theorem not_mem_text {b : UInt8} (hb : ∀ text ∈ r.texts, b ∉ utf8 text)
    (htotal : b ∉ utf8 "Total: ") {part : Receipt.Part} (htab : part = .items → b ≠ tab) :
    ∀ row ∈ r.rows part, b ∉ row.text := by
  intro row hrow
  cases part with
  | header =>
    obtain ⟨text, htext, hrow⟩ := List.mem_flatMap.1 hrow
    simp only [List.mem_cons, List.not_mem_nil, or_false] at hrow
    rcases hrow with rfl | rfl
    · exact hb text (Receipt.header_mem_texts (Option.mem_toList.1 htext))
    · exact List.not_mem_nil
  | items =>
    obtain ⟨item, hitem, rfl⟩ := List.mem_map.1 hrow
    intro hmem
    rcases List.mem_append.1 hmem with hmem | hmem
    · exact hb _ (Receipt.name_mem_texts hitem) hmem
    rcases List.mem_cons.1 hmem with hmem | hmem
    · exact htab rfl hmem
    · exact hb _ (Receipt.price_mem_texts hitem) hmem
  | total =>
    obtain ⟨text, htext, hrow⟩ := List.mem_flatMap.1 hrow
    simp only [List.mem_cons, List.not_mem_nil, or_false] at hrow
    rcases hrow with rfl | rfl
    · exact List.not_mem_nil
    · intro hmem
      rcases List.mem_append.1 hmem with hmem | hmem
      · exact htotal hmem
      · exact hb text (Receipt.total_mem_texts (Option.mem_toList.1 htext)) hmem
  | footer =>
    obtain ⟨text, htext, rfl⟩ := List.mem_map.1 hrow
    exact hb text (Receipt.footer_mem_texts (Option.mem_toList.1 htext))

/-- The characters that structure a receipt. -/
def marks : List Char := ['\t', '\n', '\x1b', '\x1d']

theorem lf_not_mem (hr : r.Avoids marks) : ∀ row ∈ r.body ++ r.feed, lf ∉ row.text := by
  intro row hrow
  rcases List.mem_append.1 hrow with hrow | hrow
  · obtain ⟨part, -, hrow⟩ := List.mem_flatMap.1 hrow
    refine not_mem_text (fun text ht => ?_) (by decide +kernel) (fun _ => by decide) row hrow
    exact not_mem_utf8 (by decide) (hr text ht '\n' (by decide))
  · obtain rfl := List.eq_of_mem_replicate hrow
    exact List.not_mem_nil

theorem tab_not_mem (hr : r.Avoids marks) {part : Receipt.Part} (hpart : part ≠ .items) :
    ∀ row ∈ r.rows part, tab ∉ row.text := by
  refine not_mem_text (fun text ht => ?_) (by decide +kernel) (fun h => absurd h hpart)
  exact not_mem_utf8 (by decide) (hr text ht '\t' (by decide))

/-- The lines of a receipt can be told from its bytes. -/
theorem body_eq_of_encodeReceipt_eq (hr : r.Avoids marks) (hs : s.Avoids marks)
    (h : encodeReceipt r = encodeReceipt s) : r.body = s.body := by
  obtain ⟨is, hread, hplays⟩ := receipt_plays (hr.mono (by simp [marks]))
  obtain ⟨js, hread', hplays'⟩ := receipt_plays (hs.mono (by simp [marks]))
  have his : is = js := by
    have hjob := congrArg Prod.fst (hread.symm.trans ((congrArg read h).trans hread'))
    exact List.append_cancel_right (List.cons_eq_cons.1 hjob).2
  have hout := congrArg Prod.fst (hplays.run_eq.symm.trans (his ▸ hplays'.run_eq))
  have hrows := Row.output_inj (lf_not_mem hr) (lf_not_mem hs) hout
  exact (List.append_inj' hrows rfl).1

theorem look_of_mem_rows {part : Receipt.Part} : ∀ row ∈ r.rows part, row.look = r.look part := by
  intro row hrow
  cases part with
  | header | total =>
    obtain ⟨text, -, hrow⟩ := List.mem_flatMap.1 hrow
    simp only [List.mem_cons, List.not_mem_nil, or_false] at hrow
    rcases hrow with rfl | rfl <;> rfl
  | items =>
    obtain ⟨item, -, rfl⟩ := List.mem_map.1 hrow
    rfl
  | footer =>
    obtain ⟨text, -, rfl⟩ := List.mem_map.1 hrow
    rfl

theorem rows_total_length : (r.rows .total).length = 2 * r.total.toList.length := by
  cases h : r.total <;> simp [Receipt.rows, h]

theorem rows_footer_length : (r.rows .footer).length ≤ 1 := by
  cases h : r.footer <;> simp [Receipt.rows, h]

/-- The lines of every section can be told from the lines of all: the header is the only section
that is centred, the items are the only ones that have tabs, and a total has two lines. -/
theorem rows_eq (hr : r.Avoids marks) (hs : s.Avoids marks) (h : r.body = s.body)
    (part : Receipt.Part) : r.rows part = s.rows part := by
  have hcentred {r : Receipt} : ∀ row ∈ r.rows .header, row.look.alignment = some 0x01 := by
    intro row hrow
    rw [look_of_mem_rows row hrow]
    rfl
  have hleft {r : Receipt} :
      ∀ row ∈ [Receipt.Part.items, .total, .footer].flatMap r.rows,
        row.look.alignment ≠ some 0x01 := by
    intro row hrow
    obtain ⟨part, hpart, hrow⟩ := List.mem_flatMap.1 hrow
    rw [look_of_mem_rows row hrow]
    cases part with
    | header => simp at hpart
    | items | total | footer => simp [Receipt.look]
  have htab {r : Receipt} : ∀ row ∈ r.rows .items, tab ∈ row.text := by
    intro row hrow
    obtain ⟨item, -, rfl⟩ := List.mem_map.1 hrow
    exact List.mem_append_right _ List.mem_cons_self
  have hno {r : Receipt} (hr : r.Avoids marks) :
      ∀ row ∈ [Receipt.Part.total, .footer].flatMap r.rows, tab ∉ row.text := by
    intro row hrow
    obtain ⟨part, hpart, hrow⟩ := List.mem_flatMap.1 hrow
    refine tab_not_mem hr ?_ row hrow
    rintro rfl
    simp at hpart
  obtain ⟨hheader, h⟩ := split_where hcentred hcentred hleft hleft h
  obtain ⟨hitems, h⟩ := split_where htab htab (hno hr) (hno hs) h
  simp only [List.flatMap_cons, List.flatMap_nil, List.append_nil] at h
  have hlength : (r.rows .total).length = (s.rows .total).length := by
    have := congrArg List.length h
    simp only [List.length_append] at this
    have := rows_total_length (r := r)
    have := rows_total_length (r := s)
    have := rows_footer_length (r := r)
    have := rows_footer_length (r := s)
    omega
  obtain ⟨htotal, hfooter⟩ := List.append_inj h hlength
  cases part with
  | header => exact hheader
  | items => exact hitems
  | total => exact htotal
  | footer => exact hfooter

/-- A section that is present has a line. -/
theorem look_eq (hrows : ∀ part, r.rows part = s.rows part) {part : Receipt.Part}
    (hpart : r.has part = true) : r.look part = s.look part := by
  have hne : r.rows part ≠ [] := by
    cases part with
    | header =>
      obtain ⟨text, htext⟩ := Option.isSome_iff_exists.1 hpart
      simp [Receipt.rows, htext]
    | items =>
      simp only [Receipt.has, Bool.not_eq_true', List.isEmpty_eq_false_iff] at hpart
      simpa [Receipt.rows] using hpart
    | total =>
      obtain ⟨text, htext⟩ := Option.isSome_iff_exists.1 hpart
      simp [Receipt.rows, htext]
    | footer =>
      obtain ⟨text, htext⟩ := Option.isSome_iff_exists.1 hpart
      simp [Receipt.rows, htext]
  obtain ⟨row, hrow⟩ := List.exists_mem_of_ne_nil _ hne
  rw [← look_of_mem_rows row hrow, ← look_of_mem_rows row (hrows part ▸ hrow)]

/-- The items can be told from their lines. -/
theorem items_inj {items items' : List Receipt.Item} {look look' : Look}
    (h : ∀ item ∈ items, tab ∉ utf8 item.name) (h' : ∀ item ∈ items', tab ∉ utf8 item.name)
    (heq : items.map (fun item => Row.mk (utf8 item.name ++ tab :: utf8 item.price) look) =
      items'.map fun item => Row.mk (utf8 item.name ++ tab :: utf8 item.price) look') :
    items = items' := by
  induction items generalizing items' with
  | nil => exact (List.map_eq_nil_iff.1 heq.symm).symm
  | cons item items ih =>
    cases items' with
    | nil => cases heq
    | cons item' items' =>
      obtain ⟨hrow, hrest⟩ := List.cons_eq_cons.1 heq
      obtain rfl := ih (fun i hi => h i (List.mem_cons_of_mem item hi))
        (fun i hi => h' i (List.mem_cons_of_mem item' hi)) hrest
      have hname : ∀ b ∈ utf8 item.name, ¬b = tab := fun b hb htab =>
        h item List.mem_cons_self (htab ▸ hb)
      have hname' : ∀ b ∈ utf8 item'.name, ¬b = tab := fun b hb htab =>
        h' item' List.mem_cons_self (htab ▸ hb)
      obtain ⟨hn, -, hp⟩ := split_at_first hname hname' rfl rfl (Row.mk.inj hrow).1
      obtain ⟨name, price⟩ := item
      obtain ⟨name', price'⟩ := item'
      obtain rfl := utf8_inj.1 hn
      obtain rfl := utf8_inj.1 hp
      rfl

theorem header_eq (h : r.rows .header = s.rows .header) : r.header = s.header := by
  cases hr : r.header <;> cases hs : s.header <;> simp only [Receipt.rows, hr, hs] at h
  · rfl
  · cases h
  · cases h
  · obtain rfl := utf8_inj.1 (Row.mk.inj (List.cons_eq_cons.1 h).1).1
    rfl

theorem total_eq (h : r.rows .total = s.rows .total) : r.total = s.total := by
  cases hr : r.total <;> cases hs : s.total <;> simp only [Receipt.rows, hr, hs] at h
  · rfl
  · cases h
  · cases h
  · have htext := (Row.mk.inj (List.cons_eq_cons.1 (List.cons_eq_cons.1 h).2).1).1
    obtain rfl := utf8_inj.1 (List.append_cancel_left htext)
    rfl

theorem footer_eq (h : r.rows .footer = s.rows .footer) : r.footer = s.footer := by
  cases hr : r.footer <;> cases hs : s.footer <;> simp only [Receipt.rows, hr, hs] at h
  · rfl
  · cases h
  · cases h
  · obtain rfl := utf8_inj.1 (Row.mk.inj (List.cons_eq_cons.1 h).1).1
    rfl

theorem alike_of_encodeReceipt_eq (hr : r.Avoids marks) (hs : s.Avoids marks)
    (h : encodeReceipt r = encodeReceipt s) : r.Alike s := by
  have hrows := rows_eq hr hs (body_eq_of_encodeReceipt_eq hr hs h)
  have hname {r : Receipt} (hr : r.Avoids marks) : ∀ item ∈ r.items, tab ∉ utf8 item.name :=
    fun item hitem => not_mem_utf8 (c := '\t') (by decide)
      (hr item.name (Receipt.name_mem_texts hitem) '\t' (by decide))
  have hlook (part : Receipt.Part) (hpart : r.has part = true) : r.look part = s.look part :=
    look_eq hrows hpart
  exact {
    header_eq := header_eq (hrows .header)
    items_eq := items_inj (hname hr) (hname hs) (hrows .items)
    total_eq := total_eq (hrows .total)
    footer_eq := footer_eq (hrows .footer)
    bold_eq := fun part hpart => congrArg Look.bold (hlook part hpart)
    code_eq := fun part hpart => congrArg Look.size (hlook part hpart) }

/-- The commands of a receipt come from its contents and from the styles of what is there. -/
theorem blocks_eq_of_alike (h : r.Alike s) : blocks r = blocks s := by
  refine congrArg (Receipt.Part.all.filterMap ·) (funext fun part => ?_)
  have hcontent : content? r part = content? s part := by
    cases part with
    | header => rw [content?, content?, h.header_eq]
    | items => rw [content?, content?, h.items_eq]
    | total => rw [content?, content?, h.total_eq]
    | footer => rw [content?, content?, h.footer_eq]
  rw [← hcontent]
  cases hr : content? r part with
  | none => rfl
  | some content =>
    have hpart : r.has part = true := by rw [← content?_isSome, hr]; rfl
    simp only [Option.map_some, h.bold_eq part hpart, h.code_eq part hpart]

/-- Receipts have the same bytes when they are alike, and, if their texts have no characters that
structure a receipt, only then. -/
theorem encodeReceipt_eq_iff :
    (∀ r s : Receipt, r.Alike s → encodeReceipt r = encodeReceipt s) ∧
      ∀ r s : Receipt, r.Avoids marks → s.Avoids marks →
        (encodeReceipt r = encodeReceipt s ↔ r.Alike s) := by
  have hif (r s : Receipt) (h : r.Alike s) : encodeReceipt r = encodeReceipt s := by
    rw [encodeReceipt, encodeReceipt, receiptCommands, receiptCommands, blocks_eq_of_alike h]
  exact ⟨hif, fun r s hr hs => ⟨alike_of_encodeReceipt_eq hr hs, hif r s⟩⟩

/-- The style of an absent header is in no byte; that of the items is. -/
theorem encodeReceipt_eq_iff_of_items :
    let r : Receipt := { items := [⟨"Tea", "2"⟩] }
    let s : Receipt := r.withFormatting { header := { bold := true } }
    let t : Receipt := r.withFormatting { items := { bold := true } }
    r.Avoids marks ∧ s.Avoids marks ∧ t.Avoids marks ∧ r.Alike s ∧
      encodeReceipt r = encodeReceipt s ∧ encodeReceipt r ≠ encodeReceipt t := by
  intro r s t
  have hr : r.Avoids marks := by decide +kernel
  have hs : s.Avoids marks := by decide +kernel
  have ht : t.Avoids marks := by decide +kernel
  have halike : r.Alike s := by
    refine ⟨rfl, rfl, rfl, rfl, fun part hpart => ?_, fun part hpart => ?_⟩
    · cases part with
      | header => cases hpart
      | items | total | footer => rfl
    · cases part <;> rfl
  refine ⟨hr, hs, ht, halike, encodeReceipt_eq_iff.1 r s halike, fun heq => ?_⟩
  have hbold := ((encodeReceipt_eq_iff.2 r t hr ht).1 heq).bold_eq .items rfl
  cases hbold

end Escpos

end ThermalPrint
