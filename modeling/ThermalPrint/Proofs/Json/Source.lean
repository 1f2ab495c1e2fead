import ThermalPrint.Proofs.Json.Token

/-! A text that is written as a value has the tree of that value. -/

namespace ThermalPrint.Json

variable {rest : List Char} {r : Reader} {outer : List Frame}

/-! ## What is due -/

/-- A reader for which a value is due, inside `outer`. At the beginning of an array, the array may end
instead. -/
def Due (r : Reader) (outer : List Frame) : Prop :=
  ∀ t, t ≠ .endArray → r.step t = Reader.startValue outer t

theorem due_value (outer : List Frame) : Due (.value outer) outer := fun _ _ => rfl

theorem due_element (afterComma : Bool) (before : List Node) (outer : List Frame) :
    Due (.element afterComma before outer) (.array before :: outer) := fun _ h => if_neg h

theorem startValue_number (n : Numeral) (outer : List Frame) :
    Reader.startValue outer (.number n) = .accept (.atom (n.read.elim .beyondRange .number)) outer := by
  simp only [Reader.startValue, Token.atom?]
  cases n.read <;> rfl

/-- The reader after the tokens of a text. -/
def feed (r : Reader) (text : List Char) : Reader := (Scan.run .ready text).foldl Reader.step r

theorem feed_blank (b : Blank) (r : Reader) : feed r (b.char :: rest) = feed r rest := by
  rw [feed, Scan.run_blank, feed]

theorem feed_blanks (blanks : List Blank) (r : Reader) :
    feed r (blanks.map Blank.char ++ rest) = feed r rest := by
  induction blanks with
  | nil => rfl
  | cons b bs ih => rw [List.map_cons, List.cons_append, feed_blank, ih]

theorem feed_numberText (h : Ends rest) (n : NumberText) (r : Reader) :
    feed r (n.chars ++ rest) = feed (r.step (.number n.numeral)) rest := by
  rw [feed, Scan.run_numberText h]
  rfl

theorem feed_stringText (s : StringText) (r : Reader) :
    feed r (s.chars ++ rest) = feed (r.step (.string s.literal)) rest := by
  rw [feed, Scan.run_stringText]
  rfl

theorem feed_wordChars (w : Word) (r : Reader) : feed r (w.chars ++ rest) = feed (r.step (.word w)) rest := by
  cases w <;> rfl

namespace Source

/-- Induction over the parts of a written value. -/
@[elab_as_elim]
theorem induction {motive : Source → Prop} (word : ∀ w, motive (.word w))
    (number : ∀ n, motive (.number n)) (string : ∀ s, motive (.string s))
    (array : ∀ elements close, (∀ e ∈ elements, motive e.item) → motive (.array elements close))
    (object : ∀ members close, (∀ m ∈ members, motive m.2.item) → motive (.object members close)) :
    ∀ s, motive s
  | .word w => word w
  | .number n => number n
  | .string s => string s
  | .array es close =>
    array es close fun e _ => induction word number string array object e.item
  | .object ms close =>
    object ms close fun m _ => induction word number string array object m.2.item
termination_by s => sizeOf s
decreasing_by
  · next he =>
    have := List.sizeOf_lt_of_mem he
    obtain ⟨before, v, after⟩ := e
    simp only [Spaced.mk.sizeOf_spec, Source.array.sizeOf_spec] at this ⊢
    omega
  · next hm =>
    have := List.sizeOf_lt_of_mem hm
    obtain ⟨key, before, v, after⟩ := m
    simp only [Prod.mk.sizeOf_spec, Spaced.mk.sizeOf_spec, Source.object.sizeOf_spec] at this ⊢
    omega

/-- Wherever a value is due, the written value is taken for it. -/
def Legible (s : Source) : Prop :=
  ∀ ⦃r outer⦄, Due r outer → ∀ ⦃rest⦄, Ends rest →
    feed r (s.chars ++ rest) = feed (.accept s.tree outer) rest

variable {s : Source} {close : List Blank}

theorem Legible.feed_spaced (h : s.Legible) (hr : Due r outer) (hrest : Ends rest)
    (before after : List Blank) :
    feed r (spacedChars before s.chars after ++ rest) = feed (.accept s.tree outer) rest := by
  rw [spacedChars, List.append_assoc, List.append_assoc, feed_blanks, h hr (ends_blanks after hrest),
    feed_blanks]

/-- What follows an element begins with a blank, a comma or the end of its array. -/
theorem ends_tailElements (close : List Blank) (es : List (Spaced Source)) (rest : List Char) :
    Ends (tailElements close es ++ rest) := by
  cases es with
  | nil =>
    rw [tailElements, List.append_assoc]
    exact ends_blanks close (ends_cons (by decide))
  | cons e es => exact ends_cons (by decide)

theorem ends_tailMembers (close : List Blank) (ms : Members)
    (rest : List Char) : Ends (tailMembers close ms ++ rest) := by
  cases ms with
  | nil =>
    rw [tailMembers, List.append_assoc]
    exact ends_blanks close (ends_cons (by decide))
  | cons m ms => exact ends_cons (by decide)

theorem feed_tailElements {es : List (Spaced Source)} (h : ∀ e ∈ es, e.item.Legible) (before : List Node) :
    feed (.arrayMore before outer) (tailElements close es ++ rest) =
      feed (.accept (.array (before.reverse ++ elementTrees es) .closed) outer) rest := by
  induction es generalizing before with
  | nil =>
    rw [tailElements, elementTrees, List.append_nil, List.append_assoc, feed_blanks]
    rfl
  | cons e es ih =>
    obtain ⟨he, hes⟩ := List.forall_mem_cons.1 h
    calc feed (.arrayMore before outer) (tailElements close (e :: es) ++ rest)
      _ = feed (.element true before outer)
          (spacedChars e.before e.item.chars e.after ++ (tailElements close es ++ rest)) := by
        rw [← List.append_assoc]
        rfl
      _ = feed (.arrayMore (e.item.tree :: before) outer) (tailElements close es ++ rest) :=
        he.feed_spaced (due_element true before outer) (ends_tailElements close es rest) _ _
      _ = _ := by
        rw [ih hes, List.reverse_cons, List.append_assoc]
        rfl

/-- A member, its name being due. -/
theorem Legible.feed_member (h : s.Legible) (key : Spaced StringText) {afterComma : Bool}
    (before : List (StringLiteral × Node)) (hrest : Ends rest) (blanks blanks' : List Blank) :
    feed (.key afterComma before outer) (spacedChars key.before key.item.chars key.after ++
        ':' :: (spacedChars blanks s.chars blanks' ++ rest)) =
      feed (.objectMore ((key.item.literal, s.tree) :: before) outer) rest := by
  rw [spacedChars, List.append_assoc, List.append_assoc, feed_blanks, feed_stringText, feed_blanks]
  exact h.feed_spaced (due_value (.object before key.item.literal :: outer)) hrest blanks blanks'

theorem feed_tailMembers {ms : Members}
    (h : ∀ m ∈ ms, m.2.item.Legible) (before : List (StringLiteral × Node)) :
    feed (.objectMore before outer) (tailMembers close ms ++ rest) =
      feed (.accept (.object (before.reverse ++ memberTrees ms) .closed) outer) rest := by
  induction ms generalizing before with
  | nil =>
    rw [tailMembers, memberTrees, List.append_nil, List.append_assoc, feed_blanks]
    rfl
  | cons m ms ih =>
    obtain ⟨key, e⟩ := m
    obtain ⟨he, hms⟩ := List.forall_mem_cons.1 h
    calc feed (.objectMore before outer) (tailMembers close ((key, e) :: ms) ++ rest)
      _ = feed (.key true before outer) (spacedChars key.before key.item.chars key.after ++
          ':' :: (spacedChars e.before e.item.chars e.after ++ (tailMembers close ms ++ rest))) := by
        rw [tailMembers, List.cons_append, List.append_assoc, List.cons_append, List.append_assoc]
        rfl
      _ = feed (.objectMore ((key.item.literal, e.item.tree) :: before) outer) (tailMembers close ms ++ rest) :=
        he.feed_member key before (ends_tailMembers close ms rest) _ _
      _ = _ := by
        rw [ih hms, List.reverse_cons, List.append_assoc]
        rfl

theorem legible_array {es : List (Spaced Source)} (h : ∀ e ∈ es, e.item.Legible) :
    (array es close).Legible := by
  intro r outer hr rest hrest
  have hbegin : r.step .beginArray = .element false [] outer := hr _ nofun
  cases es with
  | nil =>
    calc feed r (chars (.array [] close) ++ rest)
      _ = feed (r.step .beginArray) (close.map Blank.char ++ ']' :: rest) := by
        rw [chars, List.cons_append, List.append_assoc]
        rfl
      _ = _ := by
        rw [feed_blanks, hbegin]
        rfl
  | cons e es =>
    obtain ⟨he, hes⟩ := List.forall_mem_cons.1 h
    calc feed r (chars (.array (e :: es) close) ++ rest)
      _ = feed (r.step .beginArray)
          (spacedChars e.before e.item.chars e.after ++ (tailElements close es ++ rest)) := by
        rw [← List.append_assoc]
        rfl
      _ = feed (.arrayMore [e.item.tree] outer) (tailElements close es ++ rest) := by
        rw [hbegin]
        exact he.feed_spaced (due_element false [] outer) (ends_tailElements close es rest) _ _
      _ = _ := feed_tailElements hes _

theorem legible_object {ms : Members}
    (h : ∀ m ∈ ms, m.2.item.Legible) : (object ms close).Legible := by
  intro r outer hr rest hrest
  have hbegin : r.step .beginObject = .key false [] outer := hr _ nofun
  rcases ms with _ | ⟨⟨key, e⟩, ms⟩
  · calc feed r (chars (.object [] close) ++ rest)
      _ = feed (r.step .beginObject) (close.map Blank.char ++ '\x7d' :: rest) := by
        rw [chars, List.cons_append, List.append_assoc]
        rfl
      _ = _ := by
        rw [feed_blanks, hbegin]
        rfl
  · obtain ⟨he, hms⟩ := List.forall_mem_cons.1 h
    calc feed r (chars (.object ((key, e) :: ms) close) ++ rest)
      _ = feed (r.step .beginObject) (spacedChars key.before key.item.chars key.after ++
          ':' :: (spacedChars e.before e.item.chars e.after ++ (tailMembers close ms ++ rest))) := by
        rw [chars, List.cons_append, List.append_assoc, List.cons_append, List.append_assoc]
        rfl
      _ = feed (.objectMore [(key.item.literal, e.item.tree)] outer) (tailMembers close ms ++ rest) := by
        rw [hbegin]
        exact he.feed_member key [] (ends_tailMembers close ms rest) _ _
      _ = _ := feed_tailMembers hms _

theorem legible (s : Source) : s.Legible := by
  induction s using Source.induction with
  | word w =>
    intro r outer hr rest _
    rw [chars, feed_wordChars, hr (.word w) (by simp)]
    cases w <;> rfl
  | number n =>
    intro r outer hr rest hrest
    rw [chars, feed_numberText hrest, hr (.number n.numeral) (by simp), startValue_number]
    rfl
  | string s =>
    intro r outer hr rest _
    rw [chars, feed_stringText, hr (.string s.literal) (by simp)]
    rfl
  | array es close ih => exact legible_array ih
  | object ms close ih => exact legible_object ih

end Source

/-- The tree of a text is that of the value that it writes. -/
theorem Spaced.ofText_text (s : Spaced Source) : Document.ofText s.text = ⟨s.item.tree, false⟩ := by
  have hfeed : feed (.value []) (spacedChars s.before s.item.chars s.after ++ []) = .complete s.item.tree :=
    s.item.legible.feed_spaced (due_value []) ends_nil s.before s.after
  rw [List.append_nil, feed] at hfeed
  rw [Document.ofText, text, String.toList_ofList, Document.ofTokens, tokens, hfeed]
  rfl

/-- What is read of a text is read off the tree of the value that it writes. -/
theorem Spaced.decodeText_text {α : Type} (d : Decoder α) (s : Spaced Source) :
    decodeText d s.text = d (.text depthLimit) s.item.tree := by
  rw [decodeText, s.ofText_text]
  cases d (.text depthLimit) s.item.tree <;> rfl

end ThermalPrint.Json
