import ThermalPrint.Proofs.Json.Lexing
import ThermalPrint.Proofs.Json.Rearranged

/-! The texts that can be read. A text is read without a fault of its form exactly if it is a written value
with blanks around it. -/

namespace ThermalPrint.Json

variable {α : Type} {cs rest : List Char} {r : Reader} {outer : List Frame} {node : Node} {t : Token}

/-! ## Passing over a tree -/

theorem unit_bind_eq_ok_iff {x : Except Fault Unit} {y : Except Fault α} {a : α} :
    (x >>= fun _ => y) = .ok a ↔ x = .ok () ∧ y = .ok a :=
  bind_eq_ok_iff.trans ⟨fun ⟨_, hx, hy⟩ => ⟨hx, hy⟩, fun ⟨hx, hy⟩ => ⟨(), hx, hy⟩⟩

theorem raise_eq_ok_iff {problem : Option Malformed} : raise problem = .ok () ↔ problem = none := by
  cases problem <;> simp [raise, malformed]

theorem skipElements_eq_ok_iff {es : List Node} : skipElements es = .ok () ↔ ∀ e ∈ es, e.skip = .ok () := by
  induction es with
  | nil => simp [skipElements]
  | cons e es ih => rw [skipElements, unit_bind_eq_ok_iff, ih, List.forall_mem_cons]

theorem skipMembers_eq_ok_iff {ms : List (StringLiteral × Node)} :
    skipMembers ms = .ok () ↔ ∀ m ∈ ms, m.1.skip = .ok () ∧ m.2.skip = .ok () := by
  induction ms with
  | nil => simp [skipMembers]
  | cons m ms ih =>
    rw [skipMembers, unit_bind_eq_ok_iff, unit_bind_eq_ok_iff, ih, List.forall_mem_cons, and_assoc]

namespace Node

theorem skip_array_iff {es : List Node} {stop : ArrayEnd} :
    (array es stop).skip = .ok () ↔ (∀ e ∈ es, e.skip = .ok ()) ∧ stop.skipProblem? = none := by
  rw [skip, unit_bind_eq_ok_iff, skipElements_eq_ok_iff, raise_eq_ok_iff]

theorem skip_object_iff {ms : List (StringLiteral × Node)} {stop : ObjectEnd} :
    (object ms stop).skip = .ok () ↔
      (∀ m ∈ ms, m.1.skip = .ok () ∧ m.2.skip = .ok ()) ∧ stop.skipProblem? = none := by
  rw [skip, unit_bind_eq_ok_iff, skipMembers_eq_ok_iff, raise_eq_ok_iff]

theorem skip_absent_ne_ok (why : Absence) : (atom (.absent why)).skip ≠ .ok () := by
  intro h
  cases h

theorem skip_string_ne_ok {s : StringLiteral} (h : s.stop ≠ .closed) : (atom (.string s)).skip ≠ .ok () := by
  intro hskip
  have hproblem : s.stop.problem? = none := raise_eq_ok_iff.1 hskip
  cases hstop : s.stop with
  | closed => exact h hstop
  | _ =>
    rw [hstop] at hproblem
    cases hproblem

end Node

/-! ## Faults -/

namespace Reader

theorem skip_cut_ne_ok (h : node.skip ≠ .ok ()) (outer : List Frame) : (cut node outer).skip ≠ .ok () := by
  induction outer generalizing node with
  | nil => exact h
  | cons frame outer ih =>
    cases frame with
    | array before => exact ih fun hskip => h ((Node.skip_array_iff.1 hskip).1 node (by simp))
    | object before name =>
      exact ih fun hskip => h ((Node.skip_object_iff.1 hskip).1 (name, node) (by simp)).2

/-- Reading has ended at a fault. -/
def Lost (r : Reader) : Prop := ∃ root, r = .ended root false ∧ root.skip ≠ .ok ()

theorem lost_abandon (h : node.skip ≠ .ok ()) (outer : List Frame) : (abandon node outer).Lost :=
  ⟨_, rfl, skip_cut_ne_ok h outer⟩

theorem lost_absent (why : Absence) (outer : List Frame) : (abandon (.atom (.absent why)) outer).Lost :=
  lost_abandon (Node.skip_absent_ne_ok why) outer

theorem lost_endArray (before : List Node) {stop : ArrayEnd} (h : stop.skipProblem? ≠ none)
    (outer : List Frame) : (endArray before stop outer).Lost :=
  lost_abandon (fun hskip => h (Node.skip_array_iff.1 hskip).2) outer

theorem lost_endObject (before : List (StringLiteral × Node)) {stop : ObjectEnd}
    (h : stop.skipProblem? ≠ none) (outer : List Frame) : (endObject before stop outer).Lost :=
  lost_abandon (fun hskip => h (Node.skip_object_iff.1 hskip).2) outer

theorem foldl_ended (root : Node) (trailing : Bool) (ts : List Token) :
    ts.foldl step (.ended root trailing) = .ended root trailing := by
  induction ts with
  | nil => rfl
  | cons t ts ih => exact ih

theorem Lost.foldl (h : r.Lost) (ts : List Token) : (ts.foldl step r).Lost := by
  obtain ⟨root, rfl, hroot⟩ := h
  exact ⟨root, foldl_ended root false ts, hroot⟩

/-- A reader that has not read its value, so that the end of the text is a fault, and every token that no
text writes. -/
structure Strict (r : Reader) : Prop where
  finish : r.finish.root.skip ≠ .ok ()
  broken : ∀ t : Token, t.Broken → (r.step t).Lost

theorem lost_startValue (h : t.Broken) (outer : List Frame) : (startValue outer t).Lost := by
  cases t with
  | brokenWord atEnd => exact lost_absent _ outer
  | brokenNumber atEnd => exact lost_absent _ outer
  | stray => exact lost_absent _ outer
  | string s =>
    have hstart : startValue outer (.string s) = abandon (.atom (.string s)) outer := if_neg h
    rw [hstart]
    exact lost_abandon (Node.skip_string_ne_ok h) outer
  | _ => cases h

theorem strict_value (outer : List Frame) : (value outer).Strict where
  finish := skip_cut_ne_ok (Node.skip_absent_ne_ok _) outer
  broken _ h := lost_startValue h outer

theorem strict_element (afterComma : Bool) (before : List Node) (outer : List Frame) :
    (element afterComma before outer).Strict where
  finish := skip_cut_ne_ok (fun h => by cases afterComma <;> cases (Node.skip_array_iff.1 h).2) outer
  broken t h := by
    have hne : t ≠ .endArray := by
      rintro rfl
      exact h
    rw [due_element afterComma before outer t hne]
    exact lost_startValue h _

theorem strict_arrayMore (before : List Node) (outer : List Frame) : (arrayMore before outer).Strict where
  finish := skip_cut_ne_ok (fun h => by cases (Node.skip_array_iff.1 h).2) outer
  broken t h := by
    have hlost : (endArray before .noComma outer).Lost := lost_endArray before (by decide) outer
    cases t <;> first | exact hlost | cases h

theorem strict_key (afterComma : Bool) (before : List (StringLiteral × Node)) (outer : List Frame) :
    (key afterComma before outer).Strict where
  finish := skip_cut_ne_ok (fun h => by cases afterComma <;> cases (Node.skip_object_iff.1 h).2) outer
  broken t h := by
    have hlost : (endObject before (.noKey afterComma false) outer).Lost :=
      lost_endObject before (by simp [ObjectEnd.skipProblem?]) outer
    cases t with
    | string s =>
      have hstep : step (.key afterComma before outer) (.string s) =
          abandon (.object ((s, .atom (.absent .colonAtEnd)) :: before).reverse .cut) outer := if_neg h
      rw [hstep]
      refine lost_abandon (fun hskip => ?_) outer
      have hmember := (Node.skip_object_iff.1 hskip).1 (s, .atom (.absent .colonAtEnd)) (by simp)
      exact Node.skip_string_ne_ok h hmember.1
    | brokenWord | brokenNumber | stray => exact hlost
    | _ => cases h

theorem strict_colon (name : StringLiteral) (before : List (StringLiteral × Node)) (outer : List Frame) :
    (colon name before outer).Strict where
  finish := skip_cut_ne_ok (Node.skip_absent_ne_ok .colonAtEnd) (.object before name :: outer)
  broken t h := by
    have hlost : (abandon (.atom (.absent .noColon)) (.object before name :: outer)).Lost := lost_absent _ _
    cases t <;> first | exact hlost | cases h

theorem strict_objectMore (before : List (StringLiteral × Node)) (outer : List Frame) :
    (objectMore before outer).Strict where
  finish := skip_cut_ne_ok (fun h => by cases (Node.skip_object_iff.1 h).2) outer
  broken t h := by
    have hlost : (endObject before .noComma outer).Lost := lost_endObject before (by decide) outer
    cases t <;> first | exact hlost | cases h

end Reader

/-- What is read of a text has a fault. -/
def Fails (r : Reader) (cs : List Char) : Prop := (feed r cs).finish.root.skip ≠ .ok ()

namespace Fails

theorem of_foldl {ts : List Token} (h : (ts.foldl Reader.step r).Lost) (hrun : Scan.run .ready cs = ts) :
    Fails r cs := by
  obtain ⟨root, hroot, hskip⟩ := h
  rw [Fails, feed, hrun, hroot]
  exact hskip

theorem of_feed_eq {r' : Reader} (hfeed : feed r cs = feed r' rest) (h : Fails r' rest) : Fails r cs := by
  rwa [Fails, hfeed]

theorem of_lost {r' : Reader} (hfeed : feed r cs = feed r' rest) (h : r'.Lost) : Fails r cs :=
  of_feed_eq hfeed (of_foldl (h.foldl (Scan.run .ready rest)) rfl)

end Fails

theorem Word.chars_ne_nil (w : Word) : w.chars ≠ [] := by
  cases w <;> exact List.cons_ne_nil _ _

theorem NumberText.chars_ne_nil (n : NumberText) : n.chars ≠ [] := by
  simp [chars, wholeChars, Digits.chars, Digits.values]

theorem Token.Written.ne_nil {text : List Char} (h : t.Written text) : text ≠ [] := by
  cases h with
  | word w => exact w.chars_ne_nil
  | number n => exact n.chars_ne_nil
  | _ => exact List.cons_ne_nil _ _

/-- Reading on, there is a fault, or a token is read of the characters that write it. -/
theorem Reader.Strict.next (h : r.Strict) (cs : List Char) :
    Fails r cs ∨ ∃ (blanks : List Blank) (t : Token) (text rest : List Char), t.Written text ∧
      cs = blanks.map Blank.char ++ (text ++ rest) ∧ rest.length < cs.length ∧
      feed r cs = feed (r.step t) rest := by
  cases Scan.next cs with
  | nothing blanks hcs =>
    left
    rw [Fails, hcs, ← List.append_nil (blanks.map Blank.char), feed_blanks]
    exact h.finish
  | token blanks ht hcs hrun =>
    refine .inr ⟨blanks, _, _, _, ht, hcs, ?_, ?_⟩
    · have := List.length_pos_iff.2 ht.ne_nil
      simp only [hcs, List.length_append]
      omega
    · rw [feed, hrun]
      rfl
  | @broken t ts ht hrun =>
    have hlost : ((t :: ts).foldl Reader.step r).Lost := (h.broken t ht).foldl ts
    exact .inl (.of_foldl hlost hrun)

/-! ## Values -/

/-- What is read of a text where a value is due: a fault, the end of an array instead, or a written value. -/
inductive ValueRead (r : Reader) (outer : List Frame) (cs : List Char) : Prop
  | fails (h : Fails r cs)
  | endArray (blanks : List Blank) (rest : List Char) (h : cs = blanks.map Blank.char ++ ']' :: rest)
  | value (blanks : List Blank) (s : Source) (rest : List Char)
    (h : cs = blanks.map Blank.char ++ (s.chars ++ rest))
    (hfeed : feed r cs = feed (.accept s.tree outer) rest)

/-- Whether this is how values are read of the texts that are shorter than `n`. -/
def ReadsBelow (n : Nat) : Prop :=
  ∀ ⦃cs : List Char⦄ ⦃r outer⦄, cs.length < n → Due r outer → r.Strict → ValueRead r outer cs

theorem ReadsBelow.mono {m n : Nat} (h : ReadsBelow n) (hmn : m ≤ n) : ReadsBelow m :=
  fun _ _ _ hcs => h (Nat.lt_of_lt_of_le hcs hmn)

namespace Source

theorem chars_ne_nil (s : Source) : s.chars ≠ [] := by
  cases s with
  | word w => exact w.chars_ne_nil
  | number n => exact n.chars_ne_nil
  | string s => simp [chars, StringText.chars]
  | array es close => rcases es with _ | ⟨e, es⟩ <;> simp [chars]
  | object ms close => rcases ms with _ | ⟨⟨key, e⟩, ms⟩ <;> simp [chars]

theorem length_lt_of_chars (blanks : List Blank) (s : Source) (rest : List Char) :
    rest.length < (blanks.map Blank.char ++ (s.chars ++ rest)).length := by
  have := List.length_pos_iff.2 s.chars_ne_nil
  simp only [List.length_append]
  omega

end Source

/-- After an element. The induction is on the length of the text, as each element is read of its rest. -/
theorem ReadsBelow.elements (h : ReadsBelow cs.length) (before : List Node) (outer : List Frame) :
    Fails (.arrayMore before outer) cs ∨ ∃ (blanks : List Blank) (es : List (Spaced Source))
      (rest : List Char), cs = blanks.map Blank.char ++ (Source.tailElements [] es ++ rest) := by
  induction hn : cs.length using Nat.strongRecOn generalizing cs before with
  | ind n ih =>
    subst hn
    obtain hfails | ⟨blanks, t, text, rest, ht, hcs, hrest, hfeed⟩ :=
      (Reader.strict_arrayMore before outer).next cs
    · exact .inl hfails
    · cases ht with
      | endArray => exact .inr ⟨blanks, [], rest, hcs⟩
      | comma =>
        cases h hrest (due_element true before outer) (Reader.strict_element true before outer) with
        | fails hfails => exact .inl (.of_feed_eq hfeed hfails)
        | endArray blanks' rest' hend =>
          have hclose : feed (.element true before outer) rest =
              feed (.endArray before .commaThenClose outer) rest' := by
            rw [hend, feed_blanks]
            rfl
          have hlost : (Reader.endArray before .commaThenClose outer).Lost :=
            Reader.lost_endArray before (by decide) outer
          exact .inl (.of_feed_eq hfeed (.of_lost hclose hlost))
        | value blanks' s rest' hvalue hread =>
          have hrest' : rest'.length < rest.length := hvalue ▸ s.length_lt_of_chars blanks' rest'
          have hlt : rest'.length < cs.length := Nat.lt_trans hrest' hrest
          obtain hfails | ⟨after, es, rest'', htail⟩ :=
            ih rest'.length hlt (h.mono (Nat.le_of_lt hlt)) (s.tree :: before) rfl
          · exact .inl (.of_feed_eq (hfeed.trans hread) hfails)
          · refine .inr ⟨blanks, ⟨blanks', s, after⟩ :: es, rest'', ?_⟩
            rw [hcs, hvalue, htail]
            simp [Source.tailElements, spacedChars]
      | _ => exact .inl (.of_lost hfeed (Reader.lost_endArray before (by decide) outer))

/-- What is read of a text where a name is due: a fault, the end of an object instead, or a written member. -/
inductive MemberRead (afterComma : Bool) (before : List (StringLiteral × Node)) (outer : List Frame)
    (cs : List Char) : Prop
  | fails (h : Fails (.key afterComma before outer) cs)
  | endObject (blanks : List Blank) (rest : List Char) (h : cs = blanks.map Blank.char ++ '\x7d' :: rest)
  | member (key : Spaced StringText) (blanks : List Blank) (s : Source) (rest : List Char)
    (h : cs = spacedChars key.before key.item.chars key.after ++
      ':' :: (blanks.map Blank.char ++ (s.chars ++ rest)))
    (hlt : rest.length < cs.length)
    (hfeed : feed (.key afterComma before outer) cs =
      feed (.objectMore ((key.item.literal, s.tree) :: before) outer) rest)

theorem ReadsBelow.member (h : ReadsBelow cs.length) (afterComma : Bool)
    (before : List (StringLiteral × Node)) (outer : List Frame) : MemberRead afterComma before outer cs := by
  obtain hfails | ⟨blanks, t, text, rest, ht, hcs, hkey, hfeed⟩ :=
    (Reader.strict_key afterComma before outer).next cs
  · exact .fails hfails
  have hlost : (Reader.endObject before (.noKey afterComma false) outer).Lost :=
    Reader.lost_endObject before (by simp [ObjectEnd.skipProblem?]) outer
  cases ht with
  | endObject => exact .endObject blanks rest hcs
  | string s =>
    have hname : feed (.key afterComma before outer) cs = feed (.colon s.literal before outer) rest := hfeed
    obtain hfails | ⟨blanks', t', text', rest', ht', hrest, hlt, hcolon⟩ :=
      (Reader.strict_colon s.literal before outer).next rest
    · exact .fails (.of_feed_eq hname hfails)
    cases ht' with
    | colon =>
      let inner : List Frame := .object before s.literal :: outer
      have hlt : rest'.length < cs.length := Nat.lt_trans hlt hkey
      have hvalue : feed (.key afterComma before outer) cs = feed (.value inner) rest' := hname.trans hcolon
      cases h hlt (due_value inner) (Reader.strict_value inner) with
      | fails hfails => exact .fails (.of_feed_eq hvalue hfails)
      | endArray blanks'' rest'' hend =>
        have hclose : feed (.value inner) rest' = feed (.abandon (.atom (.absent .noValue)) inner) rest'' := by
          rw [hend, feed_blanks]
          rfl
        exact .fails (.of_lost (hvalue.trans hclose) (Reader.lost_absent .noValue inner))
      | value blanks'' v rest'' hv hread =>
        have hlt' : rest''.length < rest'.length := hv ▸ v.length_lt_of_chars blanks'' rest''
        refine .member ⟨blanks, s, blanks'⟩ blanks'' v rest'' ?_ (Nat.lt_trans hlt' hlt) (hvalue.trans hread)
        rw [hcs, hrest, hv]
        simp [spacedChars]
    | _ => exact .fails (.of_lost (hname.trans hcolon) (Reader.lost_absent .noColon _))
  | _ => exact .fails (.of_lost hfeed hlost)

/-- After a member. -/
theorem ReadsBelow.members (h : ReadsBelow cs.length) (before : List (StringLiteral × Node))
    (outer : List Frame) : Fails (.objectMore before outer) cs ∨ ∃ (blanks : List Blank) (ms : Members)
      (rest : List Char), cs = blanks.map Blank.char ++ (Source.tailMembers [] ms ++ rest) := by
  induction hn : cs.length using Nat.strongRecOn generalizing cs before with
  | ind n ih =>
    subst hn
    obtain hfails | ⟨blanks, t, text, rest, ht, hcs, hrest, hfeed⟩ :=
      (Reader.strict_objectMore before outer).next cs
    · exact .inl hfails
    cases ht with
    | endObject => exact .inr ⟨blanks, [], rest, hcs⟩
    | comma =>
      cases (h.mono (Nat.le_of_lt hrest)).member true before outer with
      | fails hfails => exact .inl (.of_feed_eq hfeed hfails)
      | endObject blanks' rest' hend =>
        have hclose : feed (.key true before outer) rest =
            feed (.endObject before (.noKey true true) outer) rest' := by
          rw [hend, feed_blanks]
          rfl
        have hlost : (Reader.endObject before (.noKey true true) outer).Lost :=
          Reader.lost_endObject before (by decide) outer
        exact .inl (.of_feed_eq hfeed (.of_lost hclose hlost))
      | member key blanks' s rest' hmember hrest' hread =>
        have hlt : rest'.length < cs.length := Nat.lt_trans hrest' hrest
        obtain hfails | ⟨after, ms, rest'', htail⟩ :=
          ih rest'.length hlt (h.mono (Nat.le_of_lt hlt)) ((key.item.literal, s.tree) :: before) rfl
        · exact .inl (.of_feed_eq (hfeed.trans hread) hfails)
        · refine .inr ⟨blanks, (key, ⟨blanks', s, after⟩) :: ms, rest'', ?_⟩
          rw [hcs, hmember, htail]
          simp [Source.tailMembers, spacedChars]
    | _ => exact .inl (.of_lost hfeed (Reader.lost_endObject before (by decide) outer))

/-- At the beginning of an array. -/
theorem ReadsBelow.array {n : Nat} (h : ReadsBelow n) (outer : List Frame) (hrest : rest.length < n) :
    Fails (.element false [] outer) rest ∨ ∃ es close rest',
      '[' :: rest = (Source.array es close).chars ++ rest' ∧
      feed (.element false [] outer) rest = feed (.accept (Source.array es close).tree outer) rest' := by
  cases h hrest (due_element false [] outer) (Reader.strict_element false [] outer) with
  | fails hfails => exact .inl hfails
  | endArray close rest' hend =>
    refine .inr ⟨[], close, rest', ?_, ?_⟩
    · rw [hend]
      simp [Source.chars]
    · rw [hend, feed_blanks]
      rfl
  | value blanks s rest' hvalue hread =>
    have hmore : feed (.element false [] outer) rest = feed (.arrayMore [s.tree] outer) rest' := hread
    have hlt : rest'.length < rest.length := hvalue ▸ s.length_lt_of_chars blanks rest'
    obtain hfails | ⟨after, es, rest'', htail⟩ :=
      (h.mono (Nat.le_of_lt (Nat.lt_trans hlt hrest))).elements [s.tree] outer
    · exact .inl (.of_feed_eq hmore hfails)
    · refine .inr ⟨⟨blanks, s, after⟩ :: es, [], rest'', ?_, ?_⟩
      · rw [hvalue, htail]
        simp [Source.chars, spacedChars]
      · rw [hmore, htail, feed_blanks, Source.feed_tailElements fun e _ => e.item.legible]
        rfl

/-- At the beginning of an object. -/
theorem ReadsBelow.object {n : Nat} (h : ReadsBelow n) (outer : List Frame) (hrest : rest.length < n) :
    Fails (.key false [] outer) rest ∨ ∃ ms close rest',
      '\x7b' :: rest = (Source.object ms close).chars ++ rest' ∧
      feed (.key false [] outer) rest = feed (.accept (Source.object ms close).tree outer) rest' := by
  cases (h.mono (Nat.le_of_lt hrest)).member false [] outer with
  | fails hfails => exact .inl hfails
  | endObject close rest' hend =>
    refine .inr ⟨[], close, rest', ?_, ?_⟩
    · rw [hend]
      simp [Source.chars]
    · rw [hend, feed_blanks]
      rfl
  | member key blanks s rest' hmember hlt hmore =>
    obtain hfails | ⟨after, ms, rest'', htail⟩ :=
      (h.mono (Nat.le_of_lt (Nat.lt_trans hlt hrest))).members [(key.item.literal, s.tree)] outer
    · exact .inl (.of_feed_eq hmore hfails)
    · refine .inr ⟨(key, ⟨blanks, s, after⟩) :: ms, [], rest'', ?_, ?_⟩
      · rw [hmember, htail]
        simp [Source.chars, spacedChars]
      · rw [hmore, htail, feed_blanks, Source.feed_tailMembers fun m _ => m.2.item.legible]
        rfl

/-- Where a value is due. -/
theorem ReadsBelow.value (h : ReadsBelow cs.length) (hr : Due r outer) (hstrict : r.Strict) :
    ValueRead r outer cs := by
  obtain hfails | ⟨blanks, t, text, rest, ht, hcs, hrest, hfeed⟩ := hstrict.next cs
  · exact .fails hfails
  have hnoValue : (Reader.abandon (.atom (.absent .noValue)) outer).Lost := Reader.lost_absent .noValue outer
  have hstart (hne : t ≠ .endArray) : feed r cs = feed (.startValue outer t) rest := hr t hne ▸ hfeed
  cases ht with
  | endArray => exact .endArray blanks rest hcs
  | endObject => exact .fails (.of_lost (hstart (by simp)) hnoValue)
  | colon => exact .fails (.of_lost (hstart (by simp)) hnoValue)
  | comma => exact .fails (.of_lost (hstart (by simp)) hnoValue)
  | word w =>
    refine .value blanks (.word w) rest hcs ((hstart (by simp)).trans ?_)
    cases w <;> rfl
  | number n =>
    refine .value blanks (.number n) rest hcs ((hstart (by simp)).trans ?_)
    rw [startValue_number]
    rfl
  | string s => exact .value blanks (.string s) rest hcs (hstart (by simp))
  | beginArray =>
    have hbegin : feed r cs = feed (.element false [] outer) rest := hstart (by simp)
    obtain hfails | ⟨es, close, rest', harray, hread⟩ := h.array outer hrest
    · exact .fails (.of_feed_eq hbegin hfails)
    · exact .value blanks (.array es close) rest' (hcs.trans (congrArg _ harray)) (hbegin.trans hread)
  | beginObject =>
    have hbegin : feed r cs = feed (.key false [] outer) rest := hstart (by simp)
    obtain hfails | ⟨ms, close, rest', hobject, hread⟩ := h.object outer hrest
    · exact .fails (.of_feed_eq hbegin hfails)
    · exact .value blanks (.object ms close) rest' (hcs.trans (congrArg _ hobject)) (hbegin.trans hread)

theorem readsBelow (n : Nat) : ReadsBelow n := by
  induction n with
  | zero => exact fun cs _ _ hcs => absurd hcs (Nat.not_lt_zero _)
  | succ n ih => exact fun cs _ _ hcs hr hstrict => (ih.mono (Nat.le_of_lt_succ hcs)).value hr hstrict

/-! ## Texts -/

/-- After a complete value nothing but blanks may follow. -/
theorem blanks_of_trailing {root : Node} (h : (feed (.complete root) cs).finish.trailing = false) :
    ∃ blanks : List Blank, cs = blanks.map Blank.char := by
  have hended {t : Token} {ts : List Token} (hrun : Scan.run .ready cs = t :: ts) :
      feed (.complete root) cs = .ended root true := by
    rw [feed, hrun]
    exact Reader.foldl_ended root true ts
  cases Scan.next cs with
  | nothing blanks hcs => exact ⟨blanks, hcs⟩
  | token blanks ht hcs hrun =>
    rw [hended hrun] at h
    cases h
  | broken ht hrun =>
    rw [hended hrun] at h
    cases h

/-- A text is read without a fault of its form, and nothing follows its value, exactly if it is a written
value with blanks around it. -/
theorem exists_source_iff {text : String} : (∃ s : Spaced Source, s.text = text) ↔
    (Document.ofText text).root.skip = .ok () ∧ (Document.ofText text).trailing = false := by
  constructor
  · rintro ⟨s, rfl⟩
    rw [s.ofText_text]
    exact ⟨s.item.skip_tree, rfl⟩
  · rintro ⟨hskip, htrailing⟩
    have hdocument : Document.ofText text = (feed (.value []) text.toList).finish := rfl
    rw [hdocument] at hskip htrailing
    cases (readsBelow text.toList.length).value (due_value []) (Reader.strict_value []) with
    | fails h => exact absurd hskip h
    | endArray blanks rest h =>
      have hclose : feed (.value []) text.toList = feed (.abandon (.atom (.absent .noValue)) []) rest := by
        rw [h, feed_blanks]
        rfl
      exact absurd hskip (Fails.of_lost hclose (Reader.lost_absent .noValue []))
    | value blanks s rest h hfeed =>
      rw [hfeed] at htrailing
      obtain ⟨after, rfl⟩ := blanks_of_trailing htrailing
      exact ⟨⟨blanks, s, after⟩, String.toList_inj.1 ((String.toList_ofList).trans h.symm)⟩

end ThermalPrint.Json
