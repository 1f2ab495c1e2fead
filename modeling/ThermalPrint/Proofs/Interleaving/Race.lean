import ThermalPrint.Proofs.Interleaving.Racing

/-! Disconnecting while others send. However many calls disconnect from an identifier and send to it at
the same time, one of those that disconnect succeeds, every payload is written whole before the channel
is closed or not at all, and the identifier has no slot when all are through. -/

namespace ThermalPrint.Interleaving

open Transport

variable {id : Identifier} {cell channel : Nat}

/-! ## The end of a list of calls -/

theorem exists_of_countP_eq_one {α : Type} {p : α → Bool} {l : List α} (h : l.countP p = 1) :
    ∃ (i : Nat) (a : α), l[i]? = some a ∧ p a = true ∧
      ∀ (j : Nat) (b : α), l[j]? = some b → p b = true → j = i := by
  induction l with
  | nil => cases h
  | cons x l ih =>
    rw [List.countP_cons] at h
    cases hx : p x with
    | true =>
      have hnone : l.countP p = 0 := by simpa [hx] using h
      refine ⟨0, x, rfl, hx, fun j b hj hb => ?_⟩
      cases j with
      | zero => rfl
      | succ j => exact absurd hb (List.countP_eq_zero.1 hnone b (List.mem_of_getElem? hj))
    | false =>
      obtain ⟨i, a, hi, ha, huniq⟩ := ih (by simpa [hx] using h)
      refine ⟨i + 1, a, hi, ha, fun j b hj hb => ?_⟩
      cases j with
      | zero =>
        cases hj
        cases hx.symm.trans hb
      | succ j => exact congrArg (· + 1) (huniq j b hj hb)

theorem filter_call_eq {log : List Delivery} {d : Delivery} (h : (log.map (·.call)).Nodup)
    (hd : d ∈ log) : log.filter (·.call = d.call) = [d] := by
  induction log with
  | nil => cases hd
  | cons x log ih =>
    rw [List.map_cons, List.nodup_cons] at h
    rcases List.mem_cons.1 hd with rfl | hd
    · rw [List.filter_cons_of_pos (by simp), List.filter_eq_nil_iff.2 fun d' hd' => ?_]
      intro hcall
      exact h.1 (List.mem_map.2 ⟨d', hd', of_decide_eq_true hcall⟩)
    · have hne : x.call ≠ d.call := fun he => h.1 (List.mem_map.2 ⟨d, hd, he.symm⟩)
      rw [List.filter_cons_of_neg (by simpa using hne)]
      exact ih h.2 hd

namespace World

variable {w w' : World} {t : Turn} {i : Nat} {op : Operation}

/-- The reply of a call is settled at one of its turns. -/
theorem replied_in {st' : Stage} {reply : Reply} (schedule : List Turn)
    (hi : (w.run schedule).calls[i]? = some (op, st')) (hr : st'.reply? = some reply) :
    (∃ st, w.calls[i]? = some (op, st) ∧ st.reply? = some reply) ∨
      ∃ before openFailure after st st₁ s₁, schedule = before ++ .call i openFailure :: after ∧
        (w.run before).calls[i]? = some (op, st) ∧ st.reply? = none ∧
        advance op openFailure (w.run before).shared st = some (st₁, s₁) ∧
        st₁.reply? = some reply := by
  induction schedule generalizing w with
  | nil => exact .inl ⟨st', hi, hr⟩
  | cons t ts ih =>
    rcases ih hi with ⟨st₁, hst₁, hreply⟩ | ⟨before, f, after, st, st₁, s₁, rfl, h⟩
    · have htook := w.take_took t
      generalize w.take t = w' at htook hst₁
      cases htook with
      | idle => exact .inl ⟨st₁, hst₁, hreply⟩
      | switch => exact .inl ⟨st₁, hst₁, hreply⟩
      | @call j f op₂ st st₂ s₂ hj hstep =>
        rcases getElem?_of_set hst₁ with ⟨rfl, heq⟩ | ⟨-, hst₁⟩
        · cases heq
          cases hold : st.reply? with
          | none => exact .inr ⟨[], f, ts, st, st₁, s₂, rfl, hj, hold, hstep, hreply⟩
          | some r =>
            cases (reply?_advance hold hstep).symm.trans hreply
            exact .inl ⟨st, hj, hold⟩
        · exact .inl ⟨st₁, hst₁, hreply⟩
    · exact .inr ⟨t :: before, f, after, st, st₁, s₁, rfl, h⟩

namespace Racing

theorem isOpen_took (hr : Racing id cell channel w) (h : Took w t w')
    (hclosed : w.shared.isOpen channel = false) : w'.shared.isOpen channel = false := by
  cases h with
  | idle => exact hclosed
  | switch =>
    rw [Shared.isOpen_switch]
    exact hclosed
  | call hi hstep =>
    obtain ⟨m, hm, rfl, -⟩ := hr.consistent.steps hi hstep
    exact hm.isOpen hr.owner hclosed

/-- A call that writes does so on the channel, which is open. -/
theorem of_writing (hr : Racing id cell channel w) {c n : Nat} {rest : Bytes}
    (hi : w.calls[i]? = some (op, .writing c n rest)) :
    n = channel ∧ w.shared.isOpen channel = true := by
  obtain ⟨-, rfl⟩ := hr.plays _ (List.mem_of_getElem? hi)
  exact ⟨rfl, hr.consistent.balanced.isOpen_of_pen (getElem?_kits hi) rfl⟩

theorem channel_of_delivery? (hr : Racing id cell channel w) {d : Delivery}
    (h : w.delivery? t = some d) : d.channel = channel ∧ w.shared.isOpen channel = true := by
  obtain ⟨openFailure, op, c, -, hi, -⟩ := Filed.delivery?_eq_some_iff.1 h
  exact hr.of_writing hi

/-- Everything is delivered on the channel. -/
theorem channel_of_mem (hr : Racing id cell channel w) {schedule : List Turn} {d : Delivery}
    (hd : d ∈ w.deliveries schedule) : d.channel = channel := by
  induction schedule generalizing w with
  | nil => cases hd
  | cons t ts ih =>
    rcases List.mem_append.1 hd with hd | hd
    · exact (hr.channel_of_delivery? (Option.mem_toList.1 hd)).1
    · exact ih (hr.took (w.take_took t)) hd

/-- Nothing is delivered once the channel is closed. -/
theorem deliveries_of_closed (hr : Racing id cell channel w)
    (hclosed : w.shared.isOpen channel = false) (schedule : List Turn) :
    w.deliveries schedule = [] := by
  induction schedule generalizing w with
  | nil => rfl
  | cons t ts ih =>
    have hnone : w.delivery? t = none := by
      cases hd : w.delivery? t with
      | none => rfl
      | some d => cases hclosed.symm.trans (hr.channel_of_delivery? hd).2
    rw [deliveries, hnone, ih (hr.took (w.take_took t)) (hr.isOpen_took (w.take_took t) hclosed)]
    rfl

/-- No call writes on a channel that is closed. -/
theorem free_of_closed (hr : Racing id cell channel w)
    (hclosed : w.shared.isOpen channel = false) : Free w.kits channel := by
  rintro j k hj p hp rfl
  cases hclosed.symm.trans (hr.consistent.balanced.isOpen_of_pen hj hp)

/-- A call that a slot's channel refused to write for has the turn at which it was refused. -/
theorem refused_in (hr : Racing id cell channel w) {f : Option Failure} {bytes : Bytes}
    {st st' : Stage} {s' : Shared} {message : String}
    (hi : w.calls[i]? = some (.send id bytes, st)) (hr? : st.reply? = none)
    (h : advance (.send id bytes) f w.shared st = some (st', s'))
    (hr' : st'.reply? = some (.failure (.writeFailed message))) :
    w.shared.refuses channel = true := by
  have hmem := List.mem_of_getElem? hi
  cases course_of_advance (.inr ⟨bytes, rfl⟩) (hr.consistent.fits _ hmem) h with
  | refuse content refusal =>
    cases hr.plays _ hmem
    rcases hr.content with hc | hc
    · cases hc.symm.trans content
      exact (Shared.refuses_of_beginWrite (hr.consistent.balanced.isOpen_of_content hc).1 refusal).1
    · cases hc.symm.trans content
  | absent | hold | lock | empty | beginWrite | write | finish => cases hr'
  | unlock | letGo | prune => cases hr?

end Racing

/-- What calls that disconnect from an identifier and send to it at the same time have come to. -/
structure Raced (id : Identifier) (channel : Nat) (w : World) (schedule : List Turn) : Prop where
  /-- One that disconnects succeeds, and the others find no connection. -/
  one : ∃ i : Nat, (w.run schedule).calls[i]? = some (.disconnect id, .done .done) ∧
    ∀ (j : Nat) (st : Stage), (w.run schedule).calls[j]? = some (.disconnect id, st) → j ≠ i →
      st = .done (.failure .notConnected)
  /-- One that sends succeeds and has delivered, or has found no connection or been refused, and has
  not. -/
  sends : ∀ (i : Nat) (bytes : Bytes) (st : Stage), (w.run schedule).calls[i]? = some (.send id bytes, st) →
    (st = .done .done ∧
      (w.deliveries schedule).filter (·.call = i) = [⟨i, channel, bytes⟩]) ∨
    ((w.deliveries schedule).filter (·.call = i) = [] ∧
      (st = .done (.failure .notConnected) ∨
        st = .done (.failure (.writeFailed "broken pipe")) ∧ ∃ before openFailure after,
          schedule = before ++ .call i openFailure :: after ∧
            (w.run before).shared.refuses channel = true))
  /-- What is sent on the channel is what was delivered, one payload after another. -/
  sent : (w.run schedule).shared.sentOn channel =
    w.shared.sentOn channel ++ (w.deliveries schedule).flatMap (·.bytes)
  /-- All of it is sent before the channel is closed. -/
  before_close : ∀ before after, schedule = before ++ after →
    (w.run before).shared.isOpen channel = false →
      w.deliveries before = w.deliveries schedule ∧
        (w.run before).shared.sentOn channel = (w.run schedule).shared.sentOn channel
  closed : ∃ l, (w.run schedule).shared.channels[channel]? = some l ∧ l.isOpen = false ∧
    l.channel.log.closed = true
  dropped : (w.run schedule).shared.entry? id = none

theorem racing_launch {s : Shared} (hs : s.AtRest) (hentry : s.entry? id = some cell)
    (hc : s.content cell = some channel) {ops : List Operation} (hops : ∀ op ∈ ops, op.IsUse id) :
    Racing id cell channel (launch s ops) where
  consistent := consistent_launch hs ops
  uses x hx := hops x.1 (exists_of_launch hx).1
  slot c he := hs.cell_eq he (Shared.mem_entries_of_find hentry)
  owner := by
    obtain ⟨id', howner, he⟩ := hs.content_owner cell channel hc
    cases hs.key_eq he (Shared.mem_entries_of_find hentry)
    exact howner
  content := .inl hc
  plays x hx := by
    rw [(exists_of_launch hx).2]
    exact trivial
  once := by
    have hzero : (launch s ops).calls.countP hasTaken = 0 := by
      refine List.countP_eq_zero.2 fun x hx => ?_
      obtain ⟨op, st⟩ := x
      cases (exists_of_launch hx).2
      cases op <;> exact Bool.false_ne_true
    rw [hzero]
    simp only [launch, hc]
    rfl

namespace Racing

theorem one (hr : Racing id cell channel w) (hsettled : w.isSettled = true)
    (hempty : w.shared.content cell = none) :
    ∃ i : Nat, w.calls[i]? = some (.disconnect id, .done .done) ∧
      ∀ (j : Nat) (st : Stage), w.calls[j]? = some (.disconnect id, st) → j ≠ i →
        st = .done (.failure .notConnected) := by
  have honce := hr.once
  rw [hempty] at honce
  obtain ⟨i, ⟨op, st⟩, hi, htaken, huniq⟩ := exists_of_countP_eq_one honce
  obtain ⟨reply, hdone⟩ := exists_done hsettled (List.mem_of_getElem? hi)
  cases hdone
  have hop : op = .disconnect id ∧ reply = .done := by
    obtain hop | ⟨bytes, hop⟩ := hr.uses _ (List.mem_of_getElem? hi)
    · cases hop
      exact ⟨rfl, Option.some.inj (of_decide_eq_true htaken)⟩
    · cases hop
      cases htaken
  obtain ⟨rfl, rfl⟩ := hop
  refine ⟨i, hi, fun j st hj hne => ?_⟩
  obtain ⟨reply, hdone⟩ := exists_done hsettled (List.mem_of_getElem? hj)
  cases hdone
  obtain ⟨-, rfl | rfl⟩ := hr.plays _ (List.mem_of_getElem? hj)
  · exact absurd (huniq j _ hj rfl) hne
  · rfl

/-- The channel of an emptied slot is closed when all calls have their replies. -/
theorem closed (hr : Racing id cell channel w) (hsettled : w.isSettled = true)
    (hempty : w.shared.content cell = none) : w.shared.isOpen channel = false := by
  cases hopen : w.shared.isOpen channel with
  | false => rfl
  | true =>
    rcases hr.consistent.registered_or_owns hopen with hregistered | ⟨i, op, st, hi, hn⟩
    · obtain ⟨id', c, howner, hentry, hc⟩ := hregistered
      cases howner.symm.trans hr.owner
      cases hr.slot c (Shared.mem_entries_of_find hentry)
      cases hempty.symm.trans hc
    · obtain ⟨reply, hdone⟩ := exists_done hsettled (List.mem_of_getElem? hi)
      cases hdone
      cases hn

theorem not_abandons (hr : Racing id cell channel w) : ¬w.Abandons t cell := by
  rintro ⟨-, i, openFailure, op, reply, -, hi⟩
  obtain ⟨-, hprunes, -⟩ := hr.plays _ (List.mem_of_getElem? hi)
  cases hprunes

/-- An emptied slot is dropped. -/
theorem dropped (hr : Racing id cell channel w) (hfull : w.shared.content cell = some channel)
    {schedule : List Turn} (hsettled : (w.run schedule).isSettled = true)
    (hempty : (w.run schedule).shared.content cell = none) :
    (w.run schedule).shared.entry? id = none := by
  cases hentry : (w.run schedule).shared.entry? id with
  | none => rfl
  | some c =>
    have he := Shared.mem_entries_of_find hentry
    cases (hr.run schedule).slot c he
    have ht : w.Tended id cell := fun _ hc => nomatch hfull.symm.trans hc
    rcases ht.run hr.consistent schedule with htended | ⟨before, t, after, -, habandons⟩
    · exact absurd hempty (htended.content_ne_none hsettled he)
    · exact absurd habandons (hr.run before).not_abandons

/-- A call that sends has delivered if it succeeds, and only then. -/
theorem sends (hr : Racing id cell channel w) {schedule : List Turn}
    (hfiled : Filed (w.deliveries schedule) (w.run schedule))
    (hsettled : (w.run schedule).isSettled = true) (hstart : ∀ x ∈ w.calls, x.2 = .start)
    {bytes : Bytes} {st : Stage} (hi : (w.run schedule).calls[i]? = some (.send id bytes, st)) :
    (st = .done .done ∧ (w.deliveries schedule).filter (·.call = i) = [⟨i, channel, bytes⟩]) ∨
      ((w.deliveries schedule).filter (·.call = i) = [] ∧
        (st = .done (.failure .notConnected) ∨
          st = .done (.failure (.writeFailed "broken pipe")) ∧ ∃ before openFailure after,
            schedule = before ++ .call i openFailure :: after ∧
              (w.run before).shared.refuses channel = true)) := by
  obtain ⟨reply, hdone⟩ := exists_done hsettled (List.mem_of_getElem? hi)
  cases hdone
  have hnone (hne : reply ≠ .done) : (w.deliveries schedule).filter (·.call = i) = [] := by
    refine List.filter_eq_nil_iff.2 fun d hd hcall => ?_
    obtain ⟨id', st, hst, hreply, -⟩ := hfiled.delivered d hd
    rw [of_decide_eq_true hcall, hi] at hst
    cases hst
    exact hne (Option.some.inj hreply)
  rcases (hr.run schedule).plays _ (List.mem_of_getElem? hi) with rfl | rfl | rfl
  · obtain ⟨⟨i, n, bytes'⟩, hd, rfl⟩ := hfiled.all i id bytes _ hi rfl
    obtain ⟨id', st, hst, -, -⟩ := hfiled.delivered _ hd
    cases hi.symm.trans hst
    cases hr.channel_of_mem hd
    exact .inl ⟨rfl, filter_call_eq hfiled.once hd⟩
  · exact .inr ⟨hnone (by simp), .inl rfl⟩
  · refine .inr ⟨hnone (by simp), .inr ⟨rfl, ?_⟩⟩
    rcases replied_in schedule hi rfl with
      ⟨st, hst, hreply⟩ | ⟨before, f, after, st, st₁, s₁, hsplit, hst, hold, hstep, hreply⟩
    · cases hstart _ (List.mem_of_getElem? hst)
      cases hreply
    · exact ⟨before, f, after, hsplit, (hr.run before).refused_in hst hold hstep hreply⟩

end Racing

/-- Calls that disconnect from an identifier and send to it, whatever the schedule. -/
theorem raced_after {s : Shared} (hs : s.AtRest) (hentry : s.entry? id = some cell)
    (hc : s.content cell = some channel) {ops : List Operation}
    (hops : ∀ op ∈ ops, op = .disconnect id ∨ ∃ bytes, op = .send id bytes)
    (hdisconnect : .disconnect id ∈ ops) {schedule : List Turn}
    (hsettled : ((launch s ops).run schedule).isSettled = true) :
    Raced id channel (launch s ops) schedule := by
  have hr₀ := racing_launch hs hentry hc hops
  have hr := hr₀.run schedule
  have hfiled := (filed_launch s ops).run hr₀.consistent schedule
  have hwritten {before : List Turn} := written_run hr₀.consistent (written_launch s ops) before
  rw [List.nil_append] at hfiled
  simp only [List.nil_append] at hwritten
  have hempty : ((launch s ops).run schedule).shared.content cell = none := by
    have hmem : .disconnect id ∈ ((launch s ops).run schedule).calls.map (·.1) := by
      rw [map_fst_run, launch, List.map_map]
      exact List.mem_map.2 ⟨_, hdisconnect, rfl⟩
    obtain ⟨⟨op, st⟩, hx, rfl⟩ := List.mem_map.1 hmem
    obtain ⟨reply, hdone⟩ := exists_done hsettled hx
    cases hdone
    exact (hr.plays _ hx).1
  have hclosed := hr.closed hsettled hempty
  have hbytes : bytesOn ((launch s ops).deliveries schedule) channel =
      ((launch s ops).deliveries schedule).flatMap (·.bytes) := by
    rw [bytesOn, List.filter_eq_self.2 fun d hd => decide_eq_true (hr₀.channel_of_mem hd)]
  constructor
  case one => exact hr.one hsettled hempty
  case sends =>
    exact fun i bytes st hi => hr₀.sends hfiled hsettled (fun x hx => (exists_of_launch hx).2) hi
  case sent =>
    rw [hwritten.between channel (hr.free_of_closed hclosed), hbytes]
    rfl
  case before_close =>
    intro before after hsplit hbefore
    have hrb := hr₀.run before
    have hlog : (launch s ops).deliveries before = (launch s ops).deliveries schedule := by
      rw [hsplit, deliveries_append, hrb.deliveries_of_closed hbefore, List.append_nil]
    refine ⟨hlog, ?_⟩
    rw [hwritten.between channel (hrb.free_of_closed hbefore),
      hwritten.between channel (hr.free_of_closed hclosed), hlog]
  case closed =>
    obtain ⟨l, hl, -⟩ := Option.map_eq_some_iff.1 hr.owner
    have hsound := hr.consistent.balanced.sound l (List.mem_of_getElem? hl)
    have hl' : l.isOpen = false := by
      rw [Shared.isOpen, hl] at hclosed
      exact hclosed
    exact ⟨l, hl, hl', hsound.trans (by rw [hl']; rfl)⟩
  case dropped => exact hr₀.dropped hc hsettled hempty

/-- Two calls that send and two that disconnect, which take turns; the second one that sends comes too
late. -/
theorem raced_after_connecting :
    let p : Identifier := ⟨"p", rfl⟩
    let s := ((start [.connect p]).run (List.replicate 7 (.call 0))).shared
    let ops : List Operation := [.send p [1, 2], .disconnect p, .send p [3], .disconnect p]
    let schedule := (List.replicate 20 [Turn.call 0, .call 1, .call 2, .call 3]).flatten
    let w := (launch s ops).run schedule
    s.AtRest ∧ s.entry? p = some 0 ∧ s.content 0 = some 0 ∧ w.isSettled = true ∧
      Raced p 0 (launch s ops) schedule ∧ w.shared.sentOn 0 = [1, 2] ∧
      w.calls.map (·.2) = [.done .done, .done .done, .done (.failure .notConnected),
        .done (.failure .notConnected)] := by
  intro p s ops schedule w
  have hconnected : ((start [.connect p]).run (List.replicate 7 (.call 0))).isSettled = true := by
    decide +kernel
  have hs : s.AtRest := ((consistent_start _).run _).atRest hconnected
  have hentry : s.entry? p = some 0 := by decide +kernel
  have hc : s.content 0 = some 0 := by decide +kernel
  have hsettled : w.isSettled = true := by decide +kernel
  refine ⟨hs, hentry, hc, hsettled, raced_after hs hentry hc ?_ (by decide) hsettled, ?_, ?_⟩
  · intro op hop
    simp only [ops, List.mem_cons, List.not_mem_nil, or_false] at hop
    rcases hop with rfl | rfl | rfl | rfl
    · exact .inr ⟨_, rfl⟩
    · exact .inl rfl
    · exact .inr ⟨_, rfl⟩
    · exact .inl rfl
  · decide +kernel
  · decide +kernel

end World

end ThermalPrint.Interleaving
