import ThermalPrint.Proofs.Interleaving.Consistent
import ThermalPrint.Proofs.Interleaving.Course

/-! What is written on channels while calls are under way: one payload after another, each of them
whole, and the beginning of the payload that is being written. -/

namespace ThermalPrint.Interleaving

open Transport

/-- A payload that a call has written to its end. -/
structure Delivery where
  call : Nat
  channel : Nat
  bytes : Bytes
deriving DecidableEq

/-- The bytes that deliveries brought to a channel. -/
def bytesOn (log : List Delivery) (channel : Nat) : Bytes :=
  (log.filter (·.channel = channel)).flatMap (·.bytes)

namespace World

/-- The delivery that a turn completes. -/
def delivery? (w : World) : Turn → Option Delivery
  | .call i _ =>
    match w.calls[i]? with
    | some (op, .writing _ channel []) => some ⟨i, channel, op.payload⟩
    | _ => none
  | .switch _ _ _ => none

/-- The deliveries that a schedule completes, in their order. -/
def deliveries (w : World) : List Turn → List Delivery
  | [] => []
  | t :: ts => (w.delivery? t).toList ++ (w.take t).deliveries ts

end World

variable {log : List Delivery} {d : Delivery} {n : Nat}

theorem bytesOn_concat_self : bytesOn (log ++ [d]) d.channel = bytesOn log d.channel ++ d.bytes := by
  simp [bytesOn]

theorem bytesOn_concat_of_ne (h : d.channel ≠ n) : bytesOn (log ++ [d]) n = bytesOn log n := by
  simp [bytesOn, h]

/-! ## One step -/

/-- A call that stops writing has delivered. -/
def Kit.delivery? (i : Nat) (k k' : Kit) : Option Delivery :=
  match k'.pen with
  | none => k.pen.map fun p => ⟨i, p.channel, p.payload⟩
  | some _ => none

section
variable {s : Shared} {k k' : Kit} {m : Move} {op : Operation} {st st' : Stage} {s' : Shared}

/-- What a step does to a write. -/
theorem Move.Changes.writes (h : m.Changes s k k') :
    (k'.pen = k.pen ∧ ∀ n, (m.apply s).sentOn n = s.sentOn n) ∨
    (∃ cell channel payload, k.pen = none ∧ k'.pen = some ⟨channel, payload, payload⟩ ∧
      k.lock = some cell ∧ s.content cell = some channel ∧
      ∀ n, (m.apply s).sentOn n = s.sentOn n) ∨
    (∃ channel payload byte rest, k.pen = some ⟨channel, payload, byte :: rest⟩ ∧
      k'.pen = some ⟨channel, payload, rest⟩ ∧ m.apply s = s.writeByte channel byte) ∨
    ∃ channel payload, k.pen = some ⟨channel, payload, []⟩ ∧ k'.pen = none ∧ m.apply s = s := by
  cases h with
  | beginWrite content =>
    exact .inr (.inl ⟨_, _, _, rfl, rfl, rfl, content, fun _ => Shared.sentOn_beginWrite⟩)
  | write => exact .inr (.inr (.inl ⟨_, _, _, _, rfl, rfl, rfl⟩))
  | finish => exact .inr (.inr (.inr ⟨_, _, rfl, rfl, rfl⟩))
  | refuse => exact .inl ⟨rfl, fun _ => Shared.sentOn_beginWrite⟩
  | openChannel => exact .inl ⟨rfl, fun _ => Shared.sentOn_openChannel _⟩
  | close => exact .inl ⟨rfl, fun _ => Shared.sentOn_closeChannel⟩
  | holdAll =>
    refine .inl ⟨rfl, fun n => ?_⟩
    rw [Move.apply, Shared.holdAll_eq, Shared.sentOn, (Shared.holdEach_frame s.entries).2.1]
    rfl
  | stay | hold | create | letGo | lock | unlock | take | store | prune | pruneAll =>
    exact .inl ⟨rfl, fun _ => rfl⟩

end

/-- No call writes on a channel. -/
def Free (kits : List Kit) (n : Nat) : Prop :=
  ∀ (j : Nat) (k : Kit), kits[j]? = some k → ∀ p, k.pen = some p → p.channel ≠ n

section
variable {s : Shared} {kits : List Kit} {i j : Nat} {k k' k₂ : Kit} {p : Pen}

theorem Free.of_set (h : Free (kits.set i k') n) (hi : kits[i]? = some k)
    (hk : ∀ p, k.pen = some p → p.channel ≠ n) : Free kits n := by
  intro j k₂ hj p hp
  by_cases hij : i = j
  · subst hij
    cases hi.symm.trans hj
    exact hk p hp
  · exact h j k₂ (by rw [List.getElem?_set_ne hij, hj]) p hp

/-- Whoever wrote on the channel that a slot holds would have the lock of the slot. -/
theorem Balanced.free (hb : Balanced s kits) (hi : kits[i]? = some k) (hpen : k.pen = none) {c : Nat}
    (hlock : k.lock = some c) (hc : s.content c = some n) : Free kits n := by
  rintro j k₂ hj p hp rfl
  obtain ⟨c', hlock', hc'⟩ := hb.pen k₂ (List.mem_of_getElem? hj) p hp
  cases hb.content_inj hc hc'
  cases hb.lock_inj hi hj hlock hlock'
  cases hi.symm.trans hj
  cases hpen.symm.trans hp

theorem Balanced.isOpen_of_pen (hb : Balanced s kits) (hi : kits[i]? = some k)
    (hp : k.pen = some p) : s.isOpen p.channel = true := by
  obtain ⟨c, -, hc⟩ := hb.pen k (List.mem_of_getElem? hi) p hp
  exact (hb.isOpen_of_content hc).1

end

/-- A channel has had what was sent on it before, the deliveries since then, and what the call that is
writing on it has written. -/
structure Written (before : Nat → Bytes) (log : List Delivery) (s : Shared) (kits : List Kit) :
    Prop where
  during : ∀ (j : Nat) (k : Kit), kits[j]? = some k → ∀ p, k.pen = some p →
    ∃ written, p.payload = written ++ p.rest ∧
      s.sentOn p.channel = before p.channel ++ bytesOn log p.channel ++ written
  between : ∀ n, Free kits n → s.sentOn n = before n ++ bytesOn log n

namespace Written

variable {before : Nat → Bytes} {s s' : Shared} {kits : List Kit} {i : Nat} {k k' : Kit} {m : Move}
  {payload rest : Bytes} {byte : UInt8}

theorem frame (hw : Written before log s kits) (hi : kits[i]? = some k) (hpen : k'.pen = k.pen)
    (hsent : ∀ n, s'.sentOn n = s.sentOn n) : Written before log s' (kits.set i k') := by
  constructor
  · intro j k₂ hj p hp
    rw [hsent]
    rcases getElem?_of_set hj with ⟨rfl, rfl⟩ | ⟨-, hj⟩
    · exact hw.during i k hi p (hpen ▸ hp)
    · exact hw.during j k₂ hj p hp
  · intro n hn
    rw [hsent]
    exact hw.between n (hn.of_set hi fun p hp => hn i k' (getElem?_set_of_some hi k') p (hpen ▸ hp))

theorem begun (hw : Written before log s kits) (hi : kits[i]? = some k) (hpen : k.pen = none)
    (hpen' : k'.pen = some ⟨n, payload, payload⟩) (hfree : Free kits n)
    (hsent : ∀ n, s'.sentOn n = s.sentOn n) : Written before log s' (kits.set i k') := by
  constructor
  · intro j k₂ hj p hp
    rw [hsent]
    rcases getElem?_of_set hj with ⟨rfl, rfl⟩ | ⟨-, hj⟩
    · cases hpen'.symm.trans hp
      exact ⟨[], rfl, by rw [hw.between n hfree, List.append_nil]⟩
    · exact hw.during j k₂ hj p hp
  · intro n' hn'
    rw [hsent]
    exact hw.between n' (hn'.of_set hi fun p hp => nomatch hpen.symm.trans hp)

theorem wrote (hw : Written before log s kits) (hb : Balanced s kits) (hi : kits[i]? = some k)
    (hpen : k.pen = some ⟨n, payload, byte :: rest⟩) (hpen' : k'.pen = some ⟨n, payload, rest⟩) :
    Written before log (s.writeByte n byte) (kits.set i k') := by
  have hsent := Shared.sentOn_writeByte (hb.isOpen_of_pen hi hpen) byte
  constructor
  · intro j k₂ hj p hp
    rcases getElem?_of_set hj with ⟨rfl, rfl⟩ | ⟨hij, hj⟩
    · cases hpen'.symm.trans hp
      obtain ⟨written, hpayload, hs⟩ := hw.during i k hi _ hpen
      refine ⟨written ++ [byte], by rw [hpayload, List.append_assoc]; rfl, ?_⟩
      rw [hsent, if_pos rfl, hs, List.append_assoc]
    · rw [hsent, if_neg fun hch => hij (hb.pen_inj hi hj hpen hp hch.symm)]
      exact hw.during j k₂ hj p hp
  · intro n' hn'
    have hne : n ≠ n' := hn' i k' (getElem?_set_of_some hi k') _ hpen'
    rw [hsent, if_neg hne.symm]
    refine hw.between n' (hn'.of_set hi fun p hp => ?_)
    cases hpen.symm.trans hp
    exact hne

theorem finished (hw : Written before log s kits) (hb : Balanced s kits) (hi : kits[i]? = some k)
    (hpen : k.pen = some ⟨n, payload, []⟩) (hpen' : k'.pen = none) :
    Written before (log ++ [⟨i, n, payload⟩]) s (kits.set i k') := by
  constructor
  · intro j k₂ hj p hp
    rcases getElem?_of_set hj with ⟨rfl, rfl⟩ | ⟨hij, hj⟩
    · cases hpen'.symm.trans hp
    · rw [bytesOn_concat_of_ne fun hch => hij (hb.pen_inj hi hj hpen hp hch)]
      exact hw.during j k₂ hj p hp
  · intro n' hn'
    by_cases hch : n = n'
    · subst hch
      obtain ⟨written, hpayload, hs⟩ := hw.during i k hi _ hpen
      rw [List.append_nil] at hpayload
      rw [bytesOn_concat_self (d := ⟨i, n, payload⟩), hs, List.append_assoc]
      exact congrArg (fun bytes => before n ++ (bytesOn log n ++ bytes)) hpayload.symm
    · rw [bytesOn_concat_of_ne hch]
      refine hw.between n' (hn'.of_set hi fun p hp => ?_)
      cases hpen.symm.trans hp
      exact hch

/-- A step keeps to that. -/
theorem step (hw : Written before log s kits) (hb : Balanced s kits) (hi : kits[i]? = some k)
    (h : m.Changes s k k') :
    Written before (log ++ (Kit.delivery? i k k').toList) (m.apply s) (kits.set i k') := by
  rcases h.writes with ⟨hpen, hsent⟩ | ⟨c, n, payload, hpen, hpen', hlock, hc, hsent⟩ |
    ⟨n, payload, byte, rest, hpen, hpen', hs⟩ | ⟨n, payload, hpen, hpen', hs⟩
  · have hd : Kit.delivery? i k k' = none := by
      unfold Kit.delivery?
      rw [hpen]
      cases k.pen <;> rfl
    rw [hd, Option.toList_none, List.append_nil]
    exact hw.frame hi hpen hsent
  · have hd : Kit.delivery? i k k' = none := by rw [Kit.delivery?, hpen']
    rw [hd, Option.toList_none, List.append_nil]
    exact hw.begun hi hpen hpen' (hb.free hi hpen hlock hc) hsent
  · have hd : Kit.delivery? i k k' = none := by rw [Kit.delivery?, hpen']
    rw [hd, Option.toList_none, List.append_nil, hs]
    exact hw.wrote hb hi hpen hpen'
  · have hd : Kit.delivery? i k k' = some ⟨i, n, payload⟩ := by
      rw [Kit.delivery?, hpen']
      simp only [hpen, Option.map_some]
    rw [hd, Option.toList_some, hs]
    exact hw.finished hb hi hpen hpen'

end Written

theorem Kit.delivery?_of_pen {i : Nat} {k : Kit} (h : k.pen = none) (k' : Kit) :
    Kit.delivery? i k k' = none := by
  unfold Kit.delivery?
  rw [h]
  cases k'.pen <;> rfl

/-! ## Any schedule -/

namespace World

variable {w w' : World} {i : Nat} {op : Operation} {st st' : Stage} {s' : Shared} {t : Turn}
  {openFailure : Option Failure} {before : Nat → Bytes}

theorem delivery?_eq (hi : w.calls[i]? = some (op, st))
    (h : advance op openFailure w.shared st = some (st', s')) :
    w.delivery? (.call i openFailure) = Kit.delivery? i (st.kit op) (st'.kit op) := by
  simp only [delivery?, hi]
  cases st with
  | writing cell channel rest =>
    cases rest with
    | nil =>
      cases h
      rfl
    | cons byte rest =>
      cases h
      rfl
  | start | waiting | working | opened | closing | storing | unlocking | lettingGo | pruning | visiting
  | inspecting | releasing | closingTaken | leaving | sweeping | done =>
    exact (Kit.delivery?_of_pen rfl _).symm

theorem delivery?_of_stuck (stuck : ∀ i openFailure op st, t = .call i openFailure →
    w.calls[i]? = some (op, st) → advance op openFailure w.shared st = none) :
    w.delivery? t = none := by
  cases t with
  | switch => rfl
  | call i openFailure =>
    unfold delivery?
    split
    · next heq =>
      cases heq
      split
      · next hi =>
        cases stuck _ _ _ _ rfl hi
      · rfl
    · next heq => cases heq

theorem written_took (hw : w.Consistent) (hwritten : Written before log w.shared w.kits)
    (h : Took w t w') :
    Written before (log ++ (w.delivery? t).toList) w'.shared w'.kits := by
  cases h with
  | idle stuck =>
    rw [delivery?_of_stuck stuck, Option.toList_none, List.append_nil]
    exact hwritten
  | switch =>
    refine ⟨fun j k hj p hp => ?_, fun n hn => ?_⟩
    · rw [Shared.sentOn_switch, delivery?, Option.toList_none, List.append_nil]
      exact hwritten.during j k hj p hp
    · rw [Shared.sentOn_switch, delivery?, Option.toList_none, List.append_nil]
      exact hwritten.between n hn
  | call hi hstep =>
    obtain ⟨m, hm, rfl, -⟩ := hw.steps hi hstep
    rw [delivery?_eq hi hstep, Consistent.kits_set]
    exact hwritten.step hw.balanced (getElem?_kits hi) hm

theorem deliveries_append (w : World) (before after : List Turn) :
    w.deliveries (before ++ after) = w.deliveries before ++ (w.run before).deliveries after := by
  induction before generalizing w with
  | nil => rfl
  | cons t ts ih =>
    simp only [List.cons_append, deliveries, ih, List.append_assoc]
    rfl

theorem written_launch (s : Shared) (ops : List Operation) :
    Written s.sentOn [] s (launch s ops).kits := by
  refine ⟨fun j k hj p hp => ?_, fun n _ => (List.append_nil _).symm⟩
  cases kits_launch (List.mem_of_getElem? hj)
  cases hp

theorem written_run (hw : w.Consistent) (hwritten : Written before log w.shared w.kits)
    (schedule : List Turn) : Written before (log ++ w.deliveries schedule) (w.run schedule).shared
      (w.run schedule).kits := by
  induction schedule generalizing w log with
  | nil => exact (List.append_nil log).symm ▸ hwritten
  | cons t ts ih =>
    have := ih (hw.take t) (written_took hw hwritten (w.take_took t))
    rwa [List.append_assoc] at this

end World

/-! ## What is delivered, and for whom -/

/-- The reply of a call, from when it is settled. -/
def Stage.reply? : Stage → Option Reply
  | .unlocking _ reply _ | .lettingGo _ reply _ | .pruning reply | .done reply => some reply
  | _ => none

section
variable {op : Operation} {s s' : Shared} {st st' : Stage} {openFailure : Option Failure}

theorem reply?_advance {reply : Reply} (hr : st.reply? = some reply)
    (h : advance op openFailure s st = some (st', s')) : st'.reply? = some reply := by
  cases st with
  | unlocking cell r prunes =>
    cases h
    exact hr
  | lettingGo cell r prunes =>
    cases prunes with
    | true =>
      cases h
      exact hr
    | false =>
      cases h
      exact hr
  | pruning r =>
    cases h
    exact hr
  | start | waiting | working | opened | closing | storing | writing | visiting | inspecting | releasing
  | closingTaken | leaving | sweeping | done => cases hr <;> cases h

/-- A sending succeeds by writing to the end. -/
theorem writes_of_reply? {id : Identifier} {bytes : Bytes} (hfits : st.Fits (.send id bytes) s)
    (h : advance (.send id bytes) openFailure s st = some (st', s')) (hr : st'.reply? = some .done) :
    st.reply? = some .done ∨ ∃ cell channel, st = .writing cell channel [] := by
  cases course_of_advance (.inr ⟨bytes, rfl⟩) hfits h with
  | absent | hold | lock | empty | refuse | beginWrite | write => cases hr
  | finish => exact .inr ⟨_, _, rfl⟩
  | unlock | prune => exact .inl hr
  | @letGo _ cell reply prunes => cases prunes <;> exact .inl hr

end

/-- The deliveries are those of the sendings that succeed, one of each, on channels of the identifiers
that they are for. -/
structure Filed (log : List Delivery) (w : World) : Prop where
  delivered : ∀ d ∈ log, ∃ id st, w.calls[d.call]? = some (.send id d.bytes, st) ∧
    st.reply? = some .done ∧ w.shared.owner? d.channel = some id
  once : (log.map (·.call)).Nodup
  all : ∀ i id bytes st, w.calls[i]? = some (.send id bytes, st) → st.reply? = some .done →
    ∃ d ∈ log, d.call = i

namespace Filed

variable {w w' : World} {t : Turn} {i : Nat} {op : Operation} {st st' : Stage}

theorem delivery?_eq_some_iff : w.delivery? t = some d ↔ ∃ openFailure op cell,
    t = .call d.call openFailure ∧ w.calls[d.call]? = some (op, .writing cell d.channel []) ∧
      d.bytes = op.payload := by
  constructor
  · intro h
    unfold World.delivery? at h
    split at h
    · split at h
      · next hi =>
        cases h
        exact ⟨_, _, _, rfl, hi, rfl⟩
      · cases h
    · cases h
  · rintro ⟨openFailure, op, cell, rfl, hi, hbytes⟩
    simp only [World.delivery?, hi, ← hbytes]

/-- The channel that a call writes on was opened for the identifier that the call names. -/
theorem owner?_of_writing (hw : w.Consistent) {cell channel : Nat} {rest : Bytes}
    (hi : w.calls[i]? = some (op, .writing cell channel rest)) :
    ∃ id bytes, op = .send id bytes ∧ w.shared.owner? channel = some id := by
  obtain ⟨id, bytes, rfl⟩ := hw.fits _ (List.mem_of_getElem? hi)
  have hk := List.mem_of_getElem? (World.getElem?_kits hi)
  obtain ⟨c, hlock, hc⟩ := hw.balanced.pen _ hk _ rfl
  cases hlock
  obtain ⟨id', howner, he⟩ := hw.balanced.content_owner _ _ hc
  have hgrip : (id, cell) ∈ w.shared.entries :=
    hw.balanced.grips _ hk (id, cell) (List.mem_singleton.2 rfl)
  cases hw.balanced.key_eq he hgrip
  exact ⟨id, bytes, rfl, howner⟩

section
variable {openFailure : Option Failure} {s' : Shared} (hi : w.calls[i]? = some (op, st))
  (h : advance op openFailure w.shared st = some (st', s'))
include hi h

/-- What is delivered stays so. -/
theorem delivered_call (hf : Filed log w) (hw : w.Consistent) (hd : d ∈ log) :
    ∃ id st₂, (w.calls.set i (op, st'))[d.call]? = some (.send id d.bytes, st₂) ∧
      st₂.reply? = some .done ∧ s'.owner? d.channel = some id := by
  obtain ⟨m, hm, rfl, -⟩ := hw.steps hi h
  obtain ⟨id, st₁, hcall, hr, howner⟩ := hf.delivered d hd
  by_cases hij : i = d.call
  · subst hij
    cases hi.symm.trans hcall
    exact ⟨id, st', getElem?_set_of_some hi _, reply?_advance hr h, hm.owner? howner⟩
  · exact ⟨id, st₁, by rw [List.getElem?_set_ne hij, hcall], hr, hm.owner? howner⟩

/-- A sending that has succeeded is delivered, or is so with this step. -/
theorem all_call (hf : Filed log w) (hw : w.Consistent) {j : Nat} {id : Identifier} {bytes : Bytes}
    {st₂ : Stage} (hj : (w.calls.set i (op, st'))[j]? = some (.send id bytes, st₂))
    (hr : st₂.reply? = some .done) :
    (∃ d ∈ log, d.call = j) ∨ i = j ∧ ∃ cell channel, st = .writing cell channel [] := by
  rcases getElem?_of_set hj with ⟨rfl, heq⟩ | ⟨-, hj⟩
  · cases heq
    rcases writes_of_reply? (hw.fits _ (List.mem_of_getElem? hi)) h hr with hr | hwriting
    · exact .inl (hf.all i id bytes st hi hr)
    · exact .inr ⟨rfl, hwriting⟩
  · exact .inl (hf.all j id bytes st₂ hj hr)

theorem call (hf : Filed log w) (hw : w.Consistent) :
    Filed (log ++ (w.delivery? (.call i openFailure)).toList)
      { shared := s', calls := w.calls.set i (op, st') } := by
  cases hd : w.delivery? (.call i openFailure) with
  | none =>
    rw [Option.toList_none, List.append_nil]
    refine ⟨fun d hd => delivered_call hi h hf hw hd, hf.once, fun j id bytes st₂ hj hr => ?_⟩
    rcases all_call hi h hf hw hj hr with hold | ⟨rfl, cell, channel, rfl⟩
    · exact hold
    · have := (delivery?_eq_some_iff (d := ⟨i, channel, op.payload⟩)).2
        ⟨openFailure, op, cell, rfl, hi, rfl⟩
      cases hd.symm.trans this
  | some d =>
    obtain ⟨f, op', cell, hturn, hcall, hbytes⟩ := delivery?_eq_some_iff.1 hd
    cases hturn
    cases hi.symm.trans hcall
    obtain ⟨id, bytes, rfl, howner⟩ := owner?_of_writing hw hi
    have hself := getElem?_set_of_some hi (Operation.send id bytes, st')
    refine ⟨fun d' hd' => ?_, ?_, fun j id' bytes' st₂ hj hr => ?_⟩
    · rcases List.mem_append.1 hd' with hd' | hd'
      · exact delivered_call hi h hf hw hd'
      · cases List.mem_singleton.1 hd'
        cases h
        refine ⟨id, .unlocking cell .done true, ?_, rfl, howner⟩
        rw [hself, hbytes]
        rfl
    · -- a call that still writes has delivered nothing before
      rw [List.map_append, Option.toList_some, List.map_singleton, ← List.concat_eq_append]
      refine hf.once.concat fun hmem => ?_
      obtain ⟨d', hd', hsame⟩ := List.mem_map.1 hmem
      obtain ⟨_, st₁, hcall', hr, -⟩ := hf.delivered d' hd'
      rw [hsame, hi] at hcall'
      cases hcall'
      cases hr
    · rcases all_call hi h hf hw hj hr with ⟨d', hd', hsame⟩ | ⟨rfl, -⟩
      · exact ⟨d', List.mem_append_left _ hd', hsame⟩
      · exact ⟨d, List.mem_append_right _ (List.mem_singleton.2 rfl), rfl⟩

end

theorem took (hf : Filed log w) (hw : w.Consistent) (h : World.Took w t w') :
    Filed (log ++ (w.delivery? t).toList) w' := by
  cases h with
  | idle stuck =>
    rw [World.delivery?_of_stuck stuck, Option.toList_none, List.append_nil]
    exact hf
  | switch =>
    rw [World.delivery?, Option.toList_none, List.append_nil]
    refine ⟨fun d hd => ?_, hf.once, hf.all⟩
    obtain ⟨id, st, hcall, hr, howner⟩ := hf.delivered d hd
    exact ⟨id, st, hcall, hr, (Shared.owner?_updateChannel _ _).trans howner⟩
  | call hi hstep => exact call hi hstep hf hw

theorem run (hf : Filed log w) (hw : w.Consistent) (schedule : List Turn) :
    Filed (log ++ w.deliveries schedule) (w.run schedule) := by
  induction schedule generalizing w log with
  | nil => exact (List.append_nil log).symm ▸ hf
  | cons t ts ih =>
    have := ih (hf.took hw (w.take_took t)) (hw.take t)
    rwa [List.append_assoc] at this

end Filed

theorem World.filed_launch (s : Shared) (ops : List Operation) : Filed [] (launch s ops) := by
  refine ⟨fun d hd => absurd hd List.not_mem_nil, List.nodup_nil, fun i id bytes st hi hr => ?_⟩
  cases (exists_of_launch (List.mem_of_getElem? hi)).2
  cases hr

end ThermalPrint.Interleaving
