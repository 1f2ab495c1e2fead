import ThermalPrint.Transport.Channel

/-! The life of a channel. A channel is open until it is closed, whatever else is done with it, and it has
sent what the writes that went well were given. -/

namespace ThermalPrint.Transport.Channel

/-- Steps that were taken, each with its result. -/
abbrev Events := List (Step × Except Failure Unit)

/-- Steps with the results that they have one after another. -/
def events (ch : Channel) (ss : List Step) : Events := ss.zip ((ch.run ss).map Prod.fst)

/-- The channel after steps. -/
def after (ch : Channel) : List Step → Channel
  | [] => ch
  | s :: ss => after (ch.step s).2 ss

namespace Step

def isWrite : Step → Bool
  | .write _ => true
  | _ => false

/-- How a step sets the switch that makes writes fail. -/
def setsFailWrites? : Step → Option Bool
  | .failWrites on => some on
  | _ => none

/-- How a step sets the switch that makes closing fail. -/
def setsFailClose? : Step → Option Bool
  | .failClose on => some on
  | _ => none

/-- The bytes that a step sent: none, unless it is a write that went well. -/
def sent : Step × Except Failure Unit → Bytes
  | (.write bytes, .ok ()) => bytes
  | _ => []

end Step

/-- How a switch stands after events: as it was set last, and off at first. -/
def switch (sets? : Step → Option Bool) (events : Events) : Bool :=
  ((events.filterMap (sets? ·.1)).getLast?).getD false

/-- The channel as it can be told from the steps that were taken since it was opened. -/
structure ToldBy (kind : Kind) (events : Events) (ch : Channel) : Prop where
  kind : ch.kind = kind
  isOpen : ch.phase.isOpen = true ↔ Step.close ∉ events.map Prod.fst
  closed : ch.log.closed = !ch.phase.isOpen
  sent : ch.log.sent = events.flatMap Step.sent
  writes : ch.log.writes = events.countP (·.1.isWrite)
  failWrites : ch.log.failWrites = switch Step.setsFailWrites? events
  failClose : ch.log.failClose = switch Step.setsFailClose? events

/-- The result of a step, and what that means for the channel after it. -/
structure Answers (before : Channel) (step : Step) (result : Except Failure Unit) (ch : Channel) : Prop where
  write (bytes : Bytes) (hstep : step = .write bytes) :
    result = .ok () ↔ before.phase.isOpen = true ∧ before.log.failWrites = false
  refused (hresult : result ≠ .ok ()) : ch.log.sent = before.log.sent
  close (hstep : step = .close) : (∃ f, result = .error f) ↔ before.log.failClose = true
  /-- Closing once more gives the same result and changes nothing. -/
  again (hstep : step = .close) : ch.step .close = (result, ch)
  /-- A channel that has been closed is left as it is when it is closed later. -/
  repeated (hclosed : before.phase.isOpen = false) (hstep : step = .close) : ch = before

variable {ch before : Channel} {kind : Kind} {events : Events} {s : Step} {result : Except Failure Unit}

/-! ## One step -/

/-- What a step does with a channel. -/
structure Advances (before : Channel) (step : Step) (result : Except Failure Unit) (ch : Channel) : Prop where
  kind : ch.kind = before.kind
  isOpen : ch.phase.isOpen = (before.phase.isOpen && step ≠ .close)
  closed : ch.log.closed = (before.log.closed || step = .close)
  sent : ch.log.sent = before.log.sent ++ Step.sent (step, result)
  writes : ch.log.writes = before.log.writes + if step.isWrite then 1 else 0
  failWrites : ch.log.failWrites = step.setsFailWrites?.getD before.log.failWrites
  failClose : ch.log.failClose = step.setsFailClose?.getD before.log.failClose

theorem write_taken (hopen : ch.phase.isOpen = true) (hfail : ch.log.failWrites = false) (bytes : Bytes) :
    ch.write bytes =
      (.ok (), { ch with log := { ch.log with writes := ch.log.writes + 1, sent := ch.log.sent ++ bytes } }) := by
  simp only [Channel.write, Phase.canWrite, hopen, hfail, Bool.not_true, Bool.false_eq_true, if_false]

/-- A write that is refused is counted, and nothing else. -/
theorem write_refused (h : ¬ (ch.phase.isOpen = true ∧ ch.log.failWrites = false)) (bytes : Bytes) :
    ∃ f, ch.write bytes = (.error f, { ch with log := { ch.log with writes := ch.log.writes + 1 } }) := by
  unfold Channel.write
  extract_lets counted
  split
  · exact ⟨_, rfl⟩
  · next hopen =>
    split
    · exact ⟨_, rfl⟩
    · next hfail => exact absurd ⟨by simpa [Phase.canWrite] using hopen, Bool.eq_false_iff.2 hfail⟩ h

theorem advances_step (ch : Channel) (s : Step) : Advances ch s (ch.step s).1 (ch.step s).2 := by
  have hopen : ch.phase.isOpen = (ch.phase.isOpen && true) := (Bool.and_true _).symm
  have hclosed : ch.log.closed = (ch.log.closed || false) := (Bool.or_false _).symm
  have hsent : ch.log.sent = ch.log.sent ++ [] := (List.append_nil _).symm
  cases s with
  | write bytes =>
    by_cases hw : ch.phase.isOpen = true ∧ ch.log.failWrites = false
    · rw [step, write_taken hw.1 hw.2]
      exact ⟨rfl, hopen, hclosed, rfl, rfl, rfl, rfl⟩
    · obtain ⟨f, hf⟩ := write_refused hw bytes
      rw [step, hf]
      exact ⟨rfl, hopen, hclosed, hsent, rfl, rfl, rfl⟩
  | close => exact ⟨rfl, (Bool.and_false _).symm, (Bool.or_true _).symm, hsent, rfl, rfl, rfl⟩
  | failWrites on => exact ⟨rfl, hopen, hclosed, hsent, rfl, rfl, rfl⟩
  | failClose on => exact ⟨rfl, hopen, hclosed, hsent, rfl, rfl, rfl⟩

/-- A channel whose log says that it has been closed is not changed by closing it. -/
theorem close_of_closed (hclosed : ch.phase.isOpen = false) (hlog : ch.log.closed = true) :
    ch.close.2 = ch := by
  obtain ⟨kind, phase, log⟩ := ch
  cases phase with
  | opened => cases hclosed
  | closed =>
    obtain ⟨sent, writes, closed, failWrites, failClose⟩ := log
    cases hlog
    rfl

theorem answers_step (hlog : ch.log.closed = !ch.phase.isOpen) (s : Step) :
    Answers ch s (ch.step s).1 (ch.step s).2 where
  write bytes hstep := by
    subst hstep
    by_cases hw : ch.phase.isOpen = true ∧ ch.log.failWrites = false
    · rw [step, write_taken hw.1 hw.2]
      exact iff_of_true rfl hw
    · obtain ⟨f, hf⟩ := write_refused hw bytes
      rw [step, hf]
      exact iff_of_false nofun hw
  refused hresult := by
    have hnone : Step.sent (s, (ch.step s).1) = [] := by
      unfold Step.sent
      split
      · next h => exact absurd (congrArg Prod.snd h) hresult
      · rfl
    rw [(advances_step ch s).sent, hnone, List.append_nil]
  close hstep := by
    subst hstep
    rw [step, Channel.close]
    cases ch.log.failClose with
    | true => exact iff_of_true ⟨_, rfl⟩ rfl
    | false => exact iff_of_false (fun ⟨_, h⟩ => nomatch h) nofun
  again hstep := by
    subst hstep
    rfl
  repeated hclosed hstep := by
    subst hstep
    exact close_of_closed hclosed (hlog.trans (congrArg not hclosed))

/-! ## Every step -/

theorem switch_concat (sets? : Step → Option Bool) (events : Events) (e : Step × Except Failure Unit) :
    switch sets? (events ++ [e]) = (sets? e.1).getD (switch sets? events) := by
  rw [switch, List.filterMap_append]
  cases h : sets? e.1 with
  | none => simp [h, switch]
  | some on => simp [h]

theorem toldBy_nil (kind : Kind) : ToldBy kind [] { kind } :=
  ⟨rfl, iff_of_true rfl List.not_mem_nil, rfl, rfl, rfl, rfl, rfl⟩

/-- What can be told of a channel can be told after one more step. -/
theorem ToldBy.step (h : ToldBy kind events ch) (s : Step) :
    ToldBy kind (events ++ [(s, (ch.step s).1)]) (ch.step s).2 := by
  have hs := advances_step ch s
  exact {
    kind := hs.kind.trans h.kind
    isOpen := by
      rw [hs.isOpen, Bool.and_eq_true, h.isOpen, decide_eq_true_eq, List.map_append, List.mem_append, not_or,
        List.map_singleton, List.mem_singleton, eq_comm (a := Step.close)]
    closed := by rw [hs.closed, hs.isOpen, h.closed]; simp
    sent := by rw [hs.sent, h.sent, List.flatMap_append, List.flatMap_singleton]
    writes := by rw [hs.writes, h.writes, List.countP_append, List.countP_singleton]
    failWrites := by rw [hs.failWrites, h.failWrites, switch_concat]
    failClose := by rw [hs.failClose, h.failClose, switch_concat] }

theorem after_append (ch : Channel) (ss ts : List Step) : ch.after (ss ++ ts) = (ch.after ss).after ts := by
  induction ss generalizing ch with
  | nil => rfl
  | cons s ss ih => exact ih (ch.step s).2

theorem events_append (ch : Channel) (ss ts : List Step) :
    ch.events (ss ++ ts) = ch.events ss ++ (ch.after ss).events ts := by
  induction ss generalizing ch with
  | nil => rfl
  | cons s ss ih => exact congrArg ((s, (ch.step s).1) :: ·) (ih (ch.step s).2)

theorem ToldBy.run (h : ToldBy kind events ch) (ss : List Step) :
    ToldBy kind (events ++ ch.events ss) (ch.after ss) := by
  induction ss generalizing ch events with
  | nil => exact (List.append_nil events).symm ▸ h
  | cons s ss ih =>
    have hrest := ih (h.step s)
    rwa [List.append_assoc] at hrest

theorem getElem?_run (ch : Channel) (ss : List Step) (s : Step) (ts : List Step) :
    (ch.run (ss ++ s :: ts))[ss.length]? = some ((ch.after ss).step s) := by
  induction ss generalizing ch with
  | nil => rfl
  | cons s' ss ih => exact ih (ch.step s').2

/-- What a closed channel has sent does not change any more. -/
theorem sent_after_of_closed (hclosed : ch.phase.isOpen = false) (ss : List Step) :
    (ch.after ss).log.sent = ch.log.sent := by
  induction ss generalizing ch with
  | nil => rfl
  | cons s ss ih =>
    have hstill : (ch.step s).2.phase.isOpen = false := by
      rw [(advances_step ch s).isOpen, hclosed, Bool.false_and]
    have hsent : (ch.step s).2.log.sent = ch.log.sent := by
      cases s with
      | write bytes =>
        obtain ⟨f, hf⟩ := write_refused (fun h => Bool.false_ne_true (hclosed.symm.trans h.1)) bytes
        rw [step, hf]
      | close | failWrites | failClose => rfl
    exact (ih hstill).trans hsent

/-- After every step of a new channel its state can be told from the steps so far and their results: it is
open until it is closed and its log says the same, it has sent the bytes of the writes that went well, and
every write is counted. Whether a step goes well can be told from the channel before it. Once the channel is
closed, it sends nothing more, whatever comes later. -/
theorem life_toldBy (kind : Kind) (earlier : List Step) (s : Step) (later : List Step) :
    let new : Channel := { kind }
    ∃ result ch, (new.run (earlier ++ s :: later))[earlier.length]? = some (result, ch) ∧
      ToldBy kind (new.events earlier) (new.after earlier) ∧
      ToldBy kind (new.events (earlier ++ [s])) ch ∧
      Answers (new.after earlier) s result ch ∧
      (ch.phase.isOpen = false → (new.after (earlier ++ s :: later)).log.sent = ch.log.sent) := by
  intro new
  have hbefore : ToldBy kind (new.events earlier) (new.after earlier) := (toldBy_nil kind).run earlier
  refine ⟨_, _, getElem?_run new earlier s later, hbefore, ?_, answers_step hbefore.closed s, fun hclosed => ?_⟩
  · rw [events_append]
    exact hbefore.step s
  · rw [after_append]
    exact sent_after_of_closed hclosed later

/-- A channel is closed also where closing it is reported as failed. -/
example : (run { kind := .network } [.write [1, 2], .failClose true, .close, .write [3]]).map
      (fun e => (e.1.isOk, e.2.phase.isOpen, e.2.log.sent, e.2.log.writes)) =
    [(true, true, [1, 2], 1), (true, true, [1, 2], 1), (false, false, [1, 2], 1), (false, false, [1, 2], 2)] := by
  decide

end ThermalPrint.Transport.Channel
