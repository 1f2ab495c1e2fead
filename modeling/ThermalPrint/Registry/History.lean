import ThermalPrint.Registry.Call

/-! What a registry's calls have brought about, as it can be told from the calls and their replies. -/

namespace ThermalPrint.Registry

open Transport

/-- A call that was made, with the registry that it found and its reply. -/
structure Event where
  before : Registry
  call : Call
  reply : Reply

/-- The events of calls that are made one after another. -/
def history (r : Registry) : List Call → List Event
  | [] => []
  | c :: cs => ⟨r, c, (r.call c).1⟩ :: history (r.call c).2 cs

/-- The registry after calls. -/
def after (r : Registry) (cs : List Call) : Registry := (r.calls cs).2

theorem after_append (r : Registry) (cs ds : List Call) :
    r.after (cs ++ ds) = (r.after cs).after ds := by
  induction cs generalizing r with
  | nil => rfl
  | cons c cs ih => exact ih (r.call c).2

/-- No channel was ever opened. -/
def IsNew (r : Registry) : Prop := r.slots.entries = [] ∧ ∀ c ∈ r.connectors, c.lines = []

theorem calls_replies (r : Registry) (cs : List Call) :
    (r.calls cs).1 = (r.history cs).map Event.reply := by
  induction cs generalizing r with
  | nil => rfl
  | cons c cs ih => simp [history, calls, ih]

namespace Event

/-- The text that names the printer of a call. -/
def subject? (e : Event) : Option String :=
  match e.call with
  | .connect id | .disconnect id | .print id _ | .status id | .send id _ | .isConnected id => some id
  | _ => none

/-- The bytes that a call delivered: none unless its reply says that it went well. -/
def payload (e : Event) : Bytes :=
  match e.call, e.reply with
  | .print _ job, .done => Escpos.encode job
  | .send _ bytes, .done => bytes
  | .status _, .status s => if s = Status.ready then [0x10, 0x04, 0x01] else []
  | _, _ => []

/-- The bytes that an event delivered to a channel, which has to be the one held for its owner. -/
def deliveredTo (e : Event) (owner : Identifier) (h : Handle) : Bytes :=
  if e.subject? = some owner.text ∧ e.before.held owner = some h then e.payload else []

/-- Whether a printer is connected from this event on, if the event decides that. -/
def decides? (e : Event) (id : Identifier) : Option Bool :=
  match e.call, e.reply with
  | .connect text, .kind _ => if text = id.text then some true else none
  | .disconnect text, .done => if text = id.text then some false else none
  | .closeAll, .count _ | .shutdown, .done => some false
  | _, _ => none

end Event

/-- Whether a printer is connected after the events: the last one that decides it does. -/
def connectedBy (events : List Event) (id : Identifier) : Bool :=
  ((events.filterMap (·.decides? id)).getLast?).getD false

/-- The bytes that the events delivered to a channel while it was the one held for its owner. -/
def deliveredTo (events : List Event) (owner : Identifier) (h : Handle) : Bytes :=
  events.flatMap (·.deliveredTo owner h)

/-- The channels that were opened for a printer, connector by connector. -/
def channelsOf (r : Registry) (id : Identifier) : List (List Channel) :=
  r.connectors.map fun c => (c.lines.filter (·.owner = id)).map (·.channel)

end ThermalPrint.Registry
