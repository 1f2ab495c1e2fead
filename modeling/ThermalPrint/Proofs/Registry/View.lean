import ThermalPrint.Proofs.Registry.Slots

/-! A registry as its callers can tell it: which channels are held, and what has come of all that
were ever opened. How often something was to be written on a channel, or a connector was asked for one,
is left out. -/

namespace ThermalPrint

open Transport

namespace Transport.Line

def isOpen (l : Line) : Bool := l.channel.phase.isOpen

def close (l : Line) : Line := { l with channel := l.channel.close.2 }

def step (s : Channel.Step) (l : Line) : Line := { l with channel := (l.channel.step s).2 }

def deliver (bytes : Bytes) (l : Line) : Line :=
  { l with channel.log.sent := l.channel.log.sent ++ bytes }

/-- A line without the count of its writes. -/
def uncounted (l : Line) : Line := { l with channel.log.writes := 0 }

theorem map_uncounted_close (l : Option Line) :
    (l.map close).map uncounted = (l.map uncounted).map close := by
  cases l <;> rfl

end Transport.Line

/-- Only the element that is changed matters for the change. -/
theorem modify_congr {α : Type} {l : List α} {i : Nat} {a : α} (h : l[i]? = some a) {f g : α → α}
    (hfg : f a = g a) : l.modify i f = l.modify i g := by
  refine List.ext_getElem? fun j => ?_
  rw [List.getElem?_modify, List.getElem?_modify]
  by_cases hj : i = j
  · subst hj
    simp [h, hfg]
  · simp [hj]

namespace Registry

/-- The line that a handle stands for. -/
def line? (r : Registry) (h : Handle) : Option Line := do
  let c ← r.connectors[h.connector]?
  c.lines[h.line]?

theorem line?_getElem {r : Registry} {i j : Nat} (hi : i < r.connectors.length)
    (hj : j < r.connectors[i].lines.length) :
    r.line? ⟨i, j⟩ = some (r.connectors[i].lines[j]) := by
  simp [line?, hi, hj]

/-- A registry as its calls can tell it: the channels that are held, and all that were ever
opened. -/
@[ext]
structure View where
  held : Identifier → Option Handle
  seen : Handle → Option Line

def view (r : Registry) : View := ⟨r.held, fun h => (r.line? h).map Line.uncounted⟩

/-- Changes what is seen of one channel. -/
def View.update (v : View) (h : Handle) (f : Line → Line) : View :=
  { v with seen := fun k => if k = h then (v.seen k).map f else v.seen k }

variable {r r' : Registry} {id : Identifier}

@[simp] theorem update_self (v : View) (h : Handle) : (v.update h fun line => line) = v := by
  simp [View.update]

@[simp] theorem held_withSlots (slots : Slots) : { r with slots }.held id = slots.held id := rfl
@[simp] theorem line?_withSlots (slots : Slots) (h : Handle) :
    { r with slots }.line? h = r.line? h := rfl

theorem view_eq_iff : r'.view = r.view ↔
    (∀ id, r'.held id = r.held id) ∧
      ∀ h, (r'.line? h).map Line.uncounted = (r.line? h).map Line.uncounted := by
  simp only [view, View.mk.injEq, funext_iff]

theorem view_prune : { r with slots := r.slots.prune id }.view = r.view :=
  View.ext (funext fun _ => Slots.held_prune) rfl

/-! ## Lines after a change of one connector -/

theorem line?_updateConnector {i : Nat} {c c' : Connector} (hc : r.connectors[i]? = some c)
    (k : Handle) :
    (r.updateConnector i c').line? k =
      if k.connector = i then c'.lines[k.line]? else r.line? k := by
  obtain ⟨hi, -⟩ := List.getElem?_eq_some_iff.1 hc
  simp only [line?, updateConnector, List.getElem?_set]
  by_cases h : i = k.connector
  · rw [if_pos h, if_pos h.symm, if_pos hi]
    rfl
  · rw [if_neg h, if_neg (Ne.symm h)]

theorem line?_of_connector {h : Handle} {c : Connector} (hc : r.connectors[h.connector]? = some c) :
    r.line? h = c.lines[h.line]? := by
  simp [line?, hc]

/-- A change of one line of a connector is seen on that line only. -/
theorem line?_updateLine {h : Handle} {c c' : Connector} {f : Line → Line}
    (hc : r.connectors[h.connector]? = some c) (hlines : c'.lines = c.lines.modify h.line f)
    (k : Handle) :
    (r.updateConnector h.connector c').line? k =
      if k = h then (r.line? k).map f else r.line? k := by
  obtain ⟨i, j⟩ := h
  obtain ⟨i', j'⟩ := k
  rw [line?_updateConnector hc, hlines]
  by_cases hi : i' = i
  · subst hi
    rw [if_pos rfl, List.getElem?_modify, line?_of_connector (h := ⟨i', j'⟩) hc]
    by_cases hj : j = j'
    · subst hj
      simp
    · have hne : j' ≠ j := Ne.symm hj
      simp [hj, hne]
  · rw [if_neg hi, if_neg (fun e => hi (congrArg Handle.connector e))]

@[simp] theorem held_updateConnector {i : Nat} {c : Connector} :
    (r.updateConnector i c).held id = r.held id := rfl

theorem line?_closeHandle (h k : Handle) :
    (r.closeHandle h).line? k = if k = h then (r.line? k).map Line.close else r.line? k := by
  unfold closeHandle
  split
  · next c hc => exact line?_updateLine hc rfl k
  · next hc =>
    split
    · next hk => simp [line?, hk, hc]
    · rfl

@[simp] theorem slots_closeHandle (h : Handle) : (r.closeHandle h).slots = r.slots := by
  unfold closeHandle
  split <;> rfl

@[simp] theorem slots_closeHeld : (r.closeHeld id).slots = r.slots := by
  unfold closeHeld
  split
  · exact slots_closeHandle _
  · rfl

theorem line?_closeHeld (k : Handle) :
    (r.closeHeld id).line? k =
      if r.held id = some k then (r.line? k).map Line.close else r.line? k := by
  unfold closeHeld
  split
  · next h hh =>
    rw [line?_closeHandle, hh]
    simp only [Option.some.injEq, eq_comm]
  · next hh => simp [hh]

/-- A line at the end of a connector's is seen under a new handle. -/
theorem line?_append {i : Nat} {c c' : Connector} {line : Line} (hc : r.connectors[i]? = some c)
    (hlines : c'.lines = c.lines ++ [line]) (k : Handle) :
    (r.updateConnector i c').line? k =
      if k = ⟨i, c.lines.length⟩ then some line else r.line? k := by
  obtain ⟨i', j⟩ := k
  rw [line?_updateConnector hc, hlines]
  by_cases hi : i' = i
  · subst hi
    rw [if_pos rfl, line?_of_connector (h := ⟨i', j⟩) hc, List.getElem?_append]
    by_cases hj : j = c.lines.length
    · simp [hj]
    · rw [if_neg (fun e => hj (congrArg Handle.line e))]
      split
      · rfl
      · next hlt =>
        simp only at hlt ⊢
        have h2 : c.lines.length ≤ j := by omega
        rw [List.getElem?_eq_none h2]
        simp; omega
  · rw [if_neg hi, if_neg (fun e => hi (congrArg Handle.connector e))]

theorem line?_sameLines {i : Nat} {c c' : Connector} (hc : r.connectors[i]? = some c)
    (hlines : c'.lines = c.lines) (k : Handle) : (r.updateConnector i c').line? k = r.line? k := by
  rw [line?_updateConnector hc, hlines]
  split
  · next hk => exact (line?_of_connector (hk ▸ hc)).symm
  · rfl

theorem view_sameLines {i : Nat} {c c' : Connector} (hc : r.connectors[i]? = some c)
    (hlines : c'.lines = c.lines) : (r.updateConnector i c').view = r.view :=
  View.ext rfl (funext fun k => congrArg (Option.map _) (line?_sameLines hc hlines k))

/-- A change of one line is seen as any change that comes to the same but for the count. -/
theorem view_updateLine {h : Handle} {c c' : Connector} {line : Line} {g f : Line → Line}
    (hc : r.connectors[h.connector]? = some c) (hline : c.lines[h.line]? = some line)
    (hlines : c'.lines = c.lines.modify h.line g) (hf : (g line).uncounted = f line.uncounted) :
    (r.updateConnector h.connector c').view = r.view.update h f := by
  refine View.ext rfl (funext fun k => ?_)
  simp only [view, View.update]
  rw [line?_updateLine hc hlines]
  by_cases hk : k = h
  · rw [if_pos hk, if_pos hk, hk, (line?_of_connector hc).trans hline]
    exact congrArg some hf
  · rw [if_neg hk, if_neg hk]

end Registry

end ThermalPrint
