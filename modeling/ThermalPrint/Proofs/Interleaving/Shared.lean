import Mathlib.Data.List.Nodup
import ThermalPrint.Proofs.Registry.Ownership
import ThermalPrint.Registry.Interleaving

/-! What the operations on slots and channels that calls share make of what can be seen of them: who
holds a slot, what it holds, which channels are open and what was sent on them. -/

namespace ThermalPrint

open Transport

/-- Exchanging one element changes the number of occurrences by its share. -/
theorem count_flatMap_modify {α β : Type} [BEq β] {l : List α} {i : Nat} {a : α} (h : l[i]? = some a)
    (f : α → List β) (g : α → α) (b : β) :
    ((l.modify i g).flatMap f).count b + (f a).count b =
      (l.flatMap f).count b + (f (g a)).count b := by
  induction l generalizing i with
  | nil => cases h
  | cons x l ih =>
    cases i with
    | zero =>
      cases h
      simp only [List.modify_zero_cons, List.flatMap_cons, List.count_append]
      omega
    | succ i =>
      have hi := ih h
      simp only [List.modify_succ_cons, List.flatMap_cons, List.count_append]
      omega

/-- What stands at a place of a list of which one element is exchanged. -/
theorem getElem?_of_set {α : Type} {l : List α} {i j : Nat} {a b : α} (h : (l.set i a)[j]? = some b) :
    i = j ∧ b = a ∨ i ≠ j ∧ l[j]? = some b := by
  rw [List.getElem?_set] at h
  split at h
  · next hij =>
    split at h
    · exact .inl ⟨hij, (Option.some.inj h).symm⟩
    · cases h
  · next hij => exact .inr ⟨hij, h⟩

theorem getElem?_set_of_some {α : Type} {l : List α} {i : Nat} {a : α} (h : l[i]? = some a) (b : α) :
    (l.set i b)[i]? = some b := List.getElem?_set_self (List.getElem?_eq_some_iff.1 h).1

namespace Interleaving.Shared

variable {s : Shared} {cell c channel n : Nat} {id : Identifier}

/-- How many calls have got hold of a slot. -/
def handles (s : Shared) (cell : Nat) : Nat := ((s.cells[cell]?).map (·.handles)).getD 0

/-- The channels that slots hold. -/
def contents (s : Shared) : List Nat := s.cells.flatMap (·.content.toList)

def isOpen (s : Shared) (channel : Nat) : Bool := (s.channels[channel]?).any Line.isOpen

/-- The identifier that a channel was opened for. -/
def owner? (s : Shared) (channel : Nat) : Option Identifier := (s.channels[channel]?).map (·.owner)

/-- The bytes that were sent on a channel. -/
def sentOn (s : Shared) (channel : Nat) : Bytes :=
  ((s.channels[channel]?).map (·.channel.log.sent)).getD []

theorem mem_entries_of_find (h : s.entry? id = some cell) : (id, cell) ∈ s.entries := by
  obtain ⟨⟨k, c⟩, hfind, rfl⟩ := Option.map_eq_some_iff.1 h
  have hk := List.find?_some hfind
  exact of_decide_eq_true hk ▸ List.mem_of_find?_eq_some hfind

theorem entry?_eq_some_iff (hs : (s.entries.map (·.1)).Nodup) :
    s.entry? id = some cell ↔ (id, cell) ∈ s.entries := by
  refine ⟨mem_entries_of_find, fun h => ?_⟩
  unfold entry?
  generalize s.entries = entries at hs h
  induction entries with
  | nil => cases h
  | cons e rest ih =>
    rw [List.map_cons, List.nodup_cons] at hs
    rcases List.mem_cons.1 h with rfl | h
    · simp
    · have hne : e.1 ≠ id := fun he => hs.1 (List.mem_map.2 ⟨_, h, he.symm⟩)
      rw [List.find?_cons_of_neg (by simpa using hne)]
      exact ih hs.2 h

theorem not_mem_keys_of_find (h : s.entry? id = none) : id ∉ s.entries.map (·.1) := by
  unfold entry? at h
  rw [Option.map_eq_none_iff, List.find?_eq_none] at h
  intro hm
  obtain ⟨e, he, rfl⟩ := List.mem_map.1 hm
  exact h e he (decide_eq_true rfl)

/-! ## Changes of one slot -/

theorem getElem?_updateCell (f : Cell → Cell) :
    (s.updateCell cell f).cells[c]? = if c = cell then s.cells[c]?.map f else s.cells[c]? := by
  simp only [updateCell, List.getElem?_modify]
  by_cases h : c = cell
  · subst h
    simp
  · simp [h, Ne.symm h]

@[simp] theorem length_updateCell (f : Cell → Cell) :
    (s.updateCell cell f).cells.length = s.cells.length := List.length_modify _ _ _

theorem content_updateCell {f : Cell → Cell} (hf : ∀ x, (f x).content = x.content) :
    (s.updateCell cell f).content c = s.content c := by
  simp only [content, getElem?_updateCell]
  split
  · cases s.cells[c]? <;> simp [hf]
  · rfl

theorem isLocked_updateCell {f : Cell → Cell} (hf : ∀ x, (f x).locked = x.locked) :
    (s.updateCell cell f).isLocked c = s.isLocked c := by
  simp only [isLocked, getElem?_updateCell]
  split
  · cases s.cells[c]? <;> simp [hf]
  · rfl

theorem handles_updateCell {f : Cell → Cell} (hf : ∀ x, (f x).handles = x.handles) :
    (s.updateCell cell f).handles c = s.handles c := by
  simp only [handles, getElem?_updateCell]
  split
  · cases s.cells[c]? <;> simp [hf]
  · rfl

theorem count_contents_updateCell (hc : cell < s.cells.length) (f : Cell → Cell) (n : Nat) :
    (s.updateCell cell f).contents.count n + (s.content cell).toList.count n =
      s.contents.count n + ((f s.cells[cell]).content.toList).count n := by
  have h := count_flatMap_modify (List.getElem?_eq_getElem hc) (fun x : Cell => x.content.toList) f n
  rwa [show s.content cell = s.cells[cell].content by simp [content, hc]]

theorem count_contents_of_content {f : Cell → Cell} (hf : ∀ x, (f x).content = x.content) (n : Nat) :
    (s.updateCell cell f).contents.count n = s.contents.count n := by
  by_cases hc : cell < s.cells.length
  · have h := count_contents_updateCell hc f n
    rw [hf, show s.content cell = s.cells[cell].content by simp [content, hc]] at h
    exact Nat.add_right_cancel h
  · simp only [contents, updateCell, List.modify_eq_self (Nat.le_of_not_lt hc)]

/-! What getting hold of a slot, letting go of it and changing its lock or content leave alone. -/

@[simp] theorem content_hold : (s.hold cell).content c = s.content c :=
  content_updateCell fun _ => rfl

@[simp] theorem content_letGo : (s.letGo cell).content c = s.content c :=
  content_updateCell fun _ => rfl

@[simp] theorem content_setLock {locked : Bool} : (s.setLock cell locked).content c = s.content c :=
  content_updateCell fun _ => rfl

@[simp] theorem isLocked_hold : (s.hold cell).isLocked c = s.isLocked c :=
  isLocked_updateCell fun _ => rfl

@[simp] theorem isLocked_letGo : (s.letGo cell).isLocked c = s.isLocked c :=
  isLocked_updateCell fun _ => rfl

@[simp] theorem isLocked_setContent {x : Option Nat} :
    (s.setContent cell x).isLocked c = s.isLocked c :=
  isLocked_updateCell fun _ => rfl

@[simp] theorem handles_setLock {locked : Bool} : (s.setLock cell locked).handles c = s.handles c :=
  handles_updateCell fun _ => rfl

@[simp] theorem handles_setContent {x : Option Nat} : (s.setContent cell x).handles c = s.handles c :=
  handles_updateCell fun _ => rfl

@[simp] theorem count_contents_hold : (s.hold cell).contents.count n = s.contents.count n := by
  unfold hold
  refine count_contents_of_content ?_ n
  exact fun _ => rfl

@[simp] theorem count_contents_letGo : (s.letGo cell).contents.count n = s.contents.count n := by
  unfold letGo
  refine count_contents_of_content ?_ n
  exact fun _ => rfl

@[simp] theorem count_contents_setLock {locked : Bool} :
    (s.setLock cell locked).contents.count n = s.contents.count n := by
  unfold setLock
  refine count_contents_of_content ?_ n
  exact fun _ => rfl

/-! What they change. -/

theorem handles_hold (hc : cell < s.cells.length) (c : Nat) :
    (s.hold cell).handles c = s.handles c + [cell].count c := by
  simp only [hold, handles, getElem?_updateCell]
  by_cases h : c = cell
  · subst h
    simp [hc]
  · simp [h, Ne.symm h]

theorem handles_letGo (hc : 0 < s.handles cell) (c : Nat) :
    (s.letGo cell).handles c + [cell].count c = s.handles c := by
  simp only [letGo, handles, getElem?_updateCell] at hc ⊢
  by_cases h : c = cell
  · subst h
    cases hx : s.cells[c]? with
    | none => simp [hx] at hc
    | some x =>
      simp only [hx, Option.map_some, Option.getD_some] at hc
      simp
      omega
  · simp [h, Ne.symm h]

theorem isLocked_setLock (hc : cell < s.cells.length) (locked : Bool) (c : Nat) :
    (s.setLock cell locked).isLocked c = if c = cell then locked else s.isLocked c := by
  simp only [setLock, isLocked, getElem?_updateCell]
  by_cases h : c = cell
  · subst h
    simp [hc]
  · simp [h]

theorem content_setContent (hc : cell < s.cells.length) (x : Option Nat) (c : Nat) :
    (s.setContent cell x).content c = if c = cell then x else s.content c := by
  simp only [setContent, content, getElem?_updateCell]
  by_cases h : c = cell
  · subst h
    simp [hc]
  · simp [h]

theorem lt_of_content {x : Nat} (h : s.content c = some x) : c < s.cells.length := by
  obtain ⟨cell, hcell, -⟩ := Option.bind_eq_some_iff.1 h
  exact (List.getElem?_eq_some_iff.1 hcell).1

theorem mem_contents_of_content (h : s.content c = some n) : n ∈ s.contents := by
  obtain ⟨x, hx, hn⟩ := Option.bind_eq_some_iff.1 h
  exact List.mem_flatMap.2 ⟨x, List.mem_of_getElem? hx, Option.mem_toList.2 hn⟩

/-- A slot is of use as long as a call holds it or has its lock, or it holds a channel. -/
theorem isUnused_eq_false_iff : s.isUnused c = false ↔
    s.handles c ≠ 0 ∨ s.isLocked c = true ∨ s.content c ≠ none := by
  unfold handles isLocked content isUnused
  cases s.cells[c]? with
  | none => simp
  | some x =>
    simp only [Option.map_some, Option.getD_some, Option.bind_some, Option.any_some, Option.all_some,
      Cell.isUnused, Bool.and_eq_false_iff, Bool.not_eq_false', decide_eq_false_iff_not, or_assoc]
    cases x.content <;> simp

/-! ## New slots and channels -/

/-- A new slot that one call has got hold of. -/
def create (s : Shared) (id : Identifier) : Shared :=
  { s with
    cells := s.cells ++ [{ handles := 1 }]
    entries := s.entries ++ [(id, s.cells.length)] }

theorem obtain_of_some (h : s.entry? id = some cell) : s.obtain id = (cell, s.hold cell) := by
  rw [obtain, h]

theorem obtain_of_none (h : s.entry? id = none) :
    s.obtain id = (s.cells.length, s.create id) := by
  rw [obtain, h]
  rfl

theorem getElem?_create :
    (s.create id).cells[c]? = if c = s.cells.length then some { handles := 1 } else s.cells[c]? := by
  simp only [create, List.getElem?_append]
  split
  · next h => rw [if_neg (Nat.ne_of_lt h)]
  · next h =>
    split
    · next he => simp [he]
    · next hne =>
      rw [List.getElem?_eq_none (by simp only [List.length_singleton]; omega),
        List.getElem?_eq_none (by omega)]

theorem handles_create (c : Nat) :
    (s.create id).handles c = s.handles c + [s.cells.length].count c := by
  simp only [handles, getElem?_create]
  by_cases h : c = s.cells.length
  · subst h
    simp
  · simp [h, Ne.symm h]

theorem isLocked_create (c : Nat) : (s.create id).isLocked c = s.isLocked c := by
  simp only [isLocked, getElem?_create]
  split
  · next h => simp [h]
  · rfl

theorem content_create (c : Nat) : (s.create id).content c = s.content c := by
  simp only [content, getElem?_create]
  split
  · next h => simp [h]
  · rfl

theorem contents_create : (s.create id).contents = s.contents := by
  simp [contents, create]

/-! ## Holding every slot -/

/-- Gets hold of the slots of entries, one after another. -/
def holdEach (s : Shared) (entries : List (Identifier × Nat)) : Shared :=
  entries.foldl (fun s e => s.hold e.2) s

theorem holdAll_eq (s : Shared) : s.holdAll = s.holdEach s.entries := rfl

section
variable (es : List (Identifier × Nat))

theorem handles_holdEach (hs : ∀ e ∈ es, e.2 < s.cells.length) (c : Nat) :
    (s.holdEach es).handles c = s.handles c + (es.map (·.2)).count c := by
  induction es generalizing s with
  | nil => rfl
  | cons e rest ih =>
    have hrest : ∀ e' ∈ rest, e'.2 < (s.hold e.2).cells.length := fun e' he' => by
      rw [hold, length_updateCell]
      exact hs e' (List.mem_cons_of_mem _ he')
    refine (ih hrest).trans ?_
    rw [handles_hold (hs e List.mem_cons_self), Nat.add_assoc, ← List.count_append]
    rfl

theorem holdEach_frame : (s.holdEach es).entries = s.entries ∧
    (s.holdEach es).channels = s.channels ∧ (s.holdEach es).cells.length = s.cells.length ∧
    (∀ c, (s.holdEach es).isLocked c = s.isLocked c) ∧
    (∀ c, (s.holdEach es).content c = s.content c) ∧
    ∀ n, (s.holdEach es).contents.count n = s.contents.count n := by
  induction es generalizing s with
  | nil => exact ⟨rfl, rfl, rfl, fun _ => rfl, fun _ => rfl, fun _ => rfl⟩
  | cons e rest ih =>
    obtain ⟨hentries, hchannels, hlength, hlocked, hcontent, hcontents⟩ := ih (s := s.hold e.2)
    exact ⟨hentries, hchannels, hlength.trans (length_updateCell _),
      fun c => (hlocked c).trans isLocked_hold, fun c => (hcontent c).trans content_hold,
      fun n => (hcontents n).trans count_contents_hold⟩

end

/-! ## Changes of channels -/

theorem getElem?_updateChannel (f : Channel → Channel) :
    (s.updateChannel channel f).channels[n]? =
      if n = channel then (s.channels[n]?).map fun l => { l with channel := f l.channel }
      else s.channels[n]? := by
  simp only [updateChannel, List.getElem?_modify]
  by_cases h : n = channel
  · subst h
    simp
  · simp [h, Ne.symm h]

/-- A change of one channel cannot be told by what does not depend on it. -/
theorem map_updateChannel {α : Type} {f : Channel → Channel} {g : Line → α}
    (hg : ∀ l : Line, g { l with channel := f l.channel } = g l) (n : Nat) :
    ((s.updateChannel channel f).channels[n]?).map g = (s.channels[n]?).map g := by
  rw [getElem?_updateChannel]
  split
  · cases s.channels[n]? <;> simp [hg]
  · rfl

theorem owner?_updateChannel (f : Channel → Channel) (n : Nat) :
    (s.updateChannel channel f).owner? n = s.owner? n :=
  map_updateChannel (fun _ => rfl) n

theorem isOpen_eq_map (s : Shared) (n : Nat) :
    s.isOpen n = ((s.channels[n]?).map Line.isOpen).getD false := by
  unfold isOpen
  cases s.channels[n]? <;> rfl

theorem isOpen_updateChannel {f : Channel → Channel} (hf : ∀ ch, (f ch).phase = ch.phase) (n : Nat) :
    (s.updateChannel channel f).isOpen n = s.isOpen n := by
  rw [isOpen_eq_map, isOpen_eq_map, map_updateChannel fun l => congrArg Phase.isOpen (hf l.channel)]

theorem isOpen_closeChannel (s : Shared) (channel n : Nat) :
    (s.closeChannel channel).isOpen n = if n = channel then false else s.isOpen n := by
  unfold isOpen closeChannel
  rw [getElem?_updateChannel]
  split
  · cases s.channels[n]? <;> rfl
  · rfl

theorem sentOn_updateChannel {f : Channel → Channel} (hf : ∀ ch, (f ch).log.sent = ch.log.sent)
    (n : Nat) : (s.updateChannel channel f).sentOn n = s.sentOn n := by
  unfold sentOn
  rw [map_updateChannel fun l => hf l.channel]

theorem sound_updateChannel {f : Channel → Channel} (hs : ∀ l ∈ s.channels, l.Sound)
    (hf : ∀ l : Line, l.Sound → Line.Sound { l with channel := f l.channel }) :
    ∀ l ∈ (s.updateChannel channel f).channels, l.Sound := by
  intro l hl
  obtain ⟨n, hn, rfl⟩ := List.mem_iff_getElem.1 hl
  have h : (s.updateChannel channel f).channels[n]? = some _ := List.getElem?_eq_getElem hn
  rw [getElem?_updateChannel] at h
  split at h
  · obtain ⟨l, hl, he⟩ := Option.map_eq_some_iff.1 h
    rw [← he]
    exact hf l (hs l (List.mem_of_getElem? hl))
  · exact hs _ (List.mem_of_getElem? h)

theorem updateChannel_congr {line : Line} {f g : Channel → Channel}
    (h : s.channels[channel]? = some line) (hfg : f line.channel = g line.channel) :
    s.updateChannel channel f = s.updateChannel channel g := by
  unfold updateChannel
  rw [modify_congr h (g := fun l => { l with channel := g l.channel })]
  rw [hfg]

/-- The beginning of a write is seen in the count of writes only. -/
theorem beginWrite_snd (s : Shared) (channel : Nat) :
    (s.beginWrite channel).2 = s.updateChannel channel fun ch => (ch.write []).2 := by
  unfold beginWrite
  split
  · next h =>
    unfold updateChannel
    rw [List.modify_eq_self (List.getElem?_eq_none_iff.1 h)]
  · next line h =>
    exact updateChannel_congr (f := fun _ => (line.channel.write []).2) h rfl

theorem cells_beginWrite : (s.beginWrite channel).2.cells = s.cells := by
  rw [beginWrite_snd]
  rfl

theorem write_nil_frame (ch : Channel) : (ch.write []).2.phase = ch.phase ∧
    (ch.write []).2.log.sent = ch.log.sent ∧ (ch.write []).2.log.closed = ch.log.closed := by
  unfold Channel.write
  extract_lets counted
  split
  · exact ⟨rfl, rfl, rfl⟩
  · split
    · exact ⟨rfl, rfl, rfl⟩
    · exact ⟨rfl, List.append_nil _, rfl⟩

@[simp] theorem isOpen_beginWrite : (s.beginWrite channel).2.isOpen n = s.isOpen n := by
  rw [beginWrite_snd, isOpen_updateChannel fun ch => (write_nil_frame ch).1]

@[simp] theorem isOpen_writeByte {byte : UInt8} :
    (s.writeByte channel byte).isOpen n = s.isOpen n := by
  unfold writeByte
  rw [isOpen_updateChannel]
  exact fun _ => rfl

theorem sentOn_beginWrite : (s.beginWrite channel).2.sentOn n = s.sentOn n := by
  rw [beginWrite_snd, sentOn_updateChannel fun ch => (write_nil_frame ch).2.1]

theorem sentOn_writeByte (hopen : s.isOpen channel = true) (byte : UInt8) (n : Nat) :
    (s.writeByte channel byte).sentOn n =
      if n = channel then s.sentOn n ++ [byte] else s.sentOn n := by
  unfold sentOn writeByte
  rw [getElem?_updateChannel]
  split
  · next h =>
    subst h
    unfold isOpen at hopen
    cases hl : s.channels[n]? with
    | none => simp [hl] at hopen
    | some l => rfl
  · rfl

theorem sentOn_closeChannel : (s.closeChannel channel).sentOn n = s.sentOn n := by
  unfold closeChannel
  rw [sentOn_updateChannel]
  exact fun _ => rfl

/-- The setting of the switches of a channel. -/
def switch (s : Shared) (channel : Nat) (failWrites failClose : Bool) : Shared :=
  s.updateChannel channel fun ch => { ch with log := { ch.log with failWrites, failClose } }

theorem getElem?_openChannel (id : Identifier) :
    (s.openChannel id).2.channels[n]? =
      if n = s.channels.length then some ⟨id, { kind := Kind.ofIdentifier id }⟩
      else s.channels[n]? := by
  simp only [openChannel, List.getElem?_append]
  split
  · next h => rw [if_neg (Nat.ne_of_lt h)]
  · next h =>
    split
    · next he => simp [he]
    · next hne =>
      rw [List.getElem?_eq_none (by simp only [List.length_singleton]; omega),
        List.getElem?_eq_none (by omega)]

theorem isOpen_openChannel (id : Identifier) :
    (s.openChannel id).2.isOpen n = if n = s.channels.length then true else s.isOpen n := by
  unfold isOpen
  rw [getElem?_openChannel]
  split <;> rfl

theorem sentOn_openChannel (id : Identifier) : (s.openChannel id).2.sentOn n = s.sentOn n := by
  unfold sentOn
  rw [getElem?_openChannel]
  split
  · next h =>
    rw [List.getElem?_eq_none (Nat.le_of_eq h.symm)]
    rfl
  · rfl

theorem sentOn_switch {failWrites failClose : Bool} :
    (s.switch channel failWrites failClose).sentOn n = s.sentOn n := by
  unfold switch
  rw [sentOn_updateChannel]
  exact fun _ => rfl

theorem isOpen_switch {failWrites failClose : Bool} :
    (s.switch channel failWrites failClose).isOpen n = s.isOpen n := by
  unfold switch
  rw [isOpen_updateChannel]
  exact fun _ => rfl

theorem owner?_openChannel {owner : Identifier} (h : s.owner? n = some owner) (id : Identifier) :
    (s.openChannel id).2.owner? n = some owner := by
  unfold owner? at h ⊢
  obtain ⟨l, hl, rfl⟩ := Option.map_eq_some_iff.1 h
  rw [getElem?_openChannel, if_neg (Nat.ne_of_lt (List.getElem?_eq_some_iff.1 hl).1), hl]
  rfl

end Interleaving.Shared

end ThermalPrint
