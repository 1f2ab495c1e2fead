import ThermalPrint.Proofs.Interleaving.Step

/-! The course of a call that disconnects or sends, step by step. -/

namespace ThermalPrint.Interleaving

open Transport

/-- The call disconnects or sends. -/
def Operation.IsUse (id : Identifier) (op : Operation) : Prop :=
  op = .disconnect id ∨ ∃ bytes, op = .send id bytes

/-- The steps of a call that disconnects or sends, and what is shared after them. -/
inductive Course (id : Identifier) (s : Shared) : Operation → Stage → Stage → Shared → Prop
  | absent {op : Operation} (entry : s.entry? id = none) :
    Course id s op .start (.done (.failure .notConnected)) s
  | hold {op : Operation} {cell : Nat} (entry : s.entry? id = some cell) :
    Course id s op .start (.waiting cell) (s.hold cell)
  | lock {op : Operation} {cell : Nat} (free : s.isLocked cell = false) :
    Course id s op (.waiting cell) (.working cell) (s.setLock cell true)
  | empty {op : Operation} {cell : Nat} (content : s.content cell = none) :
    Course id s op (.working cell) (.unlocking cell (.failure .notConnected) true) s
  | take {cell channel : Nat} (content : s.content cell = some channel) :
    Course id s (.disconnect id) (.working cell) (.closing cell channel none) (s.setContent cell none)
  | close {cell channel : Nat} : Course id s (.disconnect id) (.closing cell channel none)
      (.unlocking cell .done true) (s.closeChannel channel)
  | refuse {bytes : Bytes} {cell channel : Nat} {f : Failure}
    (content : s.content cell = some channel) (refusal : (s.beginWrite channel).1 = some f) :
    Course id s (.send id bytes) (.working cell) (.unlocking cell (.failure f) true)
      (s.beginWrite channel).2
  | beginWrite {bytes : Bytes} {cell channel : Nat} (content : s.content cell = some channel)
    (taken : (s.beginWrite channel).1 = none) :
    Course id s (.send id bytes) (.working cell) (.writing cell channel bytes)
      (s.beginWrite channel).2
  | write {bytes rest : Bytes} {cell channel : Nat} {byte : UInt8} :
    Course id s (.send id bytes) (.writing cell channel (byte :: rest)) (.writing cell channel rest)
      (s.writeByte channel byte)
  | finish {bytes : Bytes} {cell channel : Nat} :
    Course id s (.send id bytes) (.writing cell channel []) (.unlocking cell .done true) s
  | unlock {op : Operation} {cell : Nat} {reply : Reply} {prunes : Bool} :
    Course id s op (.unlocking cell reply prunes) (.lettingGo cell reply prunes)
      (s.setLock cell false)
  | letGo {op : Operation} {cell : Nat} {reply : Reply} {prunes : Bool} :
    Course id s op (.lettingGo cell reply prunes)
      (if prunes then .pruning reply else .done reply) (s.letGo cell)
  | prune {op : Operation} {reply : Reply} :
    Course id s op (.pruning reply) (.done reply) (s.prune id)

variable {id : Identifier} {op : Operation} {s s' : Shared} {st st' : Stage}
  {openFailure : Option Failure} {cell : Nat}

theorem course_of_start (hop : op.IsUse id) (h : advance op openFailure s .start = some (st', s')) :
    Course id s op .start st' s' := by
  cases he : s.entry? id with
  | none =>
    have h : some (Stage.done (.failure .notConnected), s) = some (st', s') := by
      obtain rfl | ⟨bytes, rfl⟩ := hop <;> simpa only [advance, he] using h
    cases h
    exact .absent he
  | some cell =>
    have h : some (Stage.waiting cell, s.hold cell) = some (st', s') := by
      obtain rfl | ⟨bytes, rfl⟩ := hop <;> simpa only [advance, he] using h
    cases h
    exact .hold he

theorem course_of_work (hop : op.IsUse id) (h : work op openFailure cell s = some (st', s')) :
    Course id s op (.working cell) st' s' := by
  obtain rfl | ⟨bytes, rfl⟩ := hop
  · cases hc : s.content cell with
    | none =>
      simp only [work, hc] at h
      cases h
      exact .empty hc
    | some channel =>
      simp only [work, hc] at h
      cases h
      exact .take hc
  · cases hc : s.content cell with
    | none =>
      simp only [work, hc] at h
      cases h
      exact .empty hc
    | some channel =>
      simp only [work, hc] at h
      cases hbegun : s.beginWrite channel with
      | mk refusal s₁ =>
        rw [hbegun] at h
        cases refusal with
        | none =>
          cases h
          have hstep : Course id s (.send id bytes) (.working cell) (.writing cell channel bytes)
            (s.beginWrite channel).2 := .beginWrite hc (congrArg Prod.fst hbegun)
          rwa [hbegun] at hstep
        | some f =>
          cases h
          have hstep : Course id s (.send id bytes) (.working cell)
            (.unlocking cell (.failure f) true) (s.beginWrite channel).2 :=
              .refuse hc (congrArg Prod.fst hbegun)
          rwa [hbegun] at hstep

/-- A call that disconnects or sends takes no other steps. -/
theorem course_of_advance (hop : op.IsUse id) (hfits : st.Fits op s)
    (h : advance op openFailure s st = some (st', s')) : Course id s op st st' s' := by
  cases st with
  | start => exact course_of_start hop h
  | waiting cell =>
    simp only [advance] at h
    split at h
    · cases h
    · next hfree =>
      cases h
      exact .lock (by simpa using hfree)
  | working cell => exact course_of_work hop h
  | closing cell old new =>
    cases new with
    | none =>
      obtain ⟨-, id', rfl⟩ := hfits
      obtain hid | ⟨bytes, hid⟩ := hop
      · cases hid
        cases h
        exact .close
      · cases hid
    | some new =>
      obtain ⟨-, id', rfl, -⟩ := hfits
      obtain hid | ⟨bytes, hid⟩ := hop <;> cases hid
  | writing cell channel rest =>
    obtain ⟨id', bytes, rfl⟩ := hfits
    obtain hid | ⟨bytes, hid⟩ := hop
    · cases hid
    · cases hid
      cases rest with
      | nil =>
        cases h
        exact .finish
      | cons byte rest =>
        cases h
        exact .write
  | unlocking cell reply prunes =>
    cases h
    exact .unlock
  | lettingGo cell reply prunes =>
    cases h
    exact .letGo
  | pruning reply =>
    have hid : op.identifier? = some id := by
      obtain rfl | ⟨bytes, rfl⟩ := hop <;> rfl
    simp only [advance, hid] at h
    cases h
    exact .prune
  | opened cell new =>
    obtain ⟨id', rfl, -⟩ := hfits
    obtain hid | ⟨bytes, hid⟩ := hop <;> cases hid
  | storing cell new =>
    obtain ⟨-, id', rfl, -⟩ := hfits
    obtain hid | ⟨bytes, hid⟩ := hop <;> cases hid
  | visiting | inspecting | releasing | closingTaken | leaving | sweeping =>
    obtain rfl | ⟨bytes, rfl⟩ := hop <;> rcases hfits with hid | hid <;> cases hid
  | done => cases h

end ThermalPrint.Interleaving
