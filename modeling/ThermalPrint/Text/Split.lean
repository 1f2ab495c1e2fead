/-! Cutting a text at every occurrence of a separator. -/

namespace ThermalPrint.Text

/-- The parts of a text between the occurrences of `sep`; there is always one more than these. -/
def split (sep : Char) : List Char → List (List Char)
  | [] => [[]]
  | c :: cs =>
    if c = sep then [] :: split sep cs
    else match split sep cs with
      | part :: parts => (c :: part) :: parts
      | [] => [[c]]

/-- The parts before and after the first occurrence of `sep`, if there is one. -/
def splitFirst (sep : Char) : List Char → Option (List Char × List Char)
  | [] => none
  | c :: cs =>
    if c = sep then some ([], cs) else (splitFirst sep cs).map fun (a, b) => (c :: a, b)

/-- The parts put together again with `sep` between them. -/
def join (sep : Char) : List (List Char) → List Char
  | [] => []
  | [part] => part
  | part :: parts => part ++ sep :: join sep parts

theorem split_ne_nil (sep : Char) (cs : List Char) : split sep cs ≠ [] := by
  cases cs with
  | nil => simp [split]
  | cons c cs =>
    unfold split
    split
    · simp
    · split <;> simp

theorem join_split (sep : Char) (cs : List Char) : join sep (split sep cs) = cs := by
  induction cs with
  | nil => rfl
  | cons c cs ih =>
    have hne := split_ne_nil sep cs
    unfold split
    split
    · next h =>
      subst h
      cases hs : split c cs with
      | nil => exact absurd hs hne
      | cons part parts => simp [join, ← hs, ih]
    · split
      · next part parts hs =>
        rw [hs] at ih
        cases parts with
        | nil => simpa [join] using ih
        | cons p ps => simpa [join] using ih
      · next hs => exact absurd hs hne

/-- No part holds the separator. -/
theorem not_mem_of_mem_split {sep : Char} {cs part : List Char} (h : part ∈ split sep cs) :
    sep ∉ part := by
  induction cs generalizing part with
  | nil =>
    simp only [split, List.mem_singleton] at h
    simp [h]
  | cons c cs ih =>
    unfold split at h
    split at h
    · rcases List.mem_cons.1 h with rfl | h
      · simp
      · exact ih h
    · next hc =>
      split at h
      · next first rest hs =>
        rw [hs] at ih
        rcases List.mem_cons.1 h with rfl | h
        · exact fun hm => (List.mem_cons.1 hm).elim (fun e => hc e.symm) (ih List.mem_cons_self)
        · exact ih (List.mem_cons_of_mem _ h)
      · next hs => exact absurd hs (split_ne_nil sep cs)

/-- A text without the separator is its only part. -/
theorem split_of_not_mem {sep : Char} {part : List Char} (h : sep ∉ part) : split sep part = [part] := by
  induction part with
  | nil => rfl
  | cons c cs ih =>
    have hc : c ≠ sep := (List.ne_of_not_mem_cons h).symm
    simp only [split, if_neg hc, ih (List.not_mem_of_not_mem_cons h)]

theorem split_append {sep : Char} {part : List Char} (h : sep ∉ part) (cs : List Char) :
    split sep (part ++ sep :: cs) = part :: split sep cs := by
  induction part with
  | nil => exact if_pos rfl
  | cons c part ih =>
    have hc : c ≠ sep := (List.ne_of_not_mem_cons h).symm
    simp only [List.cons_append, split, if_neg hc, ih (List.not_mem_of_not_mem_cons h)]

theorem length_split (sep : Char) (cs : List Char) : (split sep cs).length = cs.count sep + 1 := by
  induction cs with
  | nil => rfl
  | cons c cs ih =>
    have hne := split_ne_nil sep cs
    unfold split
    split
    · next h =>
      subst h
      rw [List.length_cons, ih, List.count_cons_self]
    · next h =>
      rw [List.count_cons_of_ne h, ← ih]
      split
      · next hs => rw [hs]; rfl
      · next hs => exact absurd hs hne

theorem splitFirst_eq_none_iff {sep : Char} {cs : List Char} : splitFirst sep cs = none ↔ sep ∉ cs := by
  induction cs with
  | nil => simp [splitFirst]
  | cons c cs ih =>
    unfold splitFirst
    split
    · next h => simp [h]
    · next h => simp [ih, Ne.symm h]

theorem splitFirst_append {sep : Char} {before : List Char} (h : sep ∉ before) (after : List Char) :
    splitFirst sep (before ++ sep :: after) = some (before, after) := by
  induction before with
  | nil => exact if_pos rfl
  | cons c before ih =>
    have hc : c ≠ sep := (List.ne_of_not_mem_cons h).symm
    simp only [List.cons_append, splitFirst, if_neg hc, ih (List.not_mem_of_not_mem_cons h),
      Option.map_some]

theorem eq_append_of_splitFirst {sep : Char} {cs before after : List Char}
    (h : splitFirst sep cs = some (before, after)) : cs = before ++ sep :: after := by
  induction cs generalizing before with
  | nil => cases h
  | cons c cs ih =>
    unfold splitFirst at h
    split at h
    · next hc =>
      cases h
      rw [hc, List.nil_append]
    · obtain ⟨⟨a, b⟩, hab, he⟩ := Option.map_eq_some_iff.1 h
      cases he
      rw [ih hab, List.cons_append]

end ThermalPrint.Text
