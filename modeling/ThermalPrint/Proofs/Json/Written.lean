import ThermalPrint.Proofs.Json.Canonical
import ThermalPrint.Proofs.Json.Source

/-! The compact text of a value without floating-point numbers has the tree of the value. -/

namespace ThermalPrint.Json

namespace Value

variable {literal : String → StringLiteral}

mutual

/-- The tree of a value whose strings are given as `literal` says. -/
def tree (literal : String → StringLiteral) : Value → Node
  | .null => .atom .null
  | .bool b => .atom (.bool b)
  | .number n => .atom (.number n)
  | .string s => .atom (.string (literal s))
  | .array elements => .array (treeElements literal elements) .closed
  | .object members => .object (treeMembers literal members) .closed

def treeElements (literal : String → StringLiteral) : List Value → List Node
  | [] => []
  | v :: vs => v.tree literal :: treeElements literal vs

def treeMembers (literal : String → StringLiteral) :
    List (String × Value) → List (StringLiteral × Node)
  | [] => []
  | (k, v) :: ms => (literal k, v.tree literal) :: treeMembers literal ms

end

theorem tree_ofString (v : Value) : v.tree .ofString = .ofValue v := by
  induction v using Value.induction with
  | null | bool | number | string => rfl
  | array es ih =>
    refine congrArg (Node.array · .closed) ?_
    induction es with
    | nil => rfl
    | cons v vs ihs =>
      obtain ⟨hv, hvs⟩ := List.forall_mem_cons.1 ih
      rw [treeElements, Node.ofElements, hv, ihs hvs]
  | object ms ih =>
    refine congrArg (Node.object · .closed) ?_
    induction ms with
    | nil => rfl
    | cons m ms ihs =>
      obtain ⟨hm, hms⟩ := List.forall_mem_cons.1 ih
      rw [treeMembers, Node.ofMembers, hm, ihs hms]

/-! ## Reading what is written -/

/-- A source of a value's compact text and of its tree. -/
def Writes (s : Source) (v : Value) : Prop := s.chars = v.chars ∧ s.tree = v.tree .written

theorem spacedChars_nil (text : List Char) : spacedChars [] text [] = text := List.append_nil text

theorem exists_elements {vs : List Value} (h : ∀ v ∈ vs, ∃ s, Writes s v) :
    ∃ es, Source.tailElements [] es = tailChars vs ∧ Source.elementTrees es = treeElements .written vs := by
  induction vs with
  | nil => exact ⟨[], rfl, rfl⟩
  | cons v vs ih =>
    obtain ⟨⟨s, hchars, htree⟩, hvs⟩ := List.forall_mem_cons.1 h
    obtain ⟨es, hes, htrees⟩ := ih hvs
    refine ⟨⟨[], s, []⟩ :: es, ?_, ?_⟩
    · rw [Source.tailElements, spacedChars_nil, hchars, hes, tailChars]
    · rw [Source.elementTrees, htree, htrees, treeElements]

theorem exists_members {ms : List (String × Value)} (h : ∀ m ∈ ms, ∃ s, Writes s m.2) :
    ∃ es, Source.tailMembers [] es = tailMembers ms ∧ Source.memberTrees es = treeMembers .written ms := by
  induction ms with
  | nil => exact ⟨[], rfl, rfl⟩
  | cons m ms ih =>
    obtain ⟨k, v⟩ := m
    obtain ⟨⟨s, hchars, htree⟩, hms⟩ := List.forall_mem_cons.1 h
    obtain ⟨es, hes, htrees⟩ := ih hms
    refine ⟨(⟨[], .ofString k, []⟩, ⟨[], s, []⟩) :: es, ?_, ?_⟩
    · rw [Source.tailMembers, spacedChars_nil, spacedChars_nil, StringText.chars_ofString, hchars, hes, tailMembers]
    · rw [Source.memberTrees, StringText.literal_ofString, htree, htrees, treeMembers]

/-- The compact text of a value without floating-point numbers is a text that writes it. -/
theorem exists_source {v : Value} (h : v.floatFree = true) : ∃ s, Writes s v := by
  induction v using Value.induction with
  | null => exact ⟨.word .null, rfl, rfl⟩
  | bool b =>
    cases b
    · exact ⟨.word .false, rfl, rfl⟩
    · exact ⟨.word .true, rfl, rfl⟩
  | number n =>
    cases n with
    | float f => contradiction
    | integer n exact =>
      obtain ⟨x, hchars, hread⟩ := exists_numberText exact
      exact ⟨.number x, hchars, by rw [Source.tree, hread]; rfl⟩
  | string s =>
    refine ⟨.string (.ofString s), StringText.chars_ofString s, ?_⟩
    rw [Source.tree, StringText.literal_ofString, tree]
  | array vs ih =>
    have hvs : ∀ v ∈ vs, ∃ s, Writes s v := fun v hv => ih v hv (floatFreeElements_iff.1 h v hv)
    cases vs with
    | nil => exact ⟨.array [] [], rfl, rfl⟩
    | cons v vs =>
      obtain ⟨⟨s, hchars, htree⟩, hvs⟩ := List.forall_mem_cons.1 hvs
      obtain ⟨es, hes, htrees⟩ := exists_elements hvs
      refine ⟨.array (⟨[], s, []⟩ :: es) [], ?_, ?_⟩
      · rw [Source.chars, spacedChars_nil, hchars, hes, chars]
      · rw [Source.tree, Source.elementTrees, htree, htrees, tree, treeElements]
  | object ms ih =>
    have hms : ∀ m ∈ ms, ∃ s, Writes s m.2 := fun m hm => ih m hm (floatFreeMembers_iff.1 h m hm)
    rcases ms with _ | ⟨⟨k, v⟩, ms⟩
    · exact ⟨.object [] [], rfl, rfl⟩
    · obtain ⟨⟨s, hchars, htree⟩, hms⟩ := List.forall_mem_cons.1 hms
      obtain ⟨es, hes, htrees⟩ := exists_members hms
      refine ⟨.object ((⟨[], .ofString k, []⟩, ⟨[], s, []⟩) :: es) [], ?_, ?_⟩
      · rw [Source.chars, spacedChars_nil, spacedChars_nil, StringText.chars_ofString, hchars, hes, chars]
      · rw [Source.tree, Source.memberTrees, StringText.literal_ofString, htree, htrees, tree, treeMembers]

theorem ofText_compact {v : Value} (h : v.floatFree = true) :
    Document.ofText v.compact = ⟨v.tree .written, false⟩ := by
  obtain ⟨s, hchars, htree⟩ := exists_source h
  have htext : v.compact = (Spaced.mk [] s []).text := by
    rw [Spaced.text, spacedChars_nil, hchars, compact]
  rw [htext, Spaced.ofText_text, htree]

end Value

end ThermalPrint.Json
