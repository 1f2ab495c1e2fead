import ThermalPrint.Json.Value

/-! What a value gives for the fields of a record. An object gives them by their names, and what else is
in it does not matter; an array gives them in their order, and those at the end may be missing. -/

namespace ThermalPrint.Json

/-- The value that members give for a name. Of several members with the name the last counts. -/
def member? : List (String × Value) → String → Option Value
  | [], _ => none
  | (k, v) :: ms, name => (member? ms name).or (if k = name then some v else none)

/-- What a value gives for fields with these names, if it has the shape of a record of them. -/
def Value.members? (names : List String) : Value → Option (List (String × Value))
  | .object members => some members
  | .array elements => if elements.length ≤ names.length then some (names.zip elements) else none
  | _ => none

variable {ms : List (String × Value)} {name key : String}

theorem member?_map (f : Value → Value) (ms : List (String × Value)) (name : String) :
    member? (ms.map fun m => (m.1, f m.2)) name = (member? ms name).map f := by
  induction ms with
  | nil => rfl
  | cons m ms ih =>
    rw [List.map_cons, member?, ih, member?]
    cases member? ms name <;> split <;> rfl

theorem member?_eq_none (h : name ∉ ms.map (·.1)) : member? ms name = none := by
  induction ms with
  | nil => rfl
  | cons m ms ih =>
    rw [List.map_cons, List.mem_cons, not_or] at h
    rw [member?, ih h.2, if_neg (Ne.symm h.1)]
    rfl

end ThermalPrint.Json
