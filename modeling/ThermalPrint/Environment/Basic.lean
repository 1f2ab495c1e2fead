/-! The variables that a run is started with. -/

namespace ThermalPrint

/-- Variables by their names. -/
abbrev Environment := List (String × String)

namespace Environment

/-- The value of a variable. -/
def get? (env : Environment) (name : String) : Option String :=
  (env.find? (·.1 = name)).map (·.2)

/-- Gives a variable a value if it has none. -/
def define (env : Environment) (name value : String) : Environment :=
  if (env.get? name).isSome then env else env ++ [(name, value)]

/-- What follows `name` and an equals sign in a variable that is written `NAME=VALUE`. Where the value
holds an equals sign too, more than the name of the variable may be taken for a name. -/
def after? (name : List Char) (entry : String × String) : Option (List Char) :=
  let written := entry.1.toList ++ '=' :: entry.2.toList
  let start := name ++ ['=']
  if start.isPrefixOf written then some (written.drop start.length) else none

/-- Looks a text up as the name of a variable. -/
def lookUp? (env : Environment) (name : List Char) : Option (List Char) :=
  if name.isEmpty then none else env.findSome? (after? name)

end Environment

end ThermalPrint
