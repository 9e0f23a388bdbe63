/-!
# Variables

The variables of the current scope with the texts shown for them, in the order of their names by
code points.
-/

namespace DebugDashboard

/-- Names and shown values, names ascending. -/
abbrev Variables := List (String × String)

namespace Variables

/-- A variable with a value, which replaces one it has. -/
def put : Variables → String → String → Variables
  | [], name, value => [(name, value)]
  | (n, v) :: rest, name, value =>
    if name = n then (n, value) :: rest
    else if name < n then (name, value) :: (n, v) :: rest
    else (n, v) :: put rest name value

/-- The variables of a list in which the last value of a name counts. -/
def ofList (pairs : List (String × String)) : Variables :=
  pairs.foldl (fun vars p => vars.put p.1 p.2) []

end Variables

end DebugDashboard
