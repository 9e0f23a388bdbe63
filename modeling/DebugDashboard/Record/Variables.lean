import DebugDashboard.Json.Fields
import DebugDashboard.Json.Printer
import DebugDashboard.Session.Variables
import DebugDashboard.Text.Cut

/-!
# Reported variables

A record lists variables with name, type and value. Of the first twenty, those that can be read
and have a name are shown.
-/

namespace DebugDashboard

/-- A variable as a record reports it. -/
structure ReportedVariable where
  name : String
  typeName : String
  value : Json
  deriving Repr

namespace ReportedVariable

def maxListed : Nat := 20

/-- A text that may be missing but not of another type. -/
def text? : Option Json → Option String
  | none => some ""
  | some (.string s) => some s
  | some _ => none

/-- The variable of an element of the list: an object, or an array of name, type and value in
which the last ones may be missing. -/
def ofJson? : Json → Option ReportedVariable
  | .object fields => do
    let name ← text? (Fields.get? fields "name")
    let typeName ← text? (Fields.get? fields "type")
    some ⟨name, typeName, (Fields.get? fields "value").getD .null⟩
  | .array items =>
    if 3 < items.length then none
    else do
      let name ← text? items[0]?
      let typeName ← text? items[1]?
      some ⟨name, typeName, items[2]?.getD .null⟩
  | _ => none

/-- The text shown for the value: with the type behind it unless that says nothing, and cut when it
is longer than sixty characters. -/
def display (v : ReportedVariable) : String :=
  let value := v.value.display
  let text :=
    if v.typeName = "" || v.typeName = "object" then value
    else value ++ " (" ++ v.typeName ++ ")"
  Text.ellipsize 60 57 text

/-- The names and texts of the variables that are shown, in their order in the record. -/
def shown (items : List Json) : List (String × String) :=
  (((items.take maxListed).filterMap ofJson?).filter (·.name ≠ "")).map fun v =>
    (v.name, v.display)

def collect (items : List Json) : Variables := Variables.ofList (shown items)

end ReportedVariable

end DebugDashboard
