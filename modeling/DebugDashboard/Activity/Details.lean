import DebugDashboard.Json.Fields
import DebugDashboard.Json.Printer
import DebugDashboard.Path.Basic
import DebugDashboard.Text.Cut

/-!
# Descriptions of tool calls and responses

The short text for a call or a response depends on the tool; a tool without a text of its own
shows its first three arguments.
-/

namespace DebugDashboard.Activity

def isStepTool (tool : String) : Bool :=
  tool = "step_over" || tool = "step_into" || tool = "step_out"

/-- A field as text, or another text where it is missing. -/
def fieldText (fields : Fields) (key missing : String) : String :=
  ((fields.get? key).map Json.display).getD missing

/-- One argument of a call, its value cut to twenty characters. -/
def argument (field : String × Json) : String :=
  field.1 ++ "=" ++ Text.takeChars 20 field.2.display

def callDetails (tool : String) (request : Fields) : String :=
  if tool = "set_breakpoint" then
    (Path.mk ((request.string? "file").getD "unknown")).baseName ++ ":" ++
      fieldText request "line" "?"
  else if tool = "start_debugging" then
    "Script: " ++ (Path.mk ((request.string? "scriptPath").getD "unknown")).baseName
  else if tool = "create_debug_session" then
    (request.string? "name").getD "Debug Session" ++ " (" ++
      (request.string? "language").getD "unknown" ++ ")"
  else if tool = "get_variables" then "Scope: " ++ fieldText request "scope" "all"
  else if tool = "continue_execution" then "Continuing..."
  else if isStepTool tool then "Stepping..."
  else if request.isEmpty then "Processing..."
  else ", ".intercalate ((request.take 3).map argument)

def responseDetails (tool : String) (response : Fields) : String :=
  if tool = "create_debug_session" then
    "Session: " ++ Text.shortId ((response.string? "sessionId").getD "unknown") ++ "..."
  else if tool = "set_breakpoint" then
    "Line " ++ fieldText response "line" "?" ++
      (if (response.bool? "verified").getD false then " (verified)" else " (pending)")
  else if tool = "get_stack_trace" then
    Nat.repr ((response.array? "stackFrames").getD []).length ++ " frames"
  else if tool = "get_variables" then "Variables retrieved"
  else if isStepTool tool then "Step complete"
  else "Success"

end DebugDashboard.Activity
