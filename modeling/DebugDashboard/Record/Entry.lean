import DebugDashboard.Activity.Details
import DebugDashboard.Activity.Basic
import DebugDashboard.Duration
import DebugDashboard.Record.Basic
import DebugDashboard.Record.Variables

/-!
# The activity that a record reports

A record reports at most one activity, and which one depends on nothing but the record: not on the
session, nor on other records. Only the time of a record that gives none is taken from the clock.
-/

namespace DebugDashboard.Record

open Activity

def tool (r : Record) : String := (r.fields.string? "tool").getD "unknown"

def event (r : Record) : String := (r.fields.string? "event").getD ""

/-- The request of a call, without fields if there is none. -/
def request (r : Record) : Fields := (r.fields.object? "request").getD []

/-- The response of a tool, without fields if there is none. -/
def response (r : Record) : Fields := (r.fields.object? "response").getD []

/-- Whether a tool succeeded; it did unless the record denies it. -/
def succeeded (r : Record) : Bool := (r.fields.bool? "success").getD true

def fileLine? (fields : Fields) : Option (String × Nat) := do
  let file ← fields.nonEmpty? "file"
  let line ← fields.line? "line"
  some (file, line)

def pausePlace (r : Record) : Fields := (r.fields.object? "location").getD []

def listedVariables (r : Record) : List Json := (r.fields.array? "variables").getD []

/-- The time of an activity: that of the record, else that of the clock. -/
def stamp (now : Int) (r : Record) : Stamp :=
  match r.time? with
  | some millis => .reported millis
  | none => .clock now

def pauseDetails (r : Record) : String :=
  let place := r.pausePlace
  "Paused: " ++ fieldText r.fields "reason" "unknown" ++
    (match place.line? "line" with
      | some line => " at line " ++ Nat.repr line
      | none => "") ++
    (match place.nonEmpty? "function" with
      | some function => " in " ++ function ++ "()"
      | none => "")

def breakpointDetails (r : Record) (line : Nat) : Status × String :=
  let at_ := " at line " ++ Nat.repr line
  if r.event = "set" then (.info, "Breakpoint set" ++ at_)
  else if r.event = "verified" then
    if (r.fields.bool? "verified").getD false then (.success, "Breakpoint verified" ++ at_)
    else (.warning, "Breakpoint unverified" ++ at_)
  else if r.event = "hit" then (.info, "Hit breakpoint" ++ at_)
  else if r.event = "removed" then (.info, "Breakpoint removed" ++ at_)
  else (.info, "Breakpoint " ++ r.event ++ at_)

/-- The text for a list of variables: how many are shown, and of how many if not all are. -/
def variablesDetails (r : Record) : String :=
  let count := (r.fields.count? "variableCount").getD r.listedVariables.length
  let shown := (ReportedVariable.collect r.listedVariables).length
  if shown < count then
    "Retrieved " ++ Nat.repr shown ++ " of " ++ Nat.repr count ++ " variables"
  else "Retrieved " ++ Nat.repr count ++ " variables"

def createdDetails (r : Record) : String :=
  "Created: " ++ ((r.fields.nonEmpty? "sessionId").map Text.shortId).getD "unknown" ++
    (match r.fields.get? "language" with
      | some language => " (" ++ language.display ++ ")"
      | none => "")

/-- The tool, outcome and text of the activity that a record reports. -/
def activity? (r : Record) : Option (String × Status × String) :=
  match r.kind with
  | .toolCall => some (r.tool, .calling, callDetails r.tool r.request)
  | .toolResponse =>
    some (r.tool, if r.succeeded then .success else .error, responseDetails r.tool r.response)
  | .toolError => some (r.tool, .error, "Error: " ++ fieldText r.fields "error" "Unknown error")
  | .sessionCreated => some ("session", .success, r.createdDetails)
  | .sessionClosed =>
    some ("session", .info,
      "Closed after " ++ Duration.print ((r.fields.count? "duration").getD 0))
  | .debugState =>
    if r.event = "paused" then some ("debug", .info, r.pauseDetails)
    else if r.event = "running" then some ("debug", .info, "Running")
    else if r.event = "stopped" then some ("debug", .info, "Stopped")
    else none
  | .debugBreakpoint =>
    (fileLine? r.fields).map fun (_, line) => ("breakpoint", r.breakpointDetails line)
  | .debugVariables => some ("variables", .success, r.variablesDetails)
  | .debugOutput =>
    (r.fields.nonEmpty? "output").map fun output =>
      ("output", .info, (r.fields.string? "category").getD "output" ++ ": " ++
        Text.dropEndLineFeeds (Text.ellipsize 100 97 output))
  | .debugStackTrace =>
    some ("stack_trace", .success,
      "Got " ++ Nat.repr ((r.fields.count? "frameCount").getD 0) ++ " frames")
  | .debugScopes =>
    some ("scopes", .success,
      "Got " ++ Nat.repr ((r.fields.array? "scopes").getD []).length ++ " scopes")

def entryAt? (now : Int) (r : Record) : Option Entry :=
  r.activity?.map fun (tool, status, details) => ⟨tool, status, details, r.stamp now⟩

end DebugDashboard.Record
