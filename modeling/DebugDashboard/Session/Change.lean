import DebugDashboard.Path.Normalise
import DebugDashboard.Record.Entry
import DebugDashboard.Session.Basic

/-!
# Changes of the session

What a record changes in the session, apart from the activity it reports. The change depends on
the record, on the host, which decides what a reported path means, and for a response on the
request that it answers.
-/

namespace DebugDashboard

/-- A change of the session. -/
inductive Change where
  | nothing
  /-- A session begins. -/
  | beginSession (id? : Option String) (name : String)
  /-- A session ends; without an identifier, the current one. -/
  | endSession (id? : Option String)
  | pause (place? : Option Position)
  | resume
  /-- A breakpoint is set by a tool, which also shows its line. -/
  | mark (place : Position)
  | setBreakpoint (place : Position)
  | hitBreakpoint (place : Position)
  | removeBreakpoint (place : Position)
  | showVariables (vars : Variables)
  deriving Repr, DecidableEq

namespace Session

/-- Whether the end of a session ends the one that is current. -/
def isEndedBy (s : Session) (id? : Option String) : Bool :=
  match id? with
  | none => true
  | some id => s.id? = some id

def apply (s : Session) : Change → Session
  | .nothing => s
  | .beginSession id? name => s.setIdentity id? (some name)
  | .endSession id? => if s.isEndedBy id? then s.reset else s
  | .pause place? =>
    match place? with
    | some place => (s.setPaused true).moveTo place
    | none => s.setPaused true
  | .resume => s.setPaused false
  | .mark place => (s.setBreakpoint place).moveTo place
  | .setBreakpoint place => s.setBreakpoint place
  | .hitBreakpoint place => (s.setPaused true).moveTo place
  | .removeBreakpoint place => s.removeBreakpoint place
  | .showVariables vars => s.setVariables vars

end Session

namespace Record

def position (host : Host) (file : String) (line : Nat) : Position :=
  ⟨Path.normalise host ⟨file⟩, line⟩

/-- The file and line of a response, each taken from the request where the response lacks it. -/
def answeredPlace? (response : Fields) (request? : Option Fields) : Option (String × Nat) := do
  let file ← (response.nonEmpty? "file").or (request?.bind fun q => q.nonEmpty? "file")
  let line ← (response.line? "line").or (request?.bind fun q => q.line? "line")
  some (file, line)

/-- The request that a response answers: the one it repeats, else the one remembered. -/
def answeredRequest? (r : Record) (remembered? : Option Fields) : Option Fields :=
  (r.fields.object? "request").or remembered?

/-- What a record changes, given the remembered request for its tool. -/
def change (host : Host) (remembered? : Option Fields) (r : Record) : Change :=
  match r.kind with
  | .toolResponse =>
    if r.tool = "set_breakpoint" && r.succeeded then
      match answeredPlace? r.response (r.answeredRequest? remembered?) with
      | some (file, line) => .mark (position host file line)
      | none => .nothing
    else .nothing
  | .sessionCreated =>
    .beginSession (r.fields.nonEmpty? "sessionId")
      ((r.fields.string? "sessionName").getD "Debug Session")
  | .sessionClosed => .endSession (r.fields.string? "sessionId")
  | .debugState =>
    if r.event = "paused" then
      .pause ((fileLine? r.pausePlace).map fun (file, line) => position host file line)
    else if r.event = "running" || r.event = "stopped" then .resume
    else .nothing
  | .debugBreakpoint =>
    match fileLine? r.fields with
    | none => .nothing
    | some (file, line) =>
      let place := position host file line
      if r.event = "set" then .setBreakpoint place
      else if r.event = "hit" then .hitBreakpoint place
      else if r.event = "removed" then .removeBreakpoint place
      else .nothing
  | .debugVariables => .showVariables (ReportedVariable.collect r.listedVariables)
  | .toolCall | .toolError | .debugOutput | .debugStackTrace | .debugScopes => .nothing

end Record

end DebugDashboard
