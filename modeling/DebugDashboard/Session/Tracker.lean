import DebugDashboard.Session.Change
import DebugDashboard.Session.Guarded

/-!
# Tracking a session

The records of the log, one after the other, are folded into the state of the session. Beside the
session, the latest request of each tool is remembered until the tool answers, because an answer
need not repeat what was asked.
-/

namespace DebugDashboard

/-- The unanswered request of each tool. -/
abbrev PendingRequests := List (String × Fields)

namespace PendingRequests

def drop (pending : PendingRequests) (tool : String) : PendingRequests :=
  pending.filter (·.1 ≠ tool)

/-- The requests with one for a tool, which replaces an earlier one. -/
def add (pending : PendingRequests) (tool : String) (request : Fields) : PendingRequests :=
  (tool, request) :: pending.drop tool

def get? (pending : PendingRequests) (tool : String) : Option Fields :=
  pending.lookup tool

/-- The requests after a record: a call asks, a response or an error answers. -/
def after (pending : PendingRequests) (r : Record) : PendingRequests :=
  match r.kind with
  | .toolCall => pending.add r.tool r.request
  | .toolResponse | .toolError => pending.drop r.tool
  | _ => pending

end PendingRequests

/-- The session that is followed, and the requests that are remembered. -/
structure Tracker where
  session : Guarded Session
  pending : PendingRequests
  deriving Repr

namespace Tracker

def new (session : Session) : Tracker := ⟨.available session, []⟩

/-- The session after a record: its change, then the activity it reports. -/
def step (host : Host) (remembered? : Option Fields) (r : Record) (entry : Activity.Entry)
    (s : Session) : Session :=
  (s.apply (r.change host remembered?)).addActivity entry

/-- The tracker after a record, and whether the session could be reached. A record that reports no
activity does not touch the session. -/
def handle (host : Host) (now : Int) (t : Tracker) (r : Record) :
    Except GuardError Unit × Tracker :=
  let pending := t.pending.after r
  match r.entryAt? now with
  | none => (.ok (), { t with pending := pending })
  | some entry =>
    match t.session.update (step host (t.pending.get? r.tool) r entry) with
    | .ok session => (.ok (), ⟨session, pending⟩)
    | .error e => (.error e, { t with pending := pending })

/-- The tracker after records, in order. -/
def handleAll (host : Host) (now : Int) (t : Tracker) (rs : List Record) : Tracker :=
  rs.foldl (fun t r => (t.handle host now r).2) t

end Tracker

end DebugDashboard
