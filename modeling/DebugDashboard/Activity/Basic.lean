/-!
# Activity entries

One line of the history that the dashboard shows: what happened, to which tool, and when.
-/

namespace DebugDashboard.Activity

/-- The outcome of an activity. -/
inductive Status where
  | calling
  | success
  | error
  | info
  | warning
  deriving Repr, DecidableEq

def Status.word : Status → String
  | .calling => "calling"
  | .success => "success"
  | .error => "error"
  | .info => "info"
  | .warning => "warning"

def Status.ofWord? (s : String) : Option Status :=
  [Status.calling, .success, .error, .info, .warning].find? fun status => status.word = s

/-- A time in milliseconds, and where it comes from. -/
inductive Stamp where
  /-- The time that the record gives. -/
  | reported (millis : Int)
  /-- The clock when a record without usable time was handled. -/
  | clock (millis : Int)
  deriving Repr, DecidableEq

/-- The milliseconds of a time. -/
def Stamp.millis : Stamp → Int
  | .reported millis => millis
  | .clock millis => millis

/-- A tool invocation, a response or a notification. -/
structure Entry where
  tool : String
  status : Status
  details : String
  time : Stamp
  deriving Repr, DecidableEq

end DebugDashboard.Activity
