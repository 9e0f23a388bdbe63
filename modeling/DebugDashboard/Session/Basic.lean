import DebugDashboard.Activity.Basic
import DebugDashboard.Number.Word
import DebugDashboard.Session.Breakpoints
import DebugDashboard.Session.Variables

/-!
# The state of a debugging session

What is known about the session that is being debugged: its name, where it stands, its
breakpoints and variables, and the latest activities. The room for these is taken when the session
is made, and a capacity can be too large for that.
-/

namespace DebugDashboard

/-- A line of a file, counted from one. -/
structure Position where
  file : Path
  line : Nat
  deriving Repr, DecidableEq

def Position.display (p : Position) : String :=
  p.file.baseName ++ ":" ++ Nat.repr p.line

/-- The state of a debugging session. -/
structure Session where
  id? : Option String
  name? : Option String
  position? : Option Position
  paused : Bool
  breakpoints : Breakpoints
  vars : Variables
  /-- The latest activities, the oldest first. -/
  history : List Activity.Entry
  /-- How many activities are kept. -/
  capacity : Nat
  deriving Repr, DecidableEq

/-- Why there is no room for a history. -/
inductive CapacityError where
  /-- The number of activities is no word. -/
  | overflow
  /-- The activities would take half of the addresses or more. -/
  | tooLarge
  deriving Repr, DecidableEq

def CapacityError.message : CapacityError → String
  | overflow => "attempt to add with overflow"
  | tooLarge => "capacity overflow"

namespace Session

/-- How many activities are kept unless said otherwise. -/
def defaultCapacity : Nat := 20

/-- A session of which nothing is known; it keeps at least one activity. -/
def withCapacity (capacity : Nat) : Session :=
  { id? := none, name? := none, position? := none, paused := false, breakpoints := [],
    vars := [], history := [], capacity := max capacity 1 }

/-- How many addresses an activity takes: 24 for each of its two texts, 16 for its time and 8 for
its status. -/
def entrySize : Nat := 72

/-- A session of which nothing is known, if there is room for its history: for the activities that
are kept, and for one more before the oldest leaves. -/
def ofCapacity (capacity : Nat) : Except CapacityError Session :=
  match Word.checked (max capacity 1 + 1) with
  | none => .error .overflow
  | some room =>
    if entrySize * room < Word.signedLimit then .ok (withCapacity capacity) else .error .tooLarge

def lastOf {α : Type} (count : Nat) (xs : List α) : List α := xs.drop (xs.length - count)

/-- One more activity; the oldest ones beyond the capacity leave. -/
def addActivity (s : Session) (entry : Activity.Entry) : Session :=
  { s with history := lastOf s.capacity (s.history ++ [entry]) }

def setBreakpoint (s : Session) (p : Position) : Session :=
  { s with breakpoints := s.breakpoints.set p.file p.line }

def removeBreakpoint (s : Session) (p : Position) : Session :=
  { s with breakpoints := s.breakpoints.remove p.file p.line }

def moveTo (s : Session) (p : Position) : Session :=
  { s with position? := some p }

/-- Other variables; none of the earlier ones stays. -/
def setVariables (s : Session) (vars : Variables) : Session :=
  { s with vars := vars }

def setIdentity (s : Session) (id? name? : Option String) : Session :=
  { s with id? := id?, name? := name? }

def setPaused (s : Session) (paused : Bool) : Session :=
  { s with paused := paused }

/-- The state before anything is known, except for the activities. -/
def reset (s : Session) : Session :=
  { s with
    id? := none, name? := none, position? := none, paused := false, breakpoints := [],
    vars := [] }

end Session

end DebugDashboard
