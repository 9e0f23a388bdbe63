import DebugDashboard.Path.Basic
import DebugDashboard.Number.Word

/-!
# Configuration

What can be set about following the log, about the view of the source, and about the state. Numbers
are words of 64 bits, the refresh rate one of 32 bits.
-/

namespace DebugDashboard

/-- How the log is followed. Times are in milliseconds. -/
structure TailSettings where
  pollInterval : Nat := 100
  missingFileBackoff : Nat := 500
  errorBackoff : Nat := 1000
  stopTimeout : Nat := 2000
  /-- Where the offset in the log is kept. -/
  cursorPath : Path := ⟨".visualizer_position"⟩
  deriving Repr, DecidableEq

/-- How the source is shown. -/
structure ViewSettings where
  windowSize : Nat := 20
  edgeMargin : Nat := 3
  /-- Frames per second. -/
  refreshRate : Nat := 4
  deriving Repr, DecidableEq

/-- How much of the state is kept. -/
structure StateSettings where
  activityCapacity : Nat := 20
  deriving Repr, DecidableEq

/-- A configuration. -/
structure Config where
  tail : TailSettings := {}
  view : ViewSettings := {}
  state : StateSettings := {}
  deriving Repr, DecidableEq

/-- What is wrong with the values of a configuration. -/
inductive SettingError where
  | pollInterval
  | windowSize
  | edgeMargin (margin size : Nat)
  | refreshRate
  | activityCapacity
  /-- Twice the margin is no word. -/
  | overflow
  deriving Repr, DecidableEq

namespace SettingError

def message : SettingError → String
  | pollInterval => "tailer.poll_interval_ms must be positive"
  | windowSize => "view.window_size must be positive"
  | edgeMargin margin size =>
    "view.edge_margin (" ++ Nat.repr margin ++
      ") must leave room for the focus line in a window of " ++ Nat.repr size ++ " lines"
  | refreshRate => "view.refresh_hz must be positive"
  | activityCapacity => "state.activity_capacity must be positive"
  | overflow => "attempt to multiply with overflow"

end SettingError

namespace ViewSettings

/-- The nanoseconds between two frames. -/
def refreshPeriod (v : ViewSettings) : Nat := 1000000000 / max v.refreshRate 1

/-- Checks that the margins on both sides leave room for a line between them. -/
def checkMargin (v : ViewSettings) : Except SettingError Unit :=
  match Word.checked (2 * v.edgeMargin) with
  | none => .error .overflow
  | some twice =>
    if twice < v.windowSize then .ok () else .error (.edgeMargin v.edgeMargin v.windowSize)

end ViewSettings

def requirePositive (n : Nat) (e : SettingError) : Except SettingError Unit :=
  if n = 0 then .error e else .ok ()

/-- Checks the values of a configuration, in a fixed order. -/
def Config.validate (c : Config) : Except SettingError Unit := do
  requirePositive c.tail.pollInterval .pollInterval
  requirePositive c.view.windowSize .windowSize
  c.view.checkMargin
  requirePositive c.view.refreshRate .refreshRate
  requirePositive c.state.activityCapacity .activityCapacity

end DebugDashboard
