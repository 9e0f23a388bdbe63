import DebugDashboard.Board
import DebugDashboard.CommandLine
import DebugDashboard.Config.Reader
import DebugDashboard.Session.Tracker
import DebugDashboard.Tail.Follower

/-!
# The dashboard

The whole program as a state: a follower that hands every kind of record to the tracker, and the
board that shows the tracked session. Time passes in ticks, each of which looks at the files once.
-/

namespace DebugDashboard

/-- Tracks the records that reach it; failures to reach the session are left to the board. -/
def Tracker.handler (home? : Option Path) (now : Int) : Handler Tracker :=
  fun files r t => { observer := (t.handle ⟨files, home?⟩ now r).2 }

/-- The state of the program. -/
structure Dashboard where
  home? : Option Path
  follower : Follower Tracker
  around : Surroundings Tracker
  board : Board

/-- Why the program does not start. -/
inductive SetupError where
  | loading (e : ConfigError)
  | validating (e : SettingError)
  | history (e : CapacityError)
  | clearing (e : ClearError)
  | starting (e : StartError)
  deriving Repr, DecidableEq

def SetupError.message : SetupError → String
  | loading e => "loading configuration: " ++ e.message
  | validating e => "validating configuration: " ++ e.message
  | history e => e.message
  | clearing e => "clearing saved position: " ++ e.message
  | starting e => "starting log tailer: " ++ e.message

namespace Dashboard

def configure (host : Host) (line : CommandLine) : Except SetupError Config := do
  let config ← (Config.load host line.configPath?).mapError .loading
  let config := line.apply config
  config.validate.mapError .validating
  .ok config

def new (host : Host) (log : Path) (config : Config) : Except SetupError Dashboard := do
  let session ← (Session.ofCapacity config.state.activityCapacity).mapError .history
  .ok {
    home? := host.home?
    follower := { path := log, cursorPath := config.tail.cursorPath }
    around := { files := host.files, stats := {}, observer := .new session }
    board := { window := .new config.view.windowSize config.view.edgeMargin } }

/-- Forgets the saved offset. -/
def forgetOffset (d : Dashboard) : Except SetupError Dashboard :=
  match d.follower.clearCursor d.around with
  | (.ok (), around) => .ok { d with around := around }
  | (.error e, _) => .error (.clearing e)

def start (d : Dashboard) : Except SetupError Dashboard :=
  match d.follower.ensureStarted d.around with
  | (.ok (), follower, around) => .ok { d with follower := follower, around := around }
  | (.error e, _, _) => .error (.starting e)

def ofCommandLine (host : Host) (line : CommandLine) : Except SetupError (Config × Dashboard) := do
  let config ← configure host line
  let d ← new host line.logPath config
  let d ← if line.fresh then d.forgetOffset else .ok d
  .ok (config, ← d.start)

def tick (now : Int) (d : Dashboard) : Dashboard :=
  let follower := { d.follower with handlers := fun _ => some (Tracker.handler d.home? now) }
  let (follower, around) := follower.settle d.around
  { d with follower := follower, around := around }

/-- The screen, and the program once it is drawn. -/
def draw (width height : Nat) (d : Dashboard) : Display.Grid × Dashboard :=
  let (grid, board) :=
    d.board.draw d.around.files d.around.observer.session d.around.stats width height
  (grid, { d with board := board })

def handleKey (d : Dashboard) (e : KeyEvent) : Dashboard :=
  { d with board := d.board.handleKey e }

def logFiles (d : Dashboard) : List Path := [d.follower.path, d.follower.cursorPath]

def sourceFiles (d : Dashboard) : List Path :=
  match d.around.observer.session with
  | .available s => (s.position?.map (·.file)).toList
  | .poisoned => []

def withFiles (d : Dashboard) (files : FileSystem) : Dashboard :=
  { d with around := { d.around with files := files } }

end Dashboard

end DebugDashboard
