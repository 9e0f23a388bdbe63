import DebugDashboard.Display.Line
import DebugDashboard.Session.Basic
import DebugDashboard.Session.Guarded
import DebugDashboard.Source.CodeWindow
import DebugDashboard.Tail.Stats
import DebugDashboard.Time

/-!
# Frames

A frame is what the dashboard shows at one moment: a header, the history, and the source around the
current position with the variables below it. It is composed from a snapshot of the session.
-/

namespace DebugDashboard.Display

/-- What the dashboard shows. -/
structure Frame where
  header : Line
  /-- The history, the latest activity first. -/
  activity : List Line
  codeTitle : String
  code : List Line
  deriving Repr, DecidableEq

/-- Why there is no frame. -/
inductive FrameError where
  | session (e : GuardError)
  /-- A line number leaves its word. -/
  | overflow
  deriving Repr, DecidableEq

def FrameError.message : FrameError → String
  | session e => "taking state snapshot: " ++ e.message
  | overflow => "attempt to add with overflow"

def title : String := "MCP Debugger"

def placeholder (text : String) : Line :=
  .ofText text { dim := true, italic := true }

/-! ## Header -/

/-- The name of the session, or the start of its identifier. -/
def sessionLabel? (s : Session) : Option String :=
  s.id?.map fun id => s.name?.getD (Text.shortId id ++ "...")

def pausedSpan (s : Session) : Span :=
  if s.paused then ⟨"[PAUSED]", .strong .red⟩ else ⟨"[RUNNING]", .strong .green⟩

/-- A part of the header with what divides it from the part before. -/
def part (divider : String) (span : Span) : List Span := [⟨divider, .faint⟩, span]

/-- The header: session, position, whether it is paused, and how many lines were dropped. -/
def headerLine (s : Session) (stats : Stats) : Line :=
  .ofSpans <|
    [⟨title, .strong .blue⟩] ++
    (match sessionLabel? s with
      | some label => part " - Session: " ⟨label, .colored .cyan⟩
      | none => []) ++
    (match s.position? with
      | some p => part " | " ⟨p.display, .colored .yellow⟩
      | none => []) ++
    part " | " (pausedSpan s) ++
    (if 0 < stats.dropped then
      part " | " ⟨Nat.repr stats.dropped ++ " dropped lines", .colored .red⟩
    else [])

/-! ## History -/

def statusSign : Activity.Status → String × Color
  | .calling => ("⟳", .blue)
  | .success => ("✓", .green)
  | .error => ("✗", .red)
  | .info => ("•", .cyan)
  | .warning => ("!", .yellow)

/-- The lines for an activity: what happened, and its details if there are any. -/
def activityLines (e : Activity.Entry) : List Line :=
  let (sign, color) := statusSign e.status
  let first := Line.ofSpans [⟨sign ++ " ", .strong color⟩, ⟨e.tool, .strong .white⟩,
    ⟨" " ++ Time.clock e.time.millis, .faint⟩]
  if e.details.isEmpty then [first] else [first, .ofText ("  " ++ e.details) .faint]

/-- The lines for the history, the latest activity first. -/
def historyLines (history : List Activity.Entry) : List Line :=
  if history.isEmpty then [placeholder "No activity yet"]
  else history.reverse.flatMap activityLines

/-! ## Source -/

/-- The line to look at: the current one, else the first breakpoint, else the first. -/
def focusLine (line : Nat) (breakpoints : List Nat) : Nat :=
  if 0 < line then line else breakpoints.head?.getD 1

def markStyle (breakpoint current : Bool) : Style :=
  match breakpoint, current with
  | true, true => { Style.strong .red with background? := some .yellow }
  | true, false => .strong .red
  | false, true => .strong .yellow
  | false, false => .plain

def codeLine (l : Source.DisplayLine) : Line :=
  match l.number? with
  | none => .ofText l.display (.colored .red)
  | some number =>
    .ofSpans [⟨Text.padNat ' ' 3 number ++ " ", .faint⟩,
      ⟨l.markers, markStyle l.breakpoint l.current⟩, ⟨" ", .plain⟩,
      ⟨l.text, if l.current then { background? := some .darkGray } else .plain⟩]

def ruleLength : Nat := 50

def variableLine (name value : String) : Line :=
  .ofSpans [⟨name, .strong .cyan⟩, ⟨" = ", .faint⟩, ⟨value, .colored .yellow⟩]

/-- The variables below a rule, if there are any. -/
def variableLines (vars : Variables) : List Line :=
  if vars.isEmpty then []
  else .ofText (String.ofList (List.replicate ruleLength '─')) .faint ::
    .ofText "Variables:" (.strong .white) :: vars.map fun (name, value) => variableLine name value

def codeTitle (p : Position) (v : Source.View) : String :=
  p.file.baseName ++ " (lines " ++ Nat.repr v.range.first ++ "-" ++ Nat.repr v.range.last ++ ")"

/-- The source around the current position, and the window then. A file that was modified is read
again. -/
def codeView (fs : FileSystem) (w : Source.CodeWindow) (s : Session) (p : Position) :
    Option Source.View × Source.CodeWindow :=
  let breakpoints := s.breakpoints.linesOf p.file
  (w.dropModified fs p.file).2.view fs p.file (focusLine p.line breakpoints) breakpoints
    (some p.line)

namespace Frame

/-- The frame for a session, and the window then. -/
def ofSession (fs : FileSystem) (w : Source.CodeWindow) (stats : Stats) (s : Session) :
    Except FrameError Frame × Source.CodeWindow :=
  let frame (codeTitle : String) (code : List Line) : Frame :=
    ⟨headerLine s stats, historyLines s.history, codeTitle, code⟩
  match s.position? with
  | none => (.ok (frame "Code View" [placeholder "No file loaded"]), w)
  | some p =>
    match codeView fs w s p with
    | (some v, w) =>
      (.ok (frame (Display.codeTitle p v) (v.lines.map codeLine ++ variableLines s.vars)), w)
    | (none, w) => (.error .overflow, w)

/-- The frame for a session behind a lock, and the window then. -/
def compose (fs : FileSystem) (w : Source.CodeWindow) (stats : Stats) (session : Guarded Session) :
    Except FrameError Frame × Source.CodeWindow :=
  match session.snapshot with
  | .error e => (.error (.session e), w)
  | .ok s => ofSession fs w stats s

end Frame

end DebugDashboard.Display
