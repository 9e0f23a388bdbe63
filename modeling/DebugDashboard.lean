import DebugDashboard.Main
import DebugDashboard.Proofs.Config.Margin
import DebugDashboard.Proofs.Config.Words
import DebugDashboard.Proofs.Display.Caching
import DebugDashboard.Proofs.Display.History
import DebugDashboard.Proofs.Display.Markers
import DebugDashboard.Proofs.Display.Redrawing
import DebugDashboard.Proofs.Duration
import DebugDashboard.Proofs.FileSystem.Built
import DebugDashboard.Proofs.FileSystem.Canonical
import DebugDashboard.Proofs.FileSystem.Forget
import DebugDashboard.Proofs.FileSystem.Nodes
import DebugDashboard.Proofs.FileSystem.Sound
import DebugDashboard.Proofs.FileSystem.Spelling
import DebugDashboard.Proofs.FileSystem.Tree
import DebugDashboard.Proofs.FileSystem.Walk
import DebugDashboard.Proofs.FileSystem.Ways
import DebugDashboard.Proofs.Log.Lines
import DebugDashboard.Proofs.Number.Rounding
import DebugDashboard.Proofs.Path.Lexical
import DebugDashboard.Proofs.Path.Normalise
import DebugDashboard.Proofs.Path.Parent
import DebugDashboard.Proofs.Session.Breakpoints
import DebugDashboard.Proofs.Session.Closed
import DebugDashboard.Proofs.Session.Files
import DebugDashboard.Proofs.Session.History
import DebugDashboard.Proofs.Session.LastWriter
import DebugDashboard.Proofs.Session.Marks
import DebugDashboard.Proofs.Session.Operations
import DebugDashboard.Proofs.Session.Pairing
import DebugDashboard.Proofs.Session.Past
import DebugDashboard.Proofs.Session.ReportedVariables
import DebugDashboard.Proofs.Session.Requests
import DebugDashboard.Proofs.Session.Undated
import DebugDashboard.Proofs.Session.Variables
import DebugDashboard.Proofs.Source.Cache
import DebugDashboard.Proofs.Source.Encoding
import DebugDashboard.Proofs.Source.Forgetting
import DebugDashboard.Proofs.Source.Repetition
import DebugDashboard.Proofs.Source.Rows
import DebugDashboard.Proofs.Source.Viewport
import DebugDashboard.Proofs.Source.Window
import DebugDashboard.Proofs.Tail.Accounting
import DebugDashboard.Proofs.Tail.Backlog
import DebugDashboard.Proofs.Tail.Crash
import DebugDashboard.Proofs.Tail.CursorCell
import DebugDashboard.Proofs.Tail.CursorFile
import DebugDashboard.Proofs.Tail.Draft
import DebugDashboard.Proofs.Tail.Growth
import DebugDashboard.Proofs.Tail.Interrupted
import DebugDashboard.Proofs.Tail.KeptReader
import DebugDashboard.Proofs.Tail.LineReader
import DebugDashboard.Proofs.Tail.Outcome
import DebugDashboard.Proofs.Tail.Pipeline
import DebugDashboard.Proofs.Tail.Poll
import DebugDashboard.Proofs.Tail.RestartOffset
import DebugDashboard.Proofs.Tail.Resumption
import DebugDashboard.Proofs.Tail.Rotation
import DebugDashboard.Proofs.Tail.Saves
import DebugDashboard.Proofs.Tail.Start
import DebugDashboard.Proofs.Tail.WholeLines
import DebugDashboard.Proofs.Text.Ascii
import DebugDashboard.Proofs.Text.Numeral
import DebugDashboard.Proofs.Text.Sequence
import DebugDashboard.Proofs.Text.Utf8
