import DebugDashboard.Display.Screen

/-!
# The board

The board is the part of the dashboard that the user works with: it draws frames and takes keys.
Some keys end it, and one makes it read all source files again.
-/

namespace DebugDashboard

/-- The keys that the board knows, and the others. -/
inductive Key where
  | character (c : Char)
  | escape
  | other
  deriving Repr, DecidableEq

/-- What is done to a key. -/
inductive KeyAction where
  | press
  | repeated
  | release
  deriving Repr, DecidableEq

/-- An event of the keyboard. -/
structure KeyEvent where
  key : Key
  control : Bool := false
  action : KeyAction := .press
  deriving Repr, DecidableEq

/-- What a key asks for. -/
inductive Command where
  | quit
  | reload
  | nothing
  deriving Repr, DecidableEq

/-- What an event asks for. Only pressing a key counts. -/
def KeyEvent.command (e : KeyEvent) : Command :=
  if e.action ≠ .press then .nothing
  else match e.key with
    | .escape => .quit
    | .character 'q' => .quit
    | .character 'c' => if e.control then .quit else .nothing
    | .character 'r' => .reload
    | _ => .nothing

/-- The board. -/
structure Board where
  window : Source.CodeWindow
  /-- Whether the user has ended it. -/
  ended : Bool := false
  deriving Repr, DecidableEq

namespace Board

def perform (b : Board) : Command → Board
  | .quit => { b with ended := true }
  | .reload => { b with window := b.window.forgetAll }
  | .nothing => b

def handleKey (b : Board) (e : KeyEvent) : Board := b.perform e.command

/-- The screen that shows the session, and the board then. -/
def draw (b : Board) (fs : FileSystem) (session : Guarded Session) (stats : Stats)
    (width height : Nat) : Display.Grid × Board :=
  let (result, window) := Display.Frame.compose fs b.window stats session
  (Display.Screen.ofResult width height result, { b with window := window })

end Board

end DebugDashboard
