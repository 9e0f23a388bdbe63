/-!
# Styles

How a text looks on the screen: its colours and its emphasis.
-/

namespace DebugDashboard.Display

/-- A colour of the terminal. -/
inductive Color where
  | black
  | red
  | green
  | yellow
  | blue
  | cyan
  | white
  | darkGray
  deriving Repr, DecidableEq

def Color.name : Color → String
  | black => "Black"
  | red => "Red"
  | green => "Green"
  | yellow => "Yellow"
  | blue => "Blue"
  | cyan => "Cyan"
  | white => "White"
  | darkGray => "DarkGray"

/-- A style; a missing colour is that of the surroundings. -/
structure Style where
  foreground? : Option Color := none
  background? : Option Color := none
  bold : Bool := false
  dim : Bool := false
  italic : Bool := false
  deriving Repr, DecidableEq

namespace Style

def plain : Style := {}

def strong (c : Color) : Style := { foreground? := some c, bold := true }

def colored (c : Color) : Style := { foreground? := some c }

def faint : Style := { dim := true }

def words (s : Style) : List String :=
  (s.foreground?.map fun c => "fg=" ++ c.name).toList ++
    (s.background?.map fun c => "bg=" ++ c.name).toList ++
    (if s.bold then ["bold"] else []) ++ (if s.dim then ["dim"] else []) ++
    (if s.italic then ["italic"] else [])

def describe (s : Style) : String := " ".intercalate s.words

end Style

end DebugDashboard.Display
