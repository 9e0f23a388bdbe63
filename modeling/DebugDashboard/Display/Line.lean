import DebugDashboard.Display.Style
import DebugDashboard.Text.Line

/-!
# Styled lines

A line on the screen is made of spans, each in a style of its own over the style of the line.
-/

namespace DebugDashboard.Display

/-- A text in one style. -/
structure Span where
  text : String
  style : Style := .plain
  deriving Repr, DecidableEq

/-- One line on the screen. -/
structure Line where
  style : Style
  spans : List Span
  deriving Repr, DecidableEq

namespace Line

def ofSpans (spans : List Span) : Line := ⟨.plain, spans⟩

/-- A text as a line in a style; the lines of the text stand one after the other. -/
def ofText (text : String) (style : Style) : Line :=
  ⟨style, (Text.lines text).map fun part => { text := part }⟩

def text (l : Line) : String := String.join (l.spans.map (·.text))

end Line

end DebugDashboard.Display
