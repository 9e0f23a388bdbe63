/-!
# Lines of a text

A line ends with a line feed, which is not part of it, nor is one carriage return directly
before that line feed. Text after the last line feed is a line of its own, unless it is empty.
-/

namespace DebugDashboard.Text

/-- The reversed line `line` without the carriage return that a line feed follows. -/
def dropReturn : List Char → List Char
  | '\r' :: line => line
  | line => line

/-- Splits the remaining characters into lines, given the lines before (last first) and the
characters of the current line (last first). -/
def linesFrom (done : List (List Char)) (line : List Char) : List Char → List (List Char)
  | [] => if line.isEmpty then done.reverse else (line.reverse :: done).reverse
  | c :: rest =>
    if c = '\n' then linesFrom ((dropReturn line).reverse :: done) [] rest
    else linesFrom done (c :: line) rest

/-- The lines of a text, without their line ends. -/
def lines (text : String) : List String :=
  (linesFrom [] [] text.toList).map String.ofList

end DebugDashboard.Text
