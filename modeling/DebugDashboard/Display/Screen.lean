import DebugDashboard.Display.Frame
import DebugDashboard.Text.Wrap

/-!
# The screen

A screen is a grid of cells. A frame fills it with three bordered panels, the header above the
history and the source. A line that is too long is cut at the border of its panel or goes on in
further rows; what does not fit in above the lower border is dropped. Clusters without columns are
left out in a panel, and share the cell of the cluster before them in a title.
-/

namespace DebugDashboard.Display

/-- What stands in one cell. -/
abbrev Cell := String

/-- The cells of one row. -/
abbrev Row := List Cell

/-- The rows of a rectangle, from the top. -/
abbrev Grid := List Row

namespace Row

def blank : Cell := " "

/-- The cells of a cluster: it stands in the first one. A cluster without width is not shown. -/
def ofCluster (c : Text.Cluster) : Row :=
  if c.width = 0 then [] else String.ofList c.text :: List.replicate (c.width - 1) blank

/-- The row with clusters and, behind them, enough blanks for the given width. -/
def ofClusters (columns : Nat) (cs : List Text.Cluster) : Row :=
  cs.flatMap ofCluster ++ List.replicate (columns - Text.columnsOf cs) blank

/-- What is seen of the cells. A cell with more than one column covers the next one. -/
def visible (covered : Bool) : Row → Row
  | [] => []
  | cell :: rest => (if covered then blank else cell) :: visible (1 < Text.width cell.toList) rest

def text (r : Row) : String := String.join (visible false r)

/-- The row with blanks in the cells that a cluster at column `x` covers besides its first. -/
def hide (x columns : Nat) (r : Row) : Row :=
  (List.range (columns - 1)).foldl (fun r i => r.set (x + 1 + i) blank) r

/-- The row with clusters from column `x` on, none of them beyond `right`. Those in the first column
share its cell, and one without columns shares the cell before it. -/
def drawAt (left right : Nat) : Nat → List Text.Cluster → Row → Row
  | _, [], r => r
  | x, c :: rest, r =>
    if right < x + c.width then r
    else
      let symbol := String.ofList c.text
      let r :=
        if x = left then r.modify left (· ++ symbol)
        else if c.width = 0 then r.modify (x - 1) (· ++ symbol)
        else r.set x symbol
      drawAt left right (x + c.width) rest (hide x c.width r)

/-- The row with clusters from column `left` on, none of them beyond `right`. -/
def draw (left right : Nat) (cs : List Text.Cluster) (r : Row) : Row :=
  match cs with
  | [] => r
  | c :: _ =>
    if left < right && left + c.width ≤ right then drawAt left right left cs (r.set left "") else r

end Row

/-- The clusters of a span. Line feeds are left out. -/
def Span.clusters (s : Span) : List Text.Cluster :=
  (Text.clusters s.text.toList).filter (·.text ≠ ['\n'])

/-- The columns of a span as a whole. Its clusters by themselves may take more. -/
def Span.width (s : Span) : Nat := Text.width s.text.toList

/-- The clusters of a line, span after span. -/
def Line.clusters (l : Line) : List Text.Cluster := l.spans.flatMap (·.clusters)

def Line.width (l : Line) : Nat := l.spans.foldl (fun n s => n + s.width) 0

/-- The row with a line from its first column on, span after span, within the columns of the line as
a whole. Spans without columns are left out. -/
def Row.drawLine (l : Line) (r : Row) : Row :=
  let right := min l.width r.length
  (l.spans.foldl (fun (left, r) s =>
    (left + s.width, if s.width = 0 then r else draw left right s.clusters r)) (0, r)).2

/-- What becomes of lines that are too long for their panel. -/
inductive Flow where
  | cut
  | wrap
  deriving Repr, DecidableEq

/-- The rows of a line in the given number of columns. -/
def Flow.rows (flow : Flow) (columns : Nat) (l : Line) : List Row :=
  let parts := match flow with
    | .cut => [Text.cut columns l.clusters]
    | .wrap => Text.wrap columns l.clusters
  parts.map (Row.ofClusters columns)

namespace Grid

def ofLines (flow : Flow) (width height : Nat) (lines : List Line) : Grid :=
  let rows := (lines.flatMap (flow.rows width)).take height
  rows ++ List.replicate (height - rows.length) (List.replicate width Row.blank)

/-- The sequence of two ends with `inner` between them, cut to a length. -/
def between {α : Type} (length : Nat) (first last : α) (inner : List α) : List α :=
  (first :: (inner ++ [last])).take length

def panel (flow : Flow) (width height : Nat) (title : Line) (lines : List Line) : Grid :=
  let columns := width - 2
  between height
    (between width "┌" "┐" (Row.drawLine title (List.replicate columns "─")))
    (between width "└" "┘" (List.replicate columns "─"))
    ((ofLines flow columns (height - 2) lines).map (between width "│" "│"))

def beside (g h : Grid) : Grid := List.zipWith (· ++ ·) g h

end Grid

namespace Screen

def headerHeight (height : Nat) : Nat := min 3 height

/-- The columns of the history: two fifths, rounded. -/
def historyWidth (width : Nat) : Nat := (4 * width + 5) / 10

def withHeader (width height : Nat) (header : Line) (body : Nat → Grid) : Grid :=
  let top := headerHeight height
  Grid.panel .cut width top (.ofSpans []) [header] ++ body (height - top)

def ofFrame (width height : Nat) (f : Frame) : Grid :=
  let left := historyWidth width
  withHeader width height f.header fun rest =>
    Grid.beside
      (Grid.panel .wrap left rest (.ofText "MCP Tool Activity" (.strong .blue)) f.activity)
      (Grid.panel .cut (width - left) rest (.ofText f.codeTitle (.strong .green)) f.code)

def ofMessage (width height : Nat) (message : String) : Grid :=
  withHeader width height (.ofText title (.strong .blue)) fun rest =>
    Grid.panel .wrap width rest (.ofText "Error" .plain)
      ((Text.lines ("Error updating display: " ++ message)).map fun l => .ofSpans [⟨l, .plain⟩])

/-- The screen for a frame or for the error in its place. -/
def ofResult (width height : Nat) : Except FrameError Frame → Grid
  | .ok f => ofFrame width height f
  | .error e => ofMessage width height e.message

end Screen

end DebugDashboard.Display
