import DebugDashboard.Text.Blank
import DebugDashboard.Text.Cluster.Basic

/-!
# Wrapped text

A line that is too long for its columns goes on in further rows. A row ends behind a word if it
can; the blanks there are left out as far as they would still fit into the row. A word that is
longer than a row is cut.
-/

namespace DebugDashboard.Text

def columnsOf (cs : List Cluster) : Nat := cs.foldl (fun n c => n + c.width) 0

/-- Whether a row may end at a cluster. A no-break space does not end a row, a zero-width space
does. -/
def Cluster.isBreak (c : Cluster) : Bool :=
  c.text = ['\u200b'] || (c.text ≠ ['\u00a0'] && c.text.all isBlank)

/-- How far a line has been wrapped. -/
structure Wrapping where
  /-- The rows that are complete, the last one first. -/
  rows : List (List Cluster) := []
  /-- The words of the row that is not complete. -/
  row : List Cluster := []
  /-- The blanks behind them. -/
  gap : List Cluster := []
  /-- What there is of the next word. -/
  word : List Cluster := []
  /-- Whether the last cluster belongs to a word. -/
  inWord : Bool := false
  deriving Repr

namespace Wrapping

def joinWord (w : Wrapping) : Wrapping :=
  { w with row := w.row ++ w.gap ++ w.word, gap := [], word := [] }

/-- Whether the next cluster ends a word, or a row that is one long word so far. -/
def endsWord (w : Wrapping) (columns : Nat) (c : Cluster) : Bool :=
  (w.inWord && c.isBreak) ||
    (w.row.isEmpty && columns < columnsOf w.word + columnsOf w.gap + c.width)

def isFull (w : Wrapping) (columns : Nat) (c : Cluster) : Bool :=
  columns ≤ columnsOf w.row ||
    (0 < c.width && columns ≤ columnsOf w.row + columnsOf w.gap + columnsOf w.word)

/-- The clusters without those at the start that fit into the given number of columns. -/
def dropFitting : Nat → List Cluster → List Cluster
  | _, [] => []
  | columns, c :: rest =>
    if columns < c.width then c :: rest else dropFitting (columns - c.width) rest

def breakRow (w : Wrapping) (columns : Nat) : Wrapping :=
  { w with
    rows := w.row :: w.rows, row := [], gap := dropFitting (columns - columnsOf w.row) w.gap }

/-- Puts a cluster behind the row, to the blanks or to the word. -/
def put (w : Wrapping) (c : Cluster) : Wrapping :=
  if c.isBreak then { w with gap := w.gap ++ [c], inWord := false }
  else { w with word := w.word ++ [c], inWord := true }

/-- Takes one more cluster. One that is wider than a row is left out, and so is the first blank
behind a full row. -/
def push (columns : Nat) (w : Wrapping) (c : Cluster) : Wrapping :=
  if columns < c.width then w
  else
    let w := if w.endsWord columns c then w.joinWord else w
    if w.isFull columns c then
      let w := w.breakRow columns
      if c.isBreak && w.gap.isEmpty then w else w.put c
    else w.put c

/-- The rows at the end of the line, of which there is at least one. Blanks alone begin a row of
their own. -/
def finish (w : Wrapping) : List (List Cluster) :=
  let rows := if w.row.isEmpty && w.word.isEmpty && !w.gap.isEmpty then [] :: w.rows else w.rows
  let last := w.joinWord.row
  let rows := if last.isEmpty then rows else last :: rows
  if rows.isEmpty then [[]] else rows.reverse

end Wrapping

def wrap (columns : Nat) (cs : List Cluster) : List (List Cluster) :=
  (cs.foldl (Wrapping.push columns) {}).finish

/-- The part of a line that fits into the columns. Clusters wider than them are left out. -/
def cut (columns : Nat) (cs : List Cluster) : List Cluster :=
  go columns (cs.filter (·.width ≤ columns))
where
  go : Nat → List Cluster → List Cluster
    | _, [] => []
    | left, c :: rest => if left < c.width then [] else c :: go (left - c.width) rest

end DebugDashboard.Text
