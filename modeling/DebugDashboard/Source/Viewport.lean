import DebugDashboard.Number.Word

/-!
# Viewports

Which lines of a file are shown around a focus. Seen for the first time, the focus stands in the
middle. While it stays within the lines shown before and away from their edges, nothing moves; near
an edge the lines move just far enough to keep a margin.

Line numbers and sizes are words of 64 bits, and each step of the computation is checked to stay
within them.
-/

namespace DebugDashboard.Source

/-- Lines `first` to `last`, counted from one. -/
structure LineRange where
  first : Nat
  last : Nat
  deriving Repr, DecidableEq

/-- How many lines are shown, and how many of them lie between the focus and an edge. -/
structure Viewport where
  size : Nat
  margin : Nat
  deriving Repr, DecidableEq

namespace Viewport

/-- A viewport of at least one line, whose margins leave room for the focus. -/
def new (size margin : Nat) : Viewport :=
  let size := max size 1
  ⟨size, min margin ((size - 1) / 2)⟩

/-- The lines around a focus that is seen for the first time: centred, then moved into the file. -/
def centred (v : Viewport) (focus total : Nat) : Option LineRange := do
  let start ← Word.checkedSigned (Word.asSigned focus - Word.asSigned (v.size / 2))
  let stop ← Word.checkedSigned (start + Word.asSigned v.size)
  let stop ← Word.checkedSigned (stop - 1)
  if start < 1 then some ⟨1, min v.size total⟩
  else if Word.asSigned total < stop then
    let before ← Word.minus v.size 1
    some ⟨max (total - before) 1, total⟩
  else some ⟨start.toNat, stop.toNat⟩

/-- The first line that keeps the margin around a focus within the lines shown before. -/
def scrolledStart (v : Viewport) (shown : LineRange) (focus : Nat) : Option Nat := do
  let above ← Word.minus focus shown.first
  if above < v.margin then some (max (focus - v.margin) 1)
  else
    let below ← Word.minus shown.last focus
    if below < v.margin then
      let low ← Word.checked (focus + v.margin)
      let before ← Word.minus v.size 1
      some (max (low - before) 1)
    else some shown.first

/-- The lines shown next after others of the same file that hold the focus. -/
def scrolled (v : Viewport) (shown : LineRange) (focus total : Nat) : Option LineRange := do
  let start ← v.scrolledStart shown focus
  let stop ← Word.checked (start + v.size)
  let stop ← Word.minus stop 1
  let last := min stop total
  let before ← Word.minus v.size 1
  some ⟨max (last - before) 1, last⟩

/-- The line of the file that is nearest to the one asked for. -/
def clampFocus (focus total : Nat) : Nat := min (max focus 1) total

/-- The lines to show of a file with `total` lines, given those of it that were shown last. -/
def bounds (v : Viewport) (shown? : Option LineRange) (focus total : Nat) : Option LineRange := do
  let focus := clampFocus focus total
  let range ← v.centred focus total
  match shown? with
  | some shown =>
    if shown.first ≤ focus && focus ≤ shown.last then v.scrolled shown focus total else some range
  | none => some range

end Viewport

end DebugDashboard.Source
