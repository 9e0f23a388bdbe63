import DebugDashboard.Proofs.Display.Caching
import DebugDashboard.Proofs.Source.Repetition

/-!
# Frames that are drawn again

While the files and the session stay as they are, a second frame is the first one once more, and the
window is left as the first frame left it. Only a window of the greatest size that shows lines of a
file has no second frame: the line behind the window leaves its word.
-/

namespace DebugDashboard.Display

open Source

variable {fs : FileSystem} {w : CodeWindow} {s : Session} {p : Position}

/-- The source is viewed again as it was viewed before. -/
theorem codeView_again {size margin : Nat} (hlimit : size < Word.limit)
    (hviewport : w.viewport = .new size margin)
    (hsteady : size < Word.signedLimit → w.Steady (.new size margin))
    (hmax : ∀ lines, (w.dropModified fs p.file).2.linesOf fs p.file = .ok lines →
      lines.length ≤ maxLines) :
    codeView fs (codeView fs w s p).2 s p =
      (if size + 1 = Word.limit ∧ (w.dropModified fs p.file).2.hasLines fs p.file = true then none
        else (codeView fs w s p).1, (codeView fs w s p).2) := by
  have hgiven : (w.dropModified fs p.file).2.viewport = .new size margin := hviewport
  have hdropped : size < Word.signedLimit →
      (w.dropModified fs p.file).2.Steady (.new size margin) := fun hsigned =>
    (hsteady hsigned).dropModified fs p.file
  have hagain := CodeWindow.dropModified_again w fs p.file
    (focusLine p.line (s.breakpoints.linesOf p.file)) (s.breakpoints.linesOf p.file) (some p.line)
  simp only [codeView, hagain]
  exact CodeWindow.view_twice hlimit hgiven hdropped hmax _ _ _

namespace Frame

/-- What the frame shows of a session that stands in a file is told by the view of the file. -/
theorem exists_ofView (hp : s.position? = some p) (fs : FileSystem) (stats : Stats) :
    ∃ frame : Source.View → Frame, ∀ w, ofSession fs w stats s =
      (((codeView fs w s p).1.map frame).elim (.error .overflow) .ok, (codeView fs w s p).2) := by
  refine ⟨fun v => ⟨headerLine s stats, historyLines s.history, Display.codeTitle p v,
    v.lines.map codeLine ++ variableLines s.vars⟩, fun w => ?_⟩
  simp only [ofSession, hp]
  split
  next hview => rw [hview]; rfl
  next hview => rw [hview]; rfl

end Frame

namespace Moment

/-- Whether the window has lines of a file to show, once what was modified is dropped. -/
def showsLines (m : Moment) (w : CodeWindow) : Bool :=
  m.position?.any fun p => (w.dropModified m.files p.file).2.hasLines m.files p.file

/-- Whatever was asked of a window before, a second frame of the same moment leaves it as the first
one did, and is that frame. Only where a window of the greatest size shows lines of a file, the
second frame fails. -/
theorem compose_twice {size : Nat} (hlimit : size < Word.limit) (margin : Nat)
    (calls : List CodeWindow.Call) (m : Moment)
    (hmax : ∀ p ∈ m.position?, ∀ lines,
      (((CodeWindow.new size margin).run calls).dropModified m.files p.file).2.linesOf m.files
        p.file = .ok lines → lines.length ≤ maxLines) :
    let w := (CodeWindow.new size margin).run calls
    m.compose (m.compose w).2 =
      (if size + 1 = Word.limit ∧ m.showsLines w = true then .error .overflow
        else (m.compose w).1, (m.compose w).2) := by
  intro w
  obtain ⟨fs, stats, session⟩ := m
  cases session with
  | poisoned => simp [compose, Frame.compose, Guarded.snapshot, showsLines, position?]
  | available s =>
      cases hp : s.position? with
      | none =>
          simp [compose, Frame.compose, Guarded.snapshot, Frame.ofSession, showsLines, position?,
            hp]
      | some p =>
          have hviewport : w.viewport = .new size margin := CodeWindow.run_viewport _ calls
          have hagain := codeView_again (s := s) hlimit hviewport
            (fun hsigned => CodeWindow.steady_run hsigned margin calls) (hmax p hp)
          obtain ⟨frame, hframe⟩ := Frame.exists_ofView hp fs stats
          have hshows : showsLines ⟨fs, stats, .available s⟩ w =
              (w.dropModified fs p.file).2.hasLines fs p.file := by
            simp [showsLines, position?, hp]
          simp only [compose, Frame.compose, Guarded.snapshot, hframe, hagain, hshows]
          split
          · rfl
          · rfl

/-- A window of the greatest size shows a file of two lines once. -/
theorem compose_twice_greatest :
    let m := Frame.atLink (CodeWindow.singleFile "l.py" [97, 10, 98] 1)
    let w := (CodeWindow.new (Word.limit - 1) 3).run []
    Word.limit - 1 < Word.limit ∧
      (∀ p ∈ m.position?, ∀ lines, (w.dropModified m.files p.file).2.linesOf m.files p.file =
        .ok lines → lines.length ≤ maxLines) ∧
      (m.compose w).1.toOption.map (·.codeTitle) = some "l.py (lines 1-2)" ∧
      m.compose (m.compose w).2 = (.error .overflow, (m.compose w).2) := by
  intro m w
  have hlimit : Word.limit - 1 < Word.limit := by decide
  have hread : (w.dropModified m.files ⟨"/l.py"⟩).2.linesOf m.files ⟨"/l.py"⟩ = .ok ["a", "b"] := by
    decide +kernel
  have hmax : ∀ p ∈ m.position?, ∀ lines,
      (w.dropModified m.files p.file).2.linesOf m.files p.file = .ok lines →
        lines.length ≤ maxLines := by
    rintro p hp lines hlines
    obtain rfl : ⟨⟨"/l.py"⟩, 2⟩ = p := Option.some.inj hp
    rw [hread] at hlines
    cases hlines
    decide
  refine ⟨hlimit, hmax, by decide +kernel, ?_⟩
  have hshows : m.showsLines w = true := by decide +kernel
  have hgreatest : Word.limit - 1 + 1 = Word.limit := by decide
  exact (compose_twice hlimit 3 [] m hmax).trans (by rw [if_pos ⟨hgreatest, hshows⟩])

end Moment

end DebugDashboard.Display
