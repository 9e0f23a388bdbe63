import DebugDashboard.Config.Basic
import DebugDashboard.Display.Frame
import DebugDashboard.Proofs.Session.History
import DebugDashboard.Proofs.Source.Oversize

/-!
# The history on the screen

A frame shows the activities that the session keeps, the latest first, each with a line that says
what happened and when, and its details below it if there are any. There is a session for every
capacity up to the greatest, and a frame for every window that can show the file in which the
session stands; a window whose size is a signed word always can.
-/

namespace DebugDashboard.Display

open Source

/-- The line that says what happened, and when. -/
def headLine (e : Activity.Entry) : Line :=
  .ofSpans [⟨(statusSign e.status).1 ++ " ", .strong (statusSign e.status).2⟩,
    ⟨e.tool, .strong .white⟩, ⟨" " ++ Time.clock e.time.millis, .faint⟩]

/-- The line below it. -/
def detailsLine (e : Activity.Entry) : Line := .ofText ("  " ++ e.details) .faint

theorem activityLines_eq (e : Activity.Entry) :
    activityLines e = headLine e :: if e.details = "" then [] else [detailsLine e] := by
  rw [activityLines]
  simp only [String.isEmpty_iff]
  split <;> rfl

theorem historyLines_eq (history : List Activity.Entry) :
    historyLines history =
      if history = [] then [placeholder "No activity yet"]
      else history.reverse.flatMap fun e =>
        headLine e :: if e.details = "" then [] else [detailsLine e] := by
  rw [historyLines, funext activityLines_eq]
  simp only [List.isEmpty_iff]

namespace Frame

/-- Whatever a frame shows of the source, it shows the history of its session. -/
theorem ofSession_activity {fs : FileSystem} {w w' : CodeWindow} {stats : Stats} {s : Session}
    {frame : Frame} (h : ofSession fs w stats s = (.ok frame, w')) :
    frame.activity = historyLines s.history := by
  unfold ofSession at h
  dsimp only at h
  split at h
  · cases h
    rfl
  · split at h
    · cases h
      rfl
    · cases h

/-- Whatever was asked of a window before, it has a frame for a session exactly if it can show the
file in which the session stands. -/
theorem exists_frame_iff {size : Nat} (hlimit : size < Word.limit) (margin : Nat)
    {calls : List CodeWindow.Call}
    (hcalls : Word.signedLimit ≤ size → ∀ call ∈ calls, call.Moderate) {fs : FileSystem}
    (stats : Stats) {s : Session} :
    let w := (CodeWindow.new size margin).run calls
    (∀ p, s.position? = some p → ∀ lines,
      (w.dropModified fs p.file).2.linesOf fs p.file = .ok lines → lines.length ≤ maxLines) →
    ((∃ frame w', ofSession fs w stats s = (.ok frame, w')) ↔
      ∀ p, s.position? = some p → (w.dropModified fs p.file).2.CanShow fs p.file
        (focusLine p.line (s.breakpoints.linesOf p.file))) := by
  intro w hmax
  unfold ofSession
  dsimp only
  cases hp : s.position? with
  | none => simp
  | some p =>
      have hviewport : (w.dropModified fs p.file).2.viewport = .new size margin :=
        CodeWindow.run_viewport _ calls
      have hsteady : size < Word.signedLimit →
          (w.dropModified fs p.file).2.Steady (.new size margin) := fun hsigned =>
        (CodeWindow.steady_run hsigned margin calls).dropModified fs p.file
      have htop : Word.signedLimit ≤ size → (w.dropModified fs p.file).2.FromTop := fun hlarge =>
        (CodeWindow.fromTop_run hlarge hlimit margin (hcalls hlarge)).dropModified fs p.file
      have hview := CodeWindow.exists_view_iff hlimit hviewport hsteady htop (hmax p hp)
        (focusLine p.line (s.breakpoints.linesOf p.file)) (s.breakpoints.linesOf p.file)
        (some p.line)
      simp only [Option.some.injEq, forall_eq']
      rw [← hview, codeView]
      constructor
      · rintro ⟨frame, w', hframe⟩
        split at hframe
        next hshown => exact ⟨_, _, hshown⟩
        · cases hframe
      · rintro ⟨shown, w', hshown⟩
        rw [hshown]
        exact ⟨_, _, rfl⟩

/-- After any records, the session keeps the latest activities that they report, as many as its
capacity says but at least one, and every frame shows these, the latest first. Which records report
none, and which of them take their time from the clock, can be told from each record alone. There is
a session unless its capacity exceeds the greatest, and a frame unless the session stands in a file
that the window cannot show. -/
theorem compose_shows_latest (capacity : Nat) (arrivals : List Arrival) :
    Session.ofCapacity capacity =
      (if capacity ≤ Session.maxCapacity then .ok (.withCapacity capacity)
      else .error (if capacity + 1 < Word.limit then .tooLarge else .overflow)) ∧
    (∀ begun, Session.ofCapacity capacity = .ok begun →
      let session := ((Tracker.new begun).receive arrivals).session
      let latest := Session.lastOf (max capacity 1) (arrivals.filterMap Arrival.entry?)
      ∃ s, session = .available s ∧ s.history = latest ∧
        (∀ fs w stats frame w', compose fs w stats session = (.ok frame, w') →
          frame.activity =
            if latest = [] then [placeholder "No activity yet"]
            else latest.reverse.flatMap fun e =>
              headLine e :: if e.details = "" then [] else [detailsLine e]) ∧
        ∀ (size margin : Nat) (calls : List CodeWindow.Call) (fs : FileSystem) (stats : Stats),
          let w := (CodeWindow.new size margin).run calls
          size < Word.limit →
          (Word.signedLimit ≤ size → ∀ call ∈ calls, call.Moderate) →
          (∀ file lines, (w.dropModified fs file).2.linesOf fs file = .ok lines →
            lines.length ≤ maxLines) →
          (size < Word.signedLimit → ∃ frame w', compose fs w stats session = (.ok frame, w')) ∧
          ((∃ frame w', compose fs w stats session = (.ok frame, w')) ↔
            ∀ p, s.position? = some p → (w.dropModified fs p.file).2.CanShow fs p.file
              (focusLine p.line (s.breakpoints.linesOf p.file)))) ∧
    (∀ (r : Record) (now : Int), r.entryAt? now = none ↔ r.Silent) ∧
    ∀ (r : Record) (now now' : Int),
      r.entryAt? now = (r.entryAt? now').map fun entry =>
        { entry with time := (r.time?.map .reported).getD (.clock now) } := by
  refine ⟨Session.ofCapacity_eq capacity, ?_, fun r now => Record.entryAt?_eq_none_iff,
    fun r now now' => r.entryAt?_eq_map now now'⟩
  intro begun hbegun session latest
  obtain rfl := Session.eq_of_ofCapacity hbegun
  obtain ⟨s, hs, -, hhistory⟩ := Tracker.receive_history capacity arrivals
  have hcompose : ∀ fs w stats, compose fs w stats session = ofSession fs w stats s := by
    intro fs w stats
    simp only [compose, session, hs, Guarded.snapshot]
  refine ⟨s, hs, hhistory, ?_, ?_⟩
  · intro fs w stats frame w' hframe
    rw [hcompose] at hframe
    rw [ofSession_activity hframe, hhistory, historyLines_eq]
  · intro size margin calls fs stats w hlimit hcalls hmax
    have hframe := exists_frame_iff hlimit margin hcalls stats (s := s) fun p _ => hmax p.file
    rw [hcompose]
    refine ⟨fun hsigned => hframe.mpr fun p _ => ?_, hframe⟩
    exact CodeWindow.canShow_of_lt (CodeWindow.run_viewport _ calls) hsigned fs p.file _

/-! ### A hit behind a call -/

/-- A call, a hit of a breakpoint, and an output without a text. -/
def callAndHit : List Arrival :=
  [Tracker.bare .toolCall [],
    Tracker.bare .debugBreakpoint [("event", .string "hit"), ("file", .string "/m.py"),
      ("line", .number (.integer 2))],
    Tracker.bare .debugOutput []]

/-- With room for one activity only the hit is shown. There is no room for as many activities as a
signed word can count, though a configuration may ask for it. -/
theorem compose_shows_latest_hit :
    let fs := CodeWindow.singleFile "m.py" [97, 10, 98, 10, 99] 1
    let w := (CodeWindow.new 3 1).run []
    let hit : Activity.Entry := ⟨"breakpoint", .info, "Hit breakpoint at line 2", .clock 0⟩
    Session.ofCapacity 1 = .ok (.withCapacity 1) ∧ 3 < Word.limit ∧
      (Word.signedLimit ≤ 3 → ∀ call ∈ ([] : List CodeWindow.Call), call.Moderate) ∧
      (∀ file lines, (w.dropModified fs file).2.linesOf fs file = .ok lines →
        lines.length ≤ maxLines) ∧
      (∃ frame w', compose fs w {} ((Tracker.new (.withCapacity 1)).receive callAndHit).session =
          (.ok frame, w') ∧
        frame.activity = [headLine hit, detailsLine hit]) ∧
      Config.validate { state := { activityCapacity := Word.signedLimit - 1 } } = .ok () ∧
      Session.ofCapacity (Word.signedLimit - 1) = .error .tooLarge := by
  intro fs w hit
  have hcontent : ∀ inode, (Text.lines (decode (fs.content inode)).1).length ≤ maxLines
    | 0 => by decide +kernel
    | 1 => by decide +kernel
    | inode + 2 => by
        have hnone : fs.content (inode + 2) = [] := rfl
        rw [hnone]
        decide +kernel
  have hmax : ∀ file lines, (w.dropModified fs file).2.linesOf fs file = .ok lines →
      lines.length ≤ maxLines := by
    intro file lines hlines
    obtain ⟨inode, rfl⟩ := exists_content_of_readLines (CodeWindow.readLines_of_new hlines)
    exact hcontent inode
  have hbegun : Session.ofCapacity 1 = .ok (.withCapacity 1) := rfl
  have hlimit : 3 < Word.limit := by decide
  have hcalls : Word.signedLimit ≤ 3 → ∀ call ∈ ([] : List CodeWindow.Call), call.Moderate :=
    fun _ _ hcall => absurd hcall List.not_mem_nil
  obtain ⟨-, hone, -⟩ := compose_shows_latest 1 callAndHit
  obtain ⟨s, -, -, hshows, hexists⟩ := hone _ hbegun
  obtain ⟨hsigned, -⟩ := hexists 3 1 [] fs {} hlimit hcalls hmax
  obtain ⟨frame, w', hframe⟩ := hsigned (by decide)
  obtain ⟨hlarge, -⟩ := compose_shows_latest (Word.signedLimit - 1) []
  refine ⟨hbegun, hlimit, hcalls, hmax, ⟨frame, w', hframe, ?_⟩, by decide, hlarge.trans ?_⟩
  · rw [hshows _ _ _ _ _ hframe]
    decide +kernel
  · rw [if_neg (by decide), if_pos (by decide)]

end Frame

end DebugDashboard.Display
