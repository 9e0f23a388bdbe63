import DebugDashboard.Proofs.Display.History
import DebugDashboard.Proofs.Session.Marks
import DebugDashboard.Proofs.Session.Variables
import DebugDashboard.Proofs.Source.Rows

/-!
# The marks of the source on the screen

A frame shows lines of the file in which the session stands. The line where it stands is marked once
if the file has it, and a line has the mark of a breakpoint exactly if one was set there and has not
been cleared since. The variables stand below, in the order of their names.
-/

namespace DebugDashboard.Display

open Source

/-- The panel shows consecutive lines of a file with their numbers and marks, and variables below
them. The line of the file that is nearest to the position is shown. It is marked as the current one
if the position is in it, and no other line is. -/
structure Panel (past : Past) (p : Position) (lines : List String) (vars : Variables)
    (rows : List DisplayLine) (code : List Line) : Prop where
  parts : code = rows.map codeLine ++ variableLines vars
  numbers : ∃ first, rows.map (·.number?) = (List.range' first rows.length).map some
  nearest : some (min p.line lines.length) ∈ rows.map (·.number?)
  current : (rows.filter (·.current)).map (·.number?) =
    if p.line ≤ lines.length then [some p.line] else []
  row : ∀ row ∈ rows, ∃ n, 1 ≤ n ∧ row.number? = some n ∧ lines[n - 1]? = some row.text ∧
    (row.breakpoint = true ↔ past.HasBreakpoint p.file n) ∧
    (codeLine row).spans.map (·.text) = [Text.padNat ' ' 3 n ++ " ",
      (if row.breakpoint then "●" else " ") ++ (if row.current then "→" else " "), " ", row.text]
  below : vars ≠ [] → ∃ above, code = above ++ vars.map fun v => variableLine v.1 v.2

theorem exists_variableLines {vars : Variables} (hvars : vars ≠ []) :
    ∃ above, variableLines vars = above ++ vars.map fun v => variableLine v.1 v.2 := by
  have hempty : ¬ vars.isEmpty = true := by simpa using hvars
  rw [variableLines, if_neg hempty]
  exact ⟨[.ofText _ .faint, .ofText _ (.strong .white)], rfl⟩

/-- Lines of the file that hold the one nearest to the position make a panel. -/
theorem panel_of_rows {past : Past} {s : Session} {p : Position} {lines : List String}
    {r : LineRange}
    (hhas : ∀ file line, s.breakpoints.has file line = true ↔ past.HasBreakpoint file line)
    (hpos : 0 < p.line)
    (hr : Viewport.Holds r (Viewport.clampFocus p.line lines.length) lines.length) :
    let rows := CodeWindow.rows (s.breakpoints.linesOf p.file) (some p.line) r.first
      ((lines.take r.last).drop (r.first - 1))
    Panel past p lines s.vars rows (rows.map codeLine ++ variableLines s.vars) := by
  intro rows
  obtain ⟨hfirst, habove, hbelow, hlast⟩ := hr
  rw [Viewport.clampFocus] at habove hbelow
  have hnumbers := CodeWindow.map_number?_rows (s.breakpoints.linesOf p.file) (some p.line) r.first
    ((lines.take r.last).drop (r.first - 1))
  have hlength : rows.length = ((lines.take r.last).drop (r.first - 1)).length := by
    simpa using congrArg List.length hnumbers
  refine ⟨rfl, ⟨r.first, ?_⟩, ?_, ?_, ?_, ?_⟩
  · rw [hlength]
    exact hnumbers
  · rw [hnumbers, List.length_drop, List.length_take]
    refine List.mem_map_of_mem (List.mem_range'_1.mpr ?_)
    omega
  · rw [CodeWindow.filter_current_rows, List.length_drop, List.length_take]
    congr 1
    simp only [eq_iff_iff]
    omega
  · intro row hrow
    obtain ⟨n, text, hn, htext, rfl⟩ := CodeWindow.exists_line_of_mem_rows hfirst hrow
    refine ⟨n, hn, rfl, htext, hhas p.file n, rfl⟩
  · intro hvars
    obtain ⟨above, hlines⟩ := exists_variableLines hvars
    exact ⟨rows.map codeLine ++ above, by rw [hlines, List.append_assoc]⟩

namespace Frame

/-- The frame of a session that stands in a file is made from a view of the file. -/
theorem ofSession_code {fs : FileSystem} {w w' : CodeWindow} {stats : Stats} {s : Session}
    {p : Position} (hp : s.position? = some p) {frame : Frame}
    (h : ofSession fs w stats s = (.ok frame, w')) :
    ∃ v, codeView fs w s p = (some v, w') ∧
      frame.code = v.lines.map codeLine ++ variableLines s.vars := by
  simp only [ofSession, hp] at h
  split at h
  next v next hview =>
    cases h
    exact ⟨v, hview, rfl⟩
  · cases h

/-- Whatever was asked of a window before, if it has the file as it is, its view of the file is a
panel. -/
theorem compose_panel {past : Past} {s : Session} (hrecounts : s.Recounts past)
    (hhas : ∀ file line, s.breakpoints.has file line = true ↔ past.HasBreakpoint file line)
    {p : Position} (hp : s.position? = some p) {fs : FileSystem} {size margin : Nat}
    (hsize : size < Word.limit) {calls : List CodeWindow.Call}
    (hcalls : ∀ call ∈ calls, call.TimeTells fs (CodeWindow.resolve fs p.file))
    {lines : List String} (hlines : readLines fs (CodeWindow.resolve fs p.file) = .ok lines)
    (hne : lines ≠ []) (hmax : lines.length ≤ maxLines) {stats : Stats} {frame : Frame}
    {w' : CodeWindow}
    (hframe : ofSession fs ((CodeWindow.new size margin).run calls) stats s = (.ok frame, w')) :
    ∃ rows, Panel past p lines s.vars rows frame.code := by
  have hpos := hrecounts.position_pos hp
  obtain ⟨shown, hview, hcode⟩ := ofSession_code hp hframe
  rw [codeView, focusLine, if_pos hpos] at hview
  set w := (CodeWindow.new size margin).run calls
  have hviewport : (w.dropModified fs p.file).2.viewport = .new size margin :=
    CodeWindow.run_viewport (.new size margin) calls
  have hsteady : size < Word.signedLimit →
      (w.dropModified fs p.file).2.Steady (.new size margin) := fun hsigned =>
    (CodeWindow.steady_run hsigned margin calls).dropModified fs p.file
  obtain ⟨r, hr, hrows⟩ := CodeWindow.exists_rows_of_view hsize hviewport hsteady
    ((CodeWindow.linesOf_run hcalls).trans hlines) hne hmax hview
  rw [hcode, hrows]
  exact ⟨_, panel_of_rows hhas hpos hr⟩

/-- There is a frame of a session that stands in a file exactly if the lines around its position can
be told, whatever was asked of the window before. -/
theorem exists_frame_iff_fits {s : Session} {p : Position} (hp : s.position? = some p)
    (hpos : 0 < p.line) {fs : FileSystem} {size : Nat} (hlimit : size < Word.limit) (margin : Nat)
    {calls : List CodeWindow.Call}
    (hcalls : ∀ call ∈ calls, call.TimeTells fs (CodeWindow.resolve fs p.file))
    (hmoderate : Word.signedLimit ≤ size → ∀ call ∈ calls, call.Moderate) {lines : List String}
    (hlines : readLines fs (CodeWindow.resolve fs p.file) = .ok lines) (hne : lines ≠ [])
    (hmax : lines.length ≤ maxLines) (stats : Stats) :
    let w := (CodeWindow.new size margin).run calls
    (∃ frame w', ofSession fs w stats s = (.ok frame, w')) ↔
      w.viewport.Fits (w.remembered? (CodeWindow.resolve fs p.file)) (min p.line lines.length) := by
  intro w
  have hread : (w.dropModified fs p.file).2.linesOf fs p.file = .ok lines :=
    (CodeWindow.linesOf_run hcalls).trans hlines
  have hbound : ∀ p', s.position? = some p' → ∀ ls,
      (w.dropModified fs p'.file).2.linesOf fs p'.file = .ok ls → ls.length ≤ maxLines := by
    intro p' hp' ls hls
    obtain rfl : p = p' := Option.some.inj (hp.symm.trans hp')
    rw [hread] at hls
    cases hls
    exact hmax
  rw [exists_frame_iff hlimit margin hmoderate stats hbound]
  simp only [hp, Option.some.injEq, forall_eq', focusLine, if_pos hpos]
  rw [CodeWindow.canShow_iff hread hne, Viewport.clampFocus, Nat.max_eq_left hpos]
  rfl

/-- After any records of a session, the marks on the screen tell what the records told: where it
stands, and which breakpoints were set and not cleared since. Before, anything may have been asked
of the window, while the files stood as they stand now, or changed together with their times. There
is a frame if and only if the lines around the position can be told, as they always can be if the
size of the window is a signed word. -/
theorem compose_marks_truly {capacity : Nat} {begun : Session}
    (hbegun : Session.ofCapacity capacity = .ok begun) (past : Past) :
    let session := ((Tracker.new begun).receive past.reverse).session
    ∃ s, session = .available s ∧ s.Recounts past ∧ s.vars.Ascending ∧
      ∀ (p : Position) (fs : FileSystem) (size margin : Nat) (calls : List CodeWindow.Call)
        (lines : List String) (stats : Stats),
        s.position? = some p →
        size < Word.limit →
        (∀ call ∈ calls,
          call.Finds fs ∨ call.TimeTells fs (CodeWindow.resolve fs p.file)) →
        readLines fs (CodeWindow.resolve fs p.file) = .ok lines →
        lines ≠ [] →
        lines.length ≤ maxLines →
        let w := (CodeWindow.new size margin).run calls
        let frameOf := compose fs w stats session
        (size < Word.signedLimit → ∃ frame w', frameOf = (.ok frame, w')) ∧
        ((Word.signedLimit ≤ size → ∀ call ∈ calls, call.Moderate) →
          ((∃ frame w', frameOf = (.ok frame, w')) ↔
            w.viewport.Fits (w.remembered? (CodeWindow.resolve fs p.file))
              (min p.line lines.length))) ∧
        ∀ frame w', frameOf = (.ok frame, w') →
          ∃ rows, Panel past p lines s.vars rows frame.code := by
  intro session
  obtain rfl := Session.eq_of_ofCapacity hbegun
  obtain ⟨s, hs, hrecounts, -, hhas⟩ := Tracker.after_breakpoints capacity past
  have hsession : session = .available s := hs
  refine ⟨s, hsession, hrecounts, hrecounts.ascending, ?_⟩
  intro p fs size margin calls lines stats hp hlimit hcalls hlines hne hmax w
  have htells : ∀ call ∈ calls, call.TimeTells fs (CodeWindow.resolve fs p.file) := by
    intro call hcall
    rcases hcalls call hcall with hfinds | htells
    · exact hfinds.timeTells _
    · exact htells
  have hframe := fun hmoderate =>
    exists_frame_iff_fits hp (hrecounts.position_pos hp) hlimit margin htells hmoderate hlines hne
      hmax stats
  rw [hsession]
  refine ⟨fun hsigned => ?_, hframe, fun frame w' hshown => ?_⟩
  · have hviewport : w.viewport = .new size margin := CodeWindow.run_viewport _ calls
    refine (hframe fun hlarge => absurd hsigned (Nat.not_lt.mpr hlarge)).mpr (.inl ?_)
    rw [hviewport]
    exact (Viewport.sound_new hsigned margin).size
  · exact compose_panel hrecounts hhas hp hlimit htells hlines hne hmax hshown

/-! ### Spellings of one file -/

/-- A file is written in three ways: two breakpoints are set in it, and one of them is removed. -/
def marking : Past :=
  [Tracker.bare .debugBreakpoint [("event", .string "removed"), ("file", .string "//m.py"),
      ("line", .number (.integer 1))],
    Tracker.bare .debugVariables [("variables", .array
      [.object [("name", .string "y"), ("value", .string "2")],
        .object [("name", .string "x"), ("value", .string "1")]])],
    Tracker.bare .debugBreakpoint [("event", .string "hit"), ("file", .string "/m.py"),
      ("line", .number (.integer 2))],
    Tracker.bare .debugBreakpoint [("event", .string "set"), ("file", .string "/src/../m.py"),
      ("line", .number (.integer 2))],
    Tracker.bare .debugBreakpoint [("event", .string "set"), ("file", .string "/m.py"),
      ("line", .number (.integer 1))]]

/-- The session stands at the breakpoint that is left. A window with the first size that is no
signed word has no frame. -/
theorem compose_marks_truly_spelled :
    let fs := CodeWindow.singleFile "m.py" [97, 10, 98, 10, 99] 1
    let p : Position := ⟨⟨"/m.py"⟩, 2⟩
    let calls : List CodeWindow.Call := [.view fs ⟨"m.py"⟩ 3 [] none]
    let begun := Session.withCapacity 5
    let session := ((Tracker.new begun).receive marking.reverse).session
    let frameOf := fun size => compose fs ((CodeWindow.new size 0).run calls) {} session
    Session.ofCapacity 5 = .ok begun ∧ ∃ s, session = .available s ∧ s.position? = some p ∧
      2 < Word.limit ∧ Word.signedLimit < Word.limit ∧
      (∀ call ∈ calls, call.Finds fs ∨ call.TimeTells fs (CodeWindow.resolve fs p.file)) ∧
      (∀ call ∈ calls, call.Moderate) ∧
      readLines fs (CodeWindow.resolve fs p.file) = .ok ["a", "b", "c"] ∧
      ["a", "b", "c"] ≠ [] ∧ ["a", "b", "c"].length ≤ maxLines ∧
      (∃ frame w' rows, frameOf 2 = (.ok frame, w') ∧
        Panel marking p ["a", "b", "c"] [("x", "1"), ("y", "2")] rows frame.code) ∧
      ¬ ∃ frame w', frameOf Word.signedLimit = (.ok frame, w') := by
  intro fs p calls begun session frameOf
  have hbegun : Session.ofCapacity 5 = .ok begun := rfl
  obtain ⟨s, hs, -, -, hmarks⟩ := compose_marks_truly hbegun marking
  have hvalue : session.snapshot.toOption.map
      (fun s => (s.position?, s.vars)) = some (some p, [("x", "1"), ("y", "2")]) := by
    decide +kernel
  rw [show session = .available s from hs] at hvalue
  obtain ⟨hp, hvars⟩ := Prod.mk.inj (Option.some.inj hvalue)
  have hcalls : ∀ call ∈ calls,
      call.Finds fs ∨ call.TimeTells fs (CodeWindow.resolve fs p.file) := by
    intro call hcall
    obtain rfl := List.mem_singleton.mp hcall
    exact .inl rfl
  have hlines : readLines fs (CodeWindow.resolve fs p.file) = .ok ["a", "b", "c"] := by
    decide +kernel
  have hmax : ["a", "b", "c"].length ≤ maxLines := by decide
  have hmoderate : ∀ call ∈ calls, call.Moderate := by
    intro call hcall
    obtain rfl := List.mem_singleton.mp hcall
    have hread : readLines fs (CodeWindow.resolve fs ⟨"m.py"⟩) = .ok ["a", "b", "c"] := by
      decide +kernel
    intro lines hlines
    rw [hread] at hlines
    cases hlines
    exact hmax
  obtain ⟨hexists, -, hpanel⟩ :=
    hmarks p fs 2 0 calls _ {} hp (by decide) hcalls hlines (by decide) hmax
  obtain ⟨frame, w', hframe⟩ := hexists (by decide)
  obtain ⟨rows, hrows⟩ := hpanel frame w' hframe
  rw [hvars] at hrows
  have hlimit : Word.signedLimit < Word.limit := by decide
  obtain ⟨-, hlarge, -⟩ :=
    hmarks p fs Word.signedLimit 0 calls _ {} hp hlimit hcalls hlines (by decide) hmax
  refine ⟨hbegun, s, hs, hp, by decide, hlimit, hcalls, hmoderate, hlines, by decide, hmax,
    ⟨frame, w', rows, hframe, hrows⟩, fun hfits => ?_⟩
  rcases (hlarge fun _ => hmoderate).mp hfits with hsmall | ⟨hfar, -⟩
  · exact absurd hsmall (by decide)
  · exact absurd hfar (by decide)

end Frame

end DebugDashboard.Display
