import DebugDashboard.Display.Frame
import DebugDashboard.Proofs.Source.Cache

/-!
# Frames do not show that files are kept

From one frame to the next, files are edited, removed and made again, links are turned, and the
session moves on. As long as the modification time of a file tells whether it still reads the same,
the frames are those of a window that keeps nothing of its files.
-/

namespace DebugDashboard

namespace Source.CodeWindow

variable {w w' : CodeWindow}

/-- The window without what it keeps of its files. -/
def uncached (w : CodeWindow) : CodeWindow := { w with cache := [] }

theorem shown?_uncached (w : CodeWindow) : w.uncached.shown? = w.shown? := rfl

theorem viewLines_uncached (hw : w.uncached = w'.uncached) (file : Path) (lines : List String)
    (focus : Nat) (breakpoints : List Nat) (current? : Option Nat) :
    (w.viewLines file lines focus breakpoints current?).map (fun r => (r.1, r.2.uncached)) =
      (w'.viewLines file lines focus breakpoints current?).map fun r => (r.1, r.2.uncached) := by
  obtain ⟨viewport, cache, shown?⟩ := w
  obtain ⟨viewport', cache', shown'?⟩ := w'
  obtain ⟨rfl, -, rfl⟩ := CodeWindow.mk.inj hw
  simp only [viewLines, Option.bind_eq_bind]
  cases viewport.bounds ((shown?.filter fun s => s.file.same file).map (·.range)) focus
    lines.length with
  | none => rfl
  | some range =>
      rw [Option.bind_some, Option.bind_some]
      cases slice? lines range with
      | none => rfl
      | some part => rfl

/-- A window that keeps nothing reads the file. -/
theorem linesOf_uncached (w : CodeWindow) (fs : FileSystem) (p : Path) :
    (w.uncached.dropModified fs p).2.linesOf fs p = readLines fs (resolve fs p) :=
  linesOf_dropModified fun _ hentry => absurd hentry List.not_mem_nil

/-- Windows that have the same lines of a file show the same of it. -/
theorem view_uncached (hw : w.uncached = w'.uncached) {fs : FileSystem} {p : Path}
    (hlines : w.linesOf fs p = w'.linesOf fs p) (focus : Nat) (breakpoints : List Nat)
    (current? : Option Nat) :
    (w.view fs p focus breakpoints current?).1 = (w'.view fs p focus breakpoints current?).1 ∧
      (w.view fs p focus breakpoints current?).2.uncached =
        (w'.view fs p focus breakpoints current?).2.uncached := by
  unfold linesOf at hlines
  unfold view
  dsimp only
  generalize w.cache.lines fs (resolve fs p) = read at hlines ⊢
  generalize w'.cache.lines fs (resolve fs p) = read' at hlines ⊢
  obtain ⟨result, cache⟩ := read
  obtain ⟨result', cache'⟩ := read'
  obtain rfl : result = result' := hlines
  cases result with
  | error e => exact ⟨rfl, hw⟩
  | ok lines =>
      have hcached : uncached { w with cache := cache } = uncached { w' with cache := cache' } := hw
      have hview := viewLines_uncached hcached (resolve fs p) lines focus breakpoints current?
      dsimp only
      split
      · exact ⟨rfl, hw⟩
      · generalize viewLines { w with cache := cache } (resolve fs p) lines focus breakpoints
          current? = shown at hview ⊢
        generalize viewLines { w' with cache := cache' } (resolve fs p) lines focus breakpoints
          current? = shown' at hview ⊢
        cases shown with
        | none =>
            obtain rfl := Option.map_eq_none_iff.mp hview.symm
            exact ⟨rfl, hw⟩
        | some r =>
            obtain ⟨r', rfl, hr⟩ := Option.map_eq_some_iff.mp hview.symm
            obtain ⟨hshown, hnext⟩ := Prod.mk.inj hr
            exact ⟨congrArg some hshown.symm, hnext.symm⟩

end Source.CodeWindow

namespace Display

open Source

/-- A moment at which a frame is composed: the files and the session as they are then. -/
structure Moment where
  files : FileSystem
  stats : Stats
  session : Guarded Session

namespace Moment

/-- The position that the frame shows, if there is one. -/
def position? (m : Moment) : Option Position :=
  match m.session with
  | .available s => s.position?
  | .poisoned => none

/-- What the frame asks of the window. -/
def calls (m : Moment) : List CodeWindow.Call :=
  match m.session with
  | .poisoned => []
  | .available s =>
    match s.position? with
    | none => []
    | some p =>
      [.dropModified m.files p.file,
        .view m.files p.file (focusLine p.line (s.breakpoints.linesOf p.file))
          (s.breakpoints.linesOf p.file) (some p.line)]

/-- If a later moment shows the same file, and the file has the modification time that it had
before, it reads as it did before. -/
def TimeTells (m later : Moment) : Prop :=
  ∀ p ∈ m.position?, ∀ p' ∈ later.position?,
    let file := CodeWindow.resolve m.files p.file
    let file' := CodeWindow.resolve later.files p'.file
    file.same file' = true → modified? m.files file = modified? later.files file' →
      ∀ lines ∈ (readLines m.files file).toOption, readLines later.files file' = .ok lines

instance (m later : Moment) : Decidable (m.TimeTells later) := by
  unfold TimeTells
  infer_instance

/-- The frame of a moment, and the window then. -/
def compose (m : Moment) (w : CodeWindow) : Except FrameError Frame × CodeWindow :=
  Frame.compose m.files w m.stats m.session

theorem compose_window (m : Moment) (w : CodeWindow) : (m.compose w).2 = w.run m.calls := by
  obtain ⟨fs, stats, session⟩ := m
  cases session with
  | poisoned => rfl
  | available s =>
      simp only [compose, Frame.compose, Guarded.snapshot, Frame.ofSession, calls]
      cases s.position? with
      | none => rfl
      | some p =>
          simp only [codeView, CodeWindow.run, List.foldl_cons, List.foldl_nil, CodeWindow.perform]
          split
          next hview => rw [hview]
          next hview => rw [hview]

/-- Windows that have the same lines of the file give the same frame. -/
theorem compose_uncached (m : Moment) {w w' : CodeWindow} (hw : w.uncached = w'.uncached)
    (hlines : ∀ p ∈ m.position?, (w.dropModified m.files p.file).2.linesOf m.files p.file =
      (w'.dropModified m.files p.file).2.linesOf m.files p.file) :
    (m.compose w).1 = (m.compose w').1 ∧
      (m.compose w).2.uncached = (m.compose w').2.uncached := by
  obtain ⟨fs, stats, session⟩ := m
  cases session with
  | poisoned => exact ⟨rfl, hw⟩
  | available s =>
      simp only [compose, Frame.compose, Guarded.snapshot, Frame.ofSession]
      cases hposition : s.position? with
      | none => exact ⟨rfl, hw⟩
      | some p =>
          have hdropped : (w.dropModified fs p.file).2.uncached =
              (w'.dropModified fs p.file).2.uncached := hw
          obtain ⟨hview, hnext⟩ := CodeWindow.view_uncached hdropped (hlines p hposition)
            (focusLine p.line (s.breakpoints.linesOf p.file)) (s.breakpoints.linesOf p.file)
            (some p.line)
          simp only [codeView]
          generalize (w.dropModified fs p.file).2.view fs p.file _ _ _ = shown at hview hnext ⊢
          generalize (w'.dropModified fs p.file).2.view fs p.file _ _ _ = shown' at hview hnext ⊢
          obtain ⟨view?, next⟩ := shown
          obtain ⟨view'?, next'⟩ := shown'
          obtain rfl : view? = view'? := hview
          cases view? with
          | none => exact ⟨rfl, hnext⟩
          | some view => exact ⟨rfl, hnext⟩

/-- What a frame asks of the window is told by the times at every later moment that they tell. -/
theorem TimeTells.calls {m later : Moment} (h : m.TimeTells later) {p : Position}
    (hp : p ∈ later.position?) :
    ∀ call ∈ m.calls, call.TimeTells later.files (CodeWindow.resolve later.files p.file) := by
  obtain ⟨fs, stats, session⟩ := m
  intro call hcall
  cases session with
  | poisoned => cases hcall
  | available s =>
      simp only [Moment.calls] at hcall
      split at hcall
      · cases hcall
      next shown hshown =>
        rcases List.mem_cons.mp hcall with rfl | hcall
        · trivial
        · obtain rfl := List.mem_singleton.mp hcall
          intro hsame htimes lines hread
          exact h shown hshown p hp hsame htimes lines (by rw [hread]; rfl)

end Moment

namespace Frame

/-- The frames of some moments, each with the lines that the window then remembers. Before each
frame, something is done to the window. -/
def composeEach (before : CodeWindow → CodeWindow) :
    CodeWindow → List Moment → List (Except FrameError Frame × Option Shown)
  | _, [] => []
  | w, m :: rest =>
    let next := m.compose (before w)
    (next.1, next.2.shown?) :: composeEach before next.2 rest

theorem composeEach_run {size margin : Nat} {calls : List CodeWindow.Call} {moments : List Moment}
    {w : CodeWindow} (hw : ((CodeWindow.new size margin).run calls).uncached = w.uncached)
    (hcalls : ∀ m ∈ moments, ∀ p ∈ m.position?, ∀ call ∈ calls,
      call.TimeTells m.files (CodeWindow.resolve m.files p.file))
    (hmoments : moments.Pairwise Moment.TimeTells) :
    composeEach id ((CodeWindow.new size margin).run calls) moments =
      composeEach CodeWindow.uncached w moments := by
  induction moments generalizing calls w with
  | nil => rfl
  | cons m rest ih =>
      obtain ⟨htells, hrest⟩ := List.pairwise_cons.mp hmoments
      obtain ⟨hnow, hlater⟩ := List.forall_mem_cons.mp hcalls
      have hagain : ((CodeWindow.new size margin).run calls).uncached = w.uncached.uncached := hw
      -- both windows have what the file reads now
      have hlines : ∀ p ∈ m.position?,
          (((CodeWindow.new size margin).run calls).dropModified m.files p.file).2.linesOf m.files
            p.file = (w.uncached.dropModified m.files p.file).2.linesOf m.files p.file := by
        intro p hp
        rw [CodeWindow.linesOf_run (hnow p hp), CodeWindow.linesOf_uncached]
      obtain ⟨hframe, hwindow⟩ := m.compose_uncached hagain hlines
      have hnext : (m.compose ((CodeWindow.new size margin).run calls)).2 =
          (CodeWindow.new size margin).run (calls ++ m.calls) := by
        rw [Moment.compose_window, CodeWindow.run, CodeWindow.run, CodeWindow.run,
          List.foldl_append]
      have hshown : (m.compose ((CodeWindow.new size margin).run calls)).2.shown? =
          (m.compose w.uncached).2.shown? := by
        rw [← CodeWindow.shown?_uncached, hwindow, CodeWindow.shown?_uncached]
      refine congrArg₂ List.cons (Prod.ext hframe hshown) ?_
      dsimp only [id]
      rw [hnext] at hwindow ⊢
      refine ih hwindow ?_ hrest
      intro later hmem p hp call hcall
      rcases List.mem_append.mp hcall with hcall | hcall
      · exact hlater later hmem p hp call hcall
      · exact (htells later hmem).calls hp call hcall

/-- Where the modification time of a file tells whether it still reads the same, the frames, and
what the window remembers of them, are those of a window that keeps nothing and so reads the file
for every frame. -/
theorem composeEach_uncached (size margin : Nat) {moments : List Moment}
    (hmoments : moments.Pairwise Moment.TimeTells) :
    composeEach id (.new size margin) moments =
        composeEach CodeWindow.uncached (.new size margin) moments ∧
      ∀ (w : CodeWindow) (fs : FileSystem) (p : Path),
        (w.uncached.dropModified fs p).2.linesOf fs p = readLines fs (CodeWindow.resolve fs p) := by
  refine ⟨?_, CodeWindow.linesOf_uncached⟩
  have hnone : ∀ m ∈ moments, ∀ p ∈ m.position?, ∀ call ∈ ([] : List CodeWindow.Call),
      call.TimeTells m.files (CodeWindow.resolve m.files p.file) :=
    fun _ _ _ _ _ hcall => absurd hcall List.not_mem_nil
  exact composeEach_run rfl hnone hmoments

/-! ### A link that is turned -/

/-- A moment at which `/l.py` is the current position. -/
def atLink (files : FileSystem) : Moment where
  files := files
  stats := {}
  session := .available ((Session.withCapacity 5).moveTo ⟨⟨"/l.py"⟩, 2⟩)

/-- A link to `/a.py` is shown, then `/a.py` when it was edited; the link is turned to `/b.py`, both
files go, and `/a.py` comes back under the name of the link. -/
def turning : List Moment :=
  [atLink ⟨[(["a.py"], .file 1), (["b.py"], .file 2), (["l.py"], .link ⟨"a.py"⟩)],
      #[⟨[], .change 0⟩, ⟨[97, 10, 98], .change 1⟩, ⟨[120, 10, 121, 10, 122], .change 2⟩], 3, []⟩,
    atLink ⟨[(["a.py"], .file 1), (["b.py"], .file 2), (["l.py"], .link ⟨"a.py"⟩)],
      #[⟨[], .change 0⟩, ⟨[99, 10, 100], .change 3⟩, ⟨[120, 10, 121, 10, 122], .change 2⟩], 4, []⟩,
    atLink ⟨[(["a.py"], .file 1), (["b.py"], .file 2), (["l.py"], .link ⟨"b.py"⟩)],
      #[⟨[], .change 0⟩, ⟨[99, 10, 100], .change 3⟩, ⟨[120, 10, 121, 10, 122], .change 2⟩], 4, []⟩,
    atLink ⟨[(["l.py"], .link ⟨"b.py"⟩)], #[⟨[], .change 0⟩], 4, []⟩,
    atLink ⟨[(["l.py"], .file 3)],
      #[⟨[], .change 0⟩, ⟨[], .change 1⟩, ⟨[], .change 2⟩, ⟨[99, 10, 100], .change 5⟩], 6, []⟩]

/-- The frames show what stands in the files at their moments. -/
theorem composeEach_uncached_turning :
    turning.Pairwise Moment.TimeTells ∧
      composeEach id (.new 2 0) turning = composeEach CodeWindow.uncached (.new 2 0) turning ∧
      (composeEach id (.new 2 0) turning).map (·.2) =
        [some ⟨⟨"/a.py"⟩, ⟨1, 2⟩⟩, some ⟨⟨"/a.py"⟩, ⟨1, 2⟩⟩, some ⟨⟨"/b.py"⟩, ⟨1, 2⟩⟩,
          some ⟨⟨"/b.py"⟩, ⟨1, 2⟩⟩, some ⟨⟨"/l.py"⟩, ⟨1, 2⟩⟩] := by
  have hmoments : turning.Pairwise Moment.TimeTells := by decide +kernel
  exact ⟨hmoments, (composeEach_uncached 2 0 hmoments).1, by decide +kernel⟩

end Frame

end Display

end DebugDashboard
