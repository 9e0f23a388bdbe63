import DebugDashboard.Proofs.Source.Viewport
import DebugDashboard.Source.CodeWindow

/-!
# Windows after any calls

A window is asked for views, and told to forget files, while the files change. What it remembers is
always a whole window of some version of its file. That suffices for every view to keep its margins,
and to move no farther than it must.
-/

namespace DebugDashboard.Source

/-! ## The cache -/

/-- What is read of a file is what some inode holds. -/
theorem exists_content_of_read {fs : FileSystem} {p : Path} {bytes : List UInt8}
    (h : fs.read p = .ok bytes) : ∃ inode, bytes = fs.content inode := by
  unfold FileSystem.read at h
  cases hopen : fs.openFile p with
  | error e =>
      rw [hopen] at h
      cases h
  | ok handle =>
      simp only [hopen, bind, Except.bind] at h
      split at h
      · cases h
      · exact ⟨handle.inode, (Except.ok.inj h).symm⟩

theorem exists_content_of_readLines {fs : FileSystem} {p : Path} {ls : List String}
    (h : readLines fs p = .ok ls) :
    ∃ inode, ls = Text.lines (decode (fs.content inode)).1 := by
  unfold readLines at h
  cases hread : fs.read p with
  | error e =>
      rw [hread] at h
      cases h
  | ok bytes =>
      rw [hread] at h
      cases h
      obtain ⟨inode, rfl⟩ := exists_content_of_read hread
      exact ⟨inode, rfl⟩

namespace FileCache

/-- What a cache takes up last of a file is found, if nothing was kept of the file before. -/
theorem get?_concat {cache : FileCache} {file : Path} (hget : cache.get? file = none)
    (cached : CachedFile) : FileCache.get? (cache ++ [(file, cached)]) file = some cached := by
  simp only [get?, Option.map_eq_none_iff] at hget
  simp [get?, List.find?_append, hget, Path.same_refl]

/-- What a cache has read of a file stays, whatever becomes of the file. -/
theorem lines_again {cache cache' : FileCache} {fs : FileSystem} {file : Path}
    {ls : List String} (hlines : cache.lines fs file = (.ok ls, cache')) (fs' : FileSystem) :
    cache'.lines fs' file = (.ok ls, cache') := by
  unfold lines at hlines ⊢
  cases hget : cache.get? file with
  | some cached =>
      simp only [hget] at hlines
      cases hlines
      rw [hget]
  | none =>
      simp only [hget] at hlines
      cases hread : readLines fs file with
      | error e =>
          simp only [hread] at hlines
          cases hlines
      | ok read =>
          simp only [hread] at hlines
          cases hlines
          rw [get?_concat hget]

end FileCache

namespace CodeWindow

/-! ## Calls -/

/-- What is asked of a window. Each call finds the files as they are then. -/
inductive Call where
  | view (fs : FileSystem) (p : Path) (focus : Nat) (breakpoints : List Nat) (current? : Option Nat)
  | forget (fs : FileSystem) (p : Path)
  | forgetAll
  | dropModified (fs : FileSystem) (p : Path)

def perform (w : CodeWindow) : Call → CodeWindow
  | .view fs p focus breakpoints current? => (w.view fs p focus breakpoints current?).2
  | .forget fs p => w.forget fs p
  | .forgetAll => w.forgetAll
  | .dropModified fs p => (w.dropModified fs p).2

def run (w : CodeWindow) (calls : List Call) : CodeWindow := calls.foldl perform w

/-- The lines that a window has of a file: those it keeps, else those that are read now. -/
def linesOf (w : CodeWindow) (fs : FileSystem) (p : Path) : Except IoError (List String) :=
  (w.cache.lines fs (resolve fs p)).1

/-- A window that was not asked before reads the file. -/
theorem readLines_of_new {size margin : Nat} {fs : FileSystem} {p : Path} {lines : List String}
    (h : ((new size margin).dropModified fs p).2.linesOf fs p = .ok lines) :
    readLines fs (resolve fs p) = .ok lines := by
  simp only [linesOf, dropModified, new, FileCache.dropModified, FileCache.lines, FileCache.get?,
    List.find?_nil, Option.map_none] at h
  cases hread : readLines fs (resolve fs p) <;> simp_all

/-- The lines of a file that were shown last, if they were shown last of all files. -/
def remembered? (w : CodeWindow) (file : Path) : Option LineRange :=
  (w.shown?.filter fun s => s.file.same file).map (·.range)

/-- A window with a viewport, which remembers a whole window of some version of a file. -/
structure Steady (v : Viewport) (w : CodeWindow) : Prop where
  viewport : w.viewport = v
  shown : ∀ s ∈ w.shown?, ∃ total, v.IsWindow total s.range

variable {v : Viewport} {w : CodeWindow}

theorem Steady.remembered (h : w.Steady v) {file : Path} :
    ∀ range ∈ w.remembered? file, ∃ total, v.IsWindow total range := by
  intro range hrange
  obtain ⟨s, hs, rfl⟩ := Option.map_eq_some_iff.mp hrange
  exact h.shown s (Option.filter_eq_some_iff.mp hs).1

/-- What is shown of the lines of a file, if no number leaves its word. -/
theorem viewLines_eq_some_iff {file : Path} {lines : List String} {focus : Nat}
    {breakpoints : List Nat} {current? : Option Nat} {view : View} {w' : CodeWindow} :
    w.viewLines file lines focus breakpoints current? = some (view, w') ↔
      w.viewport.bounds (w.remembered? file) focus lines.length = some view.range ∧
        (∃ part, slice? lines view.range = some part ∧
          view.lines = rows breakpoints current? view.range.first part) ∧
        w' = { w with shown? := some ⟨file, view.range⟩ } := by
  constructor
  · intro h
    obtain ⟨range, hrange, h⟩ := Option.bind_eq_some_iff.mp h
    obtain ⟨part, hpart, h⟩ := Option.bind_eq_some_iff.mp h
    cases h
    exact ⟨hrange, ⟨part, hpart, rfl⟩, rfl⟩
  · rintro ⟨hrange, ⟨part, hpart, hlines⟩, rfl⟩
    refine Option.bind_eq_some_iff.mpr ⟨_, hrange, Option.bind_eq_some_iff.mpr ⟨part, hpart, ?_⟩⟩
    rw [← hlines]

theorem Steady.view (h : w.Steady v) (hv : v.Sound) (fs : FileSystem) (p : Path) (focus : Nat)
    (breakpoints : List Nat) (current? : Option Nat) :
    (w.view fs p focus breakpoints current?).2.Steady v := by
  unfold CodeWindow.view
  dsimp only
  split
  · exact ⟨h.viewport, h.shown⟩
  next lines cache hlines =>
    split
    · exact ⟨h.viewport, h.shown⟩
    next hne =>
      split
      next view w' hview =>
        obtain ⟨hbounds, -, rfl⟩ := viewLines_eq_some_iff.mp hview
        have hbounds : v.bounds (w.remembered? (resolve fs p)) focus lines.length =
            some view.range := h.viewport ▸ hbounds
        have htotal : 1 ≤ lines.length := List.length_pos_iff.mpr (by simpa using hne)
        refine ⟨h.viewport, fun s hs => ?_⟩
        cases hs
        refine ⟨_, Viewport.bounds_isWindow hv htotal (fun range hrange => ?_) hbounds⟩
        obtain ⟨total, hwindow⟩ := h.remembered range hrange
        exact hwindow.first
      · exact ⟨h.viewport, h.shown⟩

/-- What is dropped from the cache has nothing to do with the lines that were shown. -/
theorem Steady.dropModified (h : w.Steady v) (fs : FileSystem) (p : Path) :
    (w.dropModified fs p).2.Steady v := ⟨h.viewport, h.shown⟩

theorem Steady.perform (h : w.Steady v) (hv : v.Sound) (call : Call) :
    (w.perform call).Steady v := by
  cases call with
  | view fs p focus breakpoints current? => exact h.view hv fs p focus breakpoints current?
  | forget fs p => exact ⟨h.viewport, fun s hs => h.shown s (Option.filter_eq_some_iff.mp hs).1⟩
  | forgetAll => exact ⟨h.viewport, fun s hs => by cases hs⟩
  | dropModified fs p => exact h.dropModified fs p

theorem steady_run {size : Nat} (hsize : size < Word.signedLimit) (margin : Nat)
    (calls : List Call) : ((new size margin).run calls).Steady (.new size margin) := by
  have hv := Viewport.sound_new hsize margin
  have hrun : ∀ w : CodeWindow, w.Steady (.new size margin) →
      (w.run calls).Steady (.new size margin) := by
    induction calls with
    | nil => exact fun w h => h
    | cons call rest ih => exact fun w h => ih _ (h.perform hv call)
  exact hrun _ ⟨rfl, fun s hs => by cases hs⟩

/-! ## Views -/

/-- The rows of a window are its lines, each with its number. -/
theorem getElem?_rows {lines : List String} {first last n : Nat} (breakpoints : List Nat)
    (current? : Option Nat) (hfirst : 1 ≤ first) (hn : first ≤ n) (hlast : n ≤ last) :
    (rows breakpoints current? first ((lines.take last).drop (first - 1)))[n - first]? =
      lines[n - 1]?.map fun text =>
        ⟨some n, breakpoints.contains n, current? = some n, text⟩ := by
  have hindex : first - 1 + (n - first) = n - 1 := by omega
  have hnumber : first + (n - first) = n := by omega
  have hbehind : n - 1 < last := by omega
  simp only [rows, List.getElem?_map, List.getElem?_zipIdx, List.getElem?_drop, hindex,
    List.getElem?_take_of_lt hbehind, Option.map_map, hnumber]
  rfl

/-- A view of lines that keeps the margins of a viewport around the focus. -/
structure Framed (v : Viewport) (lines : List String) (focus : Nat) (breakpoints : List Nat)
    (current? : Option Nat) (shown : View) : Prop where
  first : 1 ≤ shown.range.first
  last : shown.range.last ≤ lines.length
  height : shown.range.last + 1 - shown.range.first = min v.size lines.length
  above : shown.range.first + min v.margin (focus - 1) ≤ focus
  below : focus + min v.margin (lines.length - focus) ≤ shown.range.last
  count : shown.lines.length = shown.range.last + 1 - shown.range.first
  rows : ∀ n, shown.range.first ≤ n → n ≤ shown.range.last →
    ∃ row text, shown.lines[n - shown.range.first]? = some row ∧ lines[n - 1]? = some text ∧
      row.number? = some n ∧ row.text = text ∧ (row.breakpoint = true ↔ n ∈ breakpoints) ∧
      (row.current = true ↔ current? = some n)

variable {fs : FileSystem} {p : Path} {lines : List String}

/-- The window of some lines that begins at `start`. -/
def viewFrom (v : Viewport) (lines : List String) (start : Nat) (breakpoints : List Nat)
    (current? : Option Nat) : View :=
  ⟨rows breakpoints current? start
    ((lines.take (v.rangeFrom lines.length start).last).drop (start - 1)),
    v.rangeFrom lines.length start⟩

/-- A window after it has shown a range of the lines of a file. -/
def afterView (w : CodeWindow) (fs : FileSystem) (p : Path) (range : LineRange) : CodeWindow :=
  { w with cache := (w.cache.lines fs (resolve fs p)).2, shown? := some ⟨resolve fs p, range⟩ }

/-- The view of a file that can be read and is not empty. No step leaves its word, and no line is
taken from outside the file. -/
theorem view_eq (h : w.Steady v) (hv : v.Sound) (hlines : w.linesOf fs p = .ok lines)
    (hne : lines ≠ []) (hmax : lines.length ≤ maxLines) (focus : Nat) {start : Nat}
    (hstart : v.nextStart (w.remembered? (resolve fs p)) (Viewport.clampFocus focus lines.length)
      lines.length = start)
    (breakpoints : List Nat) (current? : Option Nat) :
    w.view fs p focus breakpoints current? =
      (some (viewFrom v lines start breakpoints current?),
        w.afterView fs p (v.rangeFrom lines.length start)) := by
  have htotal : 1 ≤ lines.length := List.length_pos_iff.mpr hne
  have hbounds : w.viewport.bounds (w.remembered? (resolve fs p)) focus lines.length =
      some (v.rangeFrom lines.length start) := by
    rw [h.viewport, ← hstart]
    exact Viewport.bounds_eq hv htotal hmax h.remembered
  have hwindow : v.IsWindow lines.length (v.rangeFrom lines.length start) :=
    Viewport.bounds_isWindow hv htotal
      (fun shown hshown => (h.remembered shown hshown).elim fun _ hw => hw.first)
      (h.viewport ▸ hbounds)
  have hslice : slice? lines (v.rangeFrom lines.length start) =
      some ((lines.take (v.rangeFrom lines.length start).last).drop (start - 1)) := by
    have hheight := hwindow.height
    have hbefore : (v.rangeFrom lines.length start).first - 1 ≤
        (v.rangeFrom lines.length start).last := by omega
    simp only [slice?, Word.minus_of_le hwindow.first, Option.bind_eq_bind, Option.bind_some,
      hbefore, hwindow.last, decide_true, Bool.and_self, if_true]
    rfl
  have hread : w.cache.lines fs (resolve fs p) =
      (.ok lines, (w.cache.lines fs (resolve fs p)).2) := Prod.ext hlines rfl
  have hview : viewLines { w with cache := (w.cache.lines fs (resolve fs p)).2 } (resolve fs p)
      lines focus breakpoints current? =
      some (viewFrom v lines start breakpoints current?,
        w.afterView fs p (v.rangeFrom lines.length start)) :=
    viewLines_eq_some_iff.mpr ⟨hbounds, ⟨_, hslice, rfl⟩, rfl⟩
  have hempty : ¬ lines.isEmpty = true := by simpa using hne
  unfold CodeWindow.view
  dsimp only
  rw [hread]
  dsimp only
  rw [if_neg hempty, hview]

/-- There is always something to show, if only a message. -/
theorem Steady.view_shows (h : w.Steady v) (hv : v.Sound)
    (hmax : ∀ lines, w.linesOf fs p = .ok lines → lines.length ≤ maxLines) (focus : Nat)
    (breakpoints : List Nat) (current? : Option Nat) :
    ∃ shown w', w.view fs p focus breakpoints current? = (some shown, w') := by
  cases hlines : w.linesOf fs p with
  | error e =>
      have hread : w.cache.lines fs (resolve fs p) =
          (.error e, (w.cache.lines fs (resolve fs p)).2) := Prod.ext hlines rfl
      unfold CodeWindow.view
      dsimp only
      rw [hread]
      exact ⟨_, _, rfl⟩
  | ok lines =>
      by_cases hne : lines = []
      · have hread : w.cache.lines fs (resolve fs p) =
            (.ok lines, (w.cache.lines fs (resolve fs p)).2) := Prod.ext hlines rfl
        unfold CodeWindow.view
        dsimp only
        rw [hread, hne]
        exact ⟨_, _, rfl⟩
      · exact ⟨_, _, view_eq h hv hlines hne (hmax lines hlines) focus rfl breakpoints current?⟩

/-- A window that begins at an admitted start keeps the margins. -/
theorem framed_viewFrom (hv : v.Sound) (hne : lines ≠ []) {focus start : Nat}
    (hstart : v.Admits focus lines.length start) (breakpoints : List Nat)
    (current? : Option Nat) :
    Framed v lines focus breakpoints current?
      (viewFrom v lines start breakpoints current?) := by
  have htotal : 1 ≤ lines.length := List.length_pos_iff.mpr hne
  have hmargin := hv.margin
  obtain ⟨hfirst, hlast, habove, hbelow⟩ := hstart
  constructor
  · exact hfirst
  · simp only [viewFrom, Viewport.rangeFrom]
    omega
  · simp only [viewFrom, Viewport.rangeFrom]
    omega
  · exact habove
  · simp only [viewFrom, Viewport.rangeFrom]
    omega
  · simp only [viewFrom, rows, Viewport.rangeFrom, List.length_map, List.length_zipIdx,
      List.length_drop, List.length_take]
    omega
  · intro n hn hnlast
    simp only [viewFrom, Viewport.rangeFrom] at hn hnlast ⊢
    rw [getElem?_rows breakpoints current? hfirst hn hnlast]
    obtain ⟨text, htext⟩ : ∃ text, lines[n - 1]? = some text :=
      ⟨_, List.getElem?_eq_getElem (by omega)⟩
    rw [htext]
    exact ⟨_, text, rfl, rfl, rfl, rfl, by simp, by simp⟩

/-- Asked for the same again, a window shows the same, whatever became of the file. -/
theorem view_again (h : w.Steady v) (hv : v.Sound) (hlines : w.linesOf fs p = .ok lines)
    (hne : lines ≠ []) (hmax : lines.length ≤ maxLines) (focus : Nat) (breakpoints : List Nat)
    (current? : Option Nat) {fs' : FileSystem} (hfile : resolve fs' p = resolve fs p) :
    (w.view fs p focus breakpoints current?).2.view fs' p focus breakpoints current? =
      w.view fs p focus breakpoints current? := by
  obtain ⟨hone, hle⟩ := Viewport.clampFocus_bounds focus (List.length_pos_iff.mpr hne)
  have hsteady := h.view hv fs p focus breakpoints current?
  rw [view_eq h hv hlines hne hmax focus rfl] at hsteady ⊢
  set start := v.nextStart (w.remembered? (resolve fs p)) (Viewport.clampFocus focus lines.length)
    lines.length with hstart
  have hadmits : v.Admits (Viewport.clampFocus focus lines.length) lines.length start :=
    Viewport.admits_nextStart hv hone hle _
  have hread := FileCache.lines_again (Prod.ext hlines rfl) fs'
  have hlines' : (w.afterView fs p (v.rangeFrom lines.length start)).linesOf fs' p = .ok lines := by
    rw [linesOf, afterView, hfile, hread]
  have hremembered : (w.afterView fs p (v.rangeFrom lines.length start)).remembered?
      (resolve fs' p) = some (v.rangeFrom lines.length start) := by
    simp [remembered?, afterView, hfile, Path.same_refl]
  have hstart' : v.nextStart ((w.afterView fs p (v.rangeFrom lines.length start)).remembered?
      (resolve fs' p)) (Viewport.clampFocus focus lines.length) lines.length = start := by
    rw [hremembered]
    exact Viewport.nextStart_rangeFrom hv hone hle hadmits
  rw [view_eq hsteady hv hlines' hne hmax focus hstart', afterView, afterView, hfile, hread]

/-- A file system with one file, in the working directory. -/
def singleFile (name : String) (bytes : List UInt8) (tick : Nat) : FileSystem :=
  ⟨[([name], .file 1)], #[⟨[], .change 0⟩, ⟨bytes, .change tick⟩], tick + 1, []⟩

/-- Whatever was asked before, and whatever became of the files, a view keeps the margins. Each row
is a line of the file, and no step of the computation leaves its word or the file. -/
theorem view_keeps_margins {size : Nat} (hsize : size < Word.signedLimit) (margin : Nat)
    (calls : List Call) (hlines : ((new size margin).run calls).linesOf fs p = .ok lines)
    (hne : lines ≠ []) (hmax : lines.length ≤ maxLines) (focus : Nat) (breakpoints : List Nat)
    (current? : Option Nat) :
    ∃ shown w',
      ((new size margin).run calls).view fs p focus breakpoints current? = (some shown, w') ∧
      Framed (.new size margin) lines (Viewport.clampFocus focus lines.length) breakpoints current?
        shown := by
  have hv := Viewport.sound_new hsize margin
  obtain ⟨hone, hle⟩ := Viewport.clampFocus_bounds focus (List.length_pos_iff.mpr hne)
  refine ⟨_, _, view_eq (steady_run hsize margin calls) hv hlines hne hmax focus rfl _ _, ?_⟩
  exact framed_viewFrom hv hne (Viewport.admits_nextStart hv hone hle _) breakpoints current?

/-- A file of three lines grows to five. -/
theorem view_keeps_margins_grown :
    let three := singleFile "m.py" [97, 10, 98, 10, 99] 1
    let five := singleFile "m.py" [97, 10, 98, 10, 99, 10, 100, 10, 101] 2
    let w := (new 3 1).run [.view three ⟨"m.py"⟩ 2 [] none, .dropModified five ⟨"m.py"⟩]
    w.linesOf five ⟨"m.py"⟩ = .ok ["a", "b", "c", "d", "e"] ∧
      ∃ shown w', w.view five ⟨"m.py"⟩ 3 [4] (some 3) = (some shown, w') ∧
        Framed (.new 3 1) ["a", "b", "c", "d", "e"] 3 [4] (some 3) shown := by
  intro three five w
  have hlines : w.linesOf five ⟨"m.py"⟩ = .ok ["a", "b", "c", "d", "e"] := by decide +kernel
  exact ⟨hlines, view_keeps_margins (by decide) 1 _ hlines (by decide) (by decide) 3 [4] (some 3)⟩

/-- While the focus stays in the lines of its file that were shown last, these move no farther than
the margins need. Asked for the same again, they do not move. -/
theorem view_moves_least {size : Nat} (hsize : size < Word.signedLimit) (margin : Nat)
    (calls : List Call) (hlines : ((new size margin).run calls).linesOf fs p = .ok lines)
    (hne : lines ≠ []) (hmax : lines.length ≤ maxLines) (focus : Nat) (breakpoints : List Nat)
    (current? : Option Nat) :
    ∃ shown w',
      ((new size margin).run calls).view fs p focus breakpoints current? = (some shown, w') ∧
      Viewport.LeastMove (.new size margin)
        (((new size margin).run calls).remembered? (resolve fs p))
        (Viewport.clampFocus focus lines.length) lines.length shown.range.first ∧
      ∀ fs' : FileSystem, resolve fs' p = resolve fs p →
        w'.view fs' p focus breakpoints current? = (some shown, w') := by
  have hv := Viewport.sound_new hsize margin
  have hsteady := steady_run hsize margin calls
  obtain ⟨hone, hle⟩ := Viewport.clampFocus_bounds focus (List.length_pos_iff.mpr hne)
  have hview := view_eq hsteady hv hlines hne hmax focus rfl breakpoints current?
  refine ⟨_, _, hview, Viewport.leastMove_nextStart hv hone hle _, fun fs' hfile => ?_⟩
  have hagain := view_again hsteady hv hlines hne hmax focus breakpoints current? hfile
  rwa [hview] at hagain

/-- A focus on the last line shown moves the lines by one. -/
theorem view_moves_least_down :
    let five := singleFile "m.py" [97, 10, 98, 10, 99, 10, 100, 10, 101] 1
    let w := (new 3 1).run [.view five ⟨"m.py"⟩ 2 [] none]
    w.linesOf five ⟨"m.py"⟩ = .ok ["a", "b", "c", "d", "e"] ∧
      w.remembered? ⟨"/m.py"⟩ = some ⟨1, 3⟩ ∧
      ∃ shown w', w.view five ⟨"m.py"⟩ 3 [] none = (some shown, w') ∧
        Viewport.LeastMove (.new 3 1) (w.remembered? (resolve five ⟨"m.py"⟩)) 3 5
          shown.range.first ∧
        ∀ fs' : FileSystem, resolve fs' ⟨"m.py"⟩ = resolve five ⟨"m.py"⟩ →
          w'.view fs' ⟨"m.py"⟩ 3 [] none = (some shown, w') := by
  intro five w
  have hlines : w.linesOf five ⟨"m.py"⟩ = .ok ["a", "b", "c", "d", "e"] := by decide +kernel
  exact ⟨hlines, by decide +kernel,
    view_moves_least (by decide) 1 _ hlines (by decide) (by decide) 3 [] none⟩

/-- Lines that were shown of a shorter version of the file stay where they are. They begin at the
second line, though the file is read anew and the focus in the middle would have them begin at the
first. -/
theorem grown_keeps_start :
    let three := singleFile "m.py" [97, 10, 98, 10, 99] 1
    let four := singleFile "m.py" [97, 10, 98, 10, 99, 10, 100] 2
    let w := (new 2 0).run [.view three ⟨"m.py"⟩ 3 [] none, .dropModified four ⟨"m.py"⟩]
    (new 2 0).linesOf three ⟨"m.py"⟩ = .ok ["a", "b", "c"] ∧
      w.linesOf four ⟨"m.py"⟩ = .ok ["a", "b", "c", "d"] ∧
      (w.view four ⟨"m.py"⟩ 2 [] none).1.map (·.range) = some ⟨2, 3⟩ ∧
      2 ≠ min (max (2 - 2 / 2) 1) (max (4 + 1 - 2) 1) := by
  decide +kernel

end CodeWindow

end DebugDashboard.Source
