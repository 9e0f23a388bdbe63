import DebugDashboard.Proofs.Source.Repetition

/-!
# Which windows can be shown

A window whose size is a signed word shows every file that can be read. A larger one may not: its
middle is computed with a negative size, and the line behind it with the size added to a line. Here
is exactly when no step of this leaves its word.
-/

namespace DebugDashboard.Source

namespace Viewport

/-- Whether the lines around a focus can be told. A size that is no signed word must be so great
that half of it reaches beyond the signed words from the focus on; and with the greatest of all
sizes the focus must not lie among the lines that were shown before. -/
def Fits (v : Viewport) (shown? : Option LineRange) (focus : Nat) : Prop :=
  v.size < Word.signedLimit ∨
    Word.signedLimit < focus + (v.size + 1) / 2 ∧
      (v.size + 1 = Word.limit → ∀ shown ∈ shown?, shown.last < focus)

variable {v : Viewport} {shown? : Option LineRange} {focus total : Nat}

theorem exists_bounds_of_large (hmargin : 2 * v.margin < v.size) (hsize : Word.signedLimit ≤ v.size)
    (hlimit : v.size < Word.limit) (htotal : 1 ≤ total) (hlines : total ≤ maxLines)
    (hfirst : ∀ shown ∈ shown?, shown.first = 1) :
    (∃ r, v.bounds shown? focus total = some r) ↔ v.Fits shown? (clampFocus focus total) := by
  obtain ⟨hone, hle⟩ := clampFocus_bounds focus htotal
  have hnotSmall : ¬ v.size < Word.signedLimit := Nat.not_lt.mpr hsize
  rw [bounds, centred_of_large hsize hlimit hle hlines, Fits, or_iff_right hnotSmall]
  generalize clampFocus focus total = nearest at *
  by_cases hfar : Word.signedLimit < nearest + (v.size + 1) / 2
  · rw [if_pos hfar]
    simp only [Option.bind_eq_bind, Option.bind_some, hfar, true_and]
    cases shown? with
    | none => simp
    | some shown =>
        obtain ⟨first, last⟩ := shown
        obtain rfl : first = 1 := hfirst _ rfl
        simp only [Option.mem_def, Option.some.injEq, forall_eq', hone, decide_true, Bool.true_and,
          decide_eq_true_eq]
        split
        next hlast =>
          rw [scrolled_of_large hmargin hsize hlimit hone hlast hle hlines]
          split
          next hgreatest => simp [hgreatest, Nat.not_lt.mpr hlast]
          next hgreatest => simp [hgreatest]
        next hlast => simp [Nat.lt_of_not_le hlast]
  · rw [if_neg hfar]
    simp [hfar]

end Viewport

namespace CodeWindow

variable {fs : FileSystem} {p : Path} {w : CodeWindow} {lines : List String} {size margin : Nat}

theorem size_of_large (hviewport : w.viewport = .new size margin)
    (hsize : Word.signedLimit ≤ size) (hlimit : size < Word.limit) :
    Word.signedLimit ≤ w.viewport.size ∧ w.viewport.size < Word.limit := by
  have hpos : 1 < Word.signedLimit := by decide
  rw [hviewport]
  simp only [Viewport.new]
  omega

/-- Whether what the window has of a file can be shown around a focus. -/
def CanShow (w : CodeWindow) (fs : FileSystem) (p : Path) (focus : Nat) : Prop :=
  ∀ lines, w.linesOf fs p = .ok lines → lines ≠ [] →
    w.viewport.Fits (w.remembered? (resolve fs p)) (Viewport.clampFocus focus lines.length)

theorem canShow_iff (hlines : w.linesOf fs p = .ok lines) (hne : lines ≠ []) {focus : Nat} :
    w.CanShow fs p focus ↔ w.viewport.Fits (w.remembered? (resolve fs p))
      (Viewport.clampFocus focus lines.length) := by
  refine ⟨fun h => h lines hlines hne, fun h other hother _ => ?_⟩
  rw [hlines] at hother
  cases hother
  exact h

/-- A window whose size is a signed word can show every file. -/
theorem canShow_of_lt (hviewport : w.viewport = .new size margin) (hsize : size < Word.signedLimit)
    (fs : FileSystem) (p : Path) (focus : Nat) : w.CanShow fs p focus := by
  have hv := Viewport.sound_new hsize margin
  exact fun _ _ _ => .inl (by rw [hviewport]; exact hv.size)

/-! ## Large windows after any calls -/

/-- The call reads no more lines than fit into the memory. -/
def Call.Moderate : Call → Prop
  | .view fs p _ _ _ => ∀ lines, readLines fs (resolve fs p) = .ok lines → lines.length ≤ maxLines
  | .forget .. | .forgetAll | .dropModified .. => True

/-- The lines shown last begin with the first of the file, and no file that is kept has more lines
than fit into the memory. -/
structure FromTop (w : CodeWindow) : Prop where
  shown : ∀ s ∈ w.shown?, s.range.first = 1
  kept : ∀ entry ∈ w.cache, entry.2.lines.length ≤ maxLines

namespace FromTop

theorem remembered (h : w.FromTop) {file : Path} :
    ∀ range ∈ w.remembered? file, range.first = 1 := by
  intro range hrange
  obtain ⟨s, hs, rfl⟩ := Option.map_eq_some_iff.mp hrange
  exact h.shown s (Option.filter_eq_some_iff.mp hs).1

theorem view (h : w.FromTop) (hviewport : w.viewport = .new size margin)
    (hsize : Word.signedLimit ≤ size) (hlimit : size < Word.limit)
    (hmax : ∀ lines, w.linesOf fs p = .ok lines → lines.length ≤ maxLines) (focus : Nat)
    (breakpoints : List Nat) (current? : Option Nat) :
    ∀ s ∈ (w.view fs p focus breakpoints current?).2.shown?, s.range.first = 1 := by
  unfold CodeWindow.view
  dsimp only
  split
  · exact h.shown
  next lines cache hlines =>
    split
    · exact h.shown
    next hne =>
      split
      next shown w' hview =>
        obtain ⟨hbounds, -, rfl⟩ := viewLines_eq_some_iff.mp hview
        have htotal : 1 ≤ lines.length := List.length_pos_iff.mpr (by simpa using hne)
        have hread : w.linesOf fs p = .ok lines := congrArg Prod.fst hlines
        obtain ⟨hlarge, hword⟩ := size_of_large hviewport hsize hlimit
        have hrange := Viewport.bounds_of_large hlarge hword htotal (hmax lines hread) hbounds
        intro s hs
        cases hs
        rw [hrange]
      · exact h.shown

theorem dropModified (h : w.FromTop) (fs : FileSystem) (p : Path) :
    (w.dropModified fs p).2.FromTop :=
  ⟨h.shown, fun entry hentry => h.kept entry (FileCache.mem_of_mem_dropModified hentry)⟩

/-- No call moves the lines off the first one. -/
theorem perform (h : w.FromTop) (hviewport : w.viewport = .new size margin)
    (hsize : Word.signedLimit ≤ size) (hlimit : size < Word.limit) {call : Call}
    (hcall : call.Moderate) : (w.perform call).FromTop := by
  refine ⟨?_, fun entry hentry => ?_⟩
  · cases call with
    | view fs p focus breakpoints current? =>
        refine h.view hviewport hsize hlimit (fun lines hlines => ?_) focus breakpoints current?
        rcases FileCache.exists_of_lines hlines with ⟨entry, hentry, rfl⟩ | hread
        · exact h.kept entry hentry
        · exact hcall lines hread
    | forget fs p => exact fun s hs => h.shown s (Option.filter_eq_some_iff.mp hs).1
    | forgetAll => exact fun s hs => by cases hs
    | dropModified fs p => exact h.shown
  · rcases mem_cache_perform hentry with hentry | hreads
    · exact h.kept entry hentry
    · cases call with
      | view fs p focus breakpoints current? => exact hcall _ hreads.2.1
      | _ => cases hreads

end FromTop

theorem fromTop_run (hsize : Word.signedLimit ≤ size) (hlimit : size < Word.limit) (margin : Nat)
    {calls : List Call} (hcalls : ∀ call ∈ calls, call.Moderate) :
    ((new size margin).run calls).FromTop := by
  have hrun : ∀ w : CodeWindow, w.viewport = .new size margin → w.FromTop →
      (w.run calls).FromTop := by
    induction calls with
    | nil => exact fun w _ h => h
    | cons call rest ih =>
        obtain ⟨hcall, hrest⟩ := List.forall_mem_cons.mp hcalls
        exact fun w hviewport h => ih hrest _ ((w.run_viewport [call]).trans hviewport)
          (h.perform hviewport hsize hlimit hcall)
  exact hrun _ rfl ⟨fun s hs => (by cases hs), fun entry hentry => (by cases hentry)⟩

/-! ## Views -/

theorem slice?_all (lines : List String) : slice? lines ⟨1, lines.length⟩ = some lines := by
  simp [slice?, Word.minus]

/-- A large window shows the lines it keeps if it can tell which of them are around the focus. -/
theorem Keeps.exists_view_of_large (h : w.Keeps fs p lines)
    (hfirst : ∀ range ∈ w.remembered? (resolve fs p), range.first = 1)
    (hviewport : w.viewport = .new size margin) (hsize : Word.signedLimit ≤ size)
    (hlimit : size < Word.limit) (hne : lines ≠ []) (hmax : lines.length ≤ maxLines) (focus : Nat)
    (breakpoints : List Nat) (current? : Option Nat) :
    (∃ shown w', w.view fs p focus breakpoints current? = (some shown, w')) ↔
      w.viewport.Fits (w.remembered? (resolve fs p))
        (Viewport.clampFocus focus lines.length) := by
  have htotal : 1 ≤ lines.length := List.length_pos_iff.mpr hne
  have hmargin : 2 * w.viewport.margin < w.viewport.size := by
    rw [hviewport]
    exact Viewport.margin_new size margin
  obtain ⟨hlarge, hword⟩ := size_of_large hviewport hsize hlimit
  rw [← Viewport.exists_bounds_of_large hmargin hlarge hword htotal hmax hfirst,
    h.view_eq hne]
  constructor
  · rintro ⟨shown, w', hshown⟩
    split at hshown
    next hview =>
      obtain ⟨hbounds, -⟩ := viewLines_eq_some_iff.mp hview
      exact ⟨_, hbounds⟩
    · cases hshown
  · rintro ⟨r, hbounds⟩
    obtain rfl := Viewport.bounds_of_large hlarge hword htotal hmax hbounds
    have hview : w.viewLines (resolve fs p) lines focus breakpoints current? =
        some (⟨rows breakpoints current? 1 lines, ⟨1, lines.length⟩⟩, _) :=
      viewLines_eq_some_iff.mpr ⟨hbounds, ⟨lines, slice?_all lines, rfl⟩, rfl⟩
    rw [hview]
    exact ⟨_, _, rfl⟩

/-- There is a view of a file if there is nothing to show of it but a message, or the lines around
the focus can be told. -/
theorem exists_view_iff (hlimit : size < Word.limit) (hviewport : w.viewport = .new size margin)
    (hsteady : size < Word.signedLimit → w.Steady (.new size margin))
    (htop : Word.signedLimit ≤ size → w.FromTop)
    (hmax : ∀ lines, w.linesOf fs p = .ok lines → lines.length ≤ maxLines) (focus : Nat)
    (breakpoints : List Nat) (current? : Option Nat) :
    (∃ shown w', w.view fs p focus breakpoints current? = (some shown, w')) ↔
      w.CanShow fs p focus := by
  by_cases hsigned : size < Word.signedLimit
  · simp only [canShow_of_lt hviewport hsigned, iff_true]
    exact (hsteady hsigned).view_shows (Viewport.sound_new hsigned margin) hmax focus breakpoints
      current?
  have hsize := Nat.not_lt.mp hsigned
  cases hlines : w.linesOf fs p with
  | error e =>
      have hshows : w.CanShow fs p focus := fun lines h => by rw [hlines] at h; cases h
      simp [view_of_error hlines, hshows]
  | ok lines =>
      obtain ⟨kept, hkept, hshown, hkeeps, hview⟩ := exists_keeps hlines focus breakpoints current?
      rw [hview]
      by_cases hne : lines = []
      · subst hne
        have hshows : w.CanShow fs p focus := by
          intro lines h hne
          rw [hlines] at h
          cases h
          exact absurd rfl hne
        simp [hkeeps.view_empty, hshows]
      · have hremembered : kept.remembered? (resolve fs p) = w.remembered? (resolve fs p) := by
          rw [remembered?, hshown]
          rfl
        rw [canShow_iff hlines hne, ← hkept, ← hremembered]
        exact hkeeps.exists_view_of_large (hremembered ▸ (htop hsize).remembered)
          (hkept.trans hviewport) hsize hlimit hne (hmax lines hlines) focus breakpoints current?

end CodeWindow

end DebugDashboard.Source
