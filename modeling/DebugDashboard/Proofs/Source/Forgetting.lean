import DebugDashboard.Proofs.Source.Cache

/-!
# Forgetting a file

A window that is to forget a file forgets what it keeps under the path that the file has at that
moment. What it has read before stands under the path that the file had then. If both are the path
under which the file is shown next, the file is read again and the focus stands in the middle.
Otherwise, as when the file is missing when it is to be forgotten, the window goes on with what it
had.
-/

namespace DebugDashboard.Source

variable {fs fs' : FileSystem} {p q file : Path} {ls : List String} {cached : CachedFile}

/-! ## The cache -/

namespace FileCache

variable {cache : FileCache}

theorem get?_eq_none_iff :
    cache.get? file = none ↔ ∀ entry ∈ cache, entry.1.same file = false := by
  rw [get?, Option.map_eq_none_iff, List.find?_eq_none]
  constructor
  · intro h entry hentry
    simpa using h entry hentry
  · intro h entry hentry
    simp [h entry hentry]

theorem mem_of_get?_eq_some (h : cache.get? file = some cached) :
    ∃ entry ∈ cache, entry.1.same file = true ∧ entry.2 = cached := by
  obtain ⟨entry, hfind, hcached⟩ := Option.map_eq_some_iff.mp h
  exact ⟨entry, List.mem_of_find?_eq_some hfind,
    List.find?_some (p := fun e : Path × CachedFile => e.1.same file) hfind, hcached⟩

/-- All spellings of a removed path are gone. -/
theorem get?_remove_of_same (hsame : q.same file = true) (cache : FileCache) :
    (cache.remove q).get? file = none := by
  rw [get?_eq_none_iff]
  intro entry hentry
  have hother : entry.1.same q = false := by simpa using (List.mem_filter.mp hentry).2
  rwa [Path.same_comm, ← Path.same_congr hsame, Path.same_comm]

/-- Another file stays. -/
theorem get?_remove_of_not_same (hother : q.same file = false) (cache : FileCache) :
    (cache.remove q).get? file = cache.get? file := by
  have hkept : (fun entry : Path × CachedFile =>
      decide ((!entry.1.same q) = true ∧ entry.1.same file = true)) =
      fun entry => entry.1.same file := by
    funext entry
    cases hsame : entry.1.same file with
    | false => simp
    | true =>
        rw [Path.same_congr hsame, Path.same_comm, hother]
        rfl
  rw [get?, get?, remove, List.find?_filter, hkept]

/-- What is kept of a file stays when other files are read. -/
theorem get?_lines (h : cache.get? file = some cached) (fs : FileSystem) (q : Path) :
    (cache.lines fs q).2.get? file = some cached := by
  unfold lines
  split
  · exact h
  · split
    · obtain ⟨entry, hfind, hcached⟩ := Option.map_eq_some_iff.mp h
      rw [get?, List.find?_append, hfind, Option.some_or, Option.map_some, hcached]
    · exact h

/-- The lines of a file are those that are kept, or are read now. -/
theorem of_lines_eq_ok (h : (cache.lines fs file).1 = .ok ls) :
    (∃ cached, cache.get? file = some cached ∧ cached.lines = ls) ∨
      cache.get? file = none ∧ readLines fs file = .ok ls := by
  unfold lines at h
  cases hget : cache.get? file with
  | some cached =>
      rw [hget] at h
      exact .inl ⟨cached, rfl, Except.ok.inj h⟩
  | none =>
      rw [hget] at h
      cases hread : readLines fs file with
      | error e =>
          simp only [hread] at h
          cases h
      | ok read =>
          simp only [hread] at h
          exact .inr ⟨rfl, h⟩

end FileCache

namespace CodeWindow

variable {w : CodeWindow} {calls : List Call} {lines : List String}

/-! ## Views -/

def Call.IsView : Call → Prop
  | .view .. => True
  | .forget .. | .forgetAll | .dropModified .. => False

/-- In one of the calls, these lines were read of the file. -/
def ReadIn (calls : List Call) (file : Path) (ls : List String) : Prop :=
  ∃ call ∈ calls, ∃ entry, call.Reads entry ∧ entry.1.same file = true ∧ entry.2.lines = ls

/-- The call shows no line of a file: there is nothing to read, or the file is empty. -/
def Call.Blank (w : CodeWindow) : Call → Prop
  | .view fs p _ _ _ => ∀ lines, w.linesOf fs p = .ok lines → lines = []
  | .forget .. | .forgetAll | .dropModified .. => True

/-- No call shows a line of a file. -/
def Blank (w : CodeWindow) : List Call → Prop
  | [] => True
  | call :: rest => call.Blank w ∧ Blank (w.perform call) rest

/-- Views leave what the window keeps of a file. -/
theorem get?_run (hviews : ∀ call ∈ calls, call.IsView) (h : w.cache.get? file = some cached) :
    (w.run calls).cache.get? file = some cached := by
  induction calls generalizing w with
  | nil => exact h
  | cons call rest ih =>
      refine ih (fun other hother => hviews other (List.mem_cons_of_mem _ hother)) ?_
      have hview := hviews call List.mem_cons_self
      cases call with
      | view fs p focus breakpoints current? =>
          rw [perform, view_cache]
          exact FileCache.get?_lines h fs _
      | _ => cases hview

/-- What a window keeps of a file of which it kept nothing was read since. -/
theorem readIn_of_get?_run (h : w.cache.get? file = none)
    (hrun : (w.run calls).cache.get? file = some cached) : ReadIn calls file cached.lines := by
  obtain ⟨entry, hentry, hsame, hcached⟩ := FileCache.mem_of_get?_eq_some hrun
  rcases mem_cache_run hentry with hold | ⟨call, hcall, hreads⟩
  · rw [FileCache.get?_eq_none_iff.mp h entry hold] at hsame
    cases hsame
  · exact ⟨call, hcall, entry, hreads, hsame, congrArg CachedFile.lines hcached⟩

/-- A view without lines leaves the lines that were shown last. -/
theorem shown?_perform {call : Call} (hview : call.IsView) (hblank : call.Blank w) :
    (w.perform call).shown? = w.shown? := by
  cases call with
  | view fs p focus breakpoints current? =>
      rw [perform, view]
      dsimp only
      split
      · rfl
      next lines cache hread =>
        have hempty : lines = [] := by
          apply hblank
          rw [linesOf, hread]
        rw [hempty]
        rfl
  | _ => cases hview

theorem shown?_run (hviews : ∀ call ∈ calls, call.IsView) (hblank : w.Blank calls) :
    (w.run calls).shown? = w.shown? := by
  induction calls generalizing w with
  | nil => rfl
  | cons call rest ih =>
      obtain ⟨hcall, hrest⟩ := hblank
      have hothers := ih (fun other hother => hviews other (List.mem_cons_of_mem _ hother)) hrest
      exact hothers.trans (shown?_perform (hviews call List.mem_cons_self) hcall)

/-! ## What is forgotten -/

/-- The lines shown last are forgotten if they are of the file that is to be forgotten. -/
theorem remembered?_forget (w : CodeWindow) (fs : FileSystem) (p file : Path) :
    (w.forget fs p).remembered? file =
      if (resolve fs p).same file then none else w.remembered? file := by
  unfold remembered? forget
  cases hshown : w.shown? with
  | none => simp
  | some s =>
      cases hsame : s.file.same file with
      | false => cases s.file.same (resolve fs p) <;> simp [Option.filter_some, hsame]
      | true =>
          have hforget : s.file.same (resolve fs p) = (resolve fs p).same file := by
            rw [Path.same_congr hsame, Path.same_comm]
          cases hforgotten : (resolve fs p).same file <;>
            simp [Option.filter_some, hsame, hforget, hforgotten]

/-- Once a file is forgotten, its lines are those that were read since. -/
theorem linesOf_forget_of_get?_eq_none (hforgotten : (w.forget fs p).cache.get? file = none)
    (hfile : resolve fs' p = file)
    (hlines : ((w.forget fs p).run calls).linesOf fs' p = .ok lines) :
    ReadIn calls file lines ∨ readLines fs' file = .ok lines := by
  rw [linesOf, hfile] at hlines
  rcases FileCache.of_lines_eq_ok hlines with ⟨cached, hget, rfl⟩ | ⟨-, hread⟩
  · exact .inl (readIn_of_get?_run hforgotten hget)
  · exact .inr hread

/-- Under another path the file is not forgotten, and its lines are those that were read before. -/
theorem linesOf_forget_of_not_same (hother : (resolve fs p).same file = false)
    (hviews : ∀ call ∈ calls, call.IsView) (hget : w.cache.get? file = some cached)
    (hfile : resolve fs' p = file)
    (hlines : ((w.forget fs p).run calls).linesOf fs' p = .ok lines) :
    lines = cached.lines := by
  have hkept : (w.forget fs p).cache.get? file = some cached :=
    (FileCache.get?_remove_of_not_same hother w.cache).trans hget
  have hrun := get?_run hviews hkept
  rw [linesOf, hfile] at hlines
  rcases FileCache.of_lines_eq_ok hlines with ⟨other, hthere, rfl⟩ | ⟨hnone, -⟩
  · rw [Option.some.inj (hrun.symm.trans hthere)]
  · rw [hrun] at hnone
    cases hnone

/-- What a view shows of a file that was to be forgotten, if only views were asked for since. If the
path meant the same when the file was to be forgotten, or nothing was kept of the file, these are
lines that were read since. If it meant something else, they are the lines that were read before.
As long as no line was shown in between, the focus stands in the middle in the first case, and in
the second one the lines move from where they were shown last. -/
theorem view_after_forget {size : Nat} (hsize : size < Word.signedLimit) (margin : Nat)
    (before : List Call) (hviews : ∀ call ∈ calls, call.IsView) (hfile : resolve fs' p = file)
    (hlines : ((((new size margin).run before).forget fs p).run calls).linesOf fs' p = .ok lines)
    (hne : lines ≠ []) (hmax : lines.length ≤ maxLines) (focus : Nat) (breakpoints : List Nat)
    (current? : Option Nat) :
    let w := (new size margin).run before
    ∃ shown w',
      ((w.forget fs p).run calls).view fs' p focus breakpoints current? = (some shown, w') ∧
      Framed (.new size margin) lines (Viewport.clampFocus focus lines.length) breakpoints current?
        shown ∧
      ((resolve fs p).same file = true ∨ w.cache.get? file = none →
        ReadIn calls file lines ∨ readLines fs' file = .ok lines) ∧
      ((resolve fs p).same file = false → ∀ cached, w.cache.get? file = some cached →
        lines = cached.lines ∧ ReadIn before file lines) ∧
      ((w.forget fs p).Blank calls →
        Viewport.LeastMove (.new size margin)
          (if (resolve fs p).same file then none else w.remembered? file)
          (Viewport.clampFocus focus lines.length) lines.length shown.range.first) := by
  intro w
  have hv := Viewport.sound_new hsize margin
  have hsteady : ((w.forget fs p).run calls).Steady (.new size margin) := by
    have hrun := steady_run hsize margin (before ++ .forget fs p :: calls)
    rwa [run, List.foldl_append] at hrun
  obtain ⟨hone, hle⟩ := Viewport.clampFocus_bounds focus (List.length_pos_iff.mpr hne)
  refine ⟨_, _, view_eq hsteady hv hlines hne hmax focus rfl breakpoints current?, ?_, ?_, ?_, ?_⟩
  · exact framed_viewFrom hv hne (Viewport.admits_nextStart hv hone hle _) breakpoints current?
  · intro hforgotten
    apply linesOf_forget_of_get?_eq_none _ hfile hlines
    rcases hforgotten with hsame | hnone
    · exact FileCache.get?_remove_of_same hsame w.cache
    · cases hsame : (resolve fs p).same file with
      | true => exact FileCache.get?_remove_of_same hsame w.cache
      | false => exact (FileCache.get?_remove_of_not_same hsame w.cache).trans hnone
  · intro hother cached hget
    have hkept := linesOf_forget_of_not_same hother hviews hget hfile hlines
    rw [hkept]
    exact ⟨rfl, readIn_of_get?_run rfl hget⟩
  · intro hblank
    have hremembered : ((w.forget fs p).run calls).remembered? file =
        if (resolve fs p).same file then none else w.remembered? file := by
      rw [← remembered?_forget, remembered?, remembered?, shown?_run hviews hblank]
    rw [hfile, hremembered]
    exact Viewport.leastMove_nextStart hv hone hle _

/-- A file that is written anew after it was missing is shown as it was, by its name, and as it is,
by its whole path. -/
theorem view_after_forget_missing :
    let old := singleFile "a.py" [111, 108, 100, 10] 1
    let changed := singleFile "a.py" [110, 101, 119, 10] 2
    let w := (new 3 1).run [.view old ⟨"a.py"⟩ 1 [] none]
    ((w.forget .empty ⟨"/a.py"⟩).run []).linesOf changed ⟨"/a.py"⟩ = .ok ["new"] ∧
      ((w.forget .empty ⟨"a.py"⟩).run []).linesOf changed ⟨"a.py"⟩ = .ok ["old"] ∧
      ∃ shown w', ((w.forget .empty ⟨"a.py"⟩).run []).view changed ⟨"a.py"⟩ 1 [] none =
          (some shown, w') ∧
        Framed (.new 3 1) ["old"] 1 [] none shown ∧
        ReadIn [.view old ⟨"a.py"⟩ 1 [] none] ⟨"/a.py"⟩ ["old"] := by
  intro old changed w
  have hlines : ((w.forget .empty ⟨"a.py"⟩).run []).linesOf changed ⟨"a.py"⟩ = .ok ["old"] := by
    decide +kernel
  have hother : (resolve .empty ⟨"a.py"⟩).same ⟨"/a.py"⟩ = false := by decide +kernel
  have hfile : resolve changed ⟨"a.py"⟩ = ⟨"/a.py"⟩ := by decide +kernel
  have hthere : (w.cache.get? ⟨"/a.py"⟩).isSome = true := by decide +kernel
  obtain ⟨cached, hget⟩ := Option.isSome_iff_exists.mp hthere
  obtain ⟨shown, w', hview, hframed, -, hkept, -⟩ :=
    view_after_forget (by decide) 1 [.view old ⟨"a.py"⟩ 1 [] none] (by simp) hfile hlines
      (by decide) (by decide) 1 [] none
  exact ⟨by decide +kernel, hlines, shown, w', hview, hframed, (hkept hother cached hget).2⟩

end CodeWindow

end DebugDashboard.Source
