import DebugDashboard.Proofs.Source.Rows

/-!
# Views that are asked for again

While the files stay as they are, a window that is asked for a view again, and first drops again
what was modified, has the same lines of the file, and remembers the same of it. It shows the same,
unless its size is the greatest of the words. Then the first line of the file and the size together
leave the word, and there is no second view.
-/

namespace DebugDashboard.Source

variable {fs : FileSystem} {p : Path}

/-! ## The cache -/

namespace FileCache

variable {cache : FileCache}

/-- What the cache keeps of a file, if anything, has the modification time of the file. -/
def UpToDate (cache : FileCache) (fs : FileSystem) (p : Path) : Prop :=
  ∀ cached ∈ cache.get? p, modified? fs p = cached.modified?

theorem upToDate_of_none (h : cache.get? p = none) : cache.UpToDate fs p := by
  intro cached hcached
  rw [h] at hcached
  cases hcached

theorem upToDate_of_some {cached : CachedFile} (h : cache.get? p = some cached)
    (htime : modified? fs p = cached.modified?) : cache.UpToDate fs p := by
  intro other hother
  obtain rfl : cached = other := Option.some.inj (h.symm.trans hother)
  exact htime

theorem upToDate_dropModified (cache : FileCache) (fs : FileSystem) (p : Path) :
    (cache.dropModified fs p).2.UpToDate fs p := by
  cases hget : cache.get? p with
  | none =>
      simp only [dropModified, hget]
      exact upToDate_of_none hget
  | some cached =>
      simp only [dropModified, hget]
      split
      next htime => exact upToDate_of_some hget htime
      next => exact upToDate_of_none (cache.get?_remove p)

theorem UpToDate.lines (h : cache.UpToDate fs p) : (cache.lines fs p).2.UpToDate fs p := by
  cases hget : cache.get? p with
  | some cached =>
      simp only [FileCache.lines, hget]
      exact h
  | none =>
      cases hread : readLines fs p with
      | ok ls =>
          simp only [FileCache.lines, hget, hread]
          exact upToDate_of_some (get?_concat hget _) rfl
      | error e =>
          simp only [FileCache.lines, hget, hread]
          exact h

/-- Nothing is dropped of a file that is up to date. -/
theorem UpToDate.dropModified_eq (h : cache.UpToDate fs p) :
    cache.dropModified fs p = (false, cache) := by
  cases hget : cache.get? p with
  | none => simp only [dropModified, hget]
  | some cached =>
      have htime : modified? fs p = cached.modified? := h cached hget
      simp only [dropModified, hget, if_pos htime]

/-- A file that cannot be read is not kept. -/
theorem lines_error {e : IoError} (h : (cache.lines fs p).1 = .error e) :
    cache.lines fs p = (.error e, cache) := by
  cases hget : cache.get? p with
  | some cached =>
      simp only [FileCache.lines, hget] at h
      cases h
  | none =>
      cases hread : readLines fs p with
      | ok ls =>
          simp only [FileCache.lines, hget, hread] at h
          cases h
      | error other =>
          simp only [FileCache.lines, hget, hread] at h ⊢
          rw [h]

end FileCache

/-! ## Large viewports -/

namespace Viewport

variable {v : Viewport} {focus total : Nat} {r : LineRange}

/-- From the first lines of a file, a viewport too large for a signed word goes on to all of them,
unless the line behind it leaves the word. -/
theorem scrolled_of_large (hmargin : 2 * v.margin < v.size) (hsize : Word.signedLimit ≤ v.size)
    (hlimit : v.size < Word.limit) (hfocus : 1 ≤ focus) {last : Nat} (hlast : focus ≤ last)
    (htotal : focus ≤ total) (hlines : total ≤ maxLines) :
    v.scrolled ⟨1, last⟩ focus total =
      if v.size + 1 = Word.limit then none else some ⟨1, total⟩ := by
  have hmax : maxLines < 2 ^ 62 := by decide
  have hsigned : Word.signedLimit = 2 ^ 63 := rfl
  have hunsigned : Word.limit = 2 ^ 64 := rfl
  have hsubSize : Word.minus v.size 1 = some (v.size - 1) := Word.minus_of_le (by omega)
  have hstart : v.scrolledStart ⟨1, last⟩ focus = some 1 := by
    simp only [scrolledStart, Word.minus_of_le hfocus, Word.minus_of_le hlast,
      Word.checked_of_lt (show focus + v.margin < Word.limit by omega), hsubSize,
      Option.bind_eq_bind, Option.bind_some]
    split
    next habove =>
      rw [Nat.max_eq_right (by omega)]
    next =>
      split
      next => rw [Nat.max_eq_right (by omega)]
      next => rfl
  simp only [scrolled, hstart, Option.bind_eq_bind, Option.bind_some]
  split
  next hgreatest =>
    have hstop : Word.checked (1 + v.size) = none := if_neg (by omega)
    rw [hstop, Option.bind_none]
  next hgreatest =>
    rw [Word.checked_of_lt (show 1 + v.size < Word.limit by omega), Option.bind_some,
      Word.minus_of_le (show 1 ≤ 1 + v.size by omega), Option.bind_some, hsubSize,
      Option.bind_some]
    simp only [Option.some.injEq, LineRange.mk.injEq]
    omega

/-- Lines that a viewport too large for a signed word has shown are shown next, unless the line
behind it leaves the word. -/
theorem bounds_again_of_large (hmargin : 2 * v.margin < v.size)
    (hsize : Word.signedLimit ≤ v.size) (hlimit : v.size < Word.limit) (htotal : 1 ≤ total)
    (hlines : total ≤ maxLines) {shown? : Option LineRange}
    (h : v.bounds shown? focus total = some r) :
    v.bounds (some r) focus total = if v.size + 1 = Word.limit then none else some r := by
  obtain ⟨hone, hle⟩ := clampFocus_bounds focus htotal
  obtain rfl := bounds_of_large hsize hlimit htotal hlines h
  obtain ⟨range, hrange, -⟩ := Option.bind_eq_some_iff.mp h
  simp only [bounds, hrange, Option.bind_eq_bind, Option.bind_some, hone, hle, decide_true,
    Bool.and_self, if_true]
  exact scrolled_of_large hmargin hsize hlimit hone hle hle hlines

end Viewport

/-! ## Views -/

namespace CodeWindow

variable {w : CodeWindow} {lines : List String}

/-- Whether the window has lines of a file to show. -/
def hasLines (w : CodeWindow) (fs : FileSystem) (p : Path) : Bool :=
  (w.linesOf fs p).toOption.any fun lines => !lines.isEmpty

theorem hasLines_eq (hlines : w.linesOf fs p = .ok lines) :
    w.hasLines fs p = !lines.isEmpty := by
  rw [hasLines, hlines]
  rfl

theorem view_of_error {e : IoError} (h : w.linesOf fs p = .error e) (focus : Nat)
    (breakpoints : List Nat) (current? : Option Nat) :
    w.view fs p focus breakpoints current? =
      (some (.message ("Error: Could not read " ++ (resolve fs p).text)), w) := by
  unfold view
  dsimp only
  rw [FileCache.lines_error h]

/-- A window that keeps the lines of a file. -/
def Keeps (w : CodeWindow) (fs : FileSystem) (p : Path) (lines : List String) : Prop :=
  w.cache.lines fs (resolve fs p) = (.ok lines, w.cache)

/-- A window that has the lines of a file shows what it shows when it keeps them. -/
theorem exists_keeps (hlines : w.linesOf fs p = .ok lines) (focus : Nat) (breakpoints : List Nat)
    (current? : Option Nat) :
    ∃ kept : CodeWindow, kept.viewport = w.viewport ∧ kept.shown? = w.shown? ∧
      kept.Keeps fs p lines ∧
      w.view fs p focus breakpoints current? = kept.view fs p focus breakpoints current? := by
  have hread : w.cache.lines fs (resolve fs p) =
      (.ok lines, (w.cache.lines fs (resolve fs p)).2) := Prod.ext hlines rfl
  have hkeeps : Keeps { w with cache := (w.cache.lines fs (resolve fs p)).2 } fs p lines :=
    FileCache.lines_again hread fs
  refine ⟨{ w with cache := (w.cache.lines fs (resolve fs p)).2 }, rfl, rfl, hkeeps, ?_⟩
  unfold Keeps at hkeeps
  unfold view
  dsimp only at hkeeps ⊢
  rw [hkeeps, hread]

namespace Keeps

theorem linesOf (h : w.Keeps fs p lines) : w.linesOf fs p = .ok lines := congrArg Prod.fst h

theorem view (h : w.Keeps fs p lines) (focus : Nat) (breakpoints : List Nat)
    (current? : Option Nat) :
    (w.view fs p focus breakpoints current?).2.Keeps fs p lines := by
  have hcache : (w.view fs p focus breakpoints current?).2.cache = w.cache := by
    rw [view_cache, h]
  rw [Keeps, hcache]
  exact h

theorem view_empty (h : w.Keeps fs p []) (focus : Nat) (breakpoints : List Nat)
    (current? : Option Nat) :
    w.view fs p focus breakpoints current? = (some (.message "Error: Empty file"), w) := by
  unfold CodeWindow.view
  dsimp only
  rw [h]
  rfl

theorem view_eq (h : w.Keeps fs p lines) (hne : lines ≠ []) (focus : Nat) (breakpoints : List Nat)
    (current? : Option Nat) :
    w.view fs p focus breakpoints current? =
      match w.viewLines (resolve fs p) lines focus breakpoints current? with
      | some (shown, next) => (some shown, next)
      | none => (none, w) := by
  have hempty : ¬ lines.isEmpty = true := by simpa using hne
  unfold CodeWindow.view
  dsimp only
  rw [h]
  exact if_neg hempty

end Keeps

/-- What is shown of the lines of a file again is told by the viewport, from the lines that were
shown of it last. -/
theorem viewLines_again {w' : CodeWindow} {file : Path} {focus : Nat} {breakpoints : List Nat}
    {current? : Option Nat} {shown : View}
    (hview : w.viewLines file lines focus breakpoints current? = some (shown, w'))
    {c : Prop} [Decidable c]
    (hagain : w.viewport.bounds (some shown.range) focus lines.length =
      if c then none else some shown.range) :
    w'.viewLines file lines focus breakpoints current? = if c then none else some (shown, w') := by
  obtain ⟨-, hpart, rfl⟩ := viewLines_eq_some_iff.mp hview
  have hremembered : remembered? { w with shown? := some ⟨file, shown.range⟩ } file =
      some shown.range := by
    simp [remembered?, Path.same_refl]
  split
  next hc =>
    rw [if_pos hc] at hagain
    unfold remembered? at hremembered
    simp only [viewLines, hremembered, hagain, Option.bind_eq_bind, Option.bind_none]
  next hc =>
    rw [if_neg hc] at hagain
    exact viewLines_eq_some_iff.mpr ⟨by rw [hremembered]; exact hagain, hpart, rfl⟩

/-- A window too large for a signed word shows a file again, unless the line behind it leaves the
word. -/
theorem view_again_of_large {size margin : Nat} (hviewport : w.viewport = .new size margin)
    (hsize : Word.signedLimit ≤ size) (hlimit : size < Word.limit) (h : w.Keeps fs p lines)
    (hne : lines ≠ []) (hmax : lines.length ≤ maxLines) (focus : Nat) (breakpoints : List Nat)
    (current? : Option Nat) :
    (w.view fs p focus breakpoints current?).2.view fs p focus breakpoints current? =
      (if size + 1 = Word.limit then none else (w.view fs p focus breakpoints current?).1,
        (w.view fs p focus breakpoints current?).2) := by
  have htotal : 1 ≤ lines.length := List.length_pos_iff.mpr hne
  have hpos : 1 < Word.signedLimit := by decide
  have hgiven : w.viewport.size = size := by
    rw [hviewport, Viewport.new]
    exact Nat.max_eq_left (by omega)
  have hmargin : 2 * w.viewport.margin < w.viewport.size := by
    rw [hviewport]
    exact Viewport.margin_new size margin
  cases hview : w.viewLines (resolve fs p) lines focus breakpoints current? with
  | none =>
      have hfirst : w.view fs p focus breakpoints current? = (none, w) := by
        rw [h.view_eq hne, hview]
      rw [hfirst, hfirst, ite_self]
  | some r =>
      obtain ⟨shown, next⟩ := r
      have hfirst : w.view fs p focus breakpoints current? = (some shown, next) := by
        rw [h.view_eq hne, hview]
      have hnext := h.view focus breakpoints current?
      obtain ⟨hbounds, -⟩ := viewLines_eq_some_iff.mp hview
      have hagain := Viewport.bounds_again_of_large hmargin (hgiven ▸ hsize) (hgiven ▸ hlimit)
        htotal hmax hbounds
      rw [hfirst] at hnext ⊢
      dsimp only
      rw [hnext.view_eq hne, viewLines_again hview hagain, hgiven]
      by_cases hgreatest : size + 1 = Word.limit
      · rw [if_pos hgreatest, if_pos hgreatest]
      · rw [if_neg hgreatest, if_neg hgreatest]

/-- Asked for a view again while the files stay as they are, a window of any size gives the same,
and it is then as it was after the first view. Only at the greatest size the lines of a file are not
shown again. -/
theorem view_twice {size margin : Nat} (hlimit : size < Word.limit)
    (hviewport : w.viewport = .new size margin)
    (hsteady : size < Word.signedLimit → w.Steady (.new size margin))
    (hmax : ∀ lines, w.linesOf fs p = .ok lines → lines.length ≤ maxLines) (focus : Nat)
    (breakpoints : List Nat) (current? : Option Nat) :
    (w.view fs p focus breakpoints current?).2.view fs p focus breakpoints current? =
      (if size + 1 = Word.limit ∧ w.hasLines fs p = true then none
        else (w.view fs p focus breakpoints current?).1,
        (w.view fs p focus breakpoints current?).2) := by
  cases hlines : w.linesOf fs p with
  | error e =>
      have hnone : ¬ w.hasLines fs p = true := by simp [hasLines, hlines, Except.toOption]
      rw [view_of_error hlines, view_of_error hlines, if_neg (fun h => hnone h.2)]
  | ok lines =>
      obtain ⟨kept, hkept, hshown, hkeeps, hview⟩ := exists_keeps hlines focus breakpoints current?
      rw [hview, hasLines_eq hlines]
      by_cases hne : lines = []
      · subst hne
        rw [hkeeps.view_empty, hkeeps.view_empty]
        simp
      · have hempty : (!lines.isEmpty) = true := by simpa using hne
        simp only [hempty, and_true]
        by_cases hsigned : size < Word.signedLimit
        · have hsteadyKept : kept.Steady (.new size margin) :=
            ⟨hkept.trans hviewport, hshown ▸ (hsteady hsigned).shown⟩
          have hgreatest : ¬ size + 1 = Word.limit := by
            have hlimits := Word.limit_eq
            have hpos : 1 < Word.signedLimit := by decide
            omega
          rw [if_neg hgreatest]
          exact view_again hsteadyKept (Viewport.sound_new hsigned margin) hkeeps.linesOf hne
            (hmax lines hlines) focus breakpoints current? rfl
        · exact view_again_of_large (hkept.trans hviewport) (Nat.not_lt.mp hsigned) hlimit hkeeps
            hne (hmax lines hlines) focus breakpoints current?

/-- After a view nothing is dropped of the file, if what was modified was dropped before it. -/
theorem dropModified_again (w : CodeWindow) (fs : FileSystem) (p : Path) (focus : Nat)
    (breakpoints : List Nat) (current? : Option Nat) :
    let next := ((w.dropModified fs p).2.view fs p focus breakpoints current?).2
    next.dropModified fs p = (false, next) := by
  intro next
  have hnext : next.cache.UpToDate fs (resolve fs p) := by
    rw [view_cache]
    exact (w.cache.upToDate_dropModified fs (resolve fs p)).lines
  rw [dropModified, hnext.dropModified_eq]

end CodeWindow

end DebugDashboard.Source
