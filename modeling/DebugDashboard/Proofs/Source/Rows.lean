import DebugDashboard.Proofs.Source.Cache

/-!
# The rows of a view

Whatever its size, a window that shows a file shows consecutive lines of it, among them the line
that is nearest to the one asked for. So the current line is marked once if the file has it, and
otherwise not at all.
-/

namespace DebugDashboard.Source

namespace Viewport

variable {v : Viewport} {focus total : Nat} {r : LineRange}

/-- A range of lines of a file that holds a line. -/
structure Holds (r : LineRange) (focus total : Nat) : Prop where
  first : 1 ≤ r.first
  above : r.first ≤ focus
  below : focus ≤ r.last
  last : r.last ≤ total

/-- A viewport too large for a signed word has its middle computed with a negative size. All lines
of the file are shown then, unless its end leaves the word. -/
theorem centred_of_large (hsize : Word.signedLimit ≤ v.size) (hlimit : v.size < Word.limit)
    (htotal : focus ≤ total) (hlines : total ≤ maxLines) :
    v.centred focus total =
      if Word.signedLimit < focus + (v.size + 1) / 2 then some ⟨1, total⟩ else none := by
  have hmax : maxLines < 2 ^ 62 := by decide
  have hsigned : Word.signedLimit = 2 ^ 63 := rfl
  have hunsigned : Word.limit = 2 ^ 64 := rfl
  have hstart : Word.checkedSigned (Word.asSigned focus - Word.asSigned (v.size / 2)) =
      some ((focus : Int) - (v.size / 2 : Nat)) := by
    rw [Word.asSigned_of_lt (by omega), Word.asSigned_of_lt (by omega)]
    exact Word.checkedSigned_of_bounds (by omega) (by omega)
  have hnegative : Word.asSigned v.size = v.size - (Word.limit : Int) := if_neg (by omega)
  simp only [centred, hstart, hnegative, Option.bind_eq_bind, Option.bind_some]
  by_cases hfar : Word.signedLimit < focus + (v.size + 1) / 2
  · rw [if_pos hfar, Word.checkedSigned_of_bounds (by omega) (by omega), Option.bind_some,
      Word.checkedSigned_of_bounds (by omega) (by omega), Option.bind_some, if_pos (by omega),
      Nat.min_eq_right (by omega)]
  · rw [if_neg hfar]
    by_cases hnear : Word.signedLimit = focus + (v.size + 1) / 2
    · rw [Word.checkedSigned_of_bounds (by omega) (by omega), Option.bind_some,
        Word.checkedSigned_of_lt (by omega), Option.bind_none]
    · rw [Word.checkedSigned_of_lt (by omega), Option.bind_none]

/-- A viewport too large for a signed word shows all lines, if it shows any. -/
theorem bounds_of_large (hsize : Word.signedLimit ≤ v.size) (hlimit : v.size < Word.limit)
    (htotal : 1 ≤ total) (hlines : total ≤ maxLines) {shown? : Option LineRange}
    (h : v.bounds shown? focus total = some r) : r = ⟨1, total⟩ := by
  obtain ⟨-, hle⟩ := clampFocus_bounds focus htotal
  have hmax : maxLines < 2 ^ 62 := by decide
  have hsigned : Word.signedLimit = 2 ^ 63 := rfl
  obtain ⟨range, hcentred, h⟩ := Option.bind_eq_some_iff.mp h
  rw [centred_of_large hsize hlimit hle hlines] at hcentred
  obtain ⟨-, hcentred⟩ := Option.ite_none_right_eq_some.mp hcentred
  obtain rfl := Option.some.inj hcentred
  cases shown? with
  | none =>
      cases h
      rfl
  | some shown =>
      dsimp only at h
      split at h
      · simp only [scrolled, Option.bind_eq_bind, Option.bind_eq_some_iff] at h
        obtain ⟨start, -, stop, hstop, last, hlast, before, hbefore, h⟩ := h
        have hstop := Word.eq_of_checked hstop
        obtain ⟨-, rfl⟩ := Word.minus_eq_some_iff.mp hlast
        obtain ⟨hsize, rfl⟩ := Word.minus_eq_some_iff.mp hbefore
        cases h
        simp only [LineRange.mk.injEq]
        omega
      · cases h
        rfl

/-- The lines shown next hold the line that is nearest to the one asked for. -/
theorem bounds_holds {size margin : Nat} (hsize : size < Word.limit) (htotal : 1 ≤ total)
    (hlines : total ≤ maxLines) {shown? : Option LineRange}
    (hshown : size < Word.signedLimit →
      ∀ shown ∈ shown?, ∃ before, (new size margin).IsWindow before shown)
    (h : (new size margin).bounds shown? focus total = some r) :
    Holds r (clampFocus focus total) total := by
  obtain ⟨hone, hle⟩ := clampFocus_bounds focus htotal
  by_cases hsigned : size < Word.signedLimit
  · have hv := sound_new hsigned margin
    rw [bounds_eq hv htotal hlines (hshown hsigned)] at h
    cases h
    obtain ⟨hfirst, hlast, habove, hbelow⟩ := admits_nextStart hv hone hle shown?
    constructor <;> simp only [rangeFrom] <;> omega
  · have hpos : 1 < Word.signedLimit := by decide
    have hlarge : Word.signedLimit ≤ (new size margin).size := by
      simp only [new]
      omega
    have hlimit : (new size margin).size < Word.limit := by
      simp only [new]
      omega
    obtain rfl := bounds_of_large hlarge hlimit htotal hlines h
    exact ⟨Nat.le_refl 1, hone, hle, Nat.le_refl total⟩

end Viewport

namespace CodeWindow

variable {w w' : CodeWindow} {fs : FileSystem} {p : Path} {lines : List String}
  {breakpoints : List Nat} {current? : Option Nat} {row : DisplayLine}

/-! ## Rows -/

theorem exists_line_of_mem_rows {first last : Nat} (hfirst : 1 ≤ first)
    (hrow : row ∈ rows breakpoints current? first ((lines.take last).drop (first - 1))) :
    ∃ n text, 1 ≤ n ∧ lines[n - 1]? = some text ∧
      row = ⟨some n, breakpoints.contains n, current? = some n, text⟩ := by
  obtain ⟨i, hi⟩ := List.mem_iff_getElem?.mp hrow
  have hlength : i < last - (first - 1) := by
    obtain ⟨hlength, -⟩ := List.getElem?_eq_some_iff.mp hi
    simp only [rows, List.length_map, List.length_zipIdx, List.length_drop, List.length_take]
      at hlength
    omega
  have hindex : (rows breakpoints current? first ((lines.take last).drop (first - 1)))[i]? =
      lines[first + i - 1]?.map fun text =>
        ⟨some (first + i), breakpoints.contains (first + i), current? = some (first + i),
          text⟩ := by
    rw [← getElem?_rows breakpoints current? hfirst (Nat.le_add_right first i)
      (show first + i ≤ last by omega), Nat.add_sub_cancel_left]
  rw [hi] at hindex
  obtain ⟨text, htext, hshown⟩ := Option.map_eq_some_iff.mp hindex.symm
  exact ⟨first + i, text, by omega, htext, hshown.symm⟩

/-- The rows are numbered from the first on. -/
theorem map_number?_rows (breakpoints : List Nat) (current? : Option Nat) (first : Nat)
    (lines : List String) :
    (rows breakpoints current? first lines).map (·.number?) =
      (List.range' first lines.length).map some := by
  have hnumbers : (lines.zipIdx first).map Prod.snd = List.range' first lines.length :=
    List.zipIdx_map_snd first lines
  rw [← hnumbers, List.map_map, rows, List.map_map]
  rfl

/-- The current line is marked once where it is among the rows. -/
theorem filter_current_rows (breakpoints : List Nat) (line first : Nat) (lines : List String) :
    ((rows breakpoints (some line) first lines).filter (·.current)).map (·.number?) =
      if first ≤ line ∧ line < first + lines.length then [some line] else [] := by
  induction lines generalizing first with
  | nil =>
      rw [if_neg (by simp)]
      rfl
  | cons text rest ih =>
      have hrows : rows breakpoints (some line) first (text :: rest) =
          ⟨some first, breakpoints.contains first, some line = some first, text⟩ ::
            rows breakpoints (some line) (first + 1) rest := rfl
      rw [hrows, List.filter_cons, List.length_cons]
      by_cases hline : line = first
      · subst hline
        rw [if_pos (by simp), List.map_cons, ih, if_neg (by omega), if_pos (by omega)]
      · rw [if_neg (by simpa using hline), ih]
        congr 1
        simp only [eq_iff_iff]
        omega

/-! ## Views -/

theorem view_viewport (w : CodeWindow) (fs : FileSystem) (p : Path) (focus : Nat)
    (breakpoints : List Nat) (current? : Option Nat) :
    (w.view fs p focus breakpoints current?).2.viewport = w.viewport := by
  unfold view
  dsimp only
  split
  · rfl
  · split
    · rfl
    · split
      next hview =>
        obtain ⟨-, -, rfl⟩ := viewLines_eq_some_iff.mp hview
        rfl
      · rfl

theorem run_viewport (w : CodeWindow) (calls : List Call) :
    (w.run calls).viewport = w.viewport := by
  induction calls generalizing w with
  | nil => rfl
  | cons call rest ih =>
      refine (ih (w.perform call)).trans ?_
      cases call with
      | view fs p focus breakpoints current? =>
          exact w.view_viewport fs p focus breakpoints current?
      | _ => rfl

/-- A view of a file that can be read is a view of its lines. -/
theorem exists_viewLines (hlines : w.linesOf fs p = .ok lines) (hne : lines ≠ []) {focus : Nat}
    {shown : View} (hview : w.view fs p focus breakpoints current? = (some shown, w')) :
    ∃ cache, viewLines { w with cache := cache } (resolve fs p) lines focus breakpoints current? =
      some (shown, w') := by
  have hread : w.cache.lines fs (resolve fs p) =
      (.ok lines, (w.cache.lines fs (resolve fs p)).2) := Prod.ext hlines rfl
  have hempty : ¬ lines.isEmpty = true := by simpa using hne
  unfold view at hview
  dsimp only at hview
  rw [hread] at hview
  dsimp only at hview
  rw [if_neg hempty] at hview
  refine ⟨(w.cache.lines fs (resolve fs p)).2, ?_⟩
  split at hview
  next hshown =>
    cases hview
    exact hshown
  · cases hview

/-- Whatever was asked before, a view shows lines of the file, and among them the one nearest to the
focus. -/
theorem exists_rows_of_view {size margin : Nat} (hsize : size < Word.limit)
    (hviewport : w.viewport = .new size margin)
    (hsteady : size < Word.signedLimit → w.Steady (.new size margin))
    (hlines : w.linesOf fs p = .ok lines) (hne : lines ≠ []) (hmax : lines.length ≤ maxLines)
    {focus : Nat} {shown : View}
    (hview : w.view fs p focus breakpoints current? = (some shown, w')) :
    ∃ r, Viewport.Holds r (Viewport.clampFocus focus lines.length) lines.length ∧
      shown.lines = rows breakpoints current? r.first ((lines.take r.last).drop (r.first - 1)) := by
  obtain ⟨cache, hshown⟩ := exists_viewLines hlines hne hview
  obtain ⟨hbounds, ⟨part, hpart, hrows⟩, -⟩ := viewLines_eq_some_iff.mp hshown
  dsimp only at hbounds
  rw [hviewport] at hbounds
  have hholds := Viewport.bounds_holds hsize (List.length_pos_iff.mpr hne) hmax
    (fun hsigned => (hsteady hsigned).remembered) hbounds
  refine ⟨shown.range, hholds, ?_⟩
  obtain ⟨before, hbefore, hpart⟩ := Option.bind_eq_some_iff.mp hpart
  obtain ⟨-, rfl⟩ := Word.minus_eq_some_iff.mp hbefore
  split at hpart
  · cases hpart
    exact hrows
  · cases hpart

end CodeWindow

end DebugDashboard.Source
