import DebugDashboard.Source.Viewport
import Mathlib.Data.Nat.Dist

/-!
# Where the lines shown may start

A start is admitted if the window that begins there lies within the file and keeps the margin around
the focus as far as the file reaches. The admitted starts are an interval. A viewport that has shown
the focus before goes to the admitted start nearest to the one it had, and any other to the middle.
No step of the computation leaves its word.
-/

namespace DebugDashboard

namespace Word

theorem minus_of_le {m n : Nat} (h : n ≤ m) : minus m n = some (m - n) := if_pos h

theorem checked_of_lt {n : Nat} (h : n < limit) : checked n = some n := if_pos h

theorem asSigned_of_lt {n : Nat} (h : n < signedLimit) : asSigned n = n := if_pos h

theorem checkedSigned_of_bounds {i : Int} (hlow : -(signedLimit : Int) ≤ i)
    (hhigh : i < signedLimit) : checkedSigned i = some i := by
  have hsigned : isSigned i = true := by simp [isSigned, hlow, hhigh]
  exact if_pos hsigned

theorem checkedSigned_of_lt {i : Int} (h : i < -(signedLimit : Int)) : checkedSigned i = none := by
  have hsigned : ¬ isSigned i = true := by simp [isSigned, h]
  exact if_neg hsigned

theorem limit_eq : limit = 2 * signedLimit := rfl

theorem minus_eq_some_iff {m n k : Nat} : minus m n = some k ↔ n ≤ m ∧ m - n = k := by
  simp [minus]

theorem eq_of_checked {m n : Nat} (h : checked m = some n) : m = n := by
  unfold checked at h
  split at h <;> simp_all

theorem eq_of_checkedSigned {i j : Int} (h : checkedSigned i = some j) : i = j := by
  unfold checkedSigned at h
  split at h <;> simp_all

end Word

namespace Source

/-- The greatest number of lines of a file: a list of texts takes less than half of the addresses,
and each text in it 24 of them. -/
def maxLines : Nat := (Word.signedLimit - 1) / 24

namespace Viewport

/-- A viewport whose size is a signed word, and whose margins leave room for the focus. -/
structure Sound (v : Viewport) : Prop where
  margin : 2 * v.margin < v.size
  size : v.size < Word.signedLimit

theorem margin_new (size margin : Nat) : 2 * (new size margin).margin < (new size margin).size := by
  simp only [new]
  omega

theorem sound_new {size : Nat} (hsize : size < Word.signedLimit) (margin : Nat) :
    (new size margin).Sound := by
  have hpos : 1 < Word.signedLimit := by decide
  refine ⟨margin_new size margin, ?_⟩
  simp only [new]
  omega

/-- A viewport has the size and the margin that it is made with if they leave room for a line. -/
theorem new_eq_iff {size margin : Nat} :
    new size margin = ⟨size, margin⟩ ↔ 0 < size ∧ 2 * margin < size := by
  simp only [new, mk.injEq]
  omega

/-- The lines of a window that begins at `start`, as many as the file has of the viewport's size. -/
def rangeFrom (v : Viewport) (total start : Nat) : LineRange :=
  ⟨start, start + min v.size total - 1⟩

/-- A range that is a whole window of a file with `total` lines. -/
structure IsWindow (v : Viewport) (total : Nat) (r : LineRange) : Prop where
  first : 1 ≤ r.first
  last : r.last ≤ total
  height : r.last + 1 = r.first + min v.size total

/-- A start whose window lies within the file, and keeps the margin above and below the focus unless
the file ends there. -/
structure Admits (v : Viewport) (focus total start : Nat) : Prop where
  first : 1 ≤ start
  last : start + min v.size total ≤ total + 1
  above : start + min v.margin (focus - 1) ≤ focus
  below : focus + min v.margin (total - focus) < start + min v.size total

/-- The least admitted start. -/
def lowest (v : Viewport) (focus total : Nat) : Nat :=
  max (min (focus + v.margin) total + 1 - v.size) 1

/-- The greatest admitted start. -/
def highest (v : Viewport) (focus total : Nat) : Nat :=
  min (max (focus - v.margin) 1) (max (total + 1 - v.size) 1)

/-- The start of a window with the focus in its middle, moved into the file. -/
def middle (v : Viewport) (focus total : Nat) : Nat :=
  min (max (focus - v.size / 2) 1) (max (total + 1 - v.size) 1)

/-- The admitted start nearest to another start. -/
def nearest (v : Viewport) (focus total start : Nat) : Nat :=
  max (v.lowest focus total) (min start (v.highest focus total))

variable {v : Viewport} {focus total : Nat}

/-! ## Admitted starts -/

section Admitted

variable (hv : v.Sound) (hfocus : 1 ≤ focus) (htotal : focus ≤ total)

include hv

theorem lowest_le_highest : v.lowest focus total ≤ v.highest focus total := by
  have hmargin := hv.margin
  unfold lowest highest
  omega

include hfocus htotal

theorem admits_iff {start : Nat} :
    v.Admits focus total start ↔ v.lowest focus total ≤ start ∧ start ≤ v.highest focus total := by
  have hmargin := hv.margin
  unfold lowest highest
  constructor
  · rintro ⟨hfirst, hlast, habove, hbelow⟩
    omega
  · rintro ⟨hlow, hhigh⟩
    constructor <;> omega

theorem admits_nearest (start : Nat) : v.Admits focus total (v.nearest focus total start) := by
  have hle : v.lowest focus total ≤ v.highest focus total := lowest_le_highest hv
  rw [admits_iff hv hfocus htotal, nearest]
  omega

theorem nearest_eq_self {start : Nat} (hstart : v.Admits focus total start) :
    v.nearest focus total start = start := by
  obtain ⟨hlow, hhigh⟩ := (admits_iff hv hfocus htotal).mp hstart
  rw [nearest]
  omega

/-- Every other admitted start is farther away. -/
theorem dist_nearest_lt {start other : Nat} (hother : v.Admits focus total other)
    (hne : other ≠ v.nearest focus total start) :
    Nat.dist start (v.nearest focus total start) < Nat.dist start other := by
  obtain ⟨hlow, hhigh⟩ := (admits_iff hv hfocus htotal).mp hother
  simp only [nearest, Nat.dist] at hne ⊢
  omega

theorem admits_middle : v.Admits focus total (v.middle focus total) := by
  have hmargin := hv.margin
  constructor <;> simp only [middle] <;> omega

end Admitted

/-! ## The computation -/

section Computed

/-- Seen for the first time, the focus stands in the middle unless an end of the file is near. -/
theorem centred_eq (hv : v.Sound) (hfocus : 1 ≤ focus) (htotal : focus ≤ total)
    (hlines : total ≤ maxLines) :
    v.centred focus total = some (v.rangeFrom total (v.middle focus total)) := by
  have hmargin := hv.margin
  have hsize := hv.size
  have hmax : maxLines < 2 ^ 62 := by decide
  have hsigned : Word.signedLimit = 2 ^ 63 := rfl
  have hhalf : v.size / 2 ≤ v.size := Nat.div_le_self _ _
  have hstart : Word.checkedSigned ((focus : Int) - (v.size / 2 : Nat)) =
      some ((focus : Int) - (v.size / 2 : Nat)) :=
    Word.checkedSigned_of_bounds (by omega) (by omega)
  have hstop : Word.checkedSigned ((focus : Int) - (v.size / 2 : Nat) + v.size) =
      some ((focus : Int) - (v.size / 2 : Nat) + v.size) :=
    Word.checkedSigned_of_bounds (by omega) (by omega)
  have hlast : Word.checkedSigned ((focus : Int) - (v.size / 2 : Nat) + v.size - 1) =
      some ((focus : Int) - (v.size / 2 : Nat) + v.size - 1) :=
    Word.checkedSigned_of_bounds (by omega) (by omega)
  rw [centred, Word.asSigned_of_lt (by omega), Word.asSigned_of_lt (by omega),
    Word.asSigned_of_lt hsize, Word.asSigned_of_lt (by omega), hstart]
  simp only [Option.bind_eq_bind, Option.bind_some, hstop, hlast,
    Word.minus_of_le (show 1 ≤ v.size by omega)]
  split
  next hbefore =>
    simp only [rangeFrom, middle, Option.some.injEq, LineRange.mk.injEq]
    omega
  next hbefore =>
    split
    next hbehind =>
      simp only [rangeFrom, middle, Option.some.injEq, LineRange.mk.injEq]
      omega
    next hbehind =>
      simp only [rangeFrom, middle, Option.some.injEq, LineRange.mk.injEq]
      omega

variable {shown : LineRange} {before : Nat}

/-- Near its upper end a window moves up to the greatest admitted start. -/
theorem nearest_of_above (hv : v.Sound) (hshown : v.IsWindow before shown)
    (habove : focus - shown.first < v.margin) :
    v.nearest focus total shown.first = v.highest focus total := by
  have hpos := hshown.first
  have hhigh : v.highest focus total ≤ shown.first := by
    rw [highest]
    omega
  rw [nearest, Nat.min_eq_right hhigh, Nat.max_eq_right (lowest_le_highest hv)]

/-- Near its lower end a window moves down to the least admitted start. -/
theorem nearest_of_below (hv : v.Sound) (hshown : v.IsWindow before shown)
    (hlast : focus ≤ shown.last) (hbelow : shown.last - focus < v.margin) :
    v.nearest focus total shown.first = v.lowest focus total := by
  obtain ⟨hpos, hwithin, hheight⟩ := hshown
  have hmargin := hv.margin
  have hlow : min shown.first (v.highest focus total) ≤ v.lowest focus total := by
    rw [highest, lowest]
    omega
  rw [nearest, Nat.max_eq_left hlow]

/-- Away from its ends a window only moves to stay within the file. -/
theorem nearest_of_between (hv : v.Sound) (hshown : v.IsWindow before shown)
    (hfirst : shown.first ≤ focus) (hlast : focus ≤ shown.last)
    (habove : v.margin ≤ focus - shown.first) (hbelow : v.margin ≤ shown.last - focus) :
    v.nearest focus total shown.first = min shown.first (max (total + 1 - v.size) 1) := by
  obtain ⟨hpos, hwithin, hheight⟩ := hshown
  have hmargin := hv.margin
  have hhigh : min shown.first (v.highest focus total) =
      min shown.first (max (total + 1 - v.size) 1) := by
    rw [highest]
    omega
  have hlow : v.lowest focus total ≤ min shown.first (max (total + 1 - v.size) 1) := by
    rw [lowest]
    omega
  rw [nearest, hhigh, Nat.max_eq_right hlow]

/-- From any window of any version of the file that holds the focus, the nearest admitted start is
reached. -/
theorem scrolled_eq (hv : v.Sound) (hfocus : 1 ≤ focus) (htotal : focus ≤ total)
    (hlines : total ≤ maxLines) (hshown : v.IsWindow before shown) (hfirst : shown.first ≤ focus)
    (hlast : focus ≤ shown.last) :
    v.scrolled shown focus total =
      some (v.rangeFrom total (v.nearest focus total shown.first)) := by
  have hpos := hshown.first
  have hmargin := hv.margin
  have hsize := hv.size
  have hmax : maxLines < 2 ^ 62 := by decide
  have hsigned : Word.signedLimit = 2 ^ 63 := rfl
  have hlimit := Word.limit_eq
  have hsubSize : Word.minus v.size 1 = some (v.size - 1) := Word.minus_of_le (by omega)
  -- the start, before the window is moved into the file
  have hstart : ∃ start, v.scrolledStart shown focus = some start ∧ 1 ≤ start ∧ start ≤ total ∧
      v.nearest focus total shown.first = min start (max (total + 1 - v.size) 1) := by
    simp only [scrolledStart, Word.minus_of_le hfirst, Word.minus_of_le hlast,
      Word.checked_of_lt (show focus + v.margin < Word.limit by omega), hsubSize,
      Option.bind_eq_bind, Option.bind_some]
    split
    next habove =>
      refine ⟨_, rfl, by omega, by omega, ?_⟩
      rw [nearest_of_above hv hshown habove, highest]
    next habove =>
      split
      next hbelow =>
        refine ⟨_, rfl, by omega, by omega, ?_⟩
        rw [nearest_of_below hv hshown hlast hbelow, lowest]
        omega
      next hbelow =>
        refine ⟨_, rfl, by omega, by omega, ?_⟩
        exact nearest_of_between hv hshown hfirst hlast (by omega) (by omega)
  obtain ⟨start, hstart, hone, hle, hnearest⟩ := hstart
  have hstop : Word.checked (start + v.size) = some (start + v.size) :=
    Word.checked_of_lt (by omega)
  have hsubStop : Word.minus (start + v.size) 1 = some (start + v.size - 1) :=
    Word.minus_of_le (by omega)
  simp only [scrolled, hstart, hstop, hsubStop, hsubSize, Option.bind_eq_bind, Option.bind_some,
    hnearest, rangeFrom, Option.some.injEq, LineRange.mk.injEq]
  omega

end Computed

/-- The start of the lines that are shown next. -/
def nextStart (v : Viewport) (shown? : Option LineRange) (focus total : Nat) : Nat :=
  match shown? with
  | some shown =>
    if shown.first ≤ focus && focus ≤ shown.last then v.nearest focus total shown.first
    else v.middle focus total
  | none => v.middle focus total

theorem clampFocus_bounds (focus : Nat) (htotal : 1 ≤ total) :
    1 ≤ clampFocus focus total ∧ clampFocus focus total ≤ total := by
  rw [clampFocus]
  omega

theorem admits_nextStart (hv : v.Sound) (hfocus : 1 ≤ focus) (htotal : focus ≤ total)
    (shown? : Option LineRange) : v.Admits focus total (v.nextStart shown? focus total) := by
  unfold nextStart
  split
  · split
    · exact admits_nearest hv hfocus htotal _
    · exact admits_middle hv hfocus htotal
  · exact admits_middle hv hfocus htotal

/-- A window that keeps the margins already stays where it is. -/
theorem nextStart_rangeFrom (hv : v.Sound) (hfocus : 1 ≤ focus) (htotal : focus ≤ total)
    {start : Nat} (hstart : v.Admits focus total start) :
    v.nextStart (some (v.rangeFrom total start)) focus total = start := by
  have habove := hstart.above
  have hbelow := hstart.below
  have hfirst : (v.rangeFrom total start).first ≤ focus := by
    simp only [rangeFrom]
    omega
  have hlast : focus ≤ (v.rangeFrom total start).last := by
    simp only [rangeFrom]
    omega
  simp only [nextStart, hfirst, hlast, decide_true, Bool.and_self, if_true]
  exact nearest_eq_self hv hfocus htotal hstart

/-- A start that is admitted, and of these the nearest to that of the lines shown before if they
hold the focus. Otherwise the focus stands in the middle unless an end of the file is near. -/
structure LeastMove (v : Viewport) (shown? : Option LineRange) (focus total start : Nat) :
    Prop where
  admitted : v.Admits focus total start
  nearest : ∀ shown ∈ shown?, shown.first ≤ focus → focus ≤ shown.last →
    ∀ other, v.Admits focus total other → other ≠ start →
      Nat.dist shown.first start < Nat.dist shown.first other
  still : ∀ shown ∈ shown?, shown.first ≤ focus → focus ≤ shown.last →
    v.Admits focus total shown.first → start = shown.first
  centred : (∀ shown ∈ shown?, ¬(shown.first ≤ focus ∧ focus ≤ shown.last)) →
    start = min (max (focus - v.size / 2) 1) (max (total + 1 - v.size) 1)

theorem leastMove_nextStart (hv : v.Sound) (hfocus : 1 ≤ focus) (htotal : focus ≤ total)
    (shown? : Option LineRange) :
    v.LeastMove shown? focus total (v.nextStart shown? focus total) := by
  -- from lines that hold the focus, the nearest admitted start is taken
  have hheld : ∀ shown ∈ shown?, shown.first ≤ focus → focus ≤ shown.last →
      v.nextStart shown? focus total = v.nearest focus total shown.first := by
    rintro shown rfl hfirst hlast
    simp [nextStart, hfirst, hlast]
  refine ⟨admits_nextStart hv hfocus htotal shown?, ?_, ?_, ?_⟩
  · intro shown hshown hfirst hlast other hother hne
    rw [hheld shown hshown hfirst hlast] at hne ⊢
    exact dist_nearest_lt hv hfocus htotal hother hne
  · intro shown hshown hfirst hlast hadmits
    rw [hheld shown hshown hfirst hlast]
    exact nearest_eq_self hv hfocus htotal hadmits
  · intro hout
    cases shown? with
    | none => rfl
    | some shown =>
        have hout := hout shown rfl
        simp only [nextStart, Bool.and_eq_true, decide_eq_true_eq, if_neg hout]
        rfl

/-- The lines shown next, for every focus that is asked for. No step leaves its word. -/
theorem bounds_eq (hv : v.Sound) (htotal : 1 ≤ total) (hlines : total ≤ maxLines)
    {shown? : Option LineRange} (hshown : ∀ shown ∈ shown?, ∃ before, v.IsWindow before shown) :
    v.bounds shown? focus total =
      some (v.rangeFrom total (v.nextStart shown? (clampFocus focus total) total)) := by
  obtain ⟨hone, hle⟩ := clampFocus_bounds focus htotal
  rw [bounds, centred_eq hv hone hle hlines]
  simp only [Option.bind_eq_bind, Option.bind_some]
  cases shown? with
  | none => rfl
  | some shown =>
      obtain ⟨before, hwindow⟩ := hshown shown rfl
      simp only [nextStart]
      split
      next hholds =>
        simp only [Bool.and_eq_true, decide_eq_true_eq] at hholds
        exact scrolled_eq hv hone hle hlines hwindow hholds.1 hholds.2
      next => rfl

/-! ## Any computation that succeeds -/

theorem centred_isWindow (hv : v.Sound) (htotal : 1 ≤ total) {r : LineRange}
    (h : v.centred focus total = some r) : v.IsWindow total r := by
  have hmargin := hv.margin
  have hsigned : Word.signedLimit = 2 ^ 63 := rfl
  have hlimit := Word.limit_eq
  simp only [centred, Option.bind_eq_bind, Option.bind_eq_some_iff,
    Word.asSigned_of_lt hv.size] at h
  obtain ⟨start, hstart, stop, hstop, last, hlast, h⟩ := h
  have hstop := Word.eq_of_checkedSigned hstop
  have hlast := Word.eq_of_checkedSigned hlast
  split at h
  · cases h
    constructor <;> dsimp only <;> omega
  · split at h
    · obtain ⟨before, hbefore, h⟩ := Option.bind_eq_some_iff.mp h
      obtain ⟨-, rfl⟩ := Word.minus_eq_some_iff.mp hbefore
      cases h
      constructor <;> dsimp only <;> omega
    next hfirst hbehind =>
      cases h
      rw [Word.asSigned] at hbehind
      constructor <;> dsimp only <;> split at hbehind <;> omega

theorem scrolled_isWindow {shown r : LineRange} (hpos : 1 ≤ shown.first)
    (h : v.scrolled shown focus total = some r) :
    v.IsWindow total r := by
  simp only [scrolled, Option.bind_eq_bind, Option.bind_eq_some_iff] at h
  obtain ⟨start, hstart, stop, hstop, last, hlast, before, hbefore, h⟩ := h
  have hone : 1 ≤ start := by
    simp only [scrolledStart, Option.bind_eq_bind, Option.bind_eq_some_iff] at hstart
    obtain ⟨above, -, hstart⟩ := hstart
    split at hstart
    · cases hstart
      omega
    · obtain ⟨below, -, hstart⟩ := Option.bind_eq_some_iff.mp hstart
      split at hstart
      · obtain ⟨low, -, hstart⟩ := Option.bind_eq_some_iff.mp hstart
        obtain ⟨rest, -, hstart⟩ := Option.bind_eq_some_iff.mp hstart
        cases hstart
        omega
      · cases hstart
        exact hpos
  have hstop := Word.eq_of_checked hstop
  obtain ⟨-, rfl⟩ := Word.minus_eq_some_iff.mp hlast
  obtain ⟨hsize, rfl⟩ := Word.minus_eq_some_iff.mp hbefore
  cases h
  constructor <;> dsimp only <;> omega

/-- Whatever was shown before, the lines shown next are a whole window of the file. -/
theorem bounds_isWindow (hv : v.Sound) (htotal : 1 ≤ total) {shown? : Option LineRange}
    (hshown : ∀ shown ∈ shown?, 1 ≤ shown.first) {r : LineRange}
    (h : v.bounds shown? focus total = some r) : v.IsWindow total r := by
  obtain ⟨range, hrange, h⟩ := Option.bind_eq_some_iff.mp h
  have hcentred := centred_isWindow hv htotal hrange
  cases shown? with
  | none =>
      cases h
      exact hcentred
  | some shown =>
      dsimp only at h
      split at h
      · exact scrolled_isWindow (hshown shown rfl) h
      · cases h
        exact hcentred

end Viewport

end Source

end DebugDashboard
