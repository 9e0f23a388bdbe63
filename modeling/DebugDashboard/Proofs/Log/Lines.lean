import DebugDashboard.Tail.LineReader
import Mathlib.Data.List.TakeDrop
import Mathlib.Data.List.TakeWhile

/-!
# Lines of a log

A byte string is its complete lines, each with the line feed that ends it, and a fragment without
line feed behind them. Bytes that are added later complete the fragment and leave the complete
lines as they are.
-/

namespace DebugDashboard.Log

open LineReader (lineFeed splitLine?)

/-- The complete lines of a byte string. -/
def lines : List UInt8 → List (List UInt8)
  | [] => []
  | b :: rest =>
    if b = lineFeed then [b] :: lines rest
    else match lines rest with
      | [] => []
      | line :: more => (b :: line) :: more

/-- What follows the last line feed. -/
def fragment (bytes : List UInt8) : List UInt8 :=
  bytes.drop (lines bytes).flatten.length

theorem lines_cons_lineFeed (rest : List UInt8) :
    lines (lineFeed :: rest) = [lineFeed] :: lines rest := by
  simp [lines]

theorem lines_replicate (count : Nat) :
    lines (.replicate count lineFeed) = .replicate count [lineFeed] := by
  induction count with
  | zero => rfl
  | succ count ih => rw [List.replicate_succ, lines_cons_lineFeed, ih, List.replicate_succ]

theorem lines_cons_of_ne {b : UInt8} (hb : b ≠ lineFeed) (rest : List UInt8) :
    lines (b :: rest) =
      match lines rest with
      | [] => []
      | line :: more => (b :: line) :: more := by
  simp [lines, hb]

theorem lines_eq_nil_iff {bytes : List UInt8} : lines bytes = [] ↔ lineFeed ∉ bytes := by
  induction bytes with
  | nil => simp [lines]
  | cons b rest ih =>
      by_cases hb : b = lineFeed
      · subst hb
        simp [lines_cons_lineFeed]
      · rw [lines_cons_of_ne hb]
        cases hlines : lines rest with
        | nil => simpa [Ne.symm hb] using ih.mp hlines
        | cons line more => simpa [hlines, Ne.symm hb] using ih

theorem length_flatten_replicate (count : Nat) :
    (List.replicate count [lineFeed]).flatten.length = count := by
  simp

/-- A line takes at least one byte. -/
theorem length_lines_le (bytes : List UInt8) : (lines bytes).length ≤ bytes.length := by
  induction bytes with
  | nil => exact Nat.le_refl 0
  | cons b rest ih =>
      by_cases hb : b = lineFeed
      · subst hb
        rw [lines_cons_lineFeed]
        exact Nat.succ_le_succ ih
      · rw [lines_cons_of_ne hb]
        split
        · exact Nat.zero_le _
        next hlines =>
          rw [hlines] at ih
          exact Nat.le_succ_of_le ih

/-- A prefix without line feed belongs to the first line. -/
theorem lines_append_of_notMem {front : List UInt8} (hfront : lineFeed ∉ front)
    (bytes : List UInt8) :
    lines (front ++ bytes) =
      match lines bytes with
      | [] => []
      | line :: more => (front ++ line) :: more := by
  induction front with
  | nil => cases hlines : lines bytes <;> simp [hlines]
  | cons b rest ih =>
      obtain ⟨hb, hrest⟩ := not_or.mp (mt List.mem_cons.mpr hfront)
      rw [List.cons_append, lines_cons_of_ne (Ne.symm hb), ih hrest]
      cases lines bytes <;> rfl

/-- A line that ends with its only line feed is the first of what it begins. -/
theorem lines_line_append {front : List UInt8} (hfront : lineFeed ∉ front) (rest : List UInt8) :
    lines (front ++ lineFeed :: rest) = (front ++ [lineFeed]) :: lines rest := by
  rw [lines_append_of_notMem hfront, lines_cons_lineFeed]

/-- Complete lines end with their only line feed. -/
theorem exists_of_mem_lines {bytes line : List UInt8} (hline : line ∈ lines bytes) :
    ∃ front, line = front ++ [lineFeed] ∧ lineFeed ∉ front := by
  induction bytes generalizing line with
  | nil => simp [lines] at hline
  | cons b rest ih =>
      by_cases hb : b = lineFeed
      · subst hb
        rw [lines_cons_lineFeed] at hline
        rcases List.mem_cons.mp hline with rfl | hmore
        · exact ⟨[], rfl, List.not_mem_nil⟩
        · exact ih hmore
      · rw [lines_cons_of_ne hb] at hline
        cases hlines : lines rest with
        | nil => simp [hlines] at hline
        | cons first more =>
            rw [hlines] at hline ih
            rcases List.mem_cons.mp hline with rfl | hmore
            · obtain ⟨front, hfirst, hfront⟩ := ih List.mem_cons_self
              refine ⟨b :: front, by simp [hfirst], ?_⟩
              simp [hfront, Ne.symm hb]
            · exact ih (List.mem_cons_of_mem _ hmore)

/-- The first line and the rest of the lines are those of the bytes behind it. -/
theorem exists_of_lines_eq_cons {bytes line : List UInt8} {more : List (List UInt8)}
    (hlines : lines bytes = line :: more) :
    ∃ rest, bytes = line ++ rest ∧ lines rest = more := by
  induction bytes generalizing line more with
  | nil => simp [lines] at hlines
  | cons b rest ih =>
      by_cases hb : b = lineFeed
      · subst hb
        rw [lines_cons_lineFeed] at hlines
        obtain ⟨rfl, rfl⟩ := List.cons.inj hlines
        exact ⟨rest, rfl, rfl⟩
      · rw [lines_cons_of_ne hb] at hlines
        cases hrest : lines rest with
        | nil => simp [hrest] at hlines
        | cons first others =>
            rw [hrest] at hlines
            obtain ⟨rfl, rfl⟩ := List.cons.inj hlines
            obtain ⟨behind, hbytes, hothers⟩ := ih hrest
            exact ⟨behind, by simp [hbytes], hothers⟩

/-- The lines behind the first ones are those of the bytes behind them. -/
theorem lines_drop (bytes : List UInt8) (count : Nat) :
    lines (bytes.drop ((lines bytes).take count).flatten.length) = (lines bytes).drop count := by
  induction count generalizing bytes with
  | zero => simp
  | succ count ih =>
      cases hlines : lines bytes with
      | nil => simp [hlines]
      | cons line more =>
          obtain ⟨rest, rfl, rfl⟩ := exists_of_lines_eq_cons hlines
          simpa [← List.drop_drop] using ih rest

/-- The first lines are where the byte string begins. -/
theorem flatten_take_isPrefix (bytes : List UInt8) (count : Nat) :
    ((lines bytes).take count).flatten <+: bytes := by
  induction count generalizing bytes with
  | zero => simp
  | succ count ih =>
      cases hlines : lines bytes with
      | nil => simp
      | cons line more =>
          obtain ⟨rest, rfl, rfl⟩ := exists_of_lines_eq_cons hlines
          simpa using ih rest

theorem length_flatten_take_le (bytes : List UInt8) (count : Nat) :
    ((lines bytes).take count).flatten.length ≤ bytes.length :=
  (flatten_take_isPrefix bytes count).length_le

theorem lines_eq_append {bytes : List UInt8} {done : List (List UInt8)}
    (hdone : done <+: lines bytes) :
    lines bytes = done ++ lines (bytes.drop done.flatten.length) := by
  have hdrop := lines_drop bytes done.length
  rw [← List.prefix_iff_eq_take.mp hdone] at hdrop
  rw [hdrop, List.prefix_iff_eq_append.mp hdone]

theorem length_flatten_le {bytes : List UInt8} {done : List (List UInt8)}
    (hdone : done <+: lines bytes) : done.flatten.length ≤ bytes.length := by
  rw [List.prefix_iff_eq_take.mp hdone]
  exact length_flatten_take_le bytes _

theorem fragment_line_append {line rest : List UInt8}
    (hlines : lines (line ++ rest) = line :: lines rest) :
    fragment (line ++ rest) = fragment rest := by
  rw [fragment, hlines, List.flatten_cons, List.length_append, ← List.drop_drop, List.drop_left,
    fragment]

theorem fragment_eq_self {bytes : List UInt8} (hlines : lines bytes = []) :
    fragment bytes = bytes := by
  simp [fragment, hlines]

/-- Bytes that are added leave the complete lines, and complete the fragment. -/
theorem lines_append (bytes more : List UInt8) :
    lines (bytes ++ more) = lines bytes ++ lines (fragment bytes ++ more) := by
  -- by induction on the number of complete lines: behind the last one all is fragment
  generalize hcount : (lines bytes).length = count
  induction count generalizing bytes with
  | zero =>
      have hnil : lines bytes = [] := List.eq_nil_of_length_eq_zero hcount
      rw [fragment_eq_self hnil, hnil, List.nil_append]
  | succ count ih =>
      obtain ⟨line, others, hlines⟩ := List.exists_cons_of_length_eq_add_one hcount
      obtain ⟨rest, rfl, hrest⟩ := exists_of_lines_eq_cons hlines
      obtain ⟨front, rfl, hfront⟩ := exists_of_mem_lines (hlines ▸ List.mem_cons_self)
      rw [hlines, List.length_cons, Nat.add_right_cancel_iff] at hcount
      have hih := ih rest (hrest.symm ▸ hcount)
      subst hrest
      rw [fragment_line_append hlines, hlines, List.cons_append, ← hih]
      simpa using lines_line_append hfront (rest ++ more)

theorem lines_prefix_append (bytes more : List UInt8) : lines bytes <+: lines (bytes ++ more) := by
  rw [lines_append]
  exact List.prefix_append _ _

theorem splitLine?_eq (bytes : List UInt8) :
    splitLine? bytes =
      match bytes.dropWhile (· ≠ lineFeed) with
      | _ :: rest => some (bytes.takeWhile (· ≠ lineFeed) ++ [lineFeed], rest)
      | [] => none := by
  cases hdrop : bytes.dropWhile (· ≠ lineFeed) with
  | nil => simp only [splitLine?, List.span_eq_takeWhile_dropWhile, hdrop]
  | cons c rest => simp only [splitLine?, List.span_eq_takeWhile_dropWhile, hdrop]

theorem notMem_takeWhile (bytes : List UInt8) : lineFeed ∉ bytes.takeWhile (· ≠ lineFeed) :=
  fun hmem => by simpa using List.mem_takeWhile_imp hmem

/-- A line taken from the front of a byte string is its first line. -/
theorem of_splitLine?_eq_some {bytes line rest : List UInt8}
    (hsplit : splitLine? bytes = some (line, rest)) :
    bytes = line ++ rest ∧ lines bytes = line :: lines rest := by
  rw [splitLine?_eq] at hsplit
  have happend := List.takeWhile_append_dropWhile (p := (· ≠ lineFeed)) (l := bytes)
  have hhead := List.head?_dropWhile_not (· ≠ lineFeed) bytes
  have hfront := notMem_takeWhile bytes
  generalize bytes.takeWhile (· ≠ lineFeed) = front at hsplit happend hfront
  generalize bytes.dropWhile (· ≠ lineFeed) = behind at hsplit happend hhead
  cases behind with
  | nil => cases hsplit
  | cons b others =>
      have hb : b = lineFeed := by simpa using hhead
      cases hsplit
      subst hb happend
      exact ⟨by simp, lines_line_append hfront _⟩

/-- No line can be taken from the front of a byte string without line feed. -/
theorem splitLine?_eq_none_iff {bytes : List UInt8} :
    splitLine? bytes = none ↔ lineFeed ∉ bytes := by
  constructor
  · intro hsplit hmem
    rw [splitLine?_eq] at hsplit
    cases hdrop : bytes.dropWhile (· ≠ lineFeed) with
    | nil => simpa using List.dropWhile_eq_nil_iff.mp hdrop lineFeed hmem
    | cons b behind => simp only [hdrop] at hsplit; cases hsplit
  · intro hnone
    cases hsplit : splitLine? bytes with
    | none => rfl
    | some split =>
        obtain ⟨line, rest⟩ := split
        have hcons := (of_splitLine?_eq_some hsplit).2
        rw [lines_eq_nil_iff.mpr hnone] at hcons
        cases hcons

end DebugDashboard.Log
