import DebugDashboard.Proofs.Session.Breakpoints
import DebugDashboard.Session.Basic
import Mathlib.Data.List.Induction

/-!
# Breakpoints after any operations

The state of a session can be changed directly, in any order. Its breakpoints are then a set of
lines of files, each there or not as the last operation on it says, whatever the spellings.
-/

namespace DebugDashboard

namespace Session

/-- What can be done to the state of a session. -/
inductive Operation where
  | setBreakpoint (place : Position)
  | removeBreakpoint (place : Position)
  | moveTo (place : Position)
  | setVariables (vars : Variables)
  | clearVariables
  | setIdentity (id? name? : Option String)
  | setPaused (paused : Bool)
  | addActivity (entry : Activity.Entry)
  | reset
  deriving Repr, DecidableEq

def perform (s : Session) : Operation → Session
  | .setBreakpoint place => s.setBreakpoint place
  | .removeBreakpoint place => s.removeBreakpoint place
  | .moveTo place => s.moveTo place
  | .setVariables vars => s.setVariables vars
  | .clearVariables => s.setVariables []
  | .setIdentity id? name? => s.setIdentity id? name?
  | .setPaused paused => s.setPaused paused
  | .addActivity entry => s.addActivity entry
  | .reset => s.reset

def performAll (s : Session) (ops : List Operation) : Session := ops.foldl perform s

namespace Operation

/-- Whether an operation decides on the breakpoint at a line of a file. -/
def concerns (file : Path) (line : Nat) : Operation → Bool
  | .setBreakpoint place | .removeBreakpoint place => place.file.same file && place.line == line
  | .reset => true
  | _ => false

end Operation

theorem performAll_append_singleton (s : Session) (earlier : List Operation) (op : Operation) :
    s.performAll (earlier ++ [op]) = (s.performAll earlier).perform op :=
  by simp [performAll]

/-! ## One operation -/

section Step

variable {s : Session}

theorem tidy_perform (h : s.breakpoints.Tidy) (op : Operation) :
    (s.perform op).breakpoints.Tidy := by
  cases op with
  | setBreakpoint place => exact h.set place.file place.line
  | removeBreakpoint place => exact h.remove place.file place.line
  | reset => exact Breakpoints.tidy_nil
  | _ => exact h

/-- An operation that concerns a line of a file decides on its breakpoint; the others leave it. -/
theorem has_perform (h : s.breakpoints.Tidy) (op : Operation) (file : Path) (line : Nat) :
    (s.perform op).breakpoints.has file line = true ↔
      if op.concerns file line then ∃ place, op = .setBreakpoint place
      else s.breakpoints.has file line = true := by
  cases op with
  | setBreakpoint place =>
      rw [perform, setBreakpoint, Breakpoints.has_set]
      cases hsame : place.file.same file with
      | false => simp [Operation.concerns, hsame]
      | true =>
          by_cases hline : place.line = line
          · simp [Operation.concerns, hsame, hline]
          · simp [Operation.concerns, hsame, hline, Ne.symm hline]
  | removeBreakpoint place =>
      rw [perform, removeBreakpoint, h.has_remove]
      cases hsame : place.file.same file with
      | false => simp [Operation.concerns, hsame]
      | true =>
          by_cases hline : place.line = line
          · simp [Operation.concerns, hsame, hline]
          · simp [Operation.concerns, hsame, hline, Ne.symm hline]
  | reset => simp [perform, reset, Operation.concerns, Breakpoints.has, Breakpoints.linesOf]
  | _ => rfl

/-- A spelling comes with the first line that is set in its file. -/
theorem spelling_of_mem_perform {op : Operation} {entry : Path × List Nat}
    (hentry : entry ∈ (s.perform op).breakpoints) :
    (∃ line, op = .setBreakpoint ⟨entry.1, line⟩ ∧ s.breakpoints.linesOf entry.1 = []) ∨
      ∃ kept ∈ s.breakpoints, kept.1 = entry.1 := by
  cases op with
  | setBreakpoint place =>
      rcases Breakpoints.spelling_of_mem_set hentry with ⟨hfile, hnone⟩ | hkept
      · rw [hfile]
        exact .inl ⟨place.line, rfl, hnone⟩
      · exact .inr hkept
  | removeBreakpoint place => exact .inr (Breakpoints.spelling_of_mem_remove hentry)
  | reset => cases hentry
  | _ => exact .inr ⟨entry, hentry, rfl⟩

end Step

/-! ## Any operations -/

/-- The breakpoints of a session that was new before the operations. -/
def breakpointsAfter (capacity : Nat) (ops : List Operation) : Breakpoints :=
  ((withCapacity capacity).performAll ops).breakpoints

theorem tidy_breakpointsAfter (capacity : Nat) (ops : List Operation) :
    (breakpointsAfter capacity ops).Tidy := by
  induction ops using List.reverseRecOn with
  | nil => exact Breakpoints.tidy_nil
  | append_singleton earlier op ih =>
      rw [breakpointsAfter, performAll_append_singleton]
      exact tidy_perform ih op

/-- The last operation that concerns a line of a file decides on its breakpoint. -/
theorem has_breakpointsAfter (capacity : Nat) (ops : List Operation) (file : Path) (line : Nat) :
    (breakpointsAfter capacity ops).has file line = true ↔
      ∃ place, (ops.filter (·.concerns file line)).getLast? = some (.setBreakpoint place) := by
  induction ops using List.reverseRecOn with
  | nil => simp [breakpointsAfter, performAll, withCapacity, Breakpoints.has, Breakpoints.linesOf]
  | append_singleton earlier op ih =>
      rw [breakpointsAfter, performAll_append_singleton,
        has_perform (tidy_breakpointsAfter capacity earlier), List.filter_append]
      rw [breakpointsAfter] at ih
      rw [ih]
      cases hop : op.concerns file line with
      | true => simp [hop]
      | false => simp [hop]

/-- The spelling of an entry is the one under which its file got a line when it had none, and it
has had one ever since. -/
theorem spelling_of_mem_breakpointsAfter (capacity : Nat) (ops : List Operation)
    {entry : Path × List Nat} (hentry : entry ∈ breakpointsAfter capacity ops) :
    ∃ earlier line later, ops = earlier ++ .setBreakpoint ⟨entry.1, line⟩ :: later ∧
      (breakpointsAfter capacity earlier).linesOf entry.1 = [] ∧
      ∀ since, since <+: later →
        (breakpointsAfter capacity
          (earlier ++ .setBreakpoint ⟨entry.1, line⟩ :: since)).linesOf entry.1 ≠ [] := by
  induction ops using List.reverseRecOn generalizing entry with
  | nil => cases hentry
  | append_singleton ops op ih =>
      have htidy := tidy_breakpointsAfter capacity (ops ++ [op])
      have hlines := htidy.nonempty entry hentry
      rw [← htidy.linesOf_of_mem hentry] at hlines
      rw [breakpointsAfter, performAll_append_singleton] at hentry
      rcases spelling_of_mem_perform hentry with ⟨line, rfl, hnone⟩ | ⟨kept, hkept, hspelling⟩
      · refine ⟨ops, line, [], rfl, hnone, ?_⟩
        intro since hsince
        rw [List.prefix_nil.mp hsince]
        exact hlines
      · obtain ⟨earlier, line, later, hops, hnone, hsince⟩ := ih hkept
        rw [hspelling] at hops hnone hsince
        refine ⟨earlier, line, later ++ [op], ?_, hnone, ?_⟩
        · rw [hops, List.append_assoc, List.cons_append]
        · intro since hprefix
          rcases List.prefix_concat_iff.mp hprefix with rfl | hprefix
          · rw [← List.cons_append, ← List.append_assoc, ← hops]
            exact hlines
          · exact hsince since hprefix

/-- The breakpoints of a session are a set of lines of files. A line has a breakpoint exactly if
the last operation that concerns it sets it; the lines of a file are listed once each, ascending;
there is no entry without a line and there are no two entries for one file, and an entry has the
spelling under which its file last got a line when it had none. -/
theorem breakpointsAfter_refines (capacity : Nat) (ops : List Operation) :
    (∀ file line, (breakpointsAfter capacity ops).has file line = true ↔
      ∃ place, (ops.filter (·.concerns file line)).getLast? = some (.setBreakpoint place)) ∧
    (∀ file, ((breakpointsAfter capacity ops).linesOf file).Pairwise (· < ·) ∧
      ∀ line, line ∈ (breakpointsAfter capacity ops).linesOf file ↔
        ∃ place, (ops.filter (·.concerns file line)).getLast? = some (.setBreakpoint place)) ∧
    (∀ entry ∈ breakpointsAfter capacity ops, entry.2 ≠ []) ∧
    (breakpointsAfter capacity ops).Pairwise
      (fun entry other => entry.1.components ≠ other.1.components) ∧
    (∀ entry ∈ breakpointsAfter capacity ops, ∃ earlier line later,
      ops = earlier ++ .setBreakpoint ⟨entry.1, line⟩ :: later ∧
      (breakpointsAfter capacity earlier).linesOf entry.1 = [] ∧
      ∀ since, since <+: later →
        (breakpointsAfter capacity
          (earlier ++ .setBreakpoint ⟨entry.1, line⟩ :: since)).linesOf entry.1 ≠ []) := by
  have htidy := tidy_breakpointsAfter capacity ops
  refine ⟨has_breakpointsAfter capacity ops, ?_, htidy.nonempty, ?_, ?_⟩
  · intro file
    refine ⟨htidy.pairwise_linesOf file, ?_⟩
    intro line
    rw [← Breakpoints.has_iff]
    exact has_breakpointsAfter capacity ops file line
  · refine htidy.apart.imp ?_
    intro entry other hother hsame
    rw [Path.same_iff.mpr hsame] at hother
    cases hother
  · intro entry hentry
    exact spelling_of_mem_breakpointsAfter capacity ops hentry

/-- A file that has lost its last line comes back under the spelling of the next one. -/
example :
    breakpointsAfter 5
      [.setBreakpoint ⟨⟨"/src//a.py"⟩, 3⟩, .removeBreakpoint ⟨⟨"/src/a.py"⟩, 3⟩,
        .setBreakpoint ⟨⟨"/src/./a.py"⟩, 8⟩, .setBreakpoint ⟨⟨"/src/a.py/"⟩, 5⟩] =
      [(⟨"/src/./a.py"⟩, [5, 8])] := by
  decide +kernel

end Session

end DebugDashboard
