import DebugDashboard.Proofs.Session.Breakpoints
import DebugDashboard.Proofs.Session.Closed

/-!
# Breakpoints of a past

A line has a breakpoint if one was set there by a report or by the answer to a call, and since then
none was reported as removed there and the session was not closed. Spellings of one file are one
file.
-/

namespace DebugDashboard

namespace Record

theorem fileLine?_pos {fields : Fields} {file : String} {line : Nat}
    (hplace : fileLine? fields = some (file, line)) : 0 < line := by
  obtain ⟨file', -, hplace⟩ := Option.bind_eq_some_iff.mp hplace
  obtain ⟨line', hline, hplace⟩ := Option.bind_eq_some_iff.mp hplace
  cases hplace
  simpa using (Option.filter_eq_some_iff.mp hline).2

/-- The place from which a record reports that a breakpoint was removed. -/
def removedPlace? (r : Record) : Option (String × Nat) :=
  if r.kind = .debugBreakpoint && r.event = "removed" then fileLine? r.fields else none

theorem closes_of_removedPlace? {r : Record} {place : String × Nat}
    (hplace : r.removedPlace? = some place) (current? : Option String) :
    r.closes current? = false := by
  unfold removedPlace? at hplace
  unfold closes
  split at hplace <;> simp_all

end Record

namespace Past

/-! ## What began and has not ended -/

/-- Some arrival began it, and none that came later ended it. -/
def Since (begins ends : Past → Arrival → Prop) (past : Past) : Prop :=
  ∃ later a earlier, past = later ++ a :: earlier ∧ begins earlier a ∧
    ∀ newer b older, later = newer ++ b :: older → ¬ ends (older ++ a :: earlier) b

section Since

variable {begins ends : Past → Arrival → Prop} {a : Arrival} {earlier : Past}

theorem not_since_nil : ¬ Since begins ends [] := by
  rintro ⟨later, a, earlier, hpast, -⟩
  cases later <;> cases hpast

theorem since_cons_iff :
    Since begins ends (a :: earlier) ↔
      begins earlier a ∨ Since begins ends earlier ∧ ¬ ends earlier a := by
  constructor
  · rintro ⟨later, b, before, hpast, hbegins, hends⟩
    rcases List.cons_eq_append_iff.mp hpast with ⟨rfl, hcons⟩ | ⟨newer, rfl, rfl⟩
    · cases hcons
      exact .inl hbegins
    · refine .inr ⟨⟨newer, b, before, rfl, hbegins, ?_⟩, hends [] a newer rfl⟩
      intro others c older heq
      exact hends (a :: others) c older (by rw [heq]; rfl)
  · rintro (hbegins | ⟨⟨later, b, before, rfl, hbegins, hends⟩, hnow⟩)
    · exact ⟨[], a, earlier, rfl, hbegins, by simp⟩
    · refine ⟨a :: later, b, before, rfl, hbegins, ?_⟩
      intro newer c older heq
      rcases List.cons_eq_append_iff.mp heq with ⟨rfl, hcons⟩ | ⟨others, rfl, hrest⟩
      · cases hcons
        exact hnow
      · exact hends others c older hrest

end Since

/-! ## Setting and clearing -/

theorem markedPlace?_pos {past : Past} {r : Record} {file : String} {line : Nat}
    (hplace : past.markedPlace? r = some (file, line)) : 0 < line := by
  obtain ⟨file', -, hplace⟩ := Option.bind_eq_some_iff.mp hplace
  obtain ⟨line', hline, hplace⟩ := Option.bind_eq_some_iff.mp hplace
  cases hplace
  obtain ⟨fields, -, hline⟩ := List.exists_of_findSome?_eq_some hline
  simpa using (Option.filter_eq_some_iff.mp hline).2

theorem reportedPlace?_pos {past : Past} {a : Arrival} {file : String} {line : Nat}
    (hplace : past.reportedPlace? a = some (file, line)) : 0 < line := by
  unfold reportedPlace? at hplace
  split at hplace
  · split at hplace
    · exact Record.fileLine?_pos hplace
    · cases hplace
  · split at hplace
    · exact Record.fileLine?_pos hplace
    · cases hplace
  · split at hplace
    · exact markedPlace?_pos hplace
    · cases hplace
  · cases hplace

/-- The place at which an arrival sets a breakpoint, as it was reported. -/
def setPlace? (earlier : Past) (a : Arrival) : Option (String × Nat) :=
  match a.record.kind with
  | .debugBreakpoint =>
    if a.record.event = "set" then Record.fileLine? a.record.fields else none
  | .toolResponse =>
    if a.record.tool = "set_breakpoint" && a.record.succeeded then earlier.markedPlace? a.record
    else none
  | _ => none

/-- The arrival sets a breakpoint at a line of a file, under whatever spelling. -/
def Sets (file : Path) (line : Nat) (earlier : Past) (a : Arrival) : Prop :=
  ∃ reported, earlier.setPlace? a = some (reported, line) ∧
    (Path.normalise a.host ⟨reported⟩).same file = true

/-- The arrival closes the current session, or reports that the breakpoint at a line of a file was
removed. -/
def Clears (file : Path) (line : Nat) (earlier : Past) (a : Arrival) : Prop :=
  a.record.closes earlier.currentId? = true ∨
    ∃ reported, a.record.removedPlace? = some (reported, line) ∧
      (Path.normalise a.host ⟨reported⟩).same file = true

/-- An arrival that sets a breakpoint clears none. -/
theorem not_clears_of_setPlace? {earlier : Past} {a : Arrival} {place : String × Nat}
    (hplace : earlier.setPlace? a = some place) (file : Path) (line : Nat) :
    ¬ Clears file line earlier a := by
  unfold setPlace? at hplace
  rintro (hcloses | ⟨reported, hremoved, -⟩)
  · unfold Record.closes at hcloses
    split at hplace <;> simp_all
  · unfold Record.removedPlace? at hremoved
    split at hplace <;> simp_all

/-- A breakpoint was set at a line of a file and has not been cleared since. -/
def HasBreakpoint (past : Past) (file : Path) (line : Nat) : Prop :=
  past.Since (Sets file line) (Clears file line)

end Past

/-! ## One arrival -/

namespace Session

variable {s : Session} {earlier : Past} {a : Arrival}

theorem arrive_breakpoints (hid : s.id? = earlier.currentId?) :
    (s.arrive earlier a).breakpoints =
      match earlier.setPlace? a with
      | some (file, line) => s.breakpoints.set (Path.normalise a.host ⟨file⟩) line
      | none =>
        match a.record.removedPlace? with
        | some (file, line) => s.breakpoints.remove (Path.normalise a.host ⟨file⟩) line
        | none => if a.record.closes earlier.currentId? then [] else s.breakpoints := by
  unfold Past.setPlace? Record.removedPlace?
  cases hkind : a.record.kind with
  | sessionClosed =>
      rw [arrive_closed hid hkind]
      cases a.record.closes earlier.currentId? <;> simp [reset]
  | toolResponse =>
      rw [arrive, earlier.change_response a.host hkind]
      split
      · cases earlier.markedPlace? a.record with
        | none => simp [apply, Record.closes, hkind]
        | some place => rfl
      · simp [apply, Record.closes, hkind]
  | debugBreakpoint =>
      simp only [arrive, Record.change, hkind]
      cases Record.fileLine? a.record.fields with
      | none => simp [apply, Record.closes, hkind]
      | some place =>
          by_cases hset : a.record.event = "set"
          · simp [hset, apply, setBreakpoint, Record.position]
          by_cases hremoved : a.record.event = "removed"
          · simp [hremoved, apply, removeBreakpoint, Record.position]
          by_cases hhit : a.record.event = "hit"
          · simp [hhit, apply, setPaused, moveTo, Record.closes, hkind]
          · simp [hset, hremoved, hhit, apply, Record.closes, hkind]
  | debugState =>
      rw [arrive_state hkind]
      split
      · cases earlier.reportedPlace? a <;> simp [apply, setPaused, moveTo, Record.closes, hkind]
      · split <;> simp [setPaused, Record.closes, hkind]
  | _ => simp [arrive, Record.change, hkind, apply, setIdentity, setVariables, Record.closes]

theorem tidy_arrive (hid : s.id? = earlier.currentId?) (h : s.breakpoints.Tidy) :
    (s.arrive earlier a).breakpoints.Tidy := by
  rw [arrive_breakpoints hid]
  split
  · exact h.set _ _
  · split
    · exact h.remove _ _
    · split
      · exact Breakpoints.tidy_nil
      · exact h

theorem has_arrive (hid : s.id? = earlier.currentId?) (h : s.breakpoints.Tidy) (file : Path)
    (line : Nat) :
    (s.arrive earlier a).breakpoints.has file line = true ↔
      Past.Sets file line earlier a ∨
        s.breakpoints.has file line = true ∧ ¬ Past.Clears file line earlier a := by
  rw [arrive_breakpoints hid]
  cases hset : earlier.setPlace? a with
  | some place =>
      have hclears := Past.not_clears_of_setPlace? hset file line
      obtain ⟨reported, n⟩ := place
      simp only [Breakpoints.has_set, Past.Sets, hset, hclears, not_false_eq_true, and_true,
        Option.some.injEq, Prod.mk.injEq]
      grind
  | none =>
      have hsets : ¬ Past.Sets file line earlier a := by simp [Past.Sets, hset]
      simp only [hsets, false_or]
      cases hremoved : a.record.removedPlace? with
      | some place =>
          have hcloses := Record.closes_of_removedPlace? hremoved earlier.currentId?
          obtain ⟨reported, n⟩ := place
          simp only [h.has_remove, Past.Clears, hremoved, hcloses, Bool.false_eq_true, false_or,
            Option.some.injEq, Prod.mk.injEq]
          grind
      | none =>
          cases hcloses : a.record.closes earlier.currentId? with
          | true => simp [Past.Clears, hcloses, Breakpoints.has, Breakpoints.linesOf]
          | false => simp [Past.Clears, hcloses, hremoved]

end Session

/-! ## All arrivals -/

namespace Tracker

/-- The breakpoints that the session has are those that were set and not cleared since. -/
theorem after_breakpoints (capacity : Nat) (past : Past) :
    ∃ s, (after capacity past).session = .available s ∧ s.Recounts past ∧ s.breakpoints.Tidy ∧
      ∀ file line, s.breakpoints.has file line = true ↔ past.HasBreakpoint file line := by
  induction past with
  | nil =>
      refine ⟨_, rfl, ⟨rfl, rfl, rfl, rfl, rfl⟩, Breakpoints.tidy_nil, ?_⟩
      intro file line
      simp [Past.HasBreakpoint, Past.not_since_nil, Session.withCapacity, Breakpoints.has,
        Breakpoints.linesOf]
  | cons a earlier ih =>
      obtain ⟨s, hs, hrecounts, htidy, hhas⟩ := ih
      obtain ⟨history, hnext⟩ := receive_cons hs a
      refine ⟨_, hnext, hrecounts.arrive a history, Session.tidy_arrive hrecounts.current htidy, ?_⟩
      intro file line
      rw [Past.HasBreakpoint, Past.since_cons_iff, ← Past.HasBreakpoint, ← hhas]
      exact Session.has_arrive hrecounts.current htidy file line

end Tracker

/-- The line at which a session stands is counted from one. -/
theorem Session.Recounts.position_pos {s : Session} {past : Past} (h : s.Recounts past)
    {p : Position} (hp : s.position? = some p) : 0 < p.line := by
  rw [h.position] at hp
  cases hlatest : past.latest? Past.positionTold? with
  | none =>
      rw [hlatest] at hp
      cases hp
  | some told =>
      rw [hlatest] at hp
      obtain rfl : told = some p := hp
      obtain ⟨later, a, earlier, -, htold, -⟩ := Past.latest?_eq_some_iff.mp hlatest
      unfold Past.positionTold? at htold
      split at htold
      · cases htold
      obtain ⟨⟨file, line⟩, hplace, hposition⟩ := Option.map_eq_some_iff.mp htold
      cases hposition
      exact Past.reportedPlace?_pos hplace

end DebugDashboard
