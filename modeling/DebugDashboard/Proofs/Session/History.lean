import DebugDashboard.Proofs.Session.Closed
import Mathlib.Data.List.Induction

/-!
# The history

Each record reports at most one activity, and only its time may come from the clock. A session
keeps the latest of these activities, as many as its capacity says, in the order of the log. No
change of the session touches them, not even the end of a session. There is room for them up to a
greatest capacity, and no session beyond it.
-/

namespace DebugDashboard

/-! ## What one record reports -/

namespace Record

/-- The records that report no activity. -/
inductive Silent (r : Record) : Prop
  /-- A state other than paused, running and stopped. -/
  | state (hkind : r.kind = .debugState) (hevent : r.event ∉ ["paused", "running", "stopped"])
  /-- A breakpoint of which the file or the line is not told. -/
  | breakpoint (hkind : r.kind = .debugBreakpoint)
    (hplace : r.fields.nonEmpty? "file" = none ∨ r.fields.line? "line" = none)
  /-- An output that is missing, no text or empty. -/
  | output (hkind : r.kind = .debugOutput)
    (htext : ∀ text, r.fields.get? "output" = some (.string text) → text = "")

theorem fileLine?_eq_none_iff {fields : Fields} :
    fileLine? fields = none ↔ fields.nonEmpty? "file" = none ∨ fields.line? "line" = none := by
  cases hfile : fields.nonEmpty? "file" <;> cases hline : fields.line? "line" <;>
    simp [fileLine?, hfile, hline]

theorem nonEmpty?_eq_none_iff {fields : Fields} {key : String} :
    fields.nonEmpty? key = none ↔ ∀ text, fields.get? key = some (.string text) → text = "" := by
  unfold Fields.nonEmpty? Fields.string?
  split
  next text hget => simp [hget]
  next hother =>
    simp only [Option.filter_none, true_iff]
    exact fun text hget => absurd hget (hother text)

/-- Every other record reports an activity. -/
theorem entryAt?_eq_none_iff {r : Record} {now : Int} : r.entryAt? now = none ↔ r.Silent := by
  rw [entryAt?, Option.map_eq_none_iff]
  constructor
  · intro hnone
    unfold activity? at hnone
    cases hkind : r.kind with
    | debugState =>
        refine .state hkind ?_
        simp only [hkind] at hnone
        split at hnone
        · cases hnone
        · split at hnone
          · cases hnone
          · split at hnone
            · cases hnone
            · simp_all
    | debugBreakpoint =>
        simp only [hkind, Option.map_eq_none_iff] at hnone
        exact .breakpoint hkind (fileLine?_eq_none_iff.mp hnone)
    | debugOutput =>
        simp only [hkind, Option.map_eq_none_iff] at hnone
        exact .output hkind (nonEmpty?_eq_none_iff.mp hnone)
    | _ => simp [hkind] at hnone
  · rintro (⟨hkind, hevent⟩ | ⟨hkind, hplace⟩ | ⟨hkind, htext⟩)
    · simp only [List.mem_cons, List.not_mem_nil, or_false, not_or] at hevent
      simp only [activity?, hkind, if_neg hevent.1, if_neg hevent.2.1, if_neg hevent.2.2]
    · simp only [activity?, hkind, fileLine?_eq_none_iff.mpr hplace, Option.map_none]
    · simp only [activity?, hkind, nonEmpty?_eq_none_iff.mpr htext, Option.map_none]

/-- At another time of the clock only a record without a time of its own reports another time. -/
theorem entryAt?_eq_map (r : Record) (now now' : Int) :
    r.entryAt? now = (r.entryAt? now').map fun entry =>
      { entry with time := (r.time?.map .reported).getD (.clock now) } := by
  have hstamp : r.stamp now = (r.time?.map .reported).getD (.clock now) := by
    rw [stamp]
    cases r.time? <;> rfl
  rw [entryAt?, entryAt?, Option.map_map, ← hstamp]
  rfl

end Record

/-- The activity that an arrival reports. -/
def Arrival.entry? (a : Arrival) : Option Activity.Entry := a.record.entryAt? a.now

/-! ## What a session keeps -/

namespace Session

/-- The greatest capacity: there is room for one activity more. -/
def maxCapacity : Nat := (Word.signedLimit - 1) / entrySize - 1

/-- For each capacity, whether there is a session, and if not, what is exceeded first. -/
theorem ofCapacity_eq (capacity : Nat) :
    ofCapacity capacity =
      if capacity ≤ maxCapacity then .ok (withCapacity capacity)
      else .error (if capacity + 1 < Word.limit then .tooLarge else .overflow) := by
  have hmax : maxCapacity = (2 ^ 63 - 1) / 72 - 1 := rfl
  have hsigned : Word.signedLimit = 2 ^ 63 := rfl
  have hlimit : Word.limit = 2 ^ 64 := rfl
  simp only [ofCapacity, Word.checked, entrySize]
  by_cases hroom : capacity ≤ maxCapacity
  · have hword : max capacity 1 + 1 < Word.limit := by omega
    have hbytes : 72 * (max capacity 1 + 1) < Word.signedLimit := by omega
    simp only [if_pos hroom, if_pos hword]
    exact if_pos hbytes
  · have hkept : max capacity 1 = capacity := by omega
    simp only [if_neg hroom, hkept]
    by_cases hword : capacity + 1 < Word.limit
    · have hbytes : ¬ 72 * (capacity + 1) < Word.signedLimit := by omega
      simp only [if_pos hword]
      exact if_neg hbytes
    · simp only [if_neg hword]

/-- A session that is made is empty, and keeps as many activities as its capacity says. -/
theorem eq_of_ofCapacity {capacity : Nat} {s : Session} (h : ofCapacity capacity = .ok s) :
    s = withCapacity capacity := by
  rw [ofCapacity_eq] at h
  split at h
  · exact (Except.ok.inj h).symm
  · cases h

/-- What was left out before is not missed later. -/
theorem lastOf_append {α : Type} (count : Nat) (xs ys : List α) :
    lastOf count (lastOf count xs ++ ys) = lastOf count (xs ++ ys) := by
  have hle : xs.length - count ≤ xs.length := Nat.sub_le _ _
  simp only [lastOf, ← List.drop_append_of_le_length hle, List.drop_drop, List.length_drop,
    List.length_append]
  congr 1
  omega

theorem apply_history (s : Session) (change : Change) : (s.apply change).history = s.history := by
  have hsame := congrArg Session.history (s.apply_withHistory change s.history)
  exact hsame

end Session

namespace Tracker

variable {t : Tracker} {s : Session}

/-- One more record adds the activity it reports, if any, and keeps the capacity. -/
theorem handle_history (host : Host) (now : Int) (r : Record) (hs : t.session = .available s) :
    ∃ s', (t.handle host now r).2.session = .available s' ∧ s'.capacity = s.capacity ∧
      s'.history = match r.entryAt? now with
        | some entry => Session.lastOf s.capacity (s.history ++ [entry])
        | none => s.history := by
  unfold handle
  cases hentry : r.entryAt? now with
  | none => exact ⟨s, hs, rfl, rfl⟩
  | some entry =>
      simp only [hs, Guarded.update]
      refine ⟨_, rfl, Session.apply_capacity s _, ?_⟩
      simp only [step, Session.addActivity, Session.apply_history, Session.apply_capacity]

/-- The history is the end of all that was reported. -/
theorem receive_history (capacity : Nat) (arrivals : List Arrival) :
    ∃ s, ((Tracker.new (.withCapacity capacity)).receive arrivals).session = .available s ∧
      s.capacity = max capacity 1 ∧
      s.history = Session.lastOf (max capacity 1) (arrivals.filterMap Arrival.entry?) := by
  induction arrivals using List.reverseRecOn with
  | nil => exact ⟨_, rfl, rfl, List.drop_nil.symm⟩
  | append_singleton earlier a ih =>
      obtain ⟨s, hs, hcapacity, hhistory⟩ := ih
      obtain ⟨s', hs', hcapacity', hhistory'⟩ := handle_history a.host a.now a.record hs
      refine ⟨s', by rw [receive, List.foldl_append]; exact hs', hcapacity'.trans hcapacity, ?_⟩
      rw [hhistory', hcapacity, hhistory, List.filterMap_append]
      cases hentry : a.record.entryAt? a.now with
      | none => simp [Arrival.entry?, hentry]
      | some entry => simp [Arrival.entry?, hentry, Session.lastOf_append]

end Tracker

end DebugDashboard
