import DebugDashboard.Proofs.Session.LastWriter

/-!
# What a closed session leaves behind

The close of the current session resets all that is shown of it, but not the requests that wait for
an answer. So what comes after is the same whatever came before, up to the first record about
breakpoint calls: if that is an answer, it may still mark what was asked for in the closed session.
-/

namespace DebugDashboard

namespace Session

/-- Changes neither read nor write the activities. -/
theorem apply_withHistory (s : Session) (change : Change) (history : List Activity.Entry) :
    { s with history := history }.apply change = { s.apply change with history := history } := by
  cases change with
  | endSession id? =>
      have hended : { s with history := history }.isEndedBy id? = s.isEndedBy id? := rfl
      rw [apply, apply, hended]
      split <;> rfl
  | pause place? => cases place? <;> rfl
  | _ => rfl

theorem apply_capacity (s : Session) (change : Change) :
    (s.apply change).capacity = s.capacity := by
  cases change with
  | endSession id? =>
      rw [apply]
      split <;> rfl
  | pause place? => cases place? <;> rfl
  | _ => rfl

end Session

namespace Past

/-- Whether the latest arrival closes the session that is current. -/
def closed : Past → Bool
  | [] => false
  | a :: earlier => a.record.closes (currentId? earlier)

/-- What has arrived and where, without the clock. -/
def told (past : Past) : List (Host × Record) := past.map fun a => (a.host, a.record)

/-- The place that an arrival marks as an answer to a breakpoint call. -/
def marks? (past : Past) (a : Arrival) : Option Position :=
  if a.record.kind = .toolResponse && (a.record.tool = "set_breakpoint" && a.record.succeeded) then
    (past.markedPlace? a.record).map fun (file, line) => Record.position a.host file line
  else none

theorem change_of_marks? (past : Past) {a : Arrival} (hkind : a.record.kind = .toolResponse) :
    a.record.change a.host (past.unanswered? a.record.tool) =
      match past.marks? a with
      | some place => .mark place
      | none => .nothing := by
  rw [past.change_response a.host hkind, marks?, decide_eq_true hkind, Bool.true_and]
  split
  · cases past.markedPlace? a.record <;> rfl
  · rfl

/-- Only as the answer to a breakpoint call does an arrival change anything by its past. -/
theorem change_congr {past past' : Past} {a : Arrival} (hmarks : past.marks? a = past'.marks? a) :
    a.record.change a.host (past.unanswered? a.record.tool) =
      a.record.change a.host (past'.unanswered? a.record.tool) := by
  cases hkind : a.record.kind with
  | toolResponse => rw [change_of_marks? past hkind, change_of_marks? past' hkind, hmarks]
  | _ => simp only [Record.change, hkind]

/-- A record about a tool puts out of sight what was asked of it before. -/
theorem unanswered?_append (later past : Past) (tool : String) :
    (later ++ past).unanswered? tool =
      match (later.map (·.record)).find? (·.concerns tool) with
      | some _ => later.unanswered? tool
      | none => past.unanswered? tool := by
  simp only [unanswered?, List.map_append, List.find?_append]
  cases (later.map (·.record)).find? (·.concerns tool) <;> rfl

/-- What an arrival marks depends on its past only by the request that waits. -/
theorem marks?_congr {past past' : Past} {a : Arrival}
    (hsame : past.unanswered? "set_breakpoint" = past'.unanswered? "set_breakpoint") :
    past.marks? a = past'.marks? a := by
  unfold marks?
  split
  next htool =>
    have htool : a.record.tool = "set_breakpoint" := by simp_all
    simp only [markedPlace?, answeredRequest, htool, hsame]
  next => rfl

end Past

namespace Tracker

/-- Two trackers show the same session, its activities aside. -/
def Agree (t t' : Tracker) : Prop :=
  ∃ s history, t.session = .available s ∧ t'.session = .available { s with history := history }

section Agree

variable {capacity : Nat}

theorem receive_capacity {session s : Session} {past : Past}
    (hs : ((Tracker.new session).receive past.reverse).session = .available s) :
    s.capacity = session.capacity := by
  induction past generalizing s with
  | nil =>
      cases hs
      rfl
  | cons a earlier ih =>
      obtain ⟨before, hbefore⟩ := receive_available session earlier
      obtain ⟨history, hnext⟩ := receive_cons hbefore a
      rw [hs] at hnext
      cases hnext
      exact (Session.apply_capacity _ _).trans (ih hbefore)

/-- The tracker of a fresh session after a past. -/
def after (capacity : Nat) (past : Past) : Tracker :=
  (Tracker.new (.withCapacity capacity)).receive past.reverse

/-- After a close nothing is shown but activities. -/
theorem after_closed (capacity : Nat) {past : Past} (hclosed : past.closed = true) :
    ∃ history, (after capacity past).session =
      .available { Session.withCapacity capacity with history := history } := by
  cases past with
  | nil => cases hclosed
  | cons a earlier =>
      obtain ⟨s, hs, hrecounts⟩ := receive_recounts capacity earlier
      obtain ⟨history, hnext⟩ := receive_cons hs a
      have hkind : a.record.kind = .sessionClosed := by
        simp only [Past.closed, Record.closes, Bool.and_eq_true, decide_eq_true_eq] at hclosed
        exact hclosed.1
      have hreset : s.arrive earlier a = s.reset :=
        (Session.arrive_closed hrecounts.current hkind).trans (if_pos hclosed)
      rw [Session.arrive] at hreset
      have hcapacity := receive_capacity hs
      refine ⟨history, ?_⟩
      rw [after, hnext, hreset, Session.reset, hcapacity]
      rfl

/-- One more arrival keeps sessions alike if it marks the same place in both. -/
theorem Agree.cons {past past' : Past} {a a' : Arrival}
    (h : Agree (after capacity past) (after capacity past'))
    (hhost : a.host = a'.host) (hrecord : a.record = a'.record)
    (hmarks : past.marks? a = past'.marks? a) :
    Agree (after capacity (a :: past)) (after capacity (a' :: past')) := by
  obtain ⟨s, history, hs, hs'⟩ := h
  obtain ⟨newer, hnext⟩ := receive_cons hs a
  obtain ⟨newer', hnext'⟩ := receive_cons hs' a'
  refine ⟨_, newer', hnext, ?_⟩
  rw [after, hnext', ← hhost, ← hrecord, ← Past.change_congr hmarks, Session.apply_withHistory]

variable {past past' : Past} (hclosed : past.closed = true) (hclosed' : past'.closed = true)

include hclosed hclosed'

/-- Arrivals after a close show the same session whatever came before it, if the first of them about
breakpoint calls marks the same. -/
theorem agree_append {later later' : Past} (htold : later.told = later'.told)
    (hfirst : ∀ newer a older, later = newer ++ a :: older →
      (∀ b ∈ older, b.record.concerns "set_breakpoint" = false) → past.marks? a = past'.marks? a) :
    Agree (after capacity (later ++ past)) (after capacity (later' ++ past')) := by
  induction later generalizing later' with
  | nil =>
      have hnil : later' = [] := by simpa [Past.told] using htold.symm
      subst hnil
      obtain ⟨history, hs⟩ := after_closed capacity hclosed
      obtain ⟨history', hs'⟩ := after_closed capacity hclosed'
      exact ⟨_, history', hs, hs'⟩
  | cons a older ih =>
      obtain ⟨a', older', rfl, hhead, hrest⟩ := List.map_eq_cons_iff.mp htold.symm
      obtain ⟨hhost, hrecord⟩ := Prod.mk.inj hhead
      have hagree : Agree (after capacity (older ++ past)) (after capacity (older' ++ past')) :=
        ih hrest.symm fun newer b before heq => hfirst (a :: newer) b before (by rw [heq]; rfl)
      refine hagree.cons hhost.symm hrecord.symm ?_
      have hrecords : older.map (·.record) = older'.map (·.record) := by
        simpa [Past.told, Function.comp_def] using (congrArg (List.map Prod.snd) hrest).symm
      have happend := Past.unanswered?_append older past "set_breakpoint"
      have happend' := Past.unanswered?_append older' past' "set_breakpoint"
      have hunanswered : Past.unanswered? "set_breakpoint" older =
          Past.unanswered? "set_breakpoint" older' := by
        rw [Past.unanswered?, Past.unanswered?, hrecords]
      rw [← hrecords] at happend'
      -- the request that waits is younger than both pasts, or still the one of each past
      cases hfound : (older.map (·.record)).find? (·.concerns "set_breakpoint") with
      | some r =>
          simp only [hfound] at happend happend'
          exact Past.marks?_congr (by rw [happend, happend', hunanswered])
      | none =>
          simp only [hfound] at happend happend'
          have hnone : ∀ b ∈ older, b.record.concerns "set_breakpoint" = false := by
            simpa [List.find?_eq_none] using hfound
          rw [Past.marks?_congr happend, Past.marks?_congr happend']
          exact hfirst [] a older rfl hnone

/-- Directly after a close, the place that an arrival marks shows. -/
theorem marks?_eq_of_agree {a : Arrival}
    (hagree : Agree (after capacity (a :: past)) (after capacity (a :: past'))) :
    past.marks? a = past'.marks? a := by
  by_cases hkind : a.record.kind = .toolResponse
  · obtain ⟨history, hs⟩ := after_closed capacity hclosed
    obtain ⟨history', hs'⟩ := after_closed capacity hclosed'
    obtain ⟨newer, hnext⟩ := receive_cons hs a
    obtain ⟨newer', hnext'⟩ := receive_cons hs' a
    obtain ⟨s, other, hagree, hagree'⟩ := hagree
    rw [after, hnext, past.change_of_marks? hkind] at hagree
    rw [after, hnext', past'.change_of_marks? hkind] at hagree'
    have hplace := congrArg Session.position? (Guarded.available.inj hagree)
    have hplace' := congrArg Session.position? (Guarded.available.inj hagree')
    -- nothing else tells the place of a session that was just closed
    have hshows : ∀ (kept : List Activity.Entry) (place? : Option Position),
        ({ Session.withCapacity capacity with history := kept }.apply
          (match place? with
            | some place => .mark place
            | none => .nothing)).position? = place? := by
      intro kept place?
      cases place? <;> rfl
    exact (hshows history _).symm.trans ((hplace.trans hplace'.symm).trans (hshows history' _))
  · simp [Past.marks?, hkind]

end Agree

/-- After a close, the same arrivals show the same session whatever came before, if the first of
them about breakpoint calls marks the same place; only activities may differ. So all arrivals show
the same exactly if every answer to a breakpoint call would mark the same place, as it does when the
same request waits, or none. -/
theorem closed_leaves_request (capacity : Nat) {past past' : Past} (hclosed : past.closed = true)
    (hclosed' : past'.closed = true) :
    (∀ later later' : Past, later.told = later'.told →
      (∀ newer a older, later = newer ++ a :: older →
        (∀ b ∈ older, b.record.concerns "set_breakpoint" = false) →
        past.marks? a = past'.marks? a) →
      Agree (after capacity (later ++ past)) (after capacity (later' ++ past'))) ∧
    ((∀ later : Past, Agree (after capacity (later ++ past)) (after capacity (later ++ past'))) ↔
      ∀ a, past.marks? a = past'.marks? a) ∧
    (past.unanswered? "set_breakpoint" = past'.unanswered? "set_breakpoint" →
      ∀ a, past.marks? a = past'.marks? a) := by
  refine ⟨fun later later' htold hfirst => agree_append hclosed hclosed' htold hfirst,
    ⟨fun hagree a => ?_, fun hmarks later => ?_⟩, fun hsame a => Past.marks?_congr hsame⟩
  · exact marks?_eq_of_agree hclosed hclosed' (hagree [a])
  · exact agree_append hclosed hclosed' rfl fun _ a _ _ _ => hmarks a

/-! ### A late answer -/

/-- A breakpoint call, and the close of its session. -/
def askedAndClosed : Past :=
  [bare .sessionClosed [],
    bare .toolCall [("tool", .string "set_breakpoint"),
      ("request", .object [("file", .string "/src/main.py"), ("line", .number (.integer 3))])]]

/-- A close of which nothing is known but that. -/
def closedOnly : Past := [bare .sessionClosed []]

/-- An answer to a breakpoint call that tells no place. -/
def lateAnswer : Arrival := bare .toolResponse [("tool", .string "set_breakpoint")]

/-- After a new call it does not matter what was asked for in the closed session. -/
theorem closed_leaves_request_called :
    askedAndClosed.closed = true ∧ closedOnly.closed = true ∧
      Agree (after 5 (lateAnswer :: called ++ askedAndClosed))
        (after 5 (lateAnswer :: called ++ closedOnly)) := by
  have hclosed : askedAndClosed.closed = true := rfl
  have hclosed' : closedOnly.closed = true := rfl
  obtain ⟨hagree, -, -⟩ := closed_leaves_request 5 hclosed hclosed'
  refine ⟨hclosed, hclosed', hagree (lateAnswer :: called) (lateAnswer :: called) rfl ?_⟩
  intro newer a older heq hnone
  rcases List.cons_eq_append_iff.mp heq with ⟨rfl, hcons⟩ | ⟨newer, rfl, hcalled⟩
  · cases hcons
    cases hnone _ (List.mem_cons_of_mem _ (List.mem_singleton_self _))
  · -- the call and the answer of another tool mark nothing
    have ha : a ∈ called := by rw [hcalled]; simp
    rcases List.mem_cons.mp ha with rfl | ha
    · rfl
    · rw [List.mem_singleton.mp ha]
      rfl

/-- What was asked for in a closed session is marked after it. -/
theorem lateAnswer_marks_request :
    askedAndClosed.closed = true ∧ closedOnly.closed = true ∧
      ¬ Agree (after 5 (lateAnswer :: askedAndClosed)) (after 5 (lateAnswer :: closedOnly)) := by
  refine ⟨rfl, rfl, fun hagree => ?_⟩
  have hmarks := marks?_eq_of_agree rfl rfl hagree
  have hnone : closedOnly.marks? lateAnswer = none := rfl
  have hsome : (askedAndClosed.marks? lateAnswer).isSome = true := rfl
  rw [hmarks, hnone] at hsome
  cases hsome

end Tracker

end DebugDashboard
