import DebugDashboard.Session.Tracker

/-!
# The past of a session

Records arrive one after the other, each at a host and a time of its own. What a session shows was
told by the latest records, so the past is kept with the latest arrival first.
-/

namespace DebugDashboard

/-- A record, and the host and the time of the clock when it is handled. -/
structure Arrival where
  host : Host
  now : Int
  record : Record

/-- What has arrived, the latest first. -/
abbrev Past := List Arrival

namespace Record

/-- A record that reports no activity changes nothing. -/
theorem change_of_activity?_eq_none {r : Record} (hnone : r.activity? = none) (host : Host)
    (remembered? : Option Fields) : r.change host remembered? = .nothing := by
  unfold activity? at hnone
  unfold change
  cases hkind : r.kind with
  | debugState =>
      simp only [hkind] at hnone ⊢
      split at hnone
      · cases hnone
      next hpaused =>
        split at hnone
        · cases hnone
        next hrunning =>
          split at hnone
          · cases hnone
          next hstopped => simp [hpaused, hrunning, hstopped]
  | debugBreakpoint =>
      simp only [hkind, Option.map_eq_none_iff] at hnone
      simp only [hnone]
  | debugOutput => rfl
  | _ => simp [hkind] at hnone

end Record

namespace Tracker

/-- The tracker after arrivals, in order. -/
def receive (t : Tracker) (arrivals : List Arrival) : Tracker :=
  arrivals.foldl (fun t a => (t.handle a.host a.now a.record).2) t

/-- Records that are handled at one host and one time arrive there and then. -/
theorem handleAll_eq_receive (host : Host) (now : Int) (t : Tracker) (rs : List Record) :
    t.handleAll host now rs = t.receive (rs.map (Arrival.mk host now)) := by
  rw [handleAll, receive, List.foldl_map]

theorem receive_reverse_cons (t : Tracker) (a : Arrival) (earlier : Past) :
    t.receive (a :: earlier).reverse =
      ((t.receive earlier.reverse).handle a.host a.now a.record).2 := by
  simp [receive]

variable {t : Tracker} (host : Host) (now : Int) (r : Record)

theorem handle_pending : (t.handle host now r).2.pending = t.pending.after r := by
  unfold handle
  split
  · rfl
  · split <;> rfl

/-- Whether or not a record reports an activity, the session changes as the record says. -/
theorem handle_session {s : Session} (hs : t.session = .available s) :
    ∃ history, (t.handle host now r).2.session =
      .available { s.apply (r.change host (t.pending.get? r.tool)) with history := history } := by
  unfold handle
  cases hentry : r.entryAt? now with
  | none =>
      have hnone : r.activity? = none := Option.map_eq_none_iff.mp hentry
      refine ⟨s.history, ?_⟩
      rw [Record.change_of_activity?_eq_none hnone]
      exact hs
  | some entry =>
      simp only [hs, Guarded.update]
      exact ⟨_, rfl⟩

/-- The session can be reached after any arrivals. -/
theorem receive_available (session : Session) (past : Past) :
    ∃ s, ((Tracker.new session).receive past.reverse).session = .available s := by
  induction past with
  | nil => exact ⟨session, rfl⟩
  | cons a earlier ih =>
      obtain ⟨s, hs⟩ := ih
      rw [receive_reverse_cons]
      obtain ⟨history, hnext⟩ := handle_session a.host a.now a.record hs
      exact ⟨_, hnext⟩

end Tracker

end DebugDashboard
