import DebugDashboard.Session.Tracker

/-!
# Tracking without the clock

The clock is only looked at for records that give no time, and the host only for what the reported
files mean. Two trackers that differ in nothing but times of the clock stay so, as long as their
hosts agree on the files that are reported.
-/

namespace DebugDashboard

/-! ## Without times of the clock -/

/-- A time, unless it is the clock's. -/
def Activity.Stamp.undated : Activity.Stamp → Activity.Stamp
  | .reported millis => .reported millis
  | .clock _ => .clock 0

/-- An activity without a time of the clock. -/
def Activity.Entry.undated (entry : Activity.Entry) : Activity.Entry :=
  { entry with time := entry.time.undated }

namespace Session

/-- A session without times of the clock. -/
def undated (s : Session) : Session :=
  { s with history := s.history.map Activity.Entry.undated }

theorem undated_apply (s : Session) (change : Change) :
    (s.apply change).undated = s.undated.apply change := by
  cases change with
  | endSession id? =>
      have hended : s.undated.isEndedBy id? = s.isEndedBy id? := rfl
      rw [apply, apply, hended]
      split <;> rfl
  | pause place? => cases place? <;> rfl
  | _ => rfl

theorem undated_addActivity (s : Session) (entry : Activity.Entry) :
    (s.addActivity entry).undated = s.undated.addActivity entry.undated := by
  simp [undated, addActivity, lastOf, List.map_drop]

end Session

/-- A tracker without times of the clock. -/
def Tracker.undated (t : Tracker) : Tracker :=
  match t.session with
  | .available s => { t with session := .available s.undated }
  | .poisoned => t

/-! ## Reported files -/

/-- The file that fields name. -/
def Fields.files (fields : Fields) : List String := (fields.nonEmpty? "file").toList

/-- The files that a record may report, in any of its parts. -/
def Record.files (r : Record) : List String :=
  r.fields.files ++ r.request.files ++ r.response.files ++ r.pausePlace.files

/-- The files that remembered requests name. -/
def PendingRequests.files (pending : PendingRequests) : List String :=
  pending.flatMap fun request => request.2.files

/-- The hosts give the files the same meaning. -/
def Host.AgreeOn (host host' : Host) (files : List String) : Prop :=
  ∀ file ∈ files, Path.normalise host ⟨file⟩ = Path.normalise host' ⟨file⟩

namespace Record

variable {host host' : Host} {files : List String}

theorem mem_files_of_fileLine? {fields : Fields} {file : String} {line : Nat}
    (hplace : fileLine? fields = some (file, line)) : file ∈ fields.files := by
  simp only [fileLine?, Option.bind_eq_bind, Option.bind_eq_some_iff] at hplace
  obtain ⟨name, hname, number, hnumber, heq⟩ := hplace
  cases heq
  simp [Fields.files, hname]

theorem mem_files_of_answeredPlace? {response : Fields} {request? : Option Fields} {file : String}
    {line : Nat} (hplace : answeredPlace? response request? = some (file, line)) :
    file ∈ response.files ∨ ∃ request, request? = some request ∧ file ∈ request.files := by
  simp only [answeredPlace?, Option.bind_eq_bind, Option.bind_eq_some_iff] at hplace
  obtain ⟨name, hname, number, hnumber, heq⟩ := hplace
  cases heq
  rcases Option.or_eq_some_iff.mp hname with hresponse | ⟨-, hrequest⟩
  · exact .inl (by simp [Fields.files, hresponse])
  · obtain ⟨request, hrequest?, hfile⟩ := Option.bind_eq_some_iff.mp hrequest
    exact .inr ⟨request, hrequest?, by simp [Fields.files, hfile]⟩

/-- What a record changes depends on the host only through the files that are reported. -/
theorem change_congr (hagree : host.AgreeOn host' files) {r : Record}
    (hrecord : r.files ⊆ files) {remembered? : Option Fields}
    (hremembered : ∀ request, remembered? = some request → request.files ⊆ files) :
    r.change host remembered? = r.change host' remembered? := by
  have hposition : ∀ file line, file ∈ files → position host file line = position host' file line :=
    fun file line hfile => by rw [position, position, hagree file hfile]
  unfold change
  cases r.kind with
  | toolResponse =>
      dsimp only
      split
      · cases hplace : answeredPlace? r.response (r.answeredRequest? remembered?) with
        | none => rfl
        | some place =>
            obtain ⟨file, line⟩ := place
            have hfile : file ∈ files := by
              rcases mem_files_of_answeredPlace? hplace with hresponse | ⟨request, hrequest, hfile⟩
              · exact hrecord (by simp [Record.files, hresponse])
              · rcases Option.or_eq_some_iff.mp hrequest with hown | ⟨-, hother⟩
                · refine hrecord ?_
                  have : r.request = request := by rw [Record.request, hown]; rfl
                  simp [Record.files, this, hfile]
                · exact hremembered request hother hfile
            simp only [hposition file line hfile]
      · rfl
  | debugState =>
      dsimp only
      split
      · cases hplace : fileLine? r.pausePlace with
        | none => rfl
        | some place =>
            obtain ⟨file, line⟩ := place
            have hfile : file ∈ files :=
              hrecord (by simp [Record.files, mem_files_of_fileLine? hplace])
            simp only [Option.map_some, hposition file line hfile]
      · rfl
  | debugBreakpoint =>
      dsimp only
      cases hplace : fileLine? r.fields with
      | none => rfl
      | some place =>
          obtain ⟨file, line⟩ := place
          have hfile : file ∈ files :=
            hrecord (by simp [Record.files, mem_files_of_fileLine? hplace])
          simp only [hposition file line hfile]
  -- the other kinds report no file
  | _ => rfl

/-- Two activities of a record differ at most in the time of the clock. -/
theorem entryAt?_undated (r : Record) (now now' : Int) :
    (r.entryAt? now).map Activity.Entry.undated = (r.entryAt? now').map Activity.Entry.undated := by
  have hstamp : (r.stamp now).undated = (r.stamp now').undated := by
    rw [stamp, stamp]
    cases r.time? <;> rfl
  simp only [entryAt?, Option.map_map]
  congr 1
  funext activity
  simp [Activity.Entry.undated, hstamp]

end Record

namespace PendingRequests

variable {files : List String} {pending : PendingRequests}

theorem files_drop (hpending : pending.files ⊆ files) (tool : String) :
    (pending.drop tool).files ⊆ files := by
  intro file hfile
  obtain ⟨request, hrequest, hin⟩ := List.mem_flatMap.mp hfile
  exact hpending (List.mem_flatMap.mpr ⟨request, (List.mem_filter.mp hrequest).1, hin⟩)

/-- Only files that were reported are remembered. -/
theorem files_after (hpending : pending.files ⊆ files) {r : Record} (hrecord : r.files ⊆ files) :
    (pending.after r).files ⊆ files := by
  unfold after
  split
  · intro file hfile
    rcases List.mem_append.mp hfile with hown | hothers
    · exact hrecord (by simp_all [Record.files])
    · exact files_drop hpending r.tool hothers
  · exact files_drop hpending r.tool
  · exact files_drop hpending r.tool
  · exact hpending

theorem files_of_get? (hpending : pending.files ⊆ files) {tool : String} {request : Fields}
    (hget : pending.get? tool = some request) : request.files ⊆ files := by
  obtain ⟨front, behind, heq, -⟩ := List.lookup_eq_some_iff.mp hget
  intro file hfile
  exact hpending (List.mem_flatMap.mpr ⟨(tool, request), by simp [heq], hfile⟩)

end PendingRequests

namespace Tracker

variable {host host' : Host} {files : List String} {t t' : Tracker}

/-- The trackers differ in nothing but times of the clock, and remember only some files. -/
structure Like (files : List String) (t t' : Tracker) : Prop where
  undated : t.undated = t'.undated
  pending : t.pending.files ⊆ files

theorem undated_eq_iff :
    t.undated = t'.undated ↔ t.pending = t'.pending ∧
      ((∃ s s', t.session = .available s ∧ t'.session = .available s' ∧ s.undated = s'.undated) ∨
        t.session = .poisoned ∧ t'.session = .poisoned) := by
  obtain ⟨session, pending⟩ := t
  obtain ⟨session', pending'⟩ := t'
  cases session <;> cases session' <;> simp [undated, and_comm]

/-- One record keeps trackers alike. -/
theorem Like.handle (h : Like files t t') (hagree : host.AgreeOn host' files) (now now' : Int)
    {r : Record} (hrecord : r.files ⊆ files) :
    Like files (t.handle host now r).2 (t'.handle host' now' r).2 := by
  obtain ⟨hpending, hsession⟩ := undated_eq_iff.mp h.undated
  have hafter : (t.pending.after r).files ⊆ files := PendingRequests.files_after h.pending hrecord
  have hentry := r.entryAt?_undated now now'
  unfold Tracker.handle
  rw [← hpending]
  cases hnow : r.entryAt? now with
  | none =>
      rw [hnow] at hentry
      rw [Option.map_eq_none_iff.mp hentry.symm]
      exact ⟨undated_eq_iff.mpr ⟨rfl, hsession⟩, hafter⟩
  | some entry =>
      rw [hnow] at hentry
      obtain ⟨entry', hnow', hsame⟩ := Option.map_eq_some_iff.mp hentry.symm
      rw [hnow']
      rcases hsession with ⟨s, s', hs, hs', hundated⟩ | ⟨hs, hs'⟩
      · simp only [hs, hs', Guarded.update]
        refine ⟨undated_eq_iff.mpr ⟨rfl, .inl ⟨_, _, rfl, rfl, ?_⟩⟩, hafter⟩
        rw [step, step, Session.undated_addActivity, Session.undated_addActivity,
          Session.undated_apply, Session.undated_apply, hundated, hsame,
          Record.change_congr hagree hrecord
            fun request hget => PendingRequests.files_of_get? h.pending hget]
      · simp only [hs, hs', Guarded.update]
        exact ⟨undated_eq_iff.mpr ⟨rfl, .inr ⟨rfl, rfl⟩⟩, hafter⟩

end Tracker

end DebugDashboard
