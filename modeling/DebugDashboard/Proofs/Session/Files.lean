import DebugDashboard.Proofs.Path.Normalise
import DebugDashboard.Proofs.Session.Marks

/-!
# The files of a session

Every file that a session keeps, with a breakpoint or as the place where it stands, was reported by
some arrival and was normalised at the arrival's host. So it is an absolute path without `.` and
`..`, unless the report was a spelling of something missing that led above the root.
-/

namespace DebugDashboard

/-- The files of the breakpoints, and the file in which the session stands. -/
def Session.files (s : Session) : List Path :=
  s.breakpoints.map (·.1) ++ (s.position?.map (·.file)).toList

/-- An arrival reports a file, as the place of a breakpoint or as the place of the session. -/
def Past.Reports (earlier : Past) (a : Arrival) (reported : String) : Prop :=
  ∃ line, earlier.setPlace? a = some (reported, line) ∨
    earlier.reportedPlace? a = some (reported, line)

/-- A file was reported by one of the arrivals, and was normalised when it arrived. -/
def Past.Told (past : Past) (file : Path) : Prop :=
  ∃ (later : Past) (a : Arrival) (earlier : Past) (reported : String),
    past = later ++ a :: earlier ∧ earlier.Reports a reported ∧
      file = Path.normalise a.host ⟨reported⟩

namespace Session

variable {s : Session} {earlier : Past} {a : Arrival} {file : Path}

theorem mem_files_iff :
    file ∈ s.files ↔ (∃ entry ∈ s.breakpoints, entry.1 = file) ∨
      ∃ p, s.position? = some p ∧ p.file = file := by
  simp [files]

variable (hid : s.id? = earlier.currentId?)

include hid

/-- The spelling of a breakpoint's file comes from the state or from what an arrival reports. -/
theorem breakpoint_arrive {entry : Path × List Nat}
    (hentry : entry ∈ (s.arrive earlier a).breakpoints) :
    (∃ kept ∈ s.breakpoints, kept.1 = entry.1) ∨
      ∃ reported, earlier.Reports a reported ∧ entry.1 = Path.normalise a.host ⟨reported⟩ := by
  rw [arrive_breakpoints hid] at hentry
  cases hset : earlier.setPlace? a with
  | some place =>
      obtain ⟨reported, line⟩ := place
      simp only [hset] at hentry
      rcases Breakpoints.spelling_of_mem_set hentry with ⟨hfile, -⟩ | hkept
      · exact .inr ⟨reported, ⟨line, .inl hset⟩, hfile⟩
      · exact .inl hkept
  | none =>
      simp only [hset] at hentry
      split at hentry
      · exact .inl (Breakpoints.spelling_of_mem_remove hentry)
      · split at hentry
        · cases hentry
        · exact .inl ⟨entry, hentry, rfl⟩

/-- So does the file in which the session stands. -/
theorem position_arrive {p : Position} (hp : (s.arrive earlier a).position? = some p) :
    s.position? = some p ∨
      ∃ reported, earlier.Reports a reported ∧ p.file = Path.normalise a.host ⟨reported⟩ := by
  obtain ⟨-, hposition, -, -⟩ := arrive_told (a := a) hid
  rw [hposition, Past.positionTold?] at hp
  split at hp
  · cases hp
  · cases hplace : earlier.reportedPlace? a with
    | none =>
        rw [hplace] at hp
        exact .inl hp
    | some place =>
        obtain ⟨reported, line⟩ := place
        rw [hplace] at hp
        cases hp
        exact .inr ⟨reported, ⟨line, .inr hplace⟩, rfl⟩

/-- An arrival adds no file but one that it reports. -/
theorem mem_files_arrive (hfile : file ∈ (s.arrive earlier a).files) :
    file ∈ s.files ∨
      ∃ reported, earlier.Reports a reported ∧ file = Path.normalise a.host ⟨reported⟩ := by
  rcases mem_files_iff.mp hfile with ⟨entry, hentry, rfl⟩ | ⟨p, hp, rfl⟩
  · rcases breakpoint_arrive hid hentry with hkept | hreported
    · exact .inl (mem_files_iff.mpr (.inl hkept))
    · exact .inr hreported
  · rcases position_arrive hid hp with hkept | hreported
    · exact .inl (mem_files_iff.mpr (.inr ⟨p, hkept, rfl⟩))
    · exact .inr hreported

end Session

theorem Past.Told.cons {past : Past} {file : Path} (h : past.Told file) (a : Arrival) :
    Past.Told (a :: past) file := by
  obtain ⟨later, b, earlier, reported, rfl, hreports, hfile⟩ := h
  exact ⟨a :: later, b, earlier, reported, rfl, hreports, hfile⟩

namespace Tracker

/-- After any arrivals, every file of the session was told by one of them. -/
theorem after_files (capacity : Nat) (past : Past) :
    ∃ s, (after capacity past).session = .available s ∧ s.Recounts past ∧
      ∀ file ∈ s.files, past.Told file := by
  induction past with
  | nil =>
      refine ⟨_, rfl, ⟨rfl, rfl, rfl, rfl, rfl⟩, ?_⟩
      intro file hfile
      cases hfile
  | cons a earlier ih =>
      obtain ⟨s, hs, hrecounts, hfiles⟩ := ih
      obtain ⟨history, hnext⟩ := receive_cons hs a
      refine ⟨_, hnext, hrecounts.arrive a history, ?_⟩
      intro file hfile
      rcases Session.mem_files_arrive hrecounts.current hfile with hkept | ⟨reported, hreports, rfl⟩
      · exact (hfiles file hkept).cons a
      · exact ⟨[], a, earlier, reported, rfl, hreports, rfl⟩

/-- Where the working directory has a path, every file of a session is an absolute path without `.`
and `..`, unless its report was a spelling of something missing whose `..` led above the root an odd
number of times: then one `..` stands at the root. It also tells apart spellings of one missing
file. -/
theorem after_files_clean_iff (capacity : Nat) {past : Past}
    (hhere : ∀ a ∈ past, a.host.files.workingPath?.isSome = true) :
    ∃ s, (after capacity past).session = .available s ∧
      (∀ file ∈ s.files, ∃ (later : Past) (a : Arrival) (earlier : Past) (reported : String),
        past = later ++ a :: earlier ∧ earlier.Reports a reported ∧
        file = Path.normalise a.host ⟨reported⟩ ∧
        (file.IsClean ↔ ¬ Path.StaysAbove a.host ⟨reported⟩) ∧
        (Path.StaysAbove a.host ⟨reported⟩ → ∃ names : List String,
          file.components = .root :: .parent :: names.map .name)) ∧
      ∀ (host : Host) (p q : Path), host.files.workingPath?.isSome = true →
        (p.absolute host).Unresolved host.files → (q.absolute host).Unresolved host.files →
        (p.absolute host).landing = (q.absolute host).landing →
        ((p.normalise host).same (q.normalise host) = true ↔
          (p.absolute host).climbs % 2 = (q.absolute host).climbs % 2) := by
  obtain ⟨s, hs, -, hfiles⟩ := after_files capacity past
  refine ⟨s, hs, ?_, fun host p q => Path.normalise_same_iff⟩
  intro file hfile
  obtain ⟨later, a, earlier, reported, rfl, hreports, rfl⟩ := hfiles file hfile
  have ha : a.host.files.workingPath?.isSome = true := hhere a (by simp)
  obtain ⟨hclean, habove⟩ := Path.isClean_normalise_iff ha ⟨reported⟩
  exact ⟨later, a, earlier, reported, rfl, hreports, rfl, hclean, habove⟩

/-! ### Above the root -/

/-- Breakpoints in a file that is missing, under two spellings. -/
def aboveRoot : Past :=
  [bare .debugBreakpoint [("event", .string "set"), ("file", .string "/../src/a.py"),
      ("line", .number (.integer 4))],
    bare .debugBreakpoint [("event", .string "set"), ("file", .string "/src/a.py"),
      ("line", .number (.integer 3))]]

/-- One file has become two. -/
theorem after_files_clean_iff_root :
    (∀ a ∈ aboveRoot, a.host.files.workingPath?.isSome = true) ∧
      ∃ s, (after 5 aboveRoot).session = .available s ∧
        s.files = [⟨"/src/a.py"⟩, ⟨"/../src/a.py"⟩] ∧
        ∃ a ∈ aboveRoot, ∃ reported, Path.StaysAbove a.host ⟨reported⟩ := by
  have hhere : ∀ a ∈ aboveRoot, a.host.files.workingPath?.isSome = true := by
    intro a ha
    rcases List.mem_cons.mp ha with rfl | ha
    · rfl
    · rw [List.mem_singleton.mp ha]
      rfl
  obtain ⟨s, hs, hfiles, -⟩ := after_files_clean_iff 5 hhere
  have hvalue : (after 5 aboveRoot).session.snapshot.toOption.map (·.files) =
      some [⟨"/src/a.py"⟩, ⟨"/../src/a.py"⟩] := by decide +kernel
  rw [hs] at hvalue
  have hvalue : s.files = [⟨"/src/a.py"⟩, ⟨"/../src/a.py"⟩] := Option.some.inj hvalue
  refine ⟨hhere, s, hs, hvalue, ?_⟩
  obtain ⟨later, a, earlier, reported, hpast, -, -, hclean, -⟩ :=
    hfiles ⟨"/../src/a.py"⟩ (by rw [hvalue]; simp)
  refine ⟨a, by rw [hpast]; simp, reported, ?_⟩
  by_contra hnot
  exact absurd (hclean.mpr hnot).noParent (by decide)

end Tracker

end DebugDashboard
