import DebugDashboard.Dashboard
import DebugDashboard.Proofs.Session.Undated
import DebugDashboard.Proofs.Tail.Growth
import DebugDashboard.Proofs.Tail.Start

/-!
# From the bytes of the log to the session

The tracker is fed through the log: bytes are added in pieces, polls take complete lines, and lines
that are records reach the tracker. However the bytes are divided and whenever polls take place,
once no line is left the tracker is where the records of the log alone would have brought it.
-/

namespace DebugDashboard

/-! ## Records of a log -/

/-- The record that a line holds, if it is UTF-8 and holds one. -/
def Record.ofLine? (line : List UInt8) : Option Record :=
  (Text.Utf8.decode? line).bind fun text => (Record.parse text).toOption

/-- The records of a log, in order. -/
def Log.records (bytes : List UInt8) : List Record := (Log.lines bytes).filterMap Record.ofLine?

theorem Log.records_subset (bytes more : List UInt8) :
    Log.records bytes ⊆ Log.records (bytes ++ more) :=
  ((Log.lines_prefix_append bytes more).filterMap Record.ofLine?).subset

/-- Lines that are no records make no difference. -/
theorem Log.records_append_append {front noise : List UInt8} (hfront : Log.fragment front = [])
    (hnoise : Log.fragment noise = []) (hnone : Log.records noise = []) (behind : List UInt8) :
    Log.records (front ++ noise ++ behind) = Log.records (front ++ behind) := by
  rw [Log.records] at hnone
  simp only [Log.records, List.append_assoc, Log.lines_append front, Log.lines_append noise, hfront,
    hnoise, List.nil_append, List.filterMap_append, hnone]

/-- Where all kinds have the same handler, it gets the records. -/
theorem Surroundings.dispatch_observer {σ : Type} {hs : Handlers σ} {h : Handler σ}
    (hall : ∀ kind, hs kind = some h) (s : Surroundings σ) (line : List UInt8) :
    (s.dispatch hs line).observer =
      match Record.ofLine? line with
      | some r => (h s.files r s.observer).observer
      | none => s.observer := by
  unfold Surroundings.dispatch LineClass.of Record.ofLine?
  cases Text.Utf8.decode? line with
  | none => rfl
  | some text =>
      cases hparse : Record.parse text with
      | ok r => simp [hparse, Except.toOption, hall, Surroundings.count]
      | error e => cases e <;> simp [hparse, Except.toOption, Surroundings.count]

/-! ## The tracker as handler -/

namespace Follower

/-- Registers the tracker for every kind. -/
def track (home? : Option Path) (now : Int) (f : Follower Tracker) : Follower Tracker :=
  Kind.all.foldl (fun f kind => f.register kind (Tracker.handler home? now)) f

theorem foldl_register {σ : Type} (h : Handler σ) (kinds : List Kind) (f : Follower σ) :
    kinds.foldl (fun f kind => f.register kind h) f =
      { f with handlers := fun kind => if kind ∈ kinds then some h else f.handlers kind } := by
  induction kinds generalizing f with
  | nil => simp
  | cons first rest ih =>
      rw [List.foldl_cons, ih]
      simp only [register, Handlers.register, List.mem_cons]
      congr 1
      funext kind
      by_cases hfirst : kind = first <;> simp [hfirst]

theorem track_eq (home? : Option Path) (now : Int) (f : Follower Tracker) :
    f.track home? now = { f with handlers := fun _ => some (Tracker.handler home? now) } := by
  simp [track, foldl_register, Kind.mem_all]

end Follower

theorem Tracker.handleAll_append (host : Host) (now : Int) (t : Tracker) (rs rs' : List Record) :
    t.handleAll host now (rs ++ rs') = (t.handleAll host now rs).handleAll host now rs' :=
  List.foldl_append

/-- Lines change the tracker as their records do, whatever else the lines do. -/
theorem Progress.foldl_performLine_like {hs : Handlers Tracker} {home? : Option Path} {now : Int}
    (hall : ∀ kind, hs kind = some (Tracker.handler home? now)) {cursor : Path} {host : Host}
    {files : List String} {I : FileSystem → Prop}
    (hsave : ∀ fs n, I fs → I (CursorFile.save fs cursor n).2)
    (hagree : ∀ fs, I fs → Host.AgreeOn ⟨fs, home?⟩ host files)
    (lines : List (List UInt8))
    (hlines : ∀ r ∈ lines.filterMap Record.ofLine?, r.files ⊆ files)
    {p : Progress Tracker} (hfiles : I p.surroundings.files) {t : Tracker}
    (hlike : Tracker.Like files p.surroundings.observer t) :
    Tracker.Like files (lines.foldl (performLine hs cursor) p).surroundings.observer
      (t.handleAll host 0 (lines.filterMap Record.ofLine?)) := by
  induction lines generalizing p t with
  | nil => exact hlike
  | cons line rest ih =>
      have hnext : I (p.performLine hs cursor line).surroundings.files := by
        rw [performLine_files]
        exact hsave _ _ hfiles
      have hobserver := Surroundings.dispatch_observer hall p.surroundings line
      rw [← performLine_observer hs cursor] at hobserver
      rw [List.foldl_cons]
      cases hrecord : Record.ofLine? line with
      | none =>
          rw [List.filterMap_cons_none hrecord] at hlines ⊢
          rw [hrecord] at hobserver
          exact ih hlines hnext (hobserver ▸ hlike)
      | some r =>
          rw [List.filterMap_cons_some hrecord] at hlines ⊢
          rw [hrecord] at hobserver
          refine ih (fun other hother => hlines other (List.mem_cons_of_mem _ hother)) hnext ?_
          rw [hobserver]
          exact hlike.handle (hagree _ hfiles) now 0 (hlines r List.mem_cons_self)

/-! ## Feeds -/

/-- What can happen while the log is fed: bytes are added, or a poll takes place at a time of the
clock. -/
inductive Feed where
  | append (bytes : List UInt8)
  | poll (now : Int)
  deriving Repr, DecidableEq

/-- The bytes that are added. -/
def Feed.appended : Feed → List UInt8
  | .append bytes => bytes
  | .poll _ => []

/-- A follower that hands records to the tracker, and its surroundings. -/
structure Pipeline where
  follower : Follower Tracker
  around : Surroundings Tracker

namespace Pipeline

/-- One poll, with the tracker as handler. -/
def poll (home? : Option Path) (now : Int) (d : Pipeline) :
    Option (Except PollError Pause × Poller) × Pipeline :=
  let (answer, follower, around) := (d.follower.track home? now).poll d.around
  (answer, ⟨follower, around⟩)

/-- The pipeline after one thing that happens. -/
def step (home? : Option Path) (d : Pipeline) : Feed → Pipeline
  | .append bytes => match d.around.files.append d.follower.path bytes with
    | .ok files => { d with around := { d.around with files := files } }
    | .error _ => d
  | .poll now => (d.poll home? now).2

/-- The pipeline after all that happens. -/
def run (home? : Option Path) (d : Pipeline) (feeds : List Feed) : Pipeline :=
  feeds.foldl (step home?) d

/-- The tracker after all that happens and a last poll, if that poll answers that it has nothing
more to do. -/
def settled? (home? : Option Path) (d : Pipeline) (feeds : List Feed) (now : Int) :
    Option Tracker :=
  let (answer, d) := (d.run home? feeds).poll home? now
  match answer with
  | some (.ok .idle, _) | some (.ok .partialLine, _) => some d.around.observer
  | _ => none

/-- The pipeline follows the log, of which the lines `done` have reached the tracker. -/
structure Tracks (d : Pipeline) (home? : Option Path) (files : FileSystem) (log cursor : Path)
    (names : List String) (inode : Nat) (fresh : Tracker) (bytes : List UInt8)
    (done : List (List UInt8)) : Prop where
  path : d.follower.path = log
  running : d.follower.running = true
  poller : ∃ p, d.follower.poller? = some p ∧ p.Follows log cursor inode bytes done
  keeps : CursorFile.KeepsLog d.around.files cursor log inode bytes
  tree : CursorFile.Saved files cursor d.around.files
  like : Tracker.Like names d.around.observer
    (fresh.handleAll ⟨files, home?⟩ 0 (done.filterMap Record.ofLine?))

namespace Tracks

variable {d : Pipeline} {home? : Option Path} {files : FileSystem} {log cursor : Path}
  {names : List String} {inode : Nat} {fresh : Tracker} {bytes : List UInt8}
  {done : List (List UInt8)}

theorem append (h : d.Tracks home? files log cursor names inode fresh bytes done)
    (more : List UInt8) :
    (d.step home? (.append more)).Tracks home? files log cursor names inode fresh (bytes ++ more)
      done := by
  obtain ⟨fs', happend, htree, hkeeps⟩ := h.keeps.append more
  obtain ⟨p, hp, hfollows⟩ := h.poller
  obtain ⟨offsets, hsaved⟩ := h.tree
  rw [← h.path] at happend
  rw [step, happend]
  exact { h with
    poller := ⟨p, hp, hfollows.append more⟩
    keeps := hkeeps
    tree := ⟨offsets, htree.trans hsaved⟩ }

/-- A poll takes the next lines to the tracker, all of them if it has nothing more to do. -/
theorem poll (h : d.Tracks home? files log cursor names inode fresh bytes done)
    (hfixed : ∀ offsets, Host.AgreeOn ⟨CursorFile.saveAll files cursor offsets, home?⟩
      ⟨files, home?⟩ names)
    (hnames : ∀ r ∈ Log.records bytes, r.files ⊆ names) (now : Int) :
    ∃ pause p' done',
      (d.poll home? now).1 = some (.ok pause, p') ∧
        (d.poll home? now).2.Tracks home? files log cursor names inode fresh bytes done' ∧
        (pause = .idle ∨ pause = .partialLine → done' = Log.lines bytes) := by
  obtain ⟨p, hp, hfollows⟩ := h.poller
  have hall : ∀ kind, (d.follower.track home? now).handlers kind =
      some (Tracker.handler home? now) := fun kind => by rw [Follower.track_eq]
  obtain ⟨-, pause, p', hpoll, hnext, hdone⟩ :=
    hfollows.poll (d.follower.track home? now).handlers h.keeps
  have hdpoll : d.poll home? now = (some (.ok pause, p'),
      ⟨{ d.follower.track home? now with poller? := some p' },
        (((Log.lines (bytes.drop p.offset)).take maxLinesPerPoll).foldl
          (Progress.performLine (d.follower.track home? now).handlers cursor)
          ⟨p.offset, d.around⟩).surroundings⟩) := by
    have hp' : (d.follower.track home? now).poller? = some p := by rw [Follower.track_eq, hp]
    have hrunning : (d.follower.track home? now).running = true := by
      rw [Follower.track_eq, h.running]
    simp only [Pipeline.poll, Follower.poll, hp', hrunning, hpoll]
  generalize hlines : (Log.lines (bytes.drop p.offset)).take maxLinesPerPoll = lines at *
  rw [hdpoll]
  refine ⟨pause, p', done ++ lines, rfl, ?_, hdone⟩
  exact {
    path := by simp only [Follower.track_eq, h.path]
    running := by simp only [Follower.track_eq, h.running]
    poller := ⟨p', rfl, hnext⟩
    keeps := Progress.foldl_performLine_files (I := (CursorFile.KeepsLog · cursor log inode bytes))
      _ cursor ⟨p.offset, d.around⟩ lines (fun _ n h => h.save n) h.keeps
    tree := Progress.foldl_performLine_files (I := CursorFile.Saved files cursor)
      _ cursor ⟨p.offset, d.around⟩ lines (fun _ n h => h.save n) h.tree
    like := by
      rw [List.filterMap_append, Tracker.handleAll_append]
      -- handlers see the files as saves have left them, which mean the same by `hfixed`
      refine Progress.foldl_performLine_like (I := CursorFile.Saved files cursor) hall
        (fun _ n h => h.save n) ?_ lines ?_ h.tree h.like
      · rintro fs ⟨offsets, htree⟩ file hfile
        rw [FileSystem.normalise_congr htree.alike]
        exact hfixed offsets file hfile
      · intro r hr
        obtain ⟨line, hline, hrecord⟩ := List.mem_filterMap.mp hr
        exact hnames r (List.mem_filterMap.mpr
          ⟨line, hnext.first.subset (List.mem_append_right _ hline), hrecord⟩) }

theorem run (h : d.Tracks home? files log cursor names inode fresh bytes done)
    (hfixed : ∀ offsets, Host.AgreeOn ⟨CursorFile.saveAll files cursor offsets, home?⟩
      ⟨files, home?⟩ names)
    (feeds : List Feed)
    (hnames : ∀ r ∈ Log.records (bytes ++ feeds.flatMap Feed.appended), r.files ⊆ names) :
    ∃ done', (d.run home? feeds).Tracks home? files log cursor names inode fresh
      (bytes ++ feeds.flatMap Feed.appended) done' := by
  induction feeds generalizing d bytes done with
  | nil => exact ⟨done, by simpa [Pipeline.run] using h⟩
  | cons feed rest ih =>
      rw [List.flatMap_cons, ← List.append_assoc] at hnames ⊢
      cases feed with
      | append more => exact ih (h.append more) hnames
      | poll now =>
          simp only [Feed.appended, List.append_nil] at hnames ⊢
          obtain ⟨pause, p', done', -, hnext, -⟩ := h.poll hfixed
            (fun r hr => hnames r (Log.records_subset bytes _ hr)) now
          exact ih hnext hnames

/-- A start at the beginning of the log, where no line has reached the tracker. -/
theorem of_start {f f' : Follower Tracker} {s s' : Surroundings Tracker}
    (hlog : CursorFile.KeepsLog s.files f.cursorPath f.path inode bytes)
    (hstart : f.start s = (.ok 0, f', s')) {session : Session}
    (hfresh : s.observer = .new session) :
    Tracks ⟨f', s'⟩ home? s.files f.path f.cursorPath names inode (.new session) bytes [] := by
  rw [Follower.start_eq hlog.shows] at hstart
  obtain ⟨hzero, hrest⟩ := Prod.mk.inj hstart
  obtain ⟨rfl, rfl⟩ := Prod.mk.inj hrest
  have hobserver : (s.count (·.setPosition (f.opened s.files bytes.length).offset)).observer =
      .new session := hfresh
  exact {
    path := rfl
    running := rfl
    poller := ⟨_, rfl, {
      path := rfl
      cursorPath := rfl
      first := List.nil_prefix
      offset := Except.ok.inj hzero
      file := .inl rfl
      reader := fun r hr => by cases hr }⟩
    keeps := hlog
    tree := ⟨[], .refl s.files⟩
    like := by
      rw [hobserver]
      exact ⟨rfl, List.nil_subset names⟩ }

end Tracks

/-- Saving the cursor does not change what the files mean that the records of a log report. -/
def Fixed (home? : Option Path) (files : FileSystem) (cursor : Path) (bytes : List UInt8) : Prop :=
  ∀ offsets, Host.AgreeOn ⟨CursorFile.saveAll files cursor offsets, home?⟩ ⟨files, home?⟩
    ((Log.records bytes).flatMap Record.files)

/-- Files that are found without cursor file and draft keep their meaning. -/
theorem fixed_of_found {files : FileSystem} {cursor log : Path} {c d : Location} {inode : Nat}
    {content bytes : List UInt8} {home? : Option Path}
    (hapart : CursorFile.ApartAt files cursor log c d inode)
    (hlog : files.bytes? inode = some content)
    (hfound : ∀ file ∈ (Log.records bytes).flatMap Record.files, ∃ loc node,
      (files.without [c, d]).locate true (Path.absolute ⟨files, home?⟩ ⟨file⟩) =
        .ok (.found loc node)) : Fixed home? files cursor bytes := by
  intro offsets file hfile
  obtain ⟨loc, node, hlocate⟩ := hfound file hfile
  have halike := hapart.saveAll_alike hlog offsets
  have hhere : (CursorFile.saveAll files cursor offsets).workingPath? = files.workingPath? := by
    have hsame : (CursorFile.saveAll files cursor offsets).workingDirectory =
        files.workingDirectory := halike.workingDirectory
    rw [FileSystem.workingPath?, FileSystem.workingPath?, hsame]
  have hsaved := FileSystem.locate_found (FileSystem.extends_without _ _)
    ((FileSystem.locate_congr halike ..).trans hlocate)
  have hnow := FileSystem.locate_found (FileSystem.extends_without _ _) hlocate
  have habsolute : Path.absolute ⟨CursorFile.saveAll files cursor offsets, home?⟩ ⟨file⟩ =
      Path.absolute ⟨files, home?⟩ ⟨file⟩ := by
    simp only [Path.absolute, hhere]
  simp only [Path.normalise, habsolute, FileSystem.canonicalise, hhere, hsaved, hnow]

section Settled

variable {f f' : Follower Tracker} {s s' : Surroundings Tracker} {inode : Nat}
  {content : List UInt8} {session : Session} {home? : Option Path}

/-- A pipeline that has settled is where the records of the log bring a fresh tracker. -/
theorem undated_of_settled
    (hlog : CursorFile.KeepsLog s.files f.cursorPath f.path inode content)
    (hstart : f.start s = (.ok 0, f', s')) (hfresh : s.observer = .new session) {feeds : List Feed}
    (hfixed : Fixed home? s.files f.cursorPath (content ++ feeds.flatMap Feed.appended))
    {now : Int} {t : Tracker} (hsettled : settled? home? ⟨f', s'⟩ feeds now = some t) :
    t.undated = ((Tracker.new session).handleAll ⟨s.files, home?⟩ 0
      (Log.records (content ++ feeds.flatMap Feed.appended))).undated := by
  have hnames : ∀ r ∈ Log.records (content ++ feeds.flatMap Feed.appended), r.files ⊆
      (Log.records (content ++ feeds.flatMap Feed.appended)).flatMap Record.files :=
    fun r hr file hfile => List.mem_flatMap.mpr ⟨r, hr, hfile⟩
  obtain ⟨done, hrun⟩ := (Tracks.of_start hlog hstart hfresh).run hfixed feeds hnames
  obtain ⟨pause, p', done', hpoll, hnext, hall⟩ := hrun.poll hfixed hnames now
  simp only [settled?, hpoll] at hsettled
  have hobserver : (Pipeline.poll home? now (run home? ⟨f', s'⟩ feeds)).2.around.observer = t ∧
      (pause = .idle ∨ pause = .partialLine) := by
    cases pause with
    | idle => exact ⟨Option.some.inj hsettled, .inl rfl⟩
    | partialLine => exact ⟨Option.some.inj hsettled, .inr rfl⟩
    | busy => cases hsettled
    | missingFile => cases hsettled
  rw [← hobserver.1, hnext.like.undated, hall hobserver.2, Log.records]

/-- However the bytes of a log are divided and whenever polls take place, a pipeline that has
settled is where the records of the log bring a fresh tracker. So are all that were fed the same
records, and lines between the records that are none make no difference. -/
theorem settled_eq_handleAll (home? : Option Path)
    (hlog : CursorFile.KeepsLog s.files f.cursorPath f.path inode content)
    (hstart : f.start s = (.ok 0, f', s')) (hfresh : s.observer = .new session) :
    let written (feeds : List Feed) := content ++ feeds.flatMap Feed.appended
    let fixed (feeds : List Feed) := Fixed home? s.files f.cursorPath (written feeds)
    (∀ feeds now t, fixed feeds → settled? home? ⟨f', s'⟩ feeds now = some t →
      t.undated = ((Tracker.new session).handleAll ⟨s.files, home?⟩ 0
        (Log.records (written feeds))).undated) ∧
    (∀ feeds feeds' now now' t t', fixed feeds → fixed feeds' →
      settled? home? ⟨f', s'⟩ feeds now = some t → settled? home? ⟨f', s'⟩ feeds' now' = some t' →
      Log.records (written feeds) = Log.records (written feeds') → t.undated = t'.undated) ∧
    (∀ feeds feeds' now now' t t' front noise behind, fixed feeds → fixed feeds' →
      settled? home? ⟨f', s'⟩ feeds now = some t → settled? home? ⟨f', s'⟩ feeds' now' = some t' →
      written feeds = front ++ noise ++ behind → written feeds' = front ++ behind →
      Log.fragment front = [] → Log.fragment noise = [] → Log.records noise = [] →
      t.undated = t'.undated) := by
  intro written fixed
  have hsame : ∀ feeds feeds' now now' t t', fixed feeds → fixed feeds' →
      settled? home? ⟨f', s'⟩ feeds now = some t → settled? home? ⟨f', s'⟩ feeds' now' = some t' →
      Log.records (written feeds) = Log.records (written feeds') → t.undated = t'.undated := by
    intro feeds feeds' now now' t t' hfixed hfixed' ht ht' hrecords
    rw [undated_of_settled hlog hstart hfresh hfixed ht,
      undated_of_settled hlog hstart hfresh hfixed' ht', hrecords]
  refine ⟨fun feeds now t hfixed ht => undated_of_settled hlog hstart hfresh hfixed ht, hsame, ?_⟩
  intro feeds feeds' now now' t t' front noise behind hfixed hfixed' ht ht' hwith hwithout
    hfront hnoise hnone
  refine hsame feeds feeds' now now' t t' hfixed hfixed' ht ht' ?_
  rw [hwith, hwithout]
  exact Log.records_append_append hfront hnoise hnone behind

end Settled

/-! ### A breakpoint -/

/-- An empty log and a source file. -/
def sources : FileSystem :=
  ⟨[(["log"], .file 1), (["main.py"], .file 2)],
    #[⟨[], .change 0⟩, ⟨[], .change 1⟩, ⟨[], .change 2⟩], 3, []⟩

/-- A line that reports a breakpoint in the source file. -/
def line : List UInt8 := Text.Utf8.encode
  "\x7b\"message\":\"debug:breakpoint\",\"event\":\"set\",\"file\":\"main.py\",\"line\":3\x7d\n"

/-- A line that is not UTF-8. -/
def noise : List UInt8 := [255, 10]

theorem files_line : (Log.records line).flatMap Record.files = ["main.py"] := by decide +kernel

theorem records_noise : Log.records (noise ++ line) = Log.records line := by
  have hnone : Log.records noise = [] := List.eq_nil_of_length_eq_zero (by decide +kernel)
  have happend : Log.records ([] ++ noise ++ line) = Log.records ([] ++ line) :=
    Log.records_append_append rfl rfl hnone line
  simpa using happend

theorem sources_apart :
    CursorFile.ApartAt sources ⟨"/cursor"⟩ ⟨"/log"⟩ ["cursor"] ["cursor.tmp"] 1 where
  cursor_free := rfl
  draft_free := rfl
  distinct := by decide
  log_found := rfl
  cursor_outside := by decide
  draft_outside := by decide
  cursor_other := by
    have hfind : sources.find ⟨"/cursor"⟩ = .error .notFound := rfl
    simp [hfind]
  draft_other := .inl rfl

theorem fixed_of_files_eq {bytes : List UInt8}
    (hfiles : (Log.records bytes).flatMap Record.files = ["main.py"]) :
    Fixed none sources ⟨"/cursor"⟩ bytes := by
  have hempty : sources.bytes? 1 = some [] := rfl
  refine fixed_of_found sources_apart hempty fun file hfile => ?_
  rw [hfiles, List.mem_singleton] at hfile
  subst hfile
  exact ⟨["main.py"], .file 2, rfl⟩

def tracking : Follower Tracker := { path := ⟨"/log"⟩, cursorPath := ⟨"/cursor"⟩ }

def untouched : Surroundings Tracker := ⟨sources, {}, .new (.withCapacity 5)⟩

/-- The pipeline before anything happens. -/
def begun : Pipeline := ⟨(tracking.start untouched).2.1, (tracking.start untouched).2.2⟩

/-- The breakpoint in two pieces after noise. -/
def pieces : List Feed := [.append (noise ++ line.take 30), .poll 7, .append (line.drop 30)]

/-- A breakpoint that is reported in two pieces after noise is the same as one reported at once. -/
theorem settled_breakpoint :
    ∃ t t', begun.settled? none pieces 8 = some t ∧ begun.settled? none [.append line] 9 = some t' ∧
      t.undated = t'.undated ∧
      t.undated = ((Tracker.new (.withCapacity 5)).handleAll ⟨sources, none⟩ 0
        (Log.records (noise ++ line))).undated := by
  have hempty : sources.bytes? 1 = some [] := rfl
  have hlog : CursorFile.KeepsLog untouched.files tracking.cursorPath tracking.path 1 [] :=
    sources_apart.keepsLog hempty
  have hstart : tracking.start untouched = (.ok 0, begun.follower, begun.around) := by
    unfold begun
    rw [Follower.start_eq hlog.shows]
    rfl
  obtain ⟨hfold, hsame, hnoise⟩ := settled_eq_handleAll none hlog hstart rfl
  have hpieces : [] ++ pieces.flatMap Feed.appended = noise ++ line := by decide +kernel
  have hwhole : [] ++ [Feed.append line].flatMap Feed.appended = line := by decide +kernel
  have hfixed : Fixed none sources ⟨"/cursor"⟩ ([] ++ pieces.flatMap Feed.appended) :=
    fixed_of_files_eq (by rw [hpieces, records_noise, files_line])
  have hfixed' : Fixed none sources ⟨"/cursor"⟩ ([] ++ [Feed.append line].flatMap Feed.appended) :=
    fixed_of_files_eq (by rw [hwhole, files_line])
  obtain ⟨t, ht⟩ : ∃ t, begun.settled? none pieces 8 = some t :=
    Option.isSome_iff_exists.mp (by decide +kernel)
  obtain ⟨t', ht'⟩ : ∃ t, begun.settled? none [.append line] 9 = some t :=
    Option.isSome_iff_exists.mp (by decide +kernel)
  refine ⟨t, t', ht, ht', ?_, ?_⟩
  · exact hnoise pieces [.append line] 8 9 t t' [] noise line hfixed hfixed' ht ht' hpieces hwhole
      rfl rfl (List.eq_nil_of_length_eq_zero (by decide +kernel))
  · rw [← hpieces]
    exact hfold pieces 8 t hfixed ht

end Pipeline

end DebugDashboard
