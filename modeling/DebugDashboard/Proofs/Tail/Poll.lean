import DebugDashboard.Proofs.Tail.LineReader
import DebugDashboard.Proofs.Tail.Saves
import DebugDashboard.Tail.Poller

/-!
# One poll

The lines that a poll hands on, and all that it changes, are a function of what is ahead of its
reader. Where the reader stands at the offset, that is the log from the offset on, as it is for a
new reader.
-/

namespace DebugDashboard

variable {σ : Type} {hs : Handlers σ} {cursor : Path}

/-! ## One line -/

namespace Surroundings

variable (hs) (s : Surroundings σ) (line : List UInt8)

@[simp]
theorem dispatch_files : (s.dispatch hs line).files = s.files := by
  unfold dispatch
  split <;> (try split) <;> rfl

@[simp]
theorem dispatch_rotations : (s.dispatch hs line).stats.rotations = s.stats.rotations := by
  unfold dispatch
  split <;> (try split) <;> rfl

end Surroundings

namespace Progress

variable (hs) (cursor) (p : Progress σ) (line : List UInt8)

@[simp]
theorem performLine_offset : (p.performLine hs cursor line).offset = p.offset + line.length := rfl

@[simp]
theorem performLine_files :
    (p.performLine hs cursor line).surroundings.files =
      (CursorFile.save p.surroundings.files cursor (p.offset + line.length)).2 := by
  simp [performLine, Effect.ofLine, perform, Surroundings.count]

@[simp]
theorem performLine_observer :
    (p.performLine hs cursor line).surroundings.observer =
      (p.surroundings.dispatch hs line).observer := rfl

@[simp]
theorem performLine_rotations :
    (p.performLine hs cursor line).surroundings.stats.rotations =
      p.surroundings.stats.rotations := by
  simp [performLine, Effect.ofLine, perform, Surroundings.count, Stats.setPosition]

variable (lines : List (List UInt8))

@[simp]
theorem foldl_performLine_offset :
    (lines.foldl (performLine hs cursor) p).offset = p.offset + lines.flatten.length := by
  induction lines generalizing p with
  | nil => simp
  | cons line rest ih => rw [List.foldl_cons, ih]; simp [Nat.add_assoc]

@[simp]
theorem foldl_performLine_rotations :
    (lines.foldl (performLine hs cursor) p).surroundings.stats.rotations =
      p.surroundings.stats.rotations := by
  induction lines generalizing p with
  | nil => rfl
  | cons line rest ih => rw [List.foldl_cons, ih, performLine_rotations]

/-- What saves keep, lines keep. -/
theorem foldl_performLine_files {I : FileSystem → Prop}
    (hsave : ∀ files n, I files → I (CursorFile.save files cursor n).2)
    (hfiles : I p.surroundings.files) :
    I (lines.foldl (performLine hs cursor) p).surroundings.files := by
  induction lines generalizing p with
  | nil => exact hfiles
  | cons line rest ih =>
      refine ih (p.performLine hs cursor line) ?_
      rw [performLine_files]
      exact hsave _ _ hfiles

/-- The last thing that lines do is to save the offset behind them. -/
theorem foldl_performLine_saved {I : FileSystem → Prop}
    (hsave : ∀ files n, I files → I (CursorFile.save files cursor n).2)
    (hfiles : I p.surroundings.files) (hlines : lines ≠ []) :
    ∃ files, I files ∧ (lines.foldl (performLine hs cursor) p).surroundings.files =
      (CursorFile.save files cursor (p.offset + lines.flatten.length)).2 := by
  obtain ⟨front, line, rfl⟩ := (List.eq_nil_or_concat lines).resolve_left hlines
  refine ⟨_, foldl_performLine_files hs cursor p front hsave hfiles, ?_⟩
  rw [List.concat_eq_append, List.foldl_append, List.foldl_cons, List.foldl_nil, performLine_files,
    foldl_performLine_offset, List.flatten_append, List.length_append, Nat.add_assoc]
  simp

end Progress

namespace Poller

/-! ## The lines of a poll -/

/-- The lines that `drain` hands on. -/
def drained (hs : Handlers σ) (cursorPath : Path) (running : Bool) :
    Nat → LineReader → Progress σ → List (List UInt8)
  | 0, _, _ => []
  | count + 1, r, p =>
    if !running then []
    else match r.read p.surroundings.files with
      | .error _ => []
      | .ok (line, r) =>
        if line.isEmpty then []
        else if line.getLast? ≠ some LineReader.lineFeed then []
        else line :: drained hs cursorPath running count r (p.performLine hs cursorPath line)

/-- The lines that a poll hands on, in order. -/
def handed (hs : Handlers σ) (running : Bool) (p : Poller) (s : Surroundings σ) :
    List (List UInt8) :=
  match s.files.metadata p.path with
  | .error _ => []
  | .ok info =>
    let (p, s) := p.notice info s
    match p.reader s.files with
    | .error _ => []
    | .ok r => drained hs p.cursorPath running maxLinesPerPoll r ⟨p.offset, s⟩

/-- Draining does to the surroundings what the lines that it hands on do, one after the other. -/
theorem drain_eq_foldl (running : Bool) (count : Nat) (r : LineReader) (p : Progress σ) :
    (drain hs cursor running count r p).2.2 =
      (drained hs cursor running count r p).foldl (Progress.performLine hs cursor) p := by
  induction count generalizing r p with
  | zero => rfl
  | succ count ih =>
      unfold drain drained
      cases hread : r.read p.surroundings.files with
      | error e => split <;> rfl
      | ok next =>
          simp only
          split
          · rfl
          split
          · rfl
          split
          · rfl
          · rw [List.foldl_cons, ih]

@[simp]
theorem notice_cursorPath (p : Poller) (info : Metadata) (s : Surroundings σ) :
    (p.notice info s).1.cursorPath = p.cursorPath := by
  unfold notice
  split <;> rfl

@[simp]
theorem notice_path (p : Poller) (info : Metadata) (s : Surroundings σ) :
    (p.notice info s).1.path = p.path := by
  unfold notice
  split <;> rfl

@[simp]
theorem notice_files (p : Poller) (info : Metadata) (s : Surroundings σ) :
    (p.notice info s).2.files = s.files := by
  unfold notice
  split <;> rfl

/-- A poll does what it notices and what the lines that it hands on do. -/
theorem poll_eq_foldl (hs : Handlers σ) (running : Bool) (p : Poller) (s : Surroundings σ)
    {info : Metadata} (hinfo : s.files.metadata p.path = .ok info) :
    let progress := (p.handed hs running s).foldl (Progress.performLine hs p.cursorPath)
      ⟨(p.notice info s).1.offset, (p.notice info s).2⟩
    (p.poll hs running s).2.1.offset = progress.offset ∧
      (p.poll hs running s).2.2 = progress.surroundings := by
  simp only [poll, handed, hinfo]
  cases (p.notice info s).1.reader (p.notice info s).2.files with
  | error e => exact ⟨rfl, rfl⟩
  | ok r =>
      simp only [notice_cursorPath, ← drain_eq_foldl]
      exact ⟨trivial, trivial⟩

@[simp]
theorem noticeMissing_path (p : Poller) (s : Surroundings σ) :
    (p.noticeMissing s).1.path = p.path := by
  unfold noticeMissing
  split <;> rfl

@[simp]
theorem noticeMissing_cursorPath (p : Poller) (s : Surroundings σ) :
    (p.noticeMissing s).1.cursorPath = p.cursorPath := by
  unfold noticeMissing
  split <;> rfl

@[simp]
theorem poll_path (hs : Handlers σ) (running : Bool) (p : Poller) (s : Surroundings σ) :
    (p.poll hs running s).2.1.path = p.path := by
  unfold poll
  split
  · simp
  · rfl
  · dsimp only
    split <;> exact notice_path ..

@[simp]
theorem poll_cursorPath (hs : Handlers σ) (running : Bool) (p : Poller) (s : Surroundings σ) :
    (p.poll hs running s).2.1.cursorPath = p.cursorPath := by
  unfold poll
  split
  · simp
  · rfl
  · dsimp only
    split <;> exact notice_cursorPath ..

/-- A poll without a log hands on nothing. -/
theorem poll_missing (hs : Handlers σ) (running : Bool) {p : Poller} {s : Surroundings σ}
    (hlog : s.files.find p.path = .error .notFound) :
    p.handed hs running s = [] ∧ p.poll hs running s = (.ok .missingFile, p.noticeMissing s) := by
  have hinfo : s.files.metadata p.path = .error .notFound := by
    simp [FileSystem.metadata, hlog, bind, Except.bind]
  simp only [handed, poll, hinfo, and_self]

/-! ## A poll of a log -/

/-- What a poll that may take `count` lines answers when `bytes` are left to read. -/
def pauseAfter (count : Nat) (bytes : List UInt8) : Pause :=
  if count ≤ (Log.lines bytes).length then .busy
  else if Log.fragment bytes = [] then .idle
  else .partialLine

theorem pauseAfter_line_append {line rest : List UInt8} (count : Nat)
    (hlines : Log.lines (line ++ rest) = line :: Log.lines rest) :
    pauseAfter (count + 1) (line ++ rest) = pauseAfter count rest := by
  simp [pauseAfter, hlines, Log.fragment_line_append hlines]

theorem pauseAfter_ne_missingFile (count : Nat) (bytes : List UInt8) :
    pauseAfter count bytes ≠ .missingFile := by
  unfold pauseAfter
  split
  · simp
  · split <;> simp

section Drain

variable (hs) {inode : Nat} {content : List UInt8} {I : FileSystem → Prop}
  (hsave : ∀ files n, I files → I (CursorFile.save files cursor n).2)
  (hcontent : ∀ files, I files → files.content inode = content)

include hsave hcontent

/-- From a reader that has read on from the offset, draining hands on the first complete lines of
what is ahead. -/
theorem drain_ahead (count : Nat) {r : LineReader} {p : Progress σ} (h : r.Holds inode p.offset)
    (hfiles : I p.surroundings.files) :
    let bytes := r.ahead content
    let lines := (Log.lines bytes).take count
    let progress := lines.foldl (Progress.performLine hs cursor) p
    drained hs cursor true count r p = lines ∧
      ∃ r', drain hs cursor true count r p = (.ok (pauseAfter count bytes), r', progress) ∧
        r'.Holds inode progress.offset ∧
        (r'.buffer = [] ∨ pauseAfter count bytes = .busy ∧
          r'.ahead content = bytes.drop lines.flatten.length) := by
  induction count generalizing r p with
  | zero => exact ⟨rfl, r, rfl, h, .inr ⟨rfl, rfl⟩⟩
  | succ count ih =>
      have hread := h.read_eq (hcontent _ hfiles)
      cases hlines : Log.lines (r.ahead content) with
      | nil =>
          -- the reader hands out the fragment, and goes back to where it begins
          obtain ⟨hline, hbuffer, hnext⟩ := h.nextLine_of_no_line hlines
          have hpause : pauseAfter (count + 1) (r.ahead content) =
              if r.ahead content = [] then .idle else .partialLine := by
            simp [pauseAfter, hlines, Log.fragment_eq_self hlines]
          simp only [hlines, List.take_nil, List.foldl_nil, hpause]
          by_cases hempty : r.ahead content = []
          · rw [hempty] at hnext
            rw [if_pos hempty]
            refine ⟨?_, _, ?_, hnext, .inl hbuffer⟩
            · simp [drained, hread, hline, hempty]
            · simp [drain, hread, hline, hempty]
          · have hlast : (r.ahead content).getLast? ≠ some LineReader.lineFeed := fun hlast =>
              Log.lines_eq_nil_iff.mp hlines (List.mem_of_getLast? hlast)
            rw [if_neg hempty]
            refine ⟨?_, _, ?_, hnext.seek p.offset, .inl rfl⟩
            · simp [drained, hread, hline, hempty, hlast]
            · simp [drain, hread, hline, hempty, hlast]
      | cons line more =>
          obtain ⟨hline, hahead, hnext⟩ := h.nextLine_of_line hlines
          obtain ⟨front, hfront, -⟩ := Log.exists_of_mem_lines (hlines ▸ List.mem_cons_self)
          have hempty : line.isEmpty = false := by simp [hfront]
          have hlast : line.getLast? = some LineReader.lineFeed := by simp [hfront]
          obtain ⟨rest, hbytes, hmore⟩ := Log.exists_of_lines_eq_cons hlines
          rw [hbytes, List.drop_left] at hahead
          obtain ⟨hdrained, r', hdrain, hnext', hahead'⟩ := ih (p := p.performLine hs cursor line)
            hnext (by rw [Progress.performLine_files]; exact hsave _ _ hfiles)
          rw [hahead, hmore] at hdrained hahead'
          rw [hahead, hmore] at hdrain hnext'
          have hpause : pauseAfter (count + 1) (r.ahead content) = pauseAfter count rest := by
            rw [hbytes, ← hmore] at hlines
            rw [hbytes, pauseAfter_line_append count hlines]
          simp only [hlines, List.take_succ_cons, List.foldl_cons, hpause]
          refine ⟨?_, r', ?_, hnext', ?_⟩
          · simp [drained, hread, hline, hempty, hlast, hdrained]
          · simp [drain, hread, hline, hempty, hlast, hdrain]
          · rwa [List.flatten_cons, List.length_append, ← List.drop_drop, hbytes, List.drop_left]

end Drain

/-- Whether a poll starts over at a file: another one than before, or one that does not reach to
the offset. -/
def startsOver (p : Poller) (inode length : Nat) : Bool :=
  p.inode?.isSome && p.inode? ≠ some inode || length < p.offset

theorem notice_eq (p : Poller) (info : Metadata) (s : Surroundings σ) :
    p.notice info s =
      if p.startsOver info.inode info.length then
        ({ p with offset := 0, inode? := some info.inode, reader? := none },
          s.count Stats.countRotation)
      else ({ p with inode? := some info.inode }, s) := rfl

/-- Where a poll begins to read a file. -/
def base (p : Poller) (inode length : Nat) : Nat :=
  if p.startsOver inode length then 0 else p.offset

/-- The surroundings with a poll's rotation counted, if it notices one. -/
def noticed (p : Poller) (inode length : Nat) (s : Surroundings σ) : Surroundings σ :=
  if p.startsOver inode length then s.count Stats.countRotation else s

@[simp]
theorem noticed_files (p : Poller) (inode length : Nat) (s : Surroundings σ) :
    (p.noticed inode length s).files = s.files := by
  unfold noticed
  split <;> rfl

theorem noticed_rotations (p : Poller) (inode length : Nat) (s : Surroundings σ) :
    (p.noticed inode length s).stats.rotations =
      s.stats.rotations + if p.startsOver inode length then 1 else 0 := by
  unfold noticed
  split <;> rfl

variable {inode : Nat} {content : List UInt8}

/-- What a poll reads of a file: all of it if it starts over, and else what its reader has read
ahead and what stands behind that. -/
def ahead (p : Poller) (inode : Nat) (content : List UInt8) : List UInt8 :=
  if p.startsOver inode content.length then content
  else match p.reader? with
    | some r => r.ahead content
    | none => content.drop p.offset

theorem base_le (p : Poller) (inode length : Nat) : p.base inode length ≤ length := by
  unfold base
  split
  · exact Nat.zero_le _
  next hover =>
    simp only [startsOver, Bool.or_eq_true, decide_eq_true_eq, not_or] at hover
    exact Nat.le_of_not_lt hover.2

theorem offset_le {p : Poller} {length : Nat} (hover : p.startsOver inode length = false) :
    p.offset ≤ length := by
  have hbase := base_le p inode length
  rwa [base, hover, if_neg Bool.false_ne_true] at hbase

/-- Lines from the place where a poll begins end within the file. -/
theorem base_add_le (p : Poller) (inode : Nat) (content : List UInt8) (count : Nat) :
    p.base inode content.length +
      ((Log.lines (content.drop (p.base inode content.length))).take count).flatten.length ≤
        content.length := by
  have hbase := base_le p inode content.length
  have hlength := Log.length_flatten_take_le (content.drop (p.base inode content.length)) count
  rw [List.length_drop] at hlength
  omega

theorem reader_holds {p : Poller} {files : FileSystem} (hlog : files.Shows p.path inode content)
    (hreader : ∀ r, p.reader? = some r → r.Holds inode p.offset) :
    ∃ r, p.reader files = .ok r ∧ r.Holds inode p.offset ∧
      r.ahead content = match p.reader? with
        | some r => r.ahead content
        | none => content.drop p.offset := by
  unfold reader
  cases hopen : p.reader? with
  | some r => exact ⟨r, rfl, hreader r hopen, rfl⟩
  | none =>
      refine ⟨.openAt ⟨inode, false⟩ p.offset, ?_, LineReader.openAt_holds inode p.offset,
        LineReader.ahead_openAt _ _ _⟩
      simp [hlog.openFile, bind, Except.bind]

/-- A poll of a log hands on the first complete lines of what it reads, whatever has become of the
file since the reader has read ahead. -/
theorem poll_ahead (hs : Handlers σ) {p : Poller} {s : Surroundings σ}
    (hlog : CursorFile.KeepsLog s.files p.cursorPath p.path inode content)
    (hholds : p.startsOver inode content.length = false →
      ∀ r, p.reader? = some r → r.Holds inode p.offset) :
    let base := p.base inode content.length
    let bytes := p.ahead inode content
    let lines := (Log.lines bytes).take maxLinesPerPoll
    let progress := lines.foldl (Progress.performLine hs p.cursorPath)
      ⟨base, p.noticed inode content.length s⟩
    p.handed hs true s = lines ∧
      ∃ r, p.poll hs true s =
          (.ok (pauseAfter maxLinesPerPoll bytes),
            { p with offset := progress.offset, inode? := some inode, reader? := some r },
            progress.surroundings) ∧
        r.Holds inode progress.offset ∧
        (r.buffer = [] ∨ pauseAfter maxLinesPerPoll bytes = .busy ∧
          r.ahead content = bytes.drop lines.flatten.length) := by
  obtain ⟨modified, hinfo⟩ := hlog.shows.metadata
  have hnotice := notice_eq p ⟨inode, content.length, modified⟩ s
  set q := (p.notice ⟨inode, content.length, modified⟩ s).1 with hq
  set t := (p.notice ⟨inode, content.length, modified⟩ s).2 with ht
  have hoffset : q.offset = p.base inode content.length := by
    rw [hq, hnotice, base]
    split <;> rfl
  have hfiles : t.files = s.files := notice_files ..
  have hnoticed : t = p.noticed inode content.length s := by
    rw [ht, hnotice, noticed]
    split <;> rfl
  have hinode : q.inode? = some inode := by
    rw [hq, hnotice]
    split <;> rfl
  have hpath : q.path = p.path := notice_path ..
  have hcursor : q.cursorPath = p.cursorPath := notice_cursorPath ..
  -- a poll that starts over has dropped its reader
  have hreader : ∀ r, q.reader? = some r → r.Holds inode q.offset := by
    intro r hr
    rw [hq, hnotice] at hr ⊢
    cases hover : p.startsOver inode content.length with
    | true => simp [hover] at hr
    | false =>
        simp only [hover, Bool.false_eq_true, if_false] at hr ⊢
        exact hholds hover r hr
  have hshows : t.files.Shows q.path inode content := by
    rw [hfiles, hpath]
    exact hlog.shows
  obtain ⟨r, hr, hheld, hahead⟩ := reader_holds hshows hreader
  replace hahead : r.ahead content = p.ahead inode content := by
    rw [hahead, hq, hnotice, ahead]
    cases p.startsOver inode content.length <;> rfl
  have hkeeps : CursorFile.KeepsLog t.files p.cursorPath p.path inode content := hfiles ▸ hlog
  obtain ⟨hdrained, r', hdrain, hheld', hahead'⟩ := drain_ahead hs (p := ⟨q.offset, t⟩)
    (fun _ n h => CursorFile.KeepsLog.save h n)
    (fun _ h => FileSystem.content_eq h.shows.bytes) maxLinesPerPoll hheld hkeeps
  simp only [hoffset, hnoticed, hahead] at hdrained hdrain hheld' hahead' hr
  refine ⟨?_, r', ?_, hheld', hahead'⟩
  · simp only [handed, hinfo, ← hq, ← ht, hnoticed, hr, hcursor, hoffset, hdrained]
  · simp only [poll, hinfo, ← hq, ← ht, hnoticed, hr, hcursor, hoffset, hdrain, hpath,
      hinode]

/-- What a poll needs of its reader: unless it starts over, the reader stands at the offset. -/
def Ready (p : Poller) (inode : Nat) (content : List UInt8) : Prop :=
  p.startsOver inode content.length = false → ∀ r, p.reader? = some r → r.At inode content p.offset

theorem Ready.ahead_eq {p : Poller} (hready : p.Ready inode content) :
    p.ahead inode content = content.drop (p.base inode content.length) := by
  unfold ahead base
  cases hover : p.startsOver inode content.length with
  | true => rfl
  | false =>
      cases hopen : p.reader? with
      | some r => exact (hready hover r hopen).ahead
      | none => rfl

/-- A poll of a log hands on the first complete lines behind the place where it begins, and is
ready for the next poll. -/
theorem poll_eq (hs : Handlers σ) {p : Poller} {s : Surroundings σ}
    (hlog : CursorFile.KeepsLog s.files p.cursorPath p.path inode content)
    (hready : p.Ready inode content) :
    let base := p.base inode content.length
    let bytes := content.drop base
    let lines := (Log.lines bytes).take maxLinesPerPoll
    let progress := lines.foldl (Progress.performLine hs p.cursorPath)
      ⟨base, p.noticed inode content.length s⟩
    p.handed hs true s = lines ∧
      ∃ r, p.poll hs true s =
          (.ok (pauseAfter maxLinesPerPoll bytes),
            { p with offset := progress.offset, inode? := some inode, reader? := some r },
            progress.surroundings) ∧
        r.At inode content progress.offset := by
  have hpoll := poll_ahead hs hlog fun hover r hr => (hready hover r hr).holds
  simp only [hready.ahead_eq] at hpoll
  obtain ⟨hhanded, r, hpoll, hheld, hahead⟩ := hpoll
  rw [Progress.foldl_performLine_offset] at hheld
  refine ⟨hhanded, r, hpoll, ?_⟩
  rw [Progress.foldl_performLine_offset]
  refine hheld.at ?_ ?_
  · rcases hahead with hbuffer | ⟨-, hahead⟩
    · exact hheld.ahead_eq (hbuffer ▸ List.nil_prefix)
    · rw [hahead, List.drop_drop]
  · exact base_add_le p inode content maxLinesPerPoll

end Poller

end DebugDashboard
