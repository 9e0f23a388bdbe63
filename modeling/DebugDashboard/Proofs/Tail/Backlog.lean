import DebugDashboard.Proofs.Tail.Accounting
import DebugDashboard.Proofs.Tail.CursorCell
import DebugDashboard.Proofs.Tail.Interrupted

/-!
# A run that works off its backlog

The loop has no bound of its own. With a stop request waiting it goes on only after a busy poll, and
a busy poll has taken 1024 of the lines that are left, so it ends with the first poll that finds
fewer. A poll that fails ends it too. Either way the offset and the cursor file are behind the last
line that was handed on.
-/

namespace DebugDashboard

variable {σ : Type} {hs : Handlers σ} {cursor : Path}

/-! ## What lines leave -/

/-- The offsets behind each of some lines that begin at an offset. -/
def Log.lineEnds : Nat → List (List UInt8) → List Nat
  | _, [] => []
  | offset, line :: rest => (offset + line.length) :: lineEnds (offset + line.length) rest

theorem Log.lineEnds_concat (offset : Nat) (front : List (List UInt8)) (line : List UInt8) :
    lineEnds offset (front ++ [line]) =
      lineEnds offset front ++ [offset + (front ++ [line]).flatten.length] := by
  induction front generalizing offset with
  | nil => simp [lineEnds]
  | cons head rest ih => simp [lineEnds, ih, Nat.add_assoc]

namespace Progress

variable (hs) (cursor) (p : Progress σ) (lines : List (List UInt8))

@[simp]
theorem performLine_ioErrors (line : List UInt8) :
    (p.performLine hs cursor line).surroundings.stats.ioErrors =
      p.surroundings.stats.ioErrors := by
  simp only [performLine, Effect.ofLine, List.foldl_cons, List.foldl_nil, perform,
    Surroundings.count, Stats.setPosition, Surroundings.dispatch]
  split <;> (try split) <;> rfl

@[simp]
theorem foldl_performLine_ioErrors :
    (lines.foldl (performLine hs cursor) p).surroundings.stats.ioErrors =
      p.surroundings.stats.ioErrors := by
  induction lines generalizing p with
  | nil => rfl
  | cons line rest ih => rw [List.foldl_cons, ih, performLine_ioErrors]

theorem foldl_performLine_files_eq :
    (lines.foldl (performLine hs cursor) p).surroundings.files =
      CursorFile.saveAll p.surroundings.files cursor (Log.lineEnds p.offset lines) := by
  induction lines generalizing p with
  | nil => rfl
  | cons line rest ih =>
      rw [List.foldl_cons, ih, performLine_files, performLine_offset]
      rfl

end Progress

theorem CursorFile.Savable.saveAll {fs : FileSystem} {cursor log : Path} {inode : Nat}
    {content : List UInt8} (h : Savable fs cursor log inode content) (offsets : List Nat) :
    Savable (CursorFile.saveAll fs cursor offsets) cursor log inode content := by
  induction offsets generalizing fs with
  | nil => exact h
  | cons n rest ih => exact ih (h.save n)

theorem CursorFile.Cell.saveAll {fs : FileSystem} {p : Path} (h : Cell fs p)
    (offsets : List Nat) : Cell (CursorFile.saveAll fs p offsets) p := by
  induction offsets generalizing fs with
  | nil => exact h
  | cons n rest ih => exact ih (h.save n)

namespace Poller

/-- Between two moments exactly these lines were handed on: each was counted and given to its
handler once, in order, and the offset is behind them. It was saved behind each of them; if the last
save succeeds, it is loaded. -/
structure Delivers (hs : Handlers σ) (cursor : Path) (lines : List (List UInt8)) (p q : Poller)
    (s t : Surroundings σ) : Prop where
  accounts : hs.Accounts lines s t
  offset : q.offset = p.offset + lines.flatten.length
  files : t.files = CursorFile.saveAll s.files cursor (Log.lineEnds p.offset lines)
  cursor : ∀ front line, lines = front ++ [line] → CursorFile.Cell s.files cursor →
    q.offset < Word.limit →
    (CursorFile.save (CursorFile.saveAll s.files cursor (Log.lineEnds p.offset front)) cursor
      q.offset).1 = .ok () →
    CursorFile.load t.files cursor = .ok q.offset

theorem delivers_of_foldl {p q : Poller} {s t : Surroundings σ} {lines : List (List UInt8)}
    (hoffset : q.offset = p.offset + lines.flatten.length)
    (hfiles : t.files =
      (lines.foldl (Progress.performLine hs cursor) ⟨p.offset, s⟩).surroundings.files)
    (haccounts : hs.Accounts lines s t) : Delivers hs cursor lines p q s t where
  accounts := haccounts
  offset := hoffset
  files := by rw [hfiles, Progress.foldl_performLine_files_eq]
  cursor := by
    rintro front line rfl hcell hlimit hsave
    rw [hfiles, Progress.foldl_performLine_files_eq, Log.lineEnds_concat, ← hoffset,
      CursorFile.saveAll, List.foldl_append]
    have hbefore := hcell.saveAll (Log.lineEnds p.offset front)
    exact (CursorFile.load_save_iff hbefore.sound hbefore.plainDraft hlimit hsave).mpr
      hbefore.notOnOwnWay

/-! ## The loop -/

/-- One turn of the loop: a poll, in which some calls may fail. A failure is counted, and drops the
reader. -/
def round (hs : Handlers σ) (faults : Faults) (p : Poller) (s : Surroundings σ) :
    Option Pause × Poller × Surroundings σ × List (List UInt8) :=
  match p.pollThrough hs faults s with
  | (some pause, p, s, lines) => (some pause, p, s, lines)
  | (none, p, s, lines) => (none, { p with reader? := none }, s.count Stats.countIoError, lines)

/-- When no call fails, a round is a poll, and a failure of that is counted. -/
theorem round_plain (p : Poller) (s : Surroundings σ) :
    p.round hs {} s =
      match p.poll hs true s with
      | (.ok pause, q, t) => (some pause, q, t, p.handed hs true s)
      | (.error _, q, t) =>
        (none, { q with reader? := none }, t.count Stats.countIoError, p.handed hs true s) := by
  rw [round, pollThrough_plain]
  rcases p.poll hs true s with ⟨result, q, t⟩
  cases result <;> rfl

/-- Whether the loop polls again, as long as the tailer is running. Only a busy poll does not wait,
and every wait is cut short by a stop request. -/
def goesOn (requested : Bool) : Option Pause → Bool
  | some .busy => true
  | _ => !requested

/-- The loop ends after some rounds, in each of which these lines were handed on. What the last of
them came to, the poller and the surroundings are given too. -/
inductive Runs (hs : Handlers σ) (requested : Bool) :
    (Nat → Faults) → Poller → Surroundings σ →
      List (List (List UInt8)) → Option Pause → Poller → Surroundings σ → Prop
  | last {faults : Nat → Faults} {p q : Poller} {s t : Surroundings σ} {pause? : Option Pause}
      {lines : List (List UInt8)} :
      p.round hs (faults 0) s = (pause?, q, t, lines) → goesOn requested pause? = false →
        Runs hs requested faults p s [lines] pause? q t
  | again {faults : Nat → Faults} {p q r : Poller} {s t u : Surroundings σ}
      {pause? last? : Option Pause} {lines : List (List UInt8)}
      {rounds : List (List (List UInt8))} :
      p.round hs (faults 0) s = (pause?, q, t, lines) → goesOn requested pause? = true →
        Runs hs requested (fun n => faults (n + 1)) q t rounds last? r u →
          Runs hs requested faults p s (lines :: rounds) last? r u

namespace Runs

variable {requested : Bool} {faults : Nat → Faults} {p q q' : Poller} {s t t' : Surroundings σ}
  {rounds rounds' : List (List (List UInt8))} {pause? pause?' : Option Pause}

/-- A run takes one course. -/
theorem unique (h : Runs hs requested faults p s rounds pause? q t)
    (h' : Runs hs requested faults p s rounds' pause?' q' t') :
    rounds = rounds' ∧ pause? = pause?' ∧ q = q' ∧ t = t' := by
  induction h generalizing rounds' with
  | last hround hend =>
      cases h' with
      | last hround' hend' =>
          rw [hround] at hround'
          cases hround'
          exact ⟨rfl, rfl, rfl, rfl⟩
      | again hround' hon' _ =>
          rw [hround] at hround'
          cases hround'
          rw [hend] at hon'
          cases hon'
  | again hround hon _ ih =>
      cases h' with
      | last hround' hend' =>
          rw [hround] at hround'
          cases hround'
          rw [hon] at hend'
          cases hend'
      | again hround' _ hrest' =>
          rw [hround] at hround'
          cases hround'
          obtain ⟨rfl, rfl, rfl, rfl⟩ := ih hrest'
          exact ⟨rfl, rfl, rfl, rfl⟩

/-- A run in which no call fails is what polling within a bound comes to, if the bound is not too
small. -/
theorem runWithin_eq (h : Runs hs true faults p s rounds pause? q t)
    (hplain : ∀ n, faults n = {}) {polls : Nat} (hpolls : rounds.length ≤ polls) :
    p.runWithin hs true polls s = (q, t) := by
  induction h generalizing polls with
  | last hround hend =>
      obtain ⟨polls, rfl⟩ := Nat.exists_eq_add_one.mpr hpolls
      rw [hplain, round_plain] at hround
      unfold runWithin
      rcases hpoll : poll hs true _ _ with ⟨result, q', t'⟩
      rw [hpoll] at hround
      cases result with
      | error e =>
          cases hround
          rfl
      | ok pause =>
          cases hround
          cases pause with
          | busy => cases hend
          | _ => rfl
  | again hround hon _ ih =>
      obtain ⟨polls, rfl⟩ := Nat.exists_eq_add_one.mpr (Nat.zero_lt_of_lt hpolls)
      rw [hplain, round_plain] at hround
      unfold runWithin
      rcases hpoll : poll hs true _ _ with ⟨result, q', t'⟩
      rw [hpoll] at hround
      cases result with
      | error e =>
          cases hround
          cases hon
      | ok pause =>
          cases hround
          cases pause with
          | busy => exact ih (fun n => hplain (n + 1)) (Nat.le_of_succ_le_succ hpolls)
          | _ => cases hon

end Runs

/-! ## The lines that are left -/

variable {log : Path} {inode start : Nat} {content : List UInt8} {done : List (List UInt8)}
  {p : Poller} {s : Surroundings σ}

/-- A round hands on the next lines, 1024 of them unless fewer are left. If a call fails, it has
handed on the first of them. -/
theorem FollowsFrom.round (hs : Handlers σ) (faults : Faults)
    (h : p.FollowsFrom start log cursor inode content done)
    (hlog : CursorFile.KeepsLog s.files cursor log inode content) :
    let next := (Log.lines (content.drop p.offset)).take maxLinesPerPoll
    let progress := fun lines : List (List UInt8) =>
      lines.foldl (Progress.performLine hs cursor) ⟨p.offset, s⟩
    (∃ q, p.round hs faults s =
          (some (pauseAfter maxLinesPerPoll (content.drop p.offset)), q,
            (progress next).surroundings, next) ∧
        q.offset = (progress next).offset ∧
        q.FollowsFrom start log cursor inode content (done ++ next)) ∨
      faults ≠ {} ∧ ∃ q front, front <+: next ∧ q.offset = p.offset + front.flatten.length ∧
        p.round hs faults s =
          (none, q, (progress front).surroundings.count Stats.countIoError, front) := by
  intro next progress
  obtain ⟨hhanded, pause, q, hpoll, hnext, -⟩ := h.poll hs hlog
  have hpause := h.poll_pause hs hlog
  rw [hpoll] at hpause
  obtain rfl := Except.ok.inj hpause
  obtain ⟨modified, hinfo⟩ := hlog.shows.metadata
  rw [← h.path] at hinfo
  have hnotice : p.notice ⟨inode, content.length, modified⟩ s =
      ({ p with inode? := some inode }, s) := by
    rw [notice_eq, h.startsOver, if_neg Bool.false_ne_true]
  rcases pollThrough_cases hs faults hinfo hnotice with
    ⟨pause, hpause, hthrough⟩ | ⟨q', front, hfront, hoffset, hthrough⟩
  · rw [hpoll] at hpause hthrough
    obtain rfl := Except.ok.inj hpause
    rw [hhanded] at hthrough
    refine .inl ⟨q, by rw [Poller.round, hthrough], ?_, hnext⟩
    rw [hnext.offset, Progress.foldl_performLine_offset, List.flatten_append, List.length_append,
      ← Nat.add_assoc, ← h.offset]
  · rw [hhanded] at hfront
    rw [h.cursorPath] at hthrough
    refine .inr ⟨?_, { q' with reader? := none }, front, hfront, hoffset, ?_⟩
    · rintro rfl
      rw [pollThrough_plain, hpoll] at hthrough
      cases hthrough
    · rw [Poller.round, hthrough]

/-- What a run comes to that finds some lines while a stop request is waiting. It hands on all of
them, 1024 in each round but the last; or a call fails, and it has handed on the first of them. -/
structure WorksOff (hs : Handlers σ) (cursor : Path) (faults : Nat → Faults)
    (lines : List (List UInt8)) (p : Poller) (s : Surroundings σ)
    (rounds : List (List (List UInt8))) (pause? : Option Pause) (q : Poller) (t : Surroundings σ) :
    Prop where
  runs : Runs hs true faults p s rounds pause? q t
  offset : q.offset = p.offset + rounds.flatten.flatten.length
  done : pause?.isSome → rounds.flatten = lines ∧
    rounds.length = lines.length / maxLinesPerPoll + 1 ∧
    t = (rounds.flatten.foldl (Progress.performLine hs cursor) ⟨p.offset, s⟩).surroundings
  failed : pause? = none → (∃ n, faults n ≠ {}) ∧ rounds.flatten <+: lines ∧
    rounds.length ≤ lines.length / maxLinesPerPoll + 1 ∧
    t = (rounds.flatten.foldl (Progress.performLine hs cursor)
      ⟨p.offset, s⟩).surroundings.count Stats.countIoError

namespace WorksOff

variable {faults : Nat → Faults} {lines : List (List UInt8)} {rounds : List (List (List UInt8))}
  {pause? : Option Pause} {q : Poller} {t : Surroundings σ}

theorem delivers (h : WorksOff hs cursor faults lines p s rounds pause? q t) :
    Delivers hs cursor rounds.flatten p q s t := by
  have haccounts := Progress.foldl_performLine_accounts hs cursor ⟨p.offset, s⟩ rounds.flatten
  cases pause? with
  | none =>
      obtain ⟨-, -, -, rfl⟩ := h.failed rfl
      exact delivers_of_foldl h.offset rfl (haccounts.trans_nil ⟨rfl, rfl, rfl, [], rfl, rfl⟩)
  | some pause =>
      obtain ⟨-, -, rfl⟩ := h.done rfl
      exact delivers_of_foldl h.offset rfl haccounts

theorem ioErrors (h : WorksOff hs cursor faults lines p s rounds pause? q t) :
    t.stats.ioErrors = s.stats.ioErrors + if pause?.isSome then 0 else 1 := by
  cases pause? with
  | none =>
      obtain ⟨-, -, -, rfl⟩ := h.failed rfl
      exact congrArg (· + 1) (Progress.foldl_performLine_ioErrors hs cursor ⟨p.offset, s⟩ _)
  | some pause =>
      obtain ⟨-, -, rfl⟩ := h.done rfl
      exact Progress.foldl_performLine_ioErrors hs cursor ⟨p.offset, s⟩ _

/-- A busy round that hands on 1024 lines comes before the rounds that hand on the others. -/
theorem again {next rest : List (List UInt8)} {r : Poller} {u : Surroundings σ}
    {last? : Option Pause}
    (hround : p.round hs (faults 0) s =
      (some .busy, q, (next.foldl (Progress.performLine hs cursor) ⟨p.offset, s⟩).surroundings,
        next))
    (hoffset : q.offset = p.offset + next.flatten.length) (hlength : next.length = maxLinesPerPoll)
    (h : WorksOff hs cursor (fun n => faults (n + 1)) rest q
      (next.foldl (Progress.performLine hs cursor) ⟨p.offset, s⟩).surroundings rounds last? r u) :
    WorksOff hs cursor faults (next ++ rest) p s (next :: rounds) last? r u := by
  have hprogress : (next :: rounds).flatten.foldl (Progress.performLine hs cursor) ⟨p.offset, s⟩ =
      rounds.flatten.foldl (Progress.performLine hs cursor) ⟨q.offset,
        (next.foldl (Progress.performLine hs cursor) ⟨p.offset, s⟩).surroundings⟩ := by
    rw [List.flatten_cons, List.foldl_append, hoffset,
      ← Progress.foldl_performLine_offset hs cursor ⟨p.offset, s⟩]
  have hcount : (next ++ rest).length / maxLinesPerPoll = rest.length / maxLinesPerPoll + 1 := by
    rw [List.length_append, hlength, Nat.add_div_left _ (by decide)]
  refine ⟨.again hround rfl h.runs, ?_, fun hsome => ?_, fun hnone => ?_⟩
  · rw [h.offset, hoffset, List.flatten_cons, List.flatten_append, List.length_append,
      Nat.add_assoc]
  · obtain ⟨hall, hrounds, ht⟩ := h.done hsome
    rw [hprogress, hcount, List.flatten_cons]
    exact ⟨congrArg (next ++ ·) hall, congrArg (· + 1) hrounds, ht⟩
  · obtain ⟨⟨n, hfault⟩, hfirst, hrounds, ht⟩ := h.failed hnone
    rw [hprogress, hcount, List.flatten_cons]
    exact ⟨⟨n + 1, hfault⟩, (List.prefix_append_right_inj next).mpr hfirst,
      Nat.add_le_add_right hrounds 1, ht⟩

end WorksOff

/-- With a stop request waiting, the loop ends. -/
theorem FollowsFrom.worksOff (hs : Handlers σ) (faults : Nat → Faults)
    (h : p.FollowsFrom start log cursor inode content done)
    (hlog : CursorFile.KeepsLog s.files cursor log inode content) :
    ∃ rounds pause? q t, WorksOff hs cursor faults (Log.lines (content.drop p.offset)) p s rounds
      pause? q t := by
  -- by induction on the number of lines that are left
  generalize hlines : Log.lines (content.drop p.offset) = lines
  generalize hleft : lines.length = left
  induction left using Nat.strong_induction_on generalizing p s done faults lines with
  | _ left ih =>
  have hround := h.round hs (faults 0) hlog
  simp only [hlines] at hround
  rcases hround with ⟨q, hround, hoffset, hnext⟩ | ⟨hfault, q, front, hfront, hoffset, hround⟩
  · rw [Progress.foldl_performLine_offset] at hoffset
    by_cases hmany : maxLinesPerPoll ≤ lines.length
    · -- a busy round, and the rest of the run begins behind its lines
      rw [pauseAfter, hlines, if_pos hmany] at hround
      have hrest : Log.lines (content.drop q.offset) = lines.drop maxLinesPerPoll := by
        rw [hoffset, ← List.drop_drop, ← hlines, Log.lines_drop]
      have hless : (lines.drop maxLinesPerPoll).length < left := by
        rw [List.length_drop, hleft]
        exact Nat.sub_lt_self (by decide) (hleft ▸ hmany)
      obtain ⟨rounds, last?, r, u, hruns⟩ := ih _ hless (fun n => faults (n + 1)) hnext
        (Progress.foldl_performLine_files hs cursor ⟨p.offset, s⟩ _
          (I := (CursorFile.KeepsLog · cursor log inode content)) (fun _ n hkeeps => hkeeps.save n)
          hlog) _ hrest rfl
      rw [← List.take_append_drop maxLinesPerPoll lines]
      exact ⟨_, last?, r, u, hruns.again hround hoffset (List.length_take_of_le hmany)⟩
    · -- what is left is taken, and the pause that follows is cut short
      have hend :
          goesOn true (some (pauseAfter maxLinesPerPoll (content.drop p.offset))) = false := by
        rw [pauseAfter, hlines, if_neg hmany]
        split <;> rfl
      rw [List.take_of_length_le (Nat.le_of_not_le hmany)] at hround hoffset
      refine ⟨[lines], _, q, _, .last hround hend, by rwa [List.flatten_singleton], fun _ => ?_,
        fun hnone => by cases hnone⟩
      rw [List.flatten_singleton, Nat.div_eq_of_lt (Nat.lt_of_not_le hmany)]
      exact ⟨rfl, rfl, rfl⟩
  · refine ⟨[front], none, q, _, .last hround rfl, by rwa [List.flatten_singleton],
      fun hsome => (by cases hsome), fun _ => ⟨⟨0, hfault⟩, ?_, Nat.le_add_left 1 _, ?_⟩⟩
    · rw [List.flatten_singleton]
      exact hfront.trans (List.take_prefix _ _)
    · rw [List.flatten_singleton]

/-- With a stop request waiting, a run ends. If no call fails, it ends with the poll that finds less
than 1024 of the complete lines behind the offset, has handed on all of them, and is what polling
within a bound comes to. If calls fail, it may end sooner, with a poll that fails; then one more
error is counted. Each line that was handed on was handed on once, in order, and the offset and the
cursor file are behind the last of them. -/
theorem run_delivers_backlog (hs : Handlers σ)
    (h : p.FollowsFrom p.offset log cursor inode content [])
    (hlog : CursorFile.KeepsLog s.files cursor log inode content) :
    let lines := Log.lines (content.drop p.offset)
    (∃ rounds pause q t, Runs hs true (fun _ => {}) p s rounds (some pause) q t ∧
        rounds.length = lines.length / maxLinesPerPoll + 1 ∧ rounds.flatten = lines ∧
        Delivers hs cursor lines p q s t ∧ t.stats.ioErrors = s.stats.ioErrors ∧
        p.run hs true s = (q, t)) ∧
      ∀ faults, (∃ rounds pause? q t, Runs hs true faults p s rounds pause? q t) ∧
        ∀ rounds pause? q t, Runs hs true faults p s rounds pause? q t →
          rounds.flatten <+: lines ∧ Delivers hs cursor rounds.flatten p q s t ∧
          match pause? with
          | some _ => rounds.length = lines.length / maxLinesPerPoll + 1 ∧ rounds.flatten = lines ∧
              t.stats.ioErrors = s.stats.ioErrors
          | none => rounds.length ≤ lines.length / maxLinesPerPoll + 1 ∧
              t.stats.ioErrors = s.stats.ioErrors + 1 := by
  intro lines
  constructor
  · obtain ⟨rounds, pause?, q, t, hruns⟩ := h.worksOff hs (fun _ => {}) hlog
    cases pause? with
    | none =>
        obtain ⟨⟨n, hfault⟩, -⟩ := hruns.failed rfl
        exact absurd rfl hfault
    | some pause =>
        obtain ⟨hall, hcount, -⟩ := hruns.done rfl
        have hbound : rounds.length ≤ p.pollBound s.files := by
          obtain ⟨modified, hinfo⟩ := hlog.shows.metadata
          have hlines := Log.length_lines_le (content.drop p.offset)
          rw [List.length_drop] at hlines
          rw [hcount, pollBound, h.path, hinfo]
          exact Nat.add_le_add (Nat.div_le_div_right (hlines.trans (Nat.sub_le ..))) (by decide)
        have hdelivers := hruns.delivers
        rw [hall] at hdelivers
        refine ⟨rounds, pause, q, t, hruns.runs, hcount, hall, hdelivers, hruns.ioErrors, ?_⟩
        exact hruns.runs.runWithin_eq (fun _ => rfl) hbound
  · intro faults
    obtain ⟨rounds, pause?, q, t, hruns⟩ := h.worksOff hs faults hlog
    refine ⟨⟨rounds, pause?, q, t, hruns.runs⟩, fun rounds' pause?' q' t' hruns' => ?_⟩
    obtain ⟨rfl, rfl, rfl, rfl⟩ := hruns.runs.unique hruns'
    cases pause? with
    | none =>
        obtain ⟨-, hfirst, hcount, -⟩ := hruns.failed rfl
        exact ⟨hfirst, hruns.delivers, hcount, hruns.ioErrors⟩
    | some pause =>
        obtain ⟨hall, hcount, -⟩ := hruns.done rfl
        exact ⟨hall ▸ List.prefix_rfl, hruns.delivers, hcount, hall, hruns.ioErrors⟩

/-- Blank lines, and a partial one. -/
def pile (count : Nat) : List UInt8 := .replicate count LineReader.lineFeed ++ [97]

theorem lines_pile (count : Nat) :
    Log.lines (pile count) = .replicate count [LineReader.lineFeed] := by
  have hfragment : Log.fragment (.replicate count LineReader.lineFeed) = [] := by
    rw [Log.fragment, Log.lines_replicate, Log.length_flatten_replicate]
    exact List.drop_of_length_le List.length_replicate.le
  rw [pile, Log.lines_append, Log.lines_replicate, hfragment]
  exact List.append_nil _

/-- A log beside an empty cursor file. -/
def piled : Surroundings Unit := ⟨CursorFile.logBeside 1 (pile 2048) [], {}, ()⟩

/-- A poller that has not polled yet. -/
def behindhand : Poller where
  path := ⟨"/log"⟩
  cursorPath := ⟨"/cursor"⟩
  offset := 0

theorem behindhand_followsFrom (content : List UInt8) :
    behindhand.FollowsFrom 0 ⟨"/log"⟩ ⟨"/cursor"⟩ 1 content [] where
  path := rfl
  cursorPath := rfl
  start_le := Nat.zero_le _
  first := List.nil_prefix
  offset := rfl
  file := .inl rfl
  reader := fun r hr => by cases hr

theorem piled_cell : CursorFile.Cell piled.files ⟨"/cursor"⟩ where
  sound := FileSystem.sound_of_fits (by decide +kernel) rfl
  plainDraft := by
    intro at_ there hlink
    have hfree : piled.files.resolve false (CursorFile.draft ⟨"/cursor"⟩) =
        .ok (.vacant ["cursor.tmp"]) := rfl
    rw [hfree] at hlink
    cases hlink
  notOnOwnWay := by
    intro at_ there hlink
    have hfile : piled.files.resolve false ⟨"/cursor"⟩ = .ok (.found ["cursor"] (.file 2)) := rfl
    rw [hfile] at hlink
    cases hlink

/-- The second poll is busy too, and a third one finds that no line is left. -/
theorem run_piled :
    behindhand.FollowsFrom 0 ⟨"/log"⟩ ⟨"/cursor"⟩ 1 (pile 2048) [] ∧
      CursorFile.KeepsLog piled.files ⟨"/cursor"⟩ ⟨"/log"⟩ 1 (pile 2048) ∧
      ∃ rounds pause q t,
        Runs Handlers.none true (fun _ => {}) behindhand piled rounds (some pause) q t ∧
        rounds.length = 3 ∧ rounds.flatten = .replicate 2048 [LineReader.lineFeed] ∧
        CursorFile.load t.files ⟨"/cursor"⟩ = .ok 2048 := by
  have hsavable := CursorFile.logBeside_savable (pile 2048) [] (.inl rfl)
  have hfollows := behindhand_followsFrom (pile 2048)
  refine ⟨hfollows, hsavable.keepsLog, ?_⟩
  obtain ⟨rounds, pause, q, t, hruns, hlength, hflatten, hdelivers, -⟩ :=
    (run_delivers_backlog (s := piled) Handlers.none hfollows hsavable.keepsLog).1
  rw [show behindhand.offset = 0 from rfl, List.drop_zero, lines_pile] at hlength hflatten hdelivers
  have hoffset : q.offset = 2048 := by
    rw [hdelivers.offset, Log.length_flatten_replicate]
    rfl
  rw [List.length_replicate] at hlength
  refine ⟨rounds, pause, q, t, hruns, hlength, hflatten, ?_⟩
  rw [← hoffset]
  refine hdelivers.cursor (.replicate 2047 [LineReader.lineFeed]) [LineReader.lineFeed]
    List.replicate_succ' piled_cell (by rw [hoffset]; decide) ?_
  exact (hsavable.saveAll _).save_ok _

end Poller

end DebugDashboard
