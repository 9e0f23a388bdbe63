import DebugDashboard.Proofs.Tail.Growth

/-!
# Polls in which calls fail

Any call that a poll makes of the system can fail although the files are as they are. Such a poll
breaks off: it has handed on the first of the lines that it would have handed on, and what it leaves
is what these lines do.
-/

namespace DebugDashboard

variable {σ : Type} (hs : Handlers σ) (cursor : Path)

/-- The calls that fail in a poll. The reads are told apart by how many lines may still be taken. -/
structure Faults where
  metadata : Bool := false
  /-- The log cannot be opened, or not be read from the offset on. -/
  opening : Bool := false
  reading : Nat → Bool := fun _ => false
  /-- The reader cannot go back to the beginning of a partial line. -/
  rewinding : Bool := false

namespace Poller

/-- What draining comes to when some calls fail: what is to be done next, none after a failure, and
the lines that were handed on. -/
def drainThrough (hs : Handlers σ) (cursorPath : Path) (faults : Faults) :
    Nat → LineReader → Progress σ → Option Pause × LineReader × Progress σ × List (List UInt8)
  | 0, r, p => (some .busy, r, p, [])
  | count + 1, r, p =>
    if faults.reading (count + 1) then (none, r, p, [])
    else match r.read p.surroundings.files with
      | .error _ => (none, r, p, [])
      | .ok (line, r') =>
        if line.isEmpty then (some .idle, r', p, [])
        else if line.getLast? ≠ some LineReader.lineFeed then
          if faults.rewinding then (none, r', p, [])
          else (some .partialLine, r'.seek p.offset, p, [])
        else
          let (pause?, r', p', lines) :=
            drainThrough hs cursorPath faults count r' (p.performLine hs cursorPath line)
          (pause?, r', p', line :: lines)

/-- What a poll comes to when some calls fail: what is to be done next, none after a failure, and
the lines that were handed on. -/
def pollThrough (hs : Handlers σ) (faults : Faults) (p : Poller) (s : Surroundings σ) :
    Option Pause × Poller × Surroundings σ × List (List UInt8) :=
  if faults.metadata then (none, p, s, [])
  else match s.files.metadata p.path with
    | .error .notFound =>
      let (p, s) := p.noticeMissing s
      (some .missingFile, p, s, [])
    | .error _ => (none, p, s, [])
    | .ok info =>
      let (p, s) := p.notice info s
      if p.reader?.isNone && faults.opening then (none, p, s, [])
      else match p.reader s.files with
        | .error _ => (none, p, s, [])
        | .ok r =>
          let (pause?, r, progress, lines) :=
            drainThrough hs p.cursorPath faults maxLinesPerPoll r ⟨p.offset, s⟩
          (pause?, { p with offset := progress.offset, reader? := some r }, progress.surroundings,
            lines)

/-- When no call fails, draining is what it is. -/
theorem drainThrough_plain (count : Nat) (r : LineReader) (p : Progress σ) :
    let plain := drain hs cursor true count r p
    drainThrough hs cursor {} count r p =
      (plain.1.toOption, plain.2.1, plain.2.2, drained hs cursor true count r p) := by
  induction count generalizing r p with
  | zero => rfl
  | succ count ih =>
      unfold drainThrough drain drained
      cases hread : r.read p.surroundings.files with
      | error e => rfl
      | ok next =>
          simp only [ih, Bool.not_true, Bool.false_eq_true, if_false]
          split
          · rfl
          · split <;> rfl

/-- When no call fails, a poll is what it is. -/
theorem pollThrough_plain (p : Poller) (s : Surroundings σ) :
    let plain := p.poll hs true s
    p.pollThrough hs {} s =
      (plain.1.toOption, plain.2.1, plain.2.2, p.handed hs true s) := by
  unfold pollThrough poll handed
  cases hinfo : s.files.metadata p.path with
  | error e => cases e <;> rfl
  | ok info =>
      simp only [Bool.and_false, Bool.false_eq_true, if_false]
      cases (p.notice info s).1.reader (p.notice info s).2.files with
      | error e => rfl
      | ok r => simp only [drainThrough_plain]

/-- Draining does all that it would do without failures, or it breaks off behind the first of its
lines. -/
theorem drainThrough_cases (faults : Faults) (count : Nat) (r : LineReader) (p : Progress σ) :
    let plain := drain hs cursor true count r p
    let lines := drained hs cursor true count r p
    (∃ pause, plain.1 = .ok pause ∧
        drainThrough hs cursor faults count r p = (some pause, plain.2.1, plain.2.2, lines)) ∨
      ∃ r' front, front <+: lines ∧ drainThrough hs cursor faults count r p =
        (none, r', front.foldl (Progress.performLine hs cursor) p, front) := by
  induction count generalizing r p with
  | zero => exact .inl ⟨.busy, rfl, rfl⟩
  | succ count ih =>
      unfold drainThrough drain drained
      cases hfault : faults.reading (count + 1) with
      | true => exact .inr ⟨r, [], List.nil_prefix, rfl⟩
      | false =>
          simp only [Bool.not_true, Bool.false_eq_true, if_false]
          cases hread : r.read p.surroundings.files with
          | error e => exact .inr ⟨r, [], List.nil_prefix, rfl⟩
          | ok next =>
              obtain ⟨line, r'⟩ := next
              by_cases hempty : line.isEmpty
              · simp only [hempty, if_true]
                exact .inl ⟨.idle, rfl, rfl⟩
              by_cases hlast : line.getLast? = some LineReader.lineFeed
              · simp only [hempty, hlast, ne_eq, not_true_eq_false, Bool.false_eq_true, if_false]
                rcases ih r' (p.performLine hs cursor line) with
                  ⟨pause, hpause, hdrain⟩ | ⟨r'', front, hfront, hdrain⟩
                · exact .inl ⟨pause, hpause, by rw [hdrain]⟩
                · refine .inr ⟨r'', line :: front, ?_, by rw [hdrain]; rfl⟩
                  exact (List.prefix_cons_inj line).mpr hfront
              · simp only [hempty, hlast, ne_eq, not_false_eq_true, Bool.false_eq_true, if_false,
                  if_true]
                cases faults.rewinding with
                | true => exact .inr ⟨r', [], List.nil_prefix, rfl⟩
                | false => exact .inl ⟨.partialLine, rfl, rfl⟩

/-- A poll that notices nothing does all that it would do without failures, or it breaks off behind
the first of its lines. -/
theorem pollThrough_cases (faults : Faults) {p : Poller} {s : Surroundings σ} {info : Metadata}
    (hinfo : s.files.metadata p.path = .ok info)
    (hnotice : p.notice info s = ({ p with inode? := some info.inode }, s)) :
    let plain := p.poll hs true s
    let lines := p.handed hs true s
    (∃ pause, plain.1 = .ok pause ∧
        p.pollThrough hs faults s = (some pause, plain.2.1, plain.2.2, lines)) ∨
      ∃ q front, front <+: lines ∧ q.offset = p.offset + front.flatten.length ∧
        p.pollThrough hs faults s = (none, q,
          (front.foldl (Progress.performLine hs p.cursorPath) ⟨p.offset, s⟩).surroundings,
          front) := by
  unfold pollThrough poll handed
  simp only [hinfo, hnotice]
  cases faults.metadata with
  | true => exact .inr ⟨p, [], List.nil_prefix, rfl, rfl⟩
  | false =>
      simp only [Bool.false_eq_true, if_false]
      by_cases hopening : (p.reader?.isNone && faults.opening) = true
      · simp only [hopening, if_true]
        exact .inr ⟨{ p with inode? := some info.inode }, [], List.nil_prefix, rfl, rfl⟩
      simp only [hopening, Bool.false_eq_true, if_false]
      cases reader { p with inode? := some info.inode } s.files with
      | error e =>
          exact .inr ⟨{ p with inode? := some info.inode }, [], List.nil_prefix, rfl, rfl⟩
      | ok r =>
          rcases drainThrough_cases hs p.cursorPath faults maxLinesPerPoll r ⟨p.offset, s⟩ with
            ⟨pause, hpause, hdrain⟩ | ⟨r', front, hfront, hdrain⟩
          · exact .inl ⟨pause, hpause, by simp only [hdrain]⟩
          · simp only [hdrain]
            exact .inr ⟨_, front, hfront,
              Progress.foldl_performLine_offset hs p.cursorPath ⟨p.offset, s⟩ front, rfl⟩

end Poller

end DebugDashboard
