import DebugDashboard.Proofs.Tail.Accounting

/-!
# Whole lines and fragments

A poller that begins where a line begins hands on whole lines only. If there is a cursor file but no
offset can be had from it, the poller begins at the end of the log, which may be in the middle of a
line: when that line is completed, its end is handed on as if it were a line. All that follows are
whole lines again.
-/

namespace DebugDashboard

/-! ## Where lines begin -/

namespace Log

open LineReader (lineFeed)

variable {bytes line : List UInt8} {start : Nat} {before after : List (List UInt8)}

/-- A line can begin here: the byte before, if there is one, is a line feed. -/
def LineStart (bytes : List UInt8) (offset : Nat) : Prop :=
  ∀ b ∈ (bytes.take offset).getLast?, b = lineFeed

theorem lineStart_zero (bytes : List UInt8) : LineStart bytes 0 := by
  intro b hb
  cases hb

/-- Bytes that are added begin no line before them. -/
theorem lineStart_append (hstart : start ≤ bytes.length) (more : List UInt8) :
    LineStart (bytes ++ more) start ↔ LineStart bytes start := by
  rw [LineStart, LineStart, List.take_append_of_le_length hstart]

theorem flatten_isPrefix {done : List (List UInt8)} (hdone : done <+: lines bytes) :
    done.flatten <+: bytes := by
  rw [List.prefix_iff_eq_take.mp hdone]
  exact flatten_take_isPrefix bytes _

section Split

variable (h : before ++ line :: after <+: lines (bytes.drop start))

include h

/-- A line that was handed on stands behind those that were handed on before it. -/
theorem stands_of_split : line <+: bytes.drop (start + before.flatten.length) := by
  have hall := flatten_isPrefix h
  rw [List.flatten_append, List.flatten_cons, ← List.append_assoc] at hall
  obtain ⟨rest, hrest⟩ := (List.prefix_append _ after.flatten).trans hall
  rw [← List.drop_drop, ← hrest, List.append_assoc, List.drop_left]
  exact List.prefix_append _ _

theorem complete_of_split : Complete line :=
  exists_of_mem_lines (h.subset (List.mem_append_right _ List.mem_cons_self))

/-- Every line but the first one that was handed on is behind another one. -/
theorem lineStart_of_split (hne : before ≠ []) :
    LineStart bytes (start + before.flatten.length) := by
  obtain ⟨front, last, rfl⟩ := (List.eq_nil_or_concat before).resolve_left hne
  rw [List.concat_eq_append] at h ⊢
  -- the line before ends with a line feed
  have hlast : last ∈ lines (bytes.drop start) := h.subset (by simp)
  obtain ⟨text, rfl, -⟩ := exists_of_mem_lines hlast
  have hbefore : (front ++ [text ++ [lineFeed]]).flatten <+: bytes.drop start := by
    have hall := flatten_isPrefix h
    rw [List.flatten_append] at hall
    exact (List.prefix_append _ _).trans hall
  intro b hb
  rw [List.take_add, ← List.prefix_iff_eq_take.mp hbefore] at hb
  simpa using hb.symm

end Split

/-- A whole line: it begins where a line begins, and ends with its only line feed. -/
structure WholeAt (bytes line : List UInt8) (offset : Nat) : Prop where
  stands : line <+: bytes.drop offset
  begins : LineStart bytes offset
  complete : Complete line

end Log

/-- Where one goes on lies within the log. -/
theorem CursorFile.resumeOffset_le (fs : FileSystem) (cursor : Path) (length : Nat) :
    resumeOffset fs cursor length ≤ length := by
  unfold resumeOffset
  split
  · split
    next hle => exact hle
    next => exact Nat.zero_le _
  · exact Nat.zero_le _
  · exact Nat.le_refl _

/-- Without a saved offset, one goes on at the start if there is no cursor file, else at the end. -/
theorem CursorFile.resumeOffset_of_unsaved {fs : FileSystem} {cursor : Path}
    (hload : ∀ n, load fs cursor ≠ .ok n) (length : Nat) :
    load fs cursor = .error (.missing cursor) ∧ resumeOffset fs cursor length = 0 ∨
      load fs cursor ≠ .error (.missing cursor) ∧ resumeOffset fs cursor length = length := by
  cases hresult : load fs cursor with
  | ok n => exact absurd hresult (hload n)
  | error e =>
      cases e with
      | missing file =>
          have hfile : file = cursor := by
            unfold load at hresult
            split at hresult
            · split at hresult <;> cases hresult
            · cases hresult
              rfl
            · cases hresult
          rw [hfile] at hresult ⊢
          exact .inl ⟨rfl, by rw [resumeOffset, hresult]⟩
      | corrupt contents => exact .inr ⟨by simp, by rw [resumeOffset, hresult]⟩
      | io => exact .inr ⟨by simp, by rw [resumeOffset, hresult]⟩

variable {σ : Type}

/-- The poller of a start begins at the offset that the start answers, and has read nothing. -/
theorem Follower.start_opened {f f' : Follower σ} {s s' : Surroundings σ} {offset inode : Nat}
    {content : List UInt8} (hstart : f.start s = (.ok offset, f', s'))
    (hlog : s'.files.Shows f.path inode content) :
    offset = CursorFile.resumeOffset s'.files f.cursorPath content.length ∧
      f' = { f with
        running := true
        poller? := some (f.opened s'.files content.length) } := by
  unfold start at hstart
  split at hstart
  · cases hstart
  · dsimp only at hstart
    split at hstart
    · cases hstart
    next info hinfo =>
      cases hstart
      obtain ⟨modified, hmetadata⟩ := hlog.metadata
      obtain rfl := Except.ok.inj (hinfo.symm.trans hmetadata)
      exact ⟨rfl, rfl⟩

namespace Watch

/-! ## What each event leaves -/

/-- The lines handed on are the first ones from `start` on, and the poller, if there is one, is
behind them. -/
structure GoesOnFrom (w : Watch σ) (start : Nat) (log cursor : Path) (inode : Nat)
    (bytes : List UInt8) : Prop where
  path : w.follower.path = log
  keeps : CursorFile.KeepsLog w.around.files cursor log inode bytes
  start_le : start ≤ bytes.length
  first : w.handed <+: Log.lines (bytes.drop start)
  poller : ∀ p, w.follower.poller? = some p →
    w.follower.running = true ∧ p.FollowsFrom start log cursor inode bytes w.handed

namespace GoesOnFrom

variable {w : Watch σ} {start : Nat} {log cursor : Path} {inode : Nat} {bytes : List UInt8}

theorem append (h : w.GoesOnFrom start log cursor inode bytes) (more : List UInt8) :
    (w.step (.append more)).GoesOnFrom start log cursor inode (bytes ++ more) := by
  obtain ⟨files, happend, -, hkeeps⟩ := h.keeps.append more
  rw [← h.path] at happend
  rw [Watch.step, happend]
  exact {
    path := h.path
    keeps := hkeeps
    start_le := by
      rw [List.length_append]
      exact Nat.le_add_right_of_le h.start_le
    first := by
      rw [List.drop_append_of_le_length h.start_le]
      exact h.first.trans (Log.lines_prefix_append _ more)
    poller := by
      intro p hp
      obtain ⟨hrunning, hfollows⟩ := h.poller p hp
      exact ⟨hrunning, hfollows.append more⟩ }

theorem poll (h : w.GoesOnFrom start log cursor inode bytes) :
    (w.step .poll).GoesOnFrom start log cursor inode bytes := by
  cases hp : w.follower.poller? with
  | none => simpa [Watch.step, Follower.poll, hp] using h
  | some p =>
      obtain ⟨hrunning, hfollows⟩ := h.poller p hp
      obtain ⟨hhanded, pause, p', hpoll, hnext, -⟩ := hfollows.poll w.follower.handlers h.keeps
      simp only [Watch.step, Follower.poll, hp, hrunning, hhanded, hpoll]
      exact {
        path := h.path
        keeps := Progress.foldl_performLine_files
          (I := (CursorFile.KeepsLog · cursor log inode bytes)) w.follower.handlers cursor
          ⟨p.offset, w.around⟩ _ (fun _ n hkeeps => hkeeps.save n) h.keeps
        start_le := h.start_le
        first := hnext.first
        poller := by
          intro q hq
          cases hq
          exact ⟨rfl, hnext⟩ }

theorem stop (h : w.GoesOnFrom start log cursor inode bytes) :
    (w.step .stop).GoesOnFrom start log cursor inode bytes :=
  { h with poller := fun p hp => by cases hp }

theorem step (h : w.GoesOnFrom start log cursor inode bytes) {event : Event}
    (hevent : event ≠ .start) :
    (w.step event).GoesOnFrom start log cursor inode (bytes ++ event.appended) := by
  cases event with
  | append more => exact h.append more
  | poll =>
      rw [Event.appended, List.append_nil]
      exact h.poll
  | stop =>
      rw [Event.appended, List.append_nil]
      exact h.stop
  | start => exact absurd rfl hevent

/-- Until the next start, whatever is added to the log and however often it is polled. -/
theorem run (h : w.GoesOnFrom start log cursor inode bytes) {events : List Event}
    (hevents : .start ∉ events) :
    (w.run events).GoesOnFrom start log cursor inode (bytes ++ events.flatMap Event.appended) := by
  induction events generalizing w bytes with
  | nil => simpa [Watch.run] using h
  | cons event rest ih =>
      obtain ⟨hevent, hrest⟩ := not_or.mp (mt List.mem_cons.mpr hevents)
      rw [List.flatMap_cons, ← List.append_assoc]
      exact ih (h.step (Ne.symm hevent)) hrest

end GoesOnFrom

/-- What an event hands on is accounted for. -/
theorem step_accounts (w : Watch σ) (event : Event) :
    ∃ lines, (w.step event).handed = w.handed ++ lines ∧
      (w.step event).follower.handlers = w.follower.handlers ∧
      w.follower.handlers.Accounts lines w.around (w.step event).around := by
  cases event with
  | append more =>
      refine ⟨[], ?_⟩
      rw [List.append_nil, step]
      split
      · exact ⟨rfl, rfl, rfl, rfl, rfl, [], rfl, rfl⟩
      · exact ⟨rfl, rfl, .refl⟩
  | poll =>
      refine ⟨_, rfl, ?_⟩
      rw [step]
      cases hp : w.follower.poller? with
      | none =>
          simp only [Follower.poll, hp]
          exact ⟨trivial, .refl⟩
      | some p =>
          simp only [Follower.poll, hp]
          exact ⟨trivial, p.poll_accounts _ _ _⟩
  | stop => exact ⟨[], (List.append_nil _).symm, rfl, .refl⟩
  | start =>
      exact ⟨[], (List.append_nil _).symm, w.follower.start_handlers w.around,
        w.follower.start_accounts w.around _⟩

theorem run_accounts (w : Watch σ) (events : List Event) :
    ∃ lines, (w.run events).handed = w.handed ++ lines ∧
      w.follower.handlers.Accounts lines w.around (w.run events).around := by
  induction events generalizing w with
  | nil => exact ⟨[], (List.append_nil _).symm, .refl⟩
  | cons event rest ih =>
      obtain ⟨lines, hlines, hhandlers, haccounts⟩ := w.step_accounts event
      obtain ⟨more, hmore, haccounts'⟩ := ih (w.step event)
      rw [hhandlers] at haccounts'
      rw [hlines, List.append_assoc] at hmore
      exact ⟨lines ++ more, hmore, haccounts.trans haccounts'⟩

/-! ## A start without a saved offset -/

theorem started {f f' : Follower σ} {s s' : Surroundings σ} {offset inode : Nat}
    {content : List UInt8} (hstart : f.start s = (.ok offset, f', s'))
    (hkeeps : CursorFile.KeepsLog s'.files f.cursorPath f.path inode content) :
    GoesOnFrom ⟨f', s', []⟩ offset f.path f.cursorPath inode content := by
  obtain ⟨hoffset, rfl⟩ := Follower.start_opened hstart hkeeps.shows
  have hle : offset ≤ content.length := by
    rw [hoffset]
    exact CursorFile.resumeOffset_le _ _ _
  exact {
    path := rfl
    keeps := hkeeps
    start_le := hle
    first := List.nil_prefix
    poller := by
      intro p hp
      cases hp
      exact ⟨rfl, {
        path := rfl
        cursorPath := rfl
        start_le := hle
        first := List.nil_prefix
        offset := hoffset.symm
        file := .inl rfl
        reader := fun r hr => by cases hr }⟩ }

open CursorFile (load) in
/-- After a start that found no offset in the cursor file, each line that is handed on stands behind
those handed on before, and all but the first of them are whole lines. The first one is, unless the
log ended with a fragment at the start and there was a cursor file, so that the end of the log was
taken for the beginning of a line. -/
theorem started_wholeLines_iff {f f' : Follower σ} {s s' : Surroundings σ} {offset inode : Nat}
    {content : List UInt8} (hstart : f.start s = (.ok offset, f', s'))
    (hkeeps : CursorFile.KeepsLog s'.files f.cursorPath f.path inode content)
    (hload : ∀ n, load s'.files f.cursorPath ≠ .ok n) {events : List Event}
    (hevents : .start ∉ events) :
    let w : Watch σ := run ⟨f', s', []⟩ events
    let bytes := content ++ events.flatMap Event.appended
    f.handlers.Accounts w.handed s' w.around ∧
      (∀ before line after, w.handed = before ++ line :: after →
        line <+: bytes.drop (offset + before.flatten.length) ∧ Log.Complete line ∧
          (before ≠ [] → Log.LineStart bytes (offset + before.flatten.length))) ∧
      ((∀ before line after, w.handed = before ++ line :: after →
          Log.WholeAt bytes line (offset + before.flatten.length)) ↔
        w.handed = [] ∨ load s'.files f.cursorPath = .error (.missing f.cursorPath) ∨
          Log.LineStart content content.length) := by
  intro w bytes
  have hbegun := started hstart hkeeps
  have hfirst : w.handed <+: Log.lines (bytes.drop offset) := (hbegun.run hevents).first
  obtain ⟨hoffset, hf'⟩ := Follower.start_opened hstart hkeeps.shows
  obtain ⟨lines, hlines, haccounts⟩ := run_accounts (⟨f', s', []⟩ : Watch σ) events
  have hbegins : Log.LineStart bytes offset ↔
      load s'.files f.cursorPath = .error (.missing f.cursorPath) ∨
        Log.LineStart content content.length := by
    rcases CursorFile.resumeOffset_of_unsaved hload content.length with
      ⟨hmissing, hresume⟩ | ⟨hthere, hresume⟩
    · rw [hoffset, hresume]
      exact ⟨fun _ => .inl hmissing, fun _ => Log.lineStart_zero bytes⟩
    · rw [hoffset, hresume, Log.lineStart_append (Nat.le_refl _), or_iff_right hthere]
  refine ⟨?_, ?_, ?_⟩
  · have hhanded : w.handed = lines := hlines
    have hhandlers : f'.handlers = f.handlers := by rw [hf']
    rw [hhanded, ← hhandlers]
    exact haccounts
  · intro before line after hsplit
    rw [hsplit] at hfirst
    exact ⟨Log.stands_of_split hfirst, Log.complete_of_split hfirst, Log.lineStart_of_split hfirst⟩
  · rw [← hbegins]
    constructor
    · intro hwhole
      cases hhanded : w.handed with
      | nil => exact .inl rfl
      | cons line rest => exact .inr (hwhole [] line rest hhanded).begins
    · intro hcase before line after hsplit
      have hsome : w.handed ≠ [] := by
        rw [hsplit]
        exact List.append_ne_nil_of_right_ne_nil _ (List.cons_ne_nil _ _)
      have hstarts := hcase.resolve_left hsome
      rw [hsplit] at hfirst
      refine ⟨Log.stands_of_split hfirst, ?_, Log.complete_of_split hfirst⟩
      by_cases hbefore : before = []
      · rw [hbefore]
        exact hstarts
      · exact Log.lineStart_of_split hfirst hbefore

/-! ### A log that ends with a fragment -/

/-- A log of the given bytes beside a cursor file in which there is no number. -/
def unreadable (content : List UInt8) : Surroundings Unit :=
  ⟨CursorFile.logBeside 1 content [120], {}, ()⟩

def tail : Follower Unit := { path := ⟨"/log"⟩, cursorPath := ⟨"/cursor"⟩ }

/-- The tail after a start beside the unreadable cursor file, and two bytes that end a line. -/
def completed (content : List UInt8) : Watch Unit :=
  run ⟨(tail.start (unreadable content)).2.1, (tail.start (unreadable content)).2.2, []⟩
    [.append [98, 10], .poll]

theorem load_unreadable (n : Nat) :
    CursorFile.load (unreadable [97, 10]).files ⟨"/cursor"⟩ ≠ .ok n := by
  intro h
  have hnone : (CursorFile.load (unreadable [97, 10]).files ⟨"/cursor"⟩).toOption = none := by
    decide +kernel
  rw [h] at hnone
  cases hnone

/-- Behind a line the two bytes are a line, and behind a fragment they are handed on as well. -/
theorem started_wholeLines_fragment :
    (∀ n, CursorFile.load (unreadable [97, 10]).files ⟨"/cursor"⟩ ≠ .ok n) ∧
      (completed [97, 10]).handed = [[98, 10]] ∧ Log.WholeAt [97, 10, 98, 10] [98, 10] 2 ∧
      (completed [97]).handed = [[98, 10]] ∧ ¬ Log.WholeAt [97, 98, 10] [98, 10] 1 := by
  have hline : (completed [97, 10]).handed = [[98, 10]] := by decide +kernel
  have hfragment : (completed [97]).handed = [[98, 10]] := by decide +kernel
  have hlog := CursorFile.logBeside_savable [97, 10] [120] (.inl rfl)
  have hoffset : (tail.opened (unreadable [97, 10]).files 2).offset = 2 := by decide +kernel
  have hstart : tail.start (unreadable [97, 10]) = (.ok 2,
      (tail.start (unreadable [97, 10])).2.1, (tail.start (unreadable [97, 10])).2.2) := by
    rw [Follower.start_eq (f := tail) (s := unreadable [97, 10]) hlog.shows]
    exact congrArg (fun n => (Except.ok n, _)) hoffset
  have hquiet : .start ∉ ([.append [98, 10], .poll] : List Event) := by decide
  obtain ⟨-, -, hwhole⟩ := started_wholeLines_iff hstart hlog.keepsLog load_unreadable hquiet
  have hends : Log.LineStart [97, 10] 2 := by
    intro b hb
    exact (Option.some.inj hb).symm
  have hstands := hwhole.mpr (.inr (.inr hends)) [] [98, 10] [] hline
  refine ⟨load_unreadable, hline, hstands, hfragment, ?_⟩
  intro h
  exact absurd (h.begins 97 rfl) (by decide)

end Watch

end DebugDashboard
