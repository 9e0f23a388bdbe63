import DebugDashboard.Proofs.Tail.Accounts
import DebugDashboard.Proofs.Tail.Growth
import DebugDashboard.Proofs.Tail.Start

/-!
# Exactly once, across restarts

A log grows while pollers are made, polled and dropped in any order. Together they hand on each
complete line once and in order: the cursor file, the poller and its reader always agree on the
first line that has not been handed on. What is handed on is what is counted, and what the handlers
are called for.
-/

namespace DebugDashboard

variable {σ : Type}

/-- A follower in its surroundings, and the lines that all its pollers have handed on so far. -/
structure Watch (σ : Type) where
  follower : Follower σ
  around : Surroundings σ
  handed : List (List UInt8) := []

/-- What can happen while a log grows. -/
inductive Event where
  | append (bytes : List UInt8)
  | poll
  | stop
  /-- A new poller goes on at the saved offset. -/
  | start
  deriving Repr, DecidableEq

/-- The bytes that an event adds to the log. -/
def Event.appended : Event → List UInt8
  | .append bytes => bytes
  | .poll | .stop | .start => []

namespace Watch

/-- The watch after an event. -/
def step (w : Watch σ) : Event → Watch σ
  | .append bytes => match w.around.files.append w.follower.path bytes with
    | .ok files => { w with around := { w.around with files := files } }
    | .error _ => w
  | .poll =>
    let lines := match w.follower.poller? with
      | some p => p.handed w.follower.handlers w.follower.running w.around
      | none => []
    let (_, follower, around) := w.follower.poll w.around
    ⟨follower, around, w.handed ++ lines⟩
  | .stop => { w with follower := w.follower.stop }
  | .start =>
    let (_, follower, around) := w.follower.start w.around
    { w with follower := follower, around := around }

/-- The watch after some events. -/
def run (w : Watch σ) (events : List Event) : Watch σ := events.foldl step w

/-- One watch has come from another by handing on complete lines, all of which are accounted for. -/
structure Continues (w w' : Watch σ) (lines : List (List UInt8)) : Prop where
  handlers : w'.follower.handlers = w.follower.handlers
  handed : w'.handed = w.handed ++ lines
  complete : ∀ line ∈ lines, Log.Complete line
  accounts : w.follower.handlers.Accounts lines w.around w'.around

theorem Continues.trans {w w' w'' : Watch σ} {lines more : List (List UInt8)}
    (h : w.Continues w' lines) (h' : w'.Continues w'' more) :
    w.Continues w'' (lines ++ more) where
  handlers := h'.handlers.trans h.handlers
  handed := by rw [h'.handed, h.handed, List.append_assoc]
  complete := List.forall_mem_append.mpr ⟨h.complete, h'.complete⟩
  accounts := h.accounts.trans (h.handlers ▸ h'.accounts)

/-- Where no line is handed on, no handler may have been called. -/
theorem Continues.of_accounts {w w' : Watch σ}
    (hhandlers : w'.follower.handlers = w.follower.handlers) (hhanded : w'.handed = w.handed)
    (haccounts : w.follower.handlers.Accounts [] w.around w'.around) : w.Continues w' [] where
  handlers := hhandlers
  handed := by rw [hhanded, List.append_nil]
  complete _ hline := absurd hline List.not_mem_nil
  accounts := haccounts

theorem step_continues (w : Watch σ) (event : Event) :
    ∃ lines, w.Continues (w.step event) lines := by
  cases event with
  | append bytes =>
      simp only [step]
      cases w.around.files.append w.follower.path bytes with
      | ok files => exact ⟨[], .of_accounts rfl rfl ⟨rfl, rfl, rfl, [], rfl, rfl⟩⟩
      | error e => exact ⟨[], .of_accounts rfl rfl .refl⟩
  | poll =>
      simp only [step, Follower.poll]
      cases w.follower.poller? with
      | none => exact ⟨[], .of_accounts rfl (List.append_nil _) .refl⟩
      | some p =>
          exact ⟨_, rfl, rfl, fun line => Poller.complete_of_mem_handed, p.poll_accounts ..⟩
  | stop => exact ⟨[], .of_accounts rfl rfl .refl⟩
  | start =>
      exact ⟨[], .of_accounts (w.follower.start_handlers w.around) rfl
        (w.follower.start_accounts w.around _)⟩

theorem run_continues (w : Watch σ) (events : List Event) :
    ∃ lines, w.Continues (w.run events) lines := by
  induction events generalizing w with
  | nil => exact ⟨[], .of_accounts rfl rfl .refl⟩
  | cons event rest ih =>
      obtain ⟨lines, hstep⟩ := w.step_continues event
      obtain ⟨more, hrest⟩ := ih (w.step event)
      exact ⟨lines ++ more, hstep.trans hrest⟩

/-- The lines that were handed on are the first lines of the log. Behind them is the offset of the
poller, and there the next poller will go on. A poll succeeds and takes the next 1024 lines, and
unless it is busy no line is left. -/
structure ExactlyOnce (w : Watch σ) (bytes : List UInt8) : Prop where
  log : w.around.files.read w.follower.path = .ok bytes
  handed : w.handed <+: Log.lines bytes
  saved : CursorFile.resumeOffset w.around.files w.follower.cursorPath bytes.length =
    w.handed.flatten.length
  offset : ∀ p ∈ w.follower.poller?, p.offset = w.handed.flatten.length
  poll : ∀ p ∈ w.follower.poller?, ∃ pause p',
    (w.follower.poll w.around).1 = some (.ok pause, p') ∧
      (w.step .poll).handed = (Log.lines bytes).take (w.handed.length + maxLinesPerPoll) ∧
      (pause = .idle ∨ pause = .partialLine → (w.step .poll).handed = Log.lines bytes)

/-- The log, the cursor file, and the poller if there is one, agree on the lines handed on. -/
structure Agrees (w : Watch σ) (log cursor : Path) (inode : Nat) (bytes : List UInt8) : Prop where
  path : w.follower.path = log
  cursorPath : w.follower.cursorPath = cursor
  savable : CursorFile.Savable w.around.files cursor log inode bytes
  first : w.handed <+: Log.lines bytes
  resume : ∀ length, w.handed.flatten.length ≤ length →
    CursorFile.resumeOffset w.around.files cursor length = w.handed.flatten.length
  poller : ∀ p, w.follower.poller? = some p →
    w.follower.running = true ∧ p.Follows log cursor inode bytes w.handed

namespace Agrees

variable {w : Watch σ} {log cursor : Path} {inode : Nat} {bytes : List UInt8}

theorem append (h : w.Agrees log cursor inode bytes) (more : List UInt8) :
    (w.step (.append more)).Agrees log cursor inode (bytes ++ more) := by
  obtain ⟨files, happend, hsavable, hload⟩ := h.savable.append more
  rw [← h.path] at happend
  rw [step, happend]
  exact { h with
    savable := hsavable
    first := h.first.trans (Log.lines_prefix_append bytes more)
    resume := fun length hlength => by
      rw [CursorFile.resumeOffset, hload]
      exact h.resume length hlength
    poller := fun p hp => ⟨(h.poller p hp).1, (h.poller p hp).2.append more⟩ }

theorem stop (h : w.Agrees log cursor inode bytes) :
    (w.step .stop).Agrees log cursor inode bytes :=
  { h with poller := fun p hp => by cases hp }

/-- The new poller goes on behind the lines that the earlier ones have handed on. -/
theorem start (h : w.Agrees log cursor inode bytes) :
    (w.step .start).Agrees log cursor inode bytes := by
  obtain ⟨rfl, rfl⟩ := And.intro h.path h.cursorPath
  have hstart := Follower.start_eq (f := w.follower) h.savable.shows
  rw [step, hstart]
  exact { h with
    poller := fun p hp => by
      cases hp
      exact ⟨rfl, {
        path := rfl
        cursorPath := rfl
        first := h.first
        offset := h.resume _ (Log.length_flatten_le h.first)
        file := .inl rfl
        reader := fun r hr => by cases hr }⟩ }

/-- After lines were handed on, the offset behind them is saved. -/
theorem resume_of_lines {p : Progress σ} {hs : Handlers σ} {lines : List (List UInt8)}
    (hsavable : CursorFile.Savable p.surroundings.files cursor log inode bytes)
    (hlines : lines ≠ []) (hlimit : p.offset + lines.flatten.length < Word.limit) {length : Nat}
    (hlength : p.offset + lines.flatten.length ≤ length) :
    CursorFile.resumeOffset (lines.foldl (Progress.performLine hs cursor) p).surroundings.files
      cursor length = p.offset + lines.flatten.length := by
  obtain ⟨files, hfiles, hsaved⟩ :=
    Progress.foldl_performLine_saved (I := (CursorFile.Savable · cursor log inode bytes)) hs cursor
      p lines (fun _ n h => h.save n) hsavable hlines
  rw [CursorFile.resumeOffset, hsaved, hfiles.load_save hlimit]
  exact if_pos hlength

/-- Once the poller has handed on more lines, the next one goes on behind them. -/
theorem after_lines (h : w.Agrees log cursor inode bytes) (hlimit : bytes.length < Word.limit)
    {p : Poller} (hp : w.follower.poller? = some p) (hs : Handlers σ) {lines : List (List UInt8)}
    (hfirst : w.handed ++ lines <+: Log.lines bytes) :
    let next := lines.foldl (Progress.performLine hs cursor) ⟨p.offset, w.around⟩
    let files := next.surroundings.files
    CursorFile.Savable files cursor log inode bytes ∧
      ∀ length, (w.handed ++ lines).flatten.length ≤ length →
        CursorFile.resumeOffset files cursor length = (w.handed ++ lines).flatten.length := by
  refine ⟨?_, fun length hlength => ?_⟩
  · exact Progress.foldl_performLine_files (I := (CursorFile.Savable · cursor log inode bytes)) hs
      cursor ⟨p.offset, w.around⟩ lines (fun _ n h => h.save n) h.savable
  -- without lines nothing is saved, and otherwise the offset behind the last line
  by_cases hnone : lines = []
  · subst hnone
    rw [List.append_nil] at hlength ⊢
    exact h.resume length hlength
  · have hbytes := Log.length_flatten_le hfirst
    rw [List.flatten_append, List.length_append, ← (h.poller p hp).2.offset] at hbytes hlength ⊢
    exact resume_of_lines (p := ⟨p.offset, w.around⟩) h.savable hnone
      (Nat.lt_of_le_of_lt hbytes hlimit) hlength

theorem poll (h : w.Agrees log cursor inode bytes) (hlimit : bytes.length < Word.limit) :
    (w.step .poll).Agrees log cursor inode bytes := by
  cases hp : w.follower.poller? with
  | none => simpa [step, Follower.poll, hp] using h
  | some p =>
      obtain ⟨hrunning, hfollows⟩ := h.poller p hp
      obtain ⟨hhanded, pause, p', hpoll, hnext, -⟩ :=
        hfollows.poll w.follower.handlers h.savable.keepsLog
      simp only [step, Follower.poll, hp, hrunning, hhanded, hpoll]
      generalize (Log.lines (bytes.drop p.offset)).take maxLinesPerPoll = lines at *
      obtain ⟨hsavable, hresume⟩ := h.after_lines hlimit hp w.follower.handlers hnext.first
      exact {
        path := h.path
        cursorPath := h.cursorPath
        savable := hsavable
        first := hnext.first
        resume := hresume
        poller := fun q hq => by cases hq; exact ⟨rfl, hnext⟩ }

theorem step (h : w.Agrees log cursor inode bytes) (event : Event)
    (hlimit : (bytes ++ event.appended).length < Word.limit) :
    (w.step event).Agrees log cursor inode (bytes ++ event.appended) := by
  cases event with
  | append more => exact h.append more
  | poll =>
      simp only [Event.appended, List.append_nil] at hlimit ⊢
      exact h.poll hlimit
  | stop =>
      simp only [Event.appended, List.append_nil]
      exact h.stop
  | start =>
      simp only [Event.appended, List.append_nil]
      exact h.start

theorem run (h : w.Agrees log cursor inode bytes) (events : List Event)
    (hlimit : (bytes ++ events.flatMap Event.appended).length < Word.limit) :
    (w.run events).Agrees log cursor inode (bytes ++ events.flatMap Event.appended) := by
  induction events generalizing w bytes with
  | nil => simpa [Watch.run] using h
  | cons event rest ih =>
      rw [List.flatMap_cons, ← List.append_assoc] at hlimit ⊢
      refine ih (h.step event (Nat.lt_of_le_of_lt ?_ hlimit)) hlimit
      exact (List.prefix_append _ _).length_le

theorem exactlyOnce (h : w.Agrees log cursor inode bytes) : w.ExactlyOnce bytes where
  log := by
    rw [h.path]
    exact h.savable.shows.read
  handed := h.first
  saved := by
    rw [h.cursorPath]
    exact h.resume _ (Log.length_flatten_le h.first)
  offset p hp := (h.poller p hp).2.offset
  poll p hp := by
    obtain ⟨hrunning, hfollows⟩ := h.poller p hp
    obtain ⟨hhanded, pause, p', hpoll, hnext, hall⟩ :=
      hfollows.poll w.follower.handlers h.savable.keepsLog
    have hp : w.follower.poller? = some p := hp
    refine ⟨pause, p', by simp only [Follower.poll, hp, hrunning, hpoll], ?_, ?_⟩
    · simp only [Watch.step, hp, hrunning, hhanded]
      rw [Log.lines_eq_append h.first, List.take_length_add_append, hfollows.offset]
    · simpa only [Watch.step, hp, hrunning, hhanded] using hall

end Agrees

/-- Whatever is added to the log and in whatever order pollers are polled, dropped and made, each
complete line is handed on once and in order. The lines handed on are those that were counted, each
as what it is, and those among them that are dispatched went to their handlers, once and in
order. -/
theorem run_exactlyOnce {w : Watch σ} {inode : Nat} {content : List UInt8}
    (hlog : w.around.files.Shows w.follower.path inode content)
    (hapart : CursorFile.Apart w.around.files w.follower.cursorPath w.follower.path inode)
    (hmissing : CursorFile.load w.around.files w.follower.cursorPath =
      .error (.missing w.follower.cursorPath))
    (hclosed : w.follower.poller? = none) (hnone : w.handed = []) (events : List Event)
    (hlimit : (content ++ events.flatMap Event.appended).length < Word.limit) :
    (w.run events).ExactlyOnce (content ++ events.flatMap Event.appended) ∧
      w.follower.handlers.Accounts (w.run events).handed w.around (w.run events).around := by
  have hbegin : w.Agrees w.follower.path w.follower.cursorPath inode content := {
    path := rfl
    cursorPath := rfl
    savable := ⟨hapart, hlog.bytes, CursorFile.plain_of_missing hmissing⟩
    first := by
      rw [hnone]
      exact List.nil_prefix
    resume := fun length _ => by
      rw [CursorFile.resumeOffset, hmissing, hnone]
      rfl
    poller := fun p hp => by
      rw [hclosed] at hp
      cases hp }
  obtain ⟨lines, hlines⟩ := w.run_continues events
  have hhanded : (w.run events).handed = lines := by rw [hlines.handed, hnone, List.nil_append]
  exact ⟨(hbegin.run events hlimit).exactlyOnce, hhanded ▸ hlines.accounts⟩

/-- A log with a line and a fragment, beside which nothing has been saved. -/
def beginning : Watch Unit where
  follower := { path := ⟨"/log"⟩, cursorPath := ⟨"/cursor"⟩ }
  around := {
    files := ⟨[(["log"], .file 1)], #[⟨[], .change 0⟩, ⟨[97, 10, 98], .change 1⟩], 2, []⟩
    stats := {}
    observer := () }

theorem beginning_apart :
    CursorFile.Apart beginning.around.files ⟨"/cursor"⟩ ⟨"/log"⟩ 1 :=
  ⟨["cursor"], ["cursor.tmp"], {
    cursor_free := rfl
    draft_free := rfl
    distinct := by decide
    log_found := rfl
    cursor_outside := by decide
    draft_outside := by decide
    cursor_other := by decide +kernel
    draft_other := .inl rfl }⟩

/-- The second line is completed while no poller is at work, and handed on by the second one. None
of the three holds a record. -/
theorem beginning_exactlyOnce :
    let events := [.start, .poll, .append [10, 99], .stop, .start, .poll, .append [10], .poll]
    let bytes := [97, 10, 98, 10, 99, 10]
    beginning.around.files.Shows ⟨"/log"⟩ 1 [97, 10, 98] ∧
      CursorFile.load beginning.around.files ⟨"/cursor"⟩ = .error (.missing ⟨"/cursor"⟩) ∧
      (beginning.run events).ExactlyOnce bytes ∧
      (beginning.run events).handed = [[97, 10], [98, 10], [99, 10]] ∧
      (beginning.run events).around.stats.malformed = 3 := by
  intro events bytes
  have hlog : beginning.around.files.Shows ⟨"/log"⟩ 1 [97, 10, 98] := ⟨rfl, rfl⟩
  have hmissing : CursorFile.load beginning.around.files ⟨"/cursor"⟩ =
      .error (.missing ⟨"/cursor"⟩) := rfl
  obtain ⟨hexactly, haccounts⟩ :=
    run_exactlyOnce hlog beginning_apart hmissing rfl rfl events (by decide +kernel)
  have hhanded : (beginning.run events).handed = [[97, 10], [98, 10], [99, 10]] := by
    decide +kernel
  refine ⟨hlog, hmissing, hexactly, hhanded, haccounts.malformed.trans ?_⟩
  rw [hhanded]
  decide +kernel

end Watch

end DebugDashboard
