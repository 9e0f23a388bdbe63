import DebugDashboard.Proofs.Tail.Resumption

/-!
# Every line is accounted for

Whatever happens to the files, and however often pollers are made and dropped, each line that was
handed on is counted once unless it is blank, and its handler, if there is one, is called once. What
the handlers do, failing included, changes nothing but what they have in hand.
-/

namespace DebugDashboard

variable {σ : Type}

/-! ## Polls until there is something to wait for -/

namespace Poller

variable (hs : Handlers σ) (running : Bool) (p : Poller) (s : Surroundings σ)

/-- The lines that polls hand on until there is something to wait for. -/
def handedWithin : Nat → Poller → Surroundings σ → List (List UInt8)
  | 0, _, _ => []
  | polls + 1, p, s =>
    if !running then []
    else match p.poll hs running s with
      | (.ok .busy, p', s') => p.handed hs running s ++ handedWithin polls p' s'
      | _ => p.handed hs running s

theorem runWithin_accounts (polls : Nat) :
    hs.Accounts (handedWithin hs running polls p s) s (runWithin hs running polls p s).2 := by
  induction polls generalizing p s with
  | zero => exact .refl
  | succ polls ih =>
      have hpoll := p.poll_accounts hs running s
      unfold handedWithin runWithin
      split
      · exact .refl
      rcases hresult : p.poll hs running s with ⟨result, p', s'⟩
      rw [hresult] at hpoll
      cases result with
      | error e => exact hpoll.trans_nil ⟨rfl, rfl, rfl, [], rfl, rfl⟩
      | ok pause =>
          cases pause with
          | busy => exact hpoll.trans (ih p' s')
          | _ => exact hpoll

theorem complete_of_mem_handedWithin {hs : Handlers σ} {running : Bool} {polls : Nat} {p : Poller}
    {s : Surroundings σ} {line : List UInt8}
    (hline : line ∈ handedWithin hs running polls p s) : Log.Complete line := by
  induction polls generalizing p s with
  | zero => cases hline
  | succ polls ih =>
      unfold handedWithin at hline
      split at hline
      · cases hline
      split at hline
      · rcases List.mem_append.mp hline with hline | hline
        · exact complete_of_mem_handed hline
        · exact ih hline
      · exact complete_of_mem_handed hline

end Poller

/-! ## Handlers that do nothing -/

/-- Handlers for the same kinds that do nothing and never fail. -/
def Handlers.quiet (hs : Handlers σ) : Handlers Unit :=
  fun kind => (hs kind).map fun _ _ _ _ => ⟨(), false⟩

theorem Handlers.outcome_quiet (hs : Handlers σ) (line : List UInt8) :
    hs.quiet.outcome line = hs.outcome line := by
  unfold outcome quiet
  split <;> simp

/-- The surroundings without what the handlers have in hand. -/
def Surroundings.quiet (s : Surroundings σ) : Surroundings Unit := ⟨s.files, s.stats, ()⟩

def Progress.quiet (p : Progress σ) : Progress Unit := ⟨p.offset, p.surroundings.quiet⟩

theorem Surroundings.dispatch_quiet (hs : Handlers σ) (s : Surroundings σ) (line : List UInt8) :
    s.quiet.dispatch hs.quiet line = (s.dispatch hs line).quiet := by
  have hfiles : (s.quiet.dispatch hs.quiet line).files = (s.dispatch hs line).files := by
    rw [dispatch_files, dispatch_files]
    rfl
  have hstats : (s.quiet.dispatch hs.quiet line).stats = (s.dispatch hs line).stats := by
    rw [dispatch_stats, dispatch_stats, Handlers.outcome_quiet]
    rfl
  change _ = Surroundings.mk (s.dispatch hs line).files (s.dispatch hs line).stats ()
  rw [← hfiles, ← hstats]

theorem Progress.performLine_quiet (hs : Handlers σ) (cursor : Path) (p : Progress σ)
    (line : List UInt8) :
    p.quiet.performLine hs.quiet cursor line = (p.performLine hs cursor line).quiet := by
  simp only [performLine, Effect.ofLine, List.foldl_cons, List.foldl_nil, perform, quiet,
    Surroundings.dispatch_quiet]
  rfl

namespace Poller

variable (hs : Handlers σ) (running : Bool)

/-- A drain of handlers that do nothing reads the same lines and leaves the same behind. -/
theorem drain_quiet (cursor : Path) (count : Nat) (r : LineReader) (p : Progress σ) :
    let d := drain hs cursor running count r p
    drained hs.quiet cursor running count r p.quiet = drained hs cursor running count r p ∧
      drain hs.quiet cursor running count r p.quiet = (d.1, d.2.1, d.2.2.quiet) := by
  induction count generalizing r p with
  | zero => exact ⟨rfl, rfl⟩
  | succ count ih =>
      unfold drain drained
      simp only [Progress.performLine_quiet, ih]
      have hfiles : p.quiet.surroundings.files = p.surroundings.files := rfl
      rw [hfiles]
      by_cases hrunning : (!running) = true
      · simp only [if_pos hrunning, and_self]
      simp only [if_neg hrunning]
      cases r.read p.surroundings.files with
      | error e => simp only [and_self]
      | ok next =>
          obtain ⟨line, r'⟩ := next
          by_cases hempty : line.isEmpty = true
          · simp only [if_pos hempty, and_self]
          by_cases hlast : line.getLast? ≠ some LineReader.lineFeed
          · simp only [if_neg hempty, if_pos hlast]
            exact ⟨trivial, rfl⟩
          · simp only [if_neg hempty, if_neg hlast, and_self]

theorem notice_quiet (p : Poller) (info : Metadata) (s : Surroundings σ) :
    p.notice info s.quiet = ((p.notice info s).1, (p.notice info s).2.quiet) := by
  rw [notice_eq, notice_eq]
  split <;> rfl

theorem noticeMissing_quiet (p : Poller) (s : Surroundings σ) :
    p.noticeMissing s.quiet = ((p.noticeMissing s).1, (p.noticeMissing s).2.quiet) := by
  unfold noticeMissing
  split <;> rfl

/-- So does a poll, and it comes to the same result. -/
theorem poll_quiet (p : Poller) (s : Surroundings σ) :
    p.handed hs.quiet running s.quiet = p.handed hs running s ∧
      p.poll hs.quiet running s.quiet =
        ((p.poll hs running s).1, (p.poll hs running s).2.1, (p.poll hs running s).2.2.quiet) := by
  have hfiles : s.quiet.files = s.files := rfl
  unfold handed poll
  rw [hfiles]
  cases s.files.metadata p.path with
  | error e =>
      cases e with
      | notFound => simp only [noticeMissing_quiet, and_self]
      | _ => exact ⟨rfl, rfl⟩
  | ok info =>
      have hnoticed : (p.notice info s).2.quiet.files = (p.notice info s).2.files := rfl
      simp only [notice_quiet, hnoticed]
      cases (p.notice info s).1.reader (p.notice info s).2.files with
      | error e => exact ⟨rfl, rfl⟩
      | ok r =>
          obtain ⟨hdrained, hdrain⟩ := drain_quiet hs running (p.notice info s).1.cursorPath
            maxLinesPerPoll r ⟨(p.notice info s).1.offset, (p.notice info s).2⟩
          simp only [Progress.quiet] at hdrained hdrain
          simp only [hdrained, hdrain, and_self]

theorem runWithin_quiet (polls : Nat) (p : Poller) (s : Surroundings σ) :
    handedWithin hs.quiet running polls p s.quiet = handedWithin hs running polls p s ∧
      runWithin hs.quiet running polls p s.quiet =
        ((runWithin hs running polls p s).1, (runWithin hs running polls p s).2.quiet) := by
  induction polls generalizing p s with
  | zero => exact ⟨rfl, rfl⟩
  | succ polls ih =>
      obtain ⟨hhanded, hpoll⟩ := poll_quiet hs running p s
      unfold handedWithin runWithin
      rw [hpoll, hhanded]
      by_cases hrunning : (!running) = true
      · simp only [if_pos hrunning, and_self]
      simp only [if_neg hrunning]
      rcases p.poll hs running s with ⟨result, p', s'⟩
      cases result with
      | error e => exact ⟨rfl, rfl⟩
      | ok pause =>
          cases pause with
          | busy => simp only [ih, and_self]
          | _ => exact ⟨rfl, rfl⟩

end Poller

namespace Follower

def quiet (f : Follower σ) : Follower Unit :=
  { path := f.path, cursorPath := f.cursorPath, handlers := f.handlers.quiet,
    running := f.running, poller? := f.poller? }

theorem start_quiet (f : Follower σ) (s : Surroundings σ) :
    f.quiet.start s.quiet =
      ((f.start s).1, (f.start s).2.1.quiet, (f.start s).2.2.quiet) := by
  have hfiles : s.quiet.files = s.files := rfl
  have hpath : f.quiet.path = f.path := rfl
  unfold start
  rw [hfiles, hpath]
  rcases makeLog s.files f.path with ⟨made, files⟩
  cases made with
  | error e => rfl
  | ok _ =>
      dsimp only
      cases files.metadata f.path with
      | error e => rfl
      | ok info => rfl

end Follower

/-! ## Turns -/

namespace Watch

/-- What can happen: files change, in whatever way; a poller is made, polls once, polls until there
is something to wait for, or is dropped. -/
inductive Turn where
  | change (f : FileSystem → FileSystem)
  | start
  | poll
  | settle
  | stop

/-- The watch after a turn. -/
def turn (w : Watch σ) : Turn → Watch σ
  | .change f => { w with around := { w.around with files := f w.around.files } }
  | .start => w.step .start
  | .poll => w.step .poll
  | .settle =>
    let lines := match w.follower.poller? with
      | some p => p.handedWithin w.follower.handlers w.follower.running
          (p.pollBound w.around.files) w.around
      | none => []
    let (follower, around) := w.follower.settle w.around
    ⟨follower, around, w.handed ++ lines⟩
  | .stop => w.step .stop

def turns (w : Watch σ) (ts : List Turn) : Watch σ := ts.foldl turn w

/-- The watch with handlers that do nothing. -/
def quiet (w : Watch σ) : Watch Unit := ⟨w.follower.quiet, w.around.quiet, w.handed⟩

theorem turn_quiet (w : Watch σ) (t : Turn) : (w.turn t).quiet = w.quiet.turn t := by
  rcases w with ⟨⟨path, cursor, hs, running, poller?⟩, around, handed⟩
  cases t with
  | change f => rfl
  | start => simp only [turn, step, quiet, Follower.start_quiet]
  | stop => rfl
  | poll =>
      cases poller? with
      | none => rfl
      | some p =>
          obtain ⟨hhanded, hpoll⟩ := p.poll_quiet hs running around
          simp only [turn, step, quiet, Follower.quiet, Follower.poll, hhanded, hpoll]
  | settle =>
      cases poller? with
      | none => rfl
      | some p =>
          have hfiles : around.quiet.files = around.files := rfl
          obtain ⟨hhanded, hrun⟩ := p.runWithin_quiet hs running (p.pollBound around.files) around
          simp only [turn, quiet, Follower.quiet, Follower.settle, Poller.run, hfiles, hhanded,
            hrun]

theorem turns_quiet (w : Watch σ) (ts : List Turn) : (w.turns ts).quiet = w.quiet.turns ts := by
  induction ts generalizing w with
  | nil => rfl
  | cons t rest ih =>
      rw [turns, List.foldl_cons, ← turns, ih, turn_quiet]
      rfl

theorem turn_continues (w : Watch σ) (t : Turn) : ∃ lines, w.Continues (w.turn t) lines := by
  cases t with
  | change f => exact ⟨[], .of_accounts rfl rfl ⟨rfl, rfl, rfl, [], rfl, rfl⟩⟩
  | start => exact w.step_continues .start
  | stop => exact w.step_continues .stop
  | poll => exact w.step_continues .poll
  | settle =>
      simp only [turn, Follower.settle]
      cases w.follower.poller? with
      | none => exact ⟨[], .of_accounts rfl (List.append_nil _) .refl⟩
      | some p =>
          exact ⟨_, rfl, rfl, fun line => Poller.complete_of_mem_handedWithin,
            p.runWithin_accounts ..⟩

theorem turns_continues (w : Watch σ) (ts : List Turn) :
    ∃ lines, w.Continues (w.turns ts) lines := by
  induction ts generalizing w with
  | nil => exact ⟨[], .of_accounts rfl rfl .refl⟩
  | cons t rest ih =>
      obtain ⟨lines, hturn⟩ := w.turn_continues t
      obtain ⟨more, hrest⟩ := ih (w.turn t)
      exact ⟨lines ++ more, hturn.trans hrest⟩

/-- Whatever happens, the lines that are handed on are complete, each is counted as what it is, and
the handlers are called with the records among them that have a handler, once each and in order.
With handlers that do nothing and never fail, the same lines are handed on, and the same counters,
files and pollers are left. -/
theorem turns_account (w : Watch σ) (ts : List Turn) :
    let hs := w.follower.handlers
    (∃ lines, (w.turns ts).handed = w.handed ++ lines ∧ (∀ line ∈ lines, Log.Complete line) ∧
      hs.Accounts lines w.around (w.turns ts).around ∧
      (w.turns ts).around.stats.dispatched + (w.turns ts).around.stats.malformed +
          (w.turns ts).around.stats.unhandled =
        w.around.stats.dispatched + w.around.stats.malformed + w.around.stats.unhandled +
          lines.countP (hs.outcome · ≠ .blank)) ∧
    (w.turns ts).follower.handlers = hs ∧
    (w.turns ts).quiet = w.quiet.turns ts ∧
    ∀ line, (∀ s, hs.Accounts [line] s (s.dispatch hs line)) ∧
      (hs.outcome line = .blank ↔ Log.Blank line) ∧
      (hs.outcome line = .malformed ↔ ¬ Log.Blank line ∧ ∀ word, ¬ Log.Says line word) ∧
      (hs.outcome line = .unhandled ↔ ∃ word, Log.Says line word ∧
        ((∀ kind : Kind, kind.word ≠ word) ∨ ∃ kind : Kind, kind.word = word ∧ hs kind = none)) ∧
      (hs.outcome line = .dispatched ↔ ∃ (kind : Kind) (h : Handler σ),
        Log.Says line kind.word ∧ hs kind = some h) := by
  intro hs
  obtain ⟨lines, h⟩ := w.turns_continues ts
  refine ⟨⟨lines, h.handed, h.complete, h.accounts, h.accounts.total⟩, h.handlers,
    w.turns_quiet ts, ?_⟩
  intro line
  exact ⟨fun s => s.dispatch_accounts hs line, hs.outcome_iff line⟩

end Watch

end DebugDashboard
