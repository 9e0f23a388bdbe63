import DebugDashboard.Proofs.Tail.Resumption
import Mathlib.Data.List.DropRight

/-!
# Crashes

A process can die between any two effects of a poll. The next one has nothing but the files, and
goes on behind the last line whose offset was saved. So a line that was dispatched but not saved is
dispatched once more, no other line is, and none is left out.
-/

namespace DebugDashboard

variable {σ τ : Type}

/-! ## Effects -/

namespace Effect

def line? : Effect → Option (List UInt8)
  | .dispatch line => some line
  | .advance _ | .persist => none

/-- The lines that effects dispatch, in order. -/
def lines (effects : List Effect) : List (List UInt8) := effects.filterMap line?

/-- The lines that effects dispatch after their last save. -/
def unsaved (effects : List Effect) : List (List UInt8) :=
  lines (effects.rtakeWhile (· ≠ .persist))

theorem lines_append (effects more : List Effect) :
    lines (effects ++ more) = lines effects ++ lines more :=
  List.filterMap_append

theorem lines_flatMap_ofLine (lines : List (List UInt8)) :
    Effect.lines (lines.flatMap ofLine) = lines := by
  induction lines with
  | nil => rfl
  | cons line rest ih => rw [List.flatMap_cons, lines_append, ih]; rfl

/-- The first effects of some lines are all those of the first lines, and perhaps of one more line
what comes before its save. -/
theorem take_flatMap_ofLine (lines : List (List UInt8)) (count : Nat) :
    ∃ front part, (lines.flatMap ofLine).take count = front.flatMap ofLine ++ part ∧
      .persist ∉ part ∧ (Effect.lines part).length ≤ 1 ∧ front ++ Effect.lines part <+: lines := by
  induction lines generalizing count with
  | nil => exact ⟨[], [], by simp, by simp, by simp [Effect.lines], by simp [Effect.lines]⟩
  | cons line rest ih =>
      -- the third effect of a line is its save
      match count with
      | 0 => exact ⟨[], [], rfl, by simp, by simp [Effect.lines], List.nil_prefix⟩
      | 1 =>
          refine ⟨[], [.dispatch line], rfl, by simp, Nat.le_refl 1, ?_⟩
          exact List.prefix_append [line] rest
      | 2 =>
          refine ⟨[], [.dispatch line, .advance line.length], rfl, by simp, Nat.le_refl 1, ?_⟩
          exact List.prefix_append [line] rest
      | count + 3 =>
          obtain ⟨front, part, htake, hpart, hone, hfront⟩ := ih count
          refine ⟨line :: front, part, ?_, hpart, hone, List.cons_prefix_cons.mpr ⟨rfl, hfront⟩⟩
          rw [List.flatMap_cons, List.flatMap_cons, List.append_assoc, ← htake]
          rfl

theorem unsaved_append {part : List Effect} (hpart : .persist ∉ part) (front : List (List UInt8)) :
    unsaved (front.flatMap ofLine ++ part) = lines part := by
  have hall : ∀ effect ∈ part.reverse, effect ≠ .persist := fun effect heffect heq =>
    hpart (heq ▸ List.mem_reverse.mp heffect)
  have hfront : (front.flatMap ofLine).rtakeWhile (· ≠ .persist) = [] := by
    rcases List.eq_nil_or_concat front with rfl | ⟨before, line, rfl⟩
    · rfl
    · refine List.rtakeWhile_eq_nil_iff.mpr fun _ => ?_
      simp [ofLine]
  rw [unsaved, List.rtakeWhile, List.reverse_append,
    List.takeWhile_append_of_pos (by simpa using hall), List.reverse_append, List.reverse_reverse,
    ← List.rtakeWhile, hfront, List.nil_append]

end Effect

/-- Only a save changes files. -/
theorem Progress.foldl_perform_files (hs : Handlers σ) (cursor : Path) {effects : List Effect}
    (heffects : .persist ∉ effects) (p : Progress σ) :
    (effects.foldl (perform hs cursor) p).surroundings.files = p.surroundings.files := by
  induction effects generalizing p with
  | nil => rfl
  | cons effect rest ih =>
      rw [List.mem_cons, not_or] at heffects
      rw [List.foldl_cons, ih heffects.2]
      cases effect with
      | dispatch line => exact Surroundings.dispatch_files hs p.surroundings line
      | advance count => rfl
      | persist => exact absurd rfl heffects.1

namespace Poller

/-- The effects of a poll, in order. -/
def effects (hs : Handlers σ) (running : Bool) (p : Poller) (s : Surroundings σ) : List Effect :=
  (p.handed hs running s).flatMap Effect.ofLine

/-- How far a poll has come after some of its effects. -/
def progressAfter (hs : Handlers σ) (running : Bool) (p : Poller) (s : Surroundings σ)
    (count : Nat) : Progress σ :=
  let (q, around) := match s.files.metadata p.path with
    | .ok info => p.notice info s
    | .error _ => (p, s)
  ((p.effects hs running s).take count).foldl (Progress.perform hs p.cursorPath) ⟨q.offset, around⟩

theorem foldl_effects (hs : Handlers σ) (cursor : Path) (lines : List (List UInt8))
    (p : Progress σ) :
    (lines.flatMap Effect.ofLine).foldl (Progress.perform hs cursor) p =
      lines.foldl (Progress.performLine hs cursor) p :=
  List.foldl_flatMap ..

/-- A poll of a log does what its effects do. -/
theorem poll_eq_progressAfter (hs : Handlers σ) (running : Bool) (p : Poller) (s : Surroundings σ)
    {info : Metadata} (hinfo : s.files.metadata p.path = .ok info) :
    let progress := p.progressAfter hs running s (p.effects hs running s).length
    (p.poll hs running s).2.1.offset = progress.offset ∧
      (p.poll hs running s).2.2 = progress.surroundings := by
  have hpoll := poll_eq_foldl hs running p s hinfo
  simp only [progressAfter, hinfo, List.take_length]
  rwa [effects, foldl_effects]

/-- As long as the log only grows, there is nothing to notice. -/
theorem Follows.progressAfter {p : Poller} {log cursor : Path} {inode : Nat} {content : List UInt8}
    {done : List (List UInt8)} (h : p.Follows log cursor inode content done) (hs : Handlers σ)
    {s : Surroundings σ} (hlog : s.files.Shows log inode content) (count : Nat) :
    p.progressAfter hs true s count =
      ((p.effects hs true s).take count).foldl (Progress.perform hs p.cursorPath)
        ⟨p.offset, s⟩ := by
  obtain ⟨modified, hinfo⟩ := hlog.metadata
  rw [← h.path] at hinfo
  simp [Poller.progressAfter, hinfo, notice_eq, h.startsOver]

end Poller

namespace Watch

/-! ## Polls until one has to wait -/

/-- What the next poll answers. -/
def answer? (w : Watch σ) : Option (Except PollError Pause) :=
  (w.follower.poll w.around).1.map (·.1)

/-- So many polls are busy, and the next one has no line left to take. -/
structure WaitsAfter (w : Watch σ) (polls : Nat) : Prop where
  busy : ∀ m < polls, (w.run (.replicate m .poll)).answer? = some (.ok .busy)
  waits : (w.run (.replicate polls .poll)).answer? = some (.ok .idle) ∨
    (w.run (.replicate polls .poll)).answer? = some (.ok .partialLine)

namespace Agrees

variable {w : Watch σ} {log cursor : Path} {inode : Nat} {bytes : List UInt8}

/-- A poll is busy if it takes 1024 lines, and else no line is left. -/
theorem answer (h : w.Agrees log cursor inode bytes) {p : Poller}
    (hp : w.follower.poller? = some p) :
    ∃ pause p', w.answer? = some (.ok pause) ∧ (w.step .poll).follower.poller? = some p' ∧
      (pause = .busy ∧ w.handed.length + maxLinesPerPoll ≤ (Log.lines bytes).length ∧
          (w.step .poll).handed = (Log.lines bytes).take (w.handed.length + maxLinesPerPoll) ∨
        (pause = .idle ∨ pause = .partialLine) ∧ (w.step .poll).handed = Log.lines bytes) := by
  obtain ⟨hrunning, hfollows⟩ := h.poller p hp
  have hpause := hfollows.poll_pause w.follower.handlers h.savable.keepsLog
  obtain ⟨pause, p', hpoll, hhanded, hall⟩ := h.exactlyOnce.poll p hp
  have hanswer : w.answer? = some (.ok pause) := by rw [answer?, hpoll]; rfl
  have hleft : (Log.lines bytes).length =
      w.handed.length + (Log.lines (bytes.drop p.offset)).length := by
    rw [Log.lines_eq_append h.first, List.length_append, hfollows.offset]
  have hnext : (w.step .poll).follower.poller? =
      some (p.poll w.follower.handlers true w.around).2.1 := by
    simp only [Watch.step, Follower.poll, hp, hrunning]
  simp only [Follower.poll, hp, hrunning, hpause, Option.some.injEq, Prod.mk.injEq,
    Except.ok.injEq] at hpoll
  refine ⟨pause, _, hanswer, hnext, ?_⟩
  rw [Poller.pauseAfter] at hpoll
  split at hpoll
  next hmany => exact .inl ⟨hpoll.1.symm, by omega, hhanded⟩
  next =>
    have hwait : pause = .idle ∨ pause = .partialLine := by
      rw [← hpoll.1]
      split
      · exact .inl rfl
      · exact .inr rfl
    exact .inr ⟨hwait, hall hwait⟩

theorem isSome_start (h : w.Agrees log cursor inode bytes) :
    (w.step .start).follower.poller?.isSome = true := by
  have hstart := Follower.start_eq (f := w.follower) (h.path ▸ h.savable.shows)
  rw [Watch.step, hstart]
  rfl

/-- Polls come to an end of the lines. -/
theorem settles (h : w.Agrees log cursor inode bytes) (hlimit : bytes.length < Word.limit)
    {p : Poller} (hp : w.follower.poller? = some p) :
    ∃ polls, w.WaitsAfter polls ∧
      (w.run (.replicate (polls + 1) .poll)).handed = Log.lines bytes := by
  generalize hleft : (Log.lines bytes).length - w.handed.length = left
  induction left using Nat.strongRecOn generalizing w p with
  | ind left ih =>
      obtain ⟨pause, p', hanswer, hp', hbusy | hwait⟩ := h.answer hp
      · obtain ⟨rfl, hmany, hhanded⟩ := hbusy
        -- a busy poll leaves fewer lines
        have hfewer : (Log.lines bytes).length - (w.step .poll).handed.length < left := by
          rw [← hleft, hhanded, List.length_take, Nat.min_eq_left hmany]
          simp only [maxLinesPerPoll] at hmany ⊢
          omega
        obtain ⟨polls, hwait, hall⟩ := ih _ hfewer (h.poll hlimit) hp' rfl
        refine ⟨polls + 1, ⟨fun m hm => ?_, hwait.waits⟩, hall⟩
        cases m with
        | zero => exact hanswer
        | succ m => exact hwait.busy m (Nat.lt_of_succ_lt_succ hm)
      · obtain ⟨hwait, hhanded⟩ := hwait
        refine ⟨0, ⟨fun m hm => absurd hm (Nat.not_lt_zero m), ?_⟩, hhanded⟩
        rcases hwait with rfl | rfl
        · exact .inl hanswer
        · exact .inr hanswer

end Agrees

/-! ## The next process -/

/-- A new process finds the files as they were left, and knows nothing else of the old one. -/
structure Reopens (fresh : Watch τ) (old : Follower σ) (files : FileSystem) : Prop where
  path : fresh.follower.path = old.path
  cursorPath : fresh.follower.cursorPath = old.cursorPath
  files : fresh.around.files = files
  closed : fresh.follower.poller? = none
  handed : fresh.handed = []

/-- The watch if lines had been handed on before. -/
def behind (w : Watch σ) (lines : List (List UInt8)) : Watch σ :=
  { w with handed := lines ++ w.handed }

/-- What was handed on before makes no difference to what follows. -/
theorem behind_step (w : Watch σ) (lines : List (List UInt8)) (event : Event) :
    (w.behind lines).step event = (w.step event).behind lines := by
  cases event with
  | append bytes =>
      simp only [step, behind]
      split <;> rfl
  | poll => simp only [step, behind, List.append_assoc]
  | stop => rfl
  | start => rfl

theorem behind_run (w : Watch σ) (lines : List (List UInt8)) (events : List Event) :
    (w.behind lines).run events = (w.run events).behind lines := by
  induction events generalizing w with
  | nil => rfl
  | cons event rest ih => exact (congrArg (run · rest) (w.behind_step lines event)).trans (ih _)

theorem WaitsAfter.of_behind {w : Watch σ} {lines : List (List UInt8)} {polls : Nat}
    (h : (w.behind lines).WaitsAfter polls) : w.WaitsAfter polls where
  busy m hm := by
    have hbusy := h.busy m hm
    rwa [behind_run] at hbusy
  waits := by
    have hwaits := h.waits
    rwa [behind_run] at hwaits

/-- Where a process dies in a poll, it has dispatched and saved some lines, and has dispatched at
most one more. For the next process only the former have been handed on. -/
theorem Agrees.crash {w : Watch σ} {log cursor : Path} {inode : Nat} {bytes : List UInt8}
    (h : w.Agrees log cursor inode bytes) (hlimit : bytes.length < Word.limit) {p : Poller}
    (hp : w.follower.poller? = some p) (count : Nat) {fresh : Watch τ}
    (hfresh : fresh.Reopens w.follower
      (p.progressAfter w.follower.handlers true w.around count).surroundings.files) :
    let done := (p.effects w.follower.handlers true w.around).take count
    ∃ saved, w.handed ++ Effect.lines done = saved ++ Effect.unsaved done ∧
      w.handed ++ Effect.lines done <+: Log.lines bytes ∧ (Effect.unsaved done).length ≤ 1 ∧
      (fresh.behind saved).Agrees log cursor inode bytes := by
  intro done
  obtain ⟨hrunning, hfollows⟩ := h.poller p hp
  obtain ⟨hhanded, _, _, -, hnext, -⟩ := hfollows.poll w.follower.handlers h.savable.keepsLog
  obtain ⟨front, part, htake, hpart, hone, hfront⟩ :=
    Effect.take_flatMap_ofLine (p.handed w.follower.handlers true w.around) count
  have hdone : done = front.flatMap Effect.ofLine ++ part := htake
  have hunsaved : Effect.unsaved done = Effect.lines part := by
    rw [hdone, Effect.unsaved_append hpart]
  have hlines : Effect.lines done = front ++ Effect.lines part := by
    rw [hdone, Effect.lines_append, Effect.lines_flatMap_ofLine]
  have hbefore : w.handed ++ Effect.lines done <+: Log.lines bytes := by
    refine List.IsPrefix.trans ?_ hnext.first
    rw [hlines, ← hhanded]
    exact (List.prefix_append_right_inj _).mpr hfront
  refine ⟨w.handed ++ front, ?_, hbefore, ?_, ?_⟩
  · rw [hunsaved, hlines, List.append_assoc]
  · rwa [hunsaved]
  -- the effects after the last save leave the files as they are
  have hfiles : fresh.around.files =
      (front.foldl (Progress.performLine w.follower.handlers cursor)
        ⟨p.offset, w.around⟩).surroundings.files := by
    rw [hfresh.files, hfollows.progressAfter _ h.savable.shows, hfollows.cursorPath, Poller.effects,
      htake, List.foldl_append, Progress.foldl_perform_files _ _ hpart, Poller.foldl_effects]
  have hfirst : w.handed ++ front <+: Log.lines bytes := by
    rw [hlines, ← List.append_assoc] at hbefore
    exact (List.prefix_append _ _).trans hbefore
  obtain ⟨hsavable, hresume⟩ := h.after_lines hlimit hp w.follower.handlers hfirst
  rw [← hfiles] at hsavable hresume
  have hhanded : (fresh.behind (w.handed ++ front)).handed = w.handed ++ front := by
    rw [behind, hfresh.handed, List.append_nil]
  exact {
    path := hfresh.path.trans h.path
    cursorPath := hfresh.cursorPath.trans h.cursorPath
    savable := hsavable
    first := by rwa [hhanded]
    resume := by rwa [hhanded]
    poller := fun q hq => by
      have hclosed := hfresh.closed
      rw [show fresh.follower.poller? = some q from hq] at hclosed
      cases hclosed }

/-- Before a log is followed, its cursor file is missing or was left behind some lines. -/
theorem Agrees.of_saved {w : Watch σ} {inode : Nat} {content : List UInt8}
    (hlog : w.around.files.Shows w.follower.path inode content)
    (hapart : CursorFile.Apart w.around.files w.follower.cursorPath w.follower.path inode)
    (hsaved : CursorFile.load w.around.files w.follower.cursorPath =
          .error (.missing w.follower.cursorPath) ∧ w.handed = [] ∨
        CursorFile.load w.around.files w.follower.cursorPath = .ok w.handed.flatten.length ∧
          w.handed <+: Log.lines content)
    (hclosed : w.follower.poller? = none) :
    w.Agrees w.follower.path w.follower.cursorPath inode content where
  path := rfl
  cursorPath := rfl
  savable := by
    refine ⟨hapart, hlog.bytes, CursorFile.plain_of_load ?_⟩
    rcases hsaved with ⟨hload, -⟩ | ⟨hload, -⟩ <;> simp [hload]
  first := by
    rcases hsaved with ⟨-, hnone⟩ | ⟨-, hfirst⟩
    · rw [hnone]
      exact List.nil_prefix
    · exact hfirst
  resume := fun length hlength => by
    rcases hsaved with ⟨hload, hnone⟩ | ⟨hload, -⟩
    · rw [CursorFile.resumeOffset, hload, hnone]
      rfl
    · rw [CursorFile.resumeOffset, hload]
      exact if_pos hlength
  poller := fun p hp => by
    rw [hclosed] at hp
    cases hp

/-- Wherever a process dies in a poll, the next one can start, and polling comes to its end. Before
and after the crash together, all complete lines are then dispatched in order, each once but for the
one, if there is one, that was dispatched before the crash and not saved. -/
theorem crash_repeats_unsaved {w : Watch σ} {inode : Nat} {content : List UInt8}
    (hlog : w.around.files.Shows w.follower.path inode content)
    (hapart : CursorFile.Apart w.around.files w.follower.cursorPath w.follower.path inode)
    (hsaved : CursorFile.load w.around.files w.follower.cursorPath =
          .error (.missing w.follower.cursorPath) ∧ w.handed = [] ∨
        CursorFile.load w.around.files w.follower.cursorPath = .ok w.handed.flatten.length ∧
          w.handed <+: Log.lines content)
    (hclosed : w.follower.poller? = none) (events : List Event) {p : Poller}
    (hp : (w.run events).follower.poller? = some p) (count : Nat) {fresh : Watch τ}
    (hfresh : fresh.Reopens (w.run events).follower
      (p.progressAfter (w.run events).follower.handlers true
        (w.run events).around count).surroundings.files)
    (more : List Event)
    (hlimit : (content ++ (events ++ more).flatMap Event.appended).length < Word.limit) :
    let dying := w.run events
    let effects := p.effects dying.follower.handlers true dying.around
    let before := dying.handed ++ Effect.lines (effects.take count)
    let again := Effect.unsaved (effects.take count)
    let after := fresh.run more
    (p.progressAfter dying.follower.handlers true dying.around effects.length).surroundings =
        (dying.follower.poll dying.around).2.2 ∧
      again.length ≤ 1 ∧
      (after.step .start).follower.poller?.isSome = true ∧
      (after.follower.poller?.isSome = true → ∃ polls saved rest,
        after.WaitsAfter polls ∧ before = saved ++ again ∧
        (after.run (.replicate (polls + 1) .poll)).handed = again ++ rest ∧
        saved ++ again ++ rest =
          Log.lines (content ++ (events ++ more).flatMap Event.appended)) := by
  intro dying effects before again after
  rw [List.flatMap_append, ← List.append_assoc] at hlimit ⊢
  have hearlier := Nat.lt_of_le_of_lt (List.prefix_append _ _).length_le hlimit
  have hdying := (Agrees.of_saved hlog hapart hsaved hclosed).run events hearlier
  obtain ⟨hrunning, hfollows⟩ := hdying.poller p hp
  obtain ⟨saved, hbefore, hfirst, hone, hfresh⟩ := hdying.crash hearlier hp count hfresh
  have hafter := hfresh.run more hlimit
  rw [behind_run] at hafter
  refine ⟨?_, hone, ?_, fun hopen => ?_⟩
  · obtain ⟨modified, hinfo⟩ := hdying.savable.shows.metadata
    rw [← hfollows.path] at hinfo
    have hpoll := (Poller.poll_eq_progressAfter dying.follower.handlers true p dying.around hinfo).2
    rw [← hpoll, Follower.poll, hp, hrunning]
  · exact hafter.isSome_start
  · obtain ⟨q, hq⟩ := Option.isSome_iff_exists.mp hopen
    obtain ⟨polls, hwaits, hall⟩ := hafter.settles hlimit hq
    rw [behind_run] at hall
    obtain ⟨rest, hrest⟩ := hfirst.trans (Log.lines_prefix_append _ (more.flatMap Event.appended))
    rw [hbefore] at hrest
    refine ⟨polls, saved, rest, hwaits.of_behind, hbefore, ?_, hrest⟩
    rw [← hrest, List.append_assoc] at hall
    exact List.append_cancel_left hall

/-- After a start and an append, with three lines to dispatch. -/
def dying : Watch Unit := beginning.run [.start, .append [10, 99, 10]]

theorem isSome_dying : dying.follower.poller?.isSome = true := by decide +kernel

/-- A process that finds some files. -/
def reopened (files : FileSystem) : Watch Unit where
  follower := { path := ⟨"/log"⟩, cursorPath := ⟨"/cursor"⟩ }
  around := { files := files, stats := {}, observer := () }

theorem reopens_dying (files : FileSystem) : (reopened files).Reopens dying.follower files where
  path := show ⟨"/log"⟩ = dying.follower.path by decide +kernel
  cursorPath := show ⟨"/cursor"⟩ = dying.follower.cursorPath by decide +kernel
  files := rfl
  closed := rfl
  handed := rfl

/-- The process dies when the second line has just been dispatched. The next one dispatches it once
more, and then the third. -/
theorem dying_crash :
    let p := dying.follower.poller?.get isSome_dying
    let effects := (p.effects dying.follower.handlers true dying.around).take 4
    let after := (reopened (p.progressAfter dying.follower.handlers true
      dying.around 4).surroundings.files).run [.start]
    Effect.lines effects = [[97, 10], [98, 10]] ∧ Effect.unsaved effects = [[98, 10]] ∧
      ∃ polls, after.WaitsAfter polls ∧
        (after.run (.replicate (polls + 1) .poll)).handed = [[98, 10], [99, 10]] := by
  intro p effects after
  have hlog : beginning.around.files.Shows ⟨"/log"⟩ 1 [97, 10, 98] := ⟨rfl, rfl⟩
  have hmissing : CursorFile.load beginning.around.files ⟨"/cursor"⟩ =
      .error (.missing ⟨"/cursor"⟩) := rfl
  have heffects : Effect.lines effects = [[97, 10], [98, 10]] ∧
      Effect.unsaved effects = [[98, 10]] := by decide +kernel
  have hbegun : dying.handed = [] := by decide +kernel
  have hlines : Log.lines [97, 10, 98, 10, 99, 10] = [[97, 10], [98, 10], [99, 10]] := by decide
  have hp : dying.follower.poller? = some p := (Option.some_get isSome_dying).symm
  have hopen : after.follower.poller?.isSome = true := by decide +kernel
  obtain ⟨-, -, -, hsettles⟩ := crash_repeats_unsaved hlog beginning_apart (.inl ⟨hmissing, rfl⟩)
    rfl [.start, .append [10, 99, 10]] hp 4
    (reopens_dying (p.progressAfter dying.follower.handlers true dying.around 4).surroundings.files)
    [.start] (by decide +kernel)
  obtain ⟨polls, saved, rest, hwaits, hbefore, hafter, hall⟩ := hsettles hopen
  have hrest : dying.handed ++ Effect.lines effects ++ rest =
      Log.lines [97, 10, 98, 10, 99, 10] := (congrArg (· ++ rest) hbefore).trans hall
  rw [hbegun, heffects.1, hlines] at hrest
  obtain rfl : rest = [[99, 10]] := (List.append_right_inj [[97, 10], [98, 10]]).mp hrest
  exact ⟨heffects.1, heffects.2, polls, hwaits, hafter.trans (congrArg (· ++ _) heffects.2)⟩

end Watch

end DebugDashboard
