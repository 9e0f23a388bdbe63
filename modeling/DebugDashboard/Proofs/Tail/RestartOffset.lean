import DebugDashboard.Proofs.Tail.Start

/-!
# Restarts after a rotation

The offset is saved with each line that is handed on, but not when a poll goes back to the start of
a log. So until a first line of the new log is handed on, the cursor file still holds an offset in
the old one, and a restart goes on there.
-/

namespace DebugDashboard

variable {σ : Type}

namespace CursorFile

/-- The offset at which to go on after an attempt to load the cursor. -/
def resume : Except CursorError Nat → Nat → Nat
  | .ok offset, length => if offset ≤ length then offset else 0
  | .error (.missing _), _ => 0
  | .error _, length => length

theorem resumeOffset_eq (fs : FileSystem) (cursor : Path) (length : Nat) :
    resumeOffset fs cursor length = resume (load fs cursor) length := by
  unfold resumeOffset
  split
  next h => rw [h]; rfl
  next h => rw [h]; rfl
  next e hmissing h =>
    rw [h]
    cases e with
    | missing file => exact absurd rfl (hmissing file)
    | corrupt contents => rfl
    | io => rfl

end CursorFile

open CursorFile (load ok_of_toOption)

/-- What is known of a cursor file that was last known as `stale?`, after a poll: nothing is stale
once a line has been handed on, and what is loaded when a poll goes back to the start is. -/
def Poller.staleAfter (hs : Handlers σ) (p : Poller) (s : Surroundings σ)
    (stale? : Option (Except CursorError Nat)) : Option (Except CursorError Nat) :=
  if p.handed hs true s ≠ [] then none
  else if (p.poll hs true s).2.2.stats.rotations ≠ s.stats.rotations then
    some (load s.files p.cursorPath)
  else stale?

/-- What a follower with a poller can come to when files change and polls look at them. What is
loaded from the cursor file is carried along as long as no line has been handed on since the poller
was made or last went back to the start. -/
inductive History : Follower σ → Surroundings σ → Option (Except CursorError Nat) → Prop
  | start {f f' : Follower σ} {s s' : Surroundings σ} {offset : Nat}
      (hstart : f.start s = (.ok offset, f', s')) :
      History f' s' (some (load s'.files f'.cursorPath))
  | change {f : Follower σ} {s : Surroundings σ} {stale? : Option (Except CursorError Nat)}
      {files : FileSystem} (h : History f s stale?)
      (hload : load files f.cursorPath = load s.files f.cursorPath) :
      History f { s with files := files } stale?
  | poll {f : Follower σ} {s : Surroundings σ} {stale? : Option (Except CursorError Nat)}
      {p : Poller} (h : History f s stale?) (hp : f.poller? = some p)
      (hlog : s.files.find f.path = .error .notFound ∨
        ∃ inode content, CursorFile.Savable s.files f.cursorPath f.path inode content) :
      History (f.poll s).2.1 (f.poll s).2.2 (p.staleAfter f.handlers s stale?)

/-- The cursor file holds what is stale, or else the offset of the poller. -/
structure Follower.Holds (f : Follower σ) (s : Surroundings σ)
    (stale? : Option (Except CursorError Nat)) (p : Poller) : Prop where
  running : f.running = true
  path : p.path = f.path
  cursorPath : p.cursorPath = f.cursorPath
  stale : ∀ saved, stale? = some saved → load s.files f.cursorPath = saved
  saved : stale? = none → p.offset < Word.limit → load s.files f.cursorPath = .ok p.offset

namespace Poller

variable {hs : Handlers σ} {p : Poller} {s : Surroundings σ}
  {stale? : Option (Except CursorError Nat)}

/-- Lines that a poll hands on leave the offset behind them in the cursor file. -/
theorem load_of_handed {inode : Nat} {content : List UInt8}
    (hlog : CursorFile.Savable s.files p.cursorPath p.path inode content)
    (hhanded : p.handed hs true s ≠ []) (hlimit : (p.poll hs true s).2.1.offset < Word.limit) :
    load (p.poll hs true s).2.2.files p.cursorPath = .ok (p.poll hs true s).2.1.offset := by
  obtain ⟨modified, hinfo⟩ := hlog.shows.metadata
  obtain ⟨hoffset, haround⟩ := poll_eq_foldl hs true p s hinfo
  rw [hoffset] at hlimit
  rw [hoffset, haround]
  obtain ⟨files, hfiles, hsaved⟩ := Progress.foldl_performLine_saved
    (I := (CursorFile.Savable · p.cursorPath p.path inode content)) hs p.cursorPath
    ⟨(p.notice ⟨inode, content.length, modified⟩ s).1.offset,
      (p.notice ⟨inode, content.length, modified⟩ s).2⟩
    (p.handed hs true s) (fun _ n h => h.save n) (by rw [notice_files]; exact hlog) hhanded
  rw [Progress.foldl_performLine_offset] at hlimit ⊢
  rw [hsaved, hfiles.load_save hlimit]

/-- A poll that hands on nothing changes no file, and the offset only if it is counted. -/
theorem poll_of_handed_eq_nil
    (hlog : s.files.find p.path = .error .notFound ∨
      ∃ inode content, CursorFile.Savable s.files p.cursorPath p.path inode content)
    (hhanded : p.handed hs true s = []) :
    (p.poll hs true s).2.2.files = s.files ∧
      ((p.poll hs true s).2.2.stats.rotations = s.stats.rotations →
        (p.poll hs true s).2.1.offset = p.offset) := by
  rcases hlog with hmissing | ⟨inode, content, hlog⟩
  · rw [(poll_missing hs true hmissing).2, Poller.noticeMissing]
    split
    · refine ⟨rfl, fun hcount => ?_⟩
      simp [Surroundings.count, Stats.countRotation] at hcount
    · exact ⟨rfl, fun _ => rfl⟩
  · obtain ⟨modified, hinfo⟩ := hlog.shows.metadata
    obtain ⟨hoffset, haround⟩ := poll_eq_foldl hs true p s hinfo
    rw [hhanded, List.foldl_nil] at hoffset haround
    rw [hoffset, haround, notice_eq]
    split
    · refine ⟨rfl, fun hcount => ?_⟩
      simp [Surroundings.count, Stats.countRotation] at hcount
    · exact ⟨rfl, fun _ => rfl⟩

end Poller

namespace Follower.Holds

variable {f : Follower σ} {s : Surroundings σ} {stale? : Option (Except CursorError Nat)}
  {p : Poller}

theorem poll (h : f.Holds s stale? p) (hp : f.poller? = some p)
    (hlog : s.files.find f.path = .error .notFound ∨
      ∃ inode content, CursorFile.Savable s.files f.cursorPath f.path inode content) :
    (f.poll s).2.1.poller? = some (p.poll f.handlers true s).2.1 ∧
      (f.poll s).2.1.Holds (f.poll s).2.2 (p.staleAfter f.handlers s stale?)
        (p.poll f.handlers true s).2.1 := by
  have hpoll : f.poll s = (some ((p.poll f.handlers true s).1, (p.poll f.handlers true s).2.1),
      { f with poller? := some (p.poll f.handlers true s).2.1 },
      (p.poll f.handlers true s).2.2) := by
    simp only [Follower.poll, hp, h.running]
  rw [hpoll]
  refine ⟨rfl, h.running, ?_, ?_, fun saved hsaved => ?_, fun hnone hlimit => ?_⟩
  · rw [Poller.poll_path, h.path]
  · rw [Poller.poll_cursorPath, h.cursorPath]
  · rw [← h.path, ← h.cursorPath] at hlog
    unfold Poller.staleAfter at hsaved
    split at hsaved
    · cases hsaved
    next hhanded =>
      rw [(Poller.poll_of_handed_eq_nil hlog (not_not.mp hhanded)).1]
      split at hsaved
      · rw [← Option.some.inj hsaved, h.cursorPath]
      · exact h.stale saved hsaved
  · unfold Poller.staleAfter at hnone
    split at hnone
    next hhanded =>
      -- lines were handed on, so there is a log, and the offset was saved
      rcases hlog with hmissing | ⟨inode, content, hlog⟩
      · rw [← h.path] at hmissing
        exact absurd (Poller.poll_missing _ true hmissing).1 hhanded
      · rw [← h.path, ← h.cursorPath] at hlog
        rw [← h.cursorPath]
        exact Poller.load_of_handed hlog hhanded hlimit
    next hhanded =>
      rw [← h.path, ← h.cursorPath] at hlog
      obtain ⟨hfiles, hkept⟩ := Poller.poll_of_handed_eq_nil hlog (not_not.mp hhanded)
      split at hnone
      · cases hnone
      next hcount =>
        have hoffset := hkept (not_not.mp hcount)
        rw [hoffset] at hlimit ⊢
        rw [hfiles]
        exact h.saved hnone hlimit

end Follower.Holds

namespace Follower

theorem start_ok {f f' : Follower σ} {s s' : Surroundings σ} {offset : Nat}
    (hstart : f.start s = (.ok offset, f', s')) :
    ∃ p, f'.poller? = some p ∧ f'.Holds s' (some (load s'.files f'.cursorPath)) p := by
  unfold start at hstart
  split at hstart
  · cases hstart
  · dsimp only at hstart
    split at hstart
    · cases hstart
    · cases hstart
      exact ⟨_, rfl, rfl, rfl, rfl, fun saved hsaved => Option.some.inj hsaved,
        fun hnone => by (cases hnone)⟩

end Follower

namespace History

variable {f : Follower σ} {s : Surroundings σ} {stale? : Option (Except CursorError Nat)}

theorem holds (h : History f s stale?) : ∃ p, f.poller? = some p ∧ f.Holds s stale? p := by
  induction h with
  | start hstart => exact Follower.start_ok hstart
  | change h hload ih =>
      obtain ⟨p, hp, hholds⟩ := ih
      exact ⟨p, hp, { hholds with
        stale := fun saved hsaved => hload.trans (hholds.stale saved hsaved)
        saved := fun hnone hlimit => hload.trans (hholds.saved hnone hlimit) }⟩
  | poll h hp hlog ih =>
      obtain ⟨q, hq, hholds⟩ := ih
      obtain rfl : q = _ := Option.some.inj (hq.symm.trans hp)
      exact ⟨_, hholds.poll hp hlog⟩

/-- A restart goes on at the offset of the poller if and only if the log reaches that far, in case a
line has been handed on since the poller was made or last went back to the start, and otherwise if
what the cursor file held then happens to lead to the same offset. That is where it goes on. -/
theorem restart_offset_iff (h : History f s stale?) {p : Poller} (hp : f.poller? = some p)
    (hlimit : p.offset < Word.limit) {files : FileSystem} {inode : Nat} {content : List UInt8}
    (hload : load files f.cursorPath = load s.files f.cursorPath)
    (hlog : files.Shows f.path inode content) :
    ∃ offset, (f.stop.start { s with files := files }).1 = .ok offset ∧
      (∀ saved, stale? = some saved → offset = CursorFile.resume saved content.length) ∧
      (offset = p.offset ↔ (stale? = none → p.offset ≤ content.length) ∧
        ∀ saved, stale? = some saved → CursorFile.resume saved content.length = p.offset) := by
  obtain ⟨q, hq, hholds⟩ := h.holds
  obtain rfl : q = p := Option.some.inj (hq.symm.trans hp)
  refine ⟨CursorFile.resumeOffset files f.cursorPath content.length, ?_, ?_⟩
  · rw [Follower.start_eq (f := f.stop) (s := { s with files := files }) hlog]
    rfl
  · rw [CursorFile.resumeOffset_eq, hload]
    cases stale? with
    | none =>
        rw [hholds.saved rfl hlimit, CursorFile.resume]
        refine ⟨fun saved hsaved => by (cases hsaved), fun hsame => ⟨fun _ => ?_, ?_⟩,
          fun hreach => ?_⟩
        · by_contra hbeyond
          rw [if_neg hbeyond] at hsame
          exact hbeyond (hsame ▸ Nat.zero_le _)
        · intro saved hsaved
          cases hsaved
        · exact if_pos (hreach.1 rfl)
    | some saved =>
        rw [hholds.stale saved rfl]
        refine ⟨fun other hother => by (cases hother; rfl), fun hsame => ⟨?_, ?_⟩, fun hsame => ?_⟩
        · intro hnone
          cases hnone
        · intro other hother
          cases hother
          exact hsame
        · exact hsame.2 saved rfl

/-! ### A replaced log -/

/-- A log of five bytes. -/
def before : Surroundings Unit := ⟨CursorFile.logBeside 1 [97, 97, 97, 97, 10] [48], {}, ()⟩

def follower : Follower Unit := { path := ⟨"/log"⟩, cursorPath := ⟨"/cursor"⟩ }

/-- The follower after a poll of the log. -/
def read : Follower Unit × Surroundings Unit :=
  let (_, started, around) := follower.start before
  (started.poll around).2

/-- The log has been replaced by an empty file. -/
def replaced : Surroundings Unit := { read.2 with files := CursorFile.logBeside 3 [] [53] }

/-- The follower after a poll of the empty file. -/
def seen : Follower Unit × Surroundings Unit := (read.1.poll replaced).2

theorem isSome_read : read.1.poller?.isSome = true := by decide +kernel

theorem isSome_seen : seen.1.poller?.isSome = true := by decide +kernel

theorem history_seen : History seen.1 seen.2 (some (.ok 5)) := by
  have hlog := CursorFile.logBeside_savable [97, 97, 97, 97, 10] [48] (.inl rfl)
  have hempty := CursorFile.logBeside_savable [] [53] (.inr rfl)
  have hread : ∃ stale?, History read.1 read.2 stale? := by
    have hstart := Follower.start_eq (f := follower) (s := before) hlog.shows
    unfold read
    rw [hstart]
    exact ⟨_, .poll (.start hstart) rfl (.inr ⟨1, _, hlog⟩)⟩
  obtain ⟨stale?, hread⟩ := hread
  have hpaths : read.1.cursorPath = ⟨"/cursor"⟩ ∧ read.1.path = ⟨"/log"⟩ := by decide +kernel
  have hload : load read.2.files read.1.cursorPath = .ok 5 := ok_of_toOption (by decide +kernel)
  have hreplaced : History read.1 replaced stale? := by
    unfold replaced
    refine .change hread ?_
    rw [hload, hpaths.1]
    rfl
  have hseen : (read.1.poller?.get isSome_read).staleAfter read.1.handlers replaced stale? =
      some (.ok 5) := by
    rw [Poller.staleAfter, if_neg (by decide +kernel), if_pos (by decide +kernel)]
    exact congrArg some (ok_of_toOption (by decide +kernel))
  rw [← hseen]
  unfold seen
  refine .poll hreplaced (Option.some_get isSome_read).symm (.inr ⟨3, [], ?_⟩)
  rw [hpaths.1, hpaths.2]
  exact hempty

/-- The poller is at the start of the new log, and a restart goes on behind its first five bytes. -/
theorem restart_after_replacement :
    let bytes := [98, 98, 98, 98, 10, 99, 99, 99, 99, 10]
    History seen.1 seen.2 (some (.ok 5)) ∧ (seen.1.poller?.get isSome_seen).offset = 0 ∧
      ∃ offset, (seen.1.stop.start
          { seen.2 with files := CursorFile.logBeside 3 bytes [53] }).1 = .ok offset ∧
        offset = 5 ∧ offset ≠ (seen.1.poller?.get isSome_seen).offset := by
  intro bytes
  have hlog := CursorFile.logBeside_savable bytes [53] (.inr rfl)
  have hpaths : seen.1.cursorPath = ⟨"/cursor"⟩ ∧ seen.1.path = ⟨"/log"⟩ := by decide +kernel
  have hload : load (CursorFile.logBeside 3 bytes [53]) seen.1.cursorPath =
      load seen.2.files seen.1.cursorPath := by
    have hsaved : (load (CursorFile.logBeside 3 bytes [53]) ⟨"/cursor"⟩).toOption = some 5 := by
      decide +kernel
    rw [hpaths.1, ok_of_toOption hsaved]
    exact (ok_of_toOption (by decide +kernel)).symm
  have hzero : (seen.1.poller?.get isSome_seen).offset = 0 := by decide +kernel
  obtain ⟨offset, hstart, hwhere, hsame⟩ := history_seen.restart_offset_iff
    (Option.some_get isSome_seen).symm (by rw [hzero]; decide) hload
    (hpaths.2 ▸ hlog.shows)
  refine ⟨history_seen, hzero, offset, hstart, hwhere _ rfl, fun heq => ?_⟩
  have hresume := (hsame.mp heq).2 _ rfl
  rw [hzero] at hresume
  cases hresume

end History

end DebugDashboard
