import DebugDashboard.Proofs.Tail.Poll

/-!
# The kept reader

A poller keeps its reader, and with it what the reader has read ahead. Whether that makes a
difference to opening the log anew for each poll depends on the log alone: none is made as long as
the lines that the reader hands out are those that stand in the file. A log that is cut behind the
offset can take them away, and the poller does not notice.
-/

namespace DebugDashboard

variable {σ : Type}

namespace Poller

variable {p : Poller} {files : FileSystem} {inode length : Nat} {content : List UInt8}

/-- The poller with a reader that is opened at the offset, in place of the one that was kept. -/
def renewed (p : Poller) (files : FileSystem) : Poller :=
  match files.openFile p.path with
  | .ok handle => { p with reader? := p.reader?.map fun _ => .openAt handle p.offset }
  | .error _ => p

/-- Without a log there is nothing to open. -/
theorem renewed_missing (hlog : files.find p.path = .error .notFound) : p.renewed files = p := by
  have hopen : files.openFile p.path = .error .notFound := by
    simp [FileSystem.openFile, hlog, bind, Except.bind]
  rw [renewed, hopen]

theorem renewed_shows (hlog : files.Shows p.path inode content) :
    p.renewed files =
      { p with reader? := p.reader?.map fun _ => .openAt ⟨inode, false⟩ p.offset } := by
  rw [renewed, hlog.openFile]

/-- A reader that is opened at the offset is as good as none. -/
theorem renewed_ready (hlog : files.Shows p.path inode content) :
    (p.renewed files).Ready inode content := by
  rw [renewed_shows hlog]
  intro hover r hr
  obtain ⟨kept, -, rfl⟩ := Option.map_eq_some_iff.mp hr
  exact LineReader.openAt_at (offset_le hover)

/-- The reader belongs to the file that the offset refers to, and has read on from the offset. -/
def Kept (p : Poller) : Prop :=
  ∀ r, p.reader? = some r → ∃ inode, p.inode? = some inode ∧ r.Holds inode p.offset

/-- A poll that does not start over finds the file that the reader belongs to. -/
theorem Kept.holds (h : p.Kept) (hover : p.startsOver inode length = false) (r : LineReader)
    (hr : p.reader? = some r) : r.Holds inode p.offset := by
  obtain ⟨known, hinode, hholds⟩ := h r hr
  have hsame : known = inode := by
    by_contra hne
    simp [startsOver, hinode, hne] at hover
  rwa [← hsame]

/-- What was read ahead still stands in the file, if the next poll uses the reader at all. -/
def Intact (p : Poller) (inode : Nat) (content : List UInt8) : Prop :=
  p.startsOver inode content.length = false →
    ∀ r, p.reader? = some r → r.buffer <+: content.drop p.offset

/-- The next poll hands on the lines that stand in the file. -/
def Faithful (p : Poller) (inode : Nat) (content : List UInt8) : Prop :=
  (Log.lines (p.ahead inode content)).take maxLinesPerPoll =
    (Log.lines (content.drop (p.base inode content.length))).take maxLinesPerPoll

theorem Kept.ready (h : p.Kept) (hintact : p.Intact inode content) : p.Ready inode content := by
  intro hover r hr
  have hholds := h.holds hover r hr
  exact hholds.at (hholds.ahead_eq (hintact hover r hr)) (offset_le hover)

theorem Kept.faithful (h : p.Kept) (hintact : p.Intact inode content) :
    p.Faithful inode content := by
  rw [Faithful, (h.ready hintact).ahead_eq]

/-- A poll that is not busy leaves nothing that was read ahead, so whatever becomes of the file, the
next poll hands on what stands in it. -/
theorem faithful_of_not_busy (hs : Handlers σ) {s : Surroundings σ} (hkept : p.Kept)
    (hlog : CursorFile.KeepsLog s.files p.cursorPath p.path inode content)
    (hpause : (p.poll hs true s).1 ≠ .ok .busy) (other : Nat) (bytes : List UInt8) :
    (p.poll hs true s).2.1.Faithful other bytes := by
  obtain ⟨-, r, hpoll, hholds, hbuffer⟩ := poll_ahead hs hlog fun hover => hkept.holds hover
  rw [hpoll] at hpause ⊢
  have hempty : r.buffer = [] := by
    rcases hbuffer with hempty | ⟨hbusy, -⟩
    · exact hempty
    · exact absurd (congrArg Except.ok hbusy) hpause
  refine Kept.faithful (fun r' hr' => ?_) fun _ r' hr' => ?_
  · cases hr'
    exact ⟨inode, rfl, hholds⟩
  · cases hr'
    rw [hempty]
    exact List.nil_prefix

/-! ### How far a poll reads -/

/-- Draining only goes back to leave a fragment for later. -/
theorem position_le_drain (hs : Handlers σ) (cursor : Path) (running : Bool) {count : Nat}
    {r : LineReader} {p : Progress σ}
    (hpause : (drain hs cursor running count r p).1 ≠ .ok .partialLine) :
    r.position ≤ (drain hs cursor running count r p).2.1.position := by
  induction count generalizing r p with
  | zero => exact Nat.le_refl _
  | succ count ih =>
      unfold drain at hpause ⊢
      split
      · exact Nat.le_refl _
      next hrunning =>
        rw [if_neg hrunning] at hpause
        cases hread : r.read p.surroundings.files with
        | error e => exact Nat.le_refl _
        | ok next =>
            obtain ⟨line, r'⟩ := next
            have hle : r.position ≤ r'.position := by
              unfold LineReader.read at hread
              split at hread
              · cases hread
              · obtain ⟨-, rfl⟩ := Prod.mk.inj (Except.ok.inj hread)
                exact r.position_le_nextLine _
            simp only [hread] at hpause ⊢
            by_cases hempty : line.isEmpty = true
            · simpa only [if_pos hempty] using hle
            · rw [if_neg hempty] at hpause ⊢
              by_cases hlast : line.getLast? ≠ some LineReader.lineFeed
              · rw [if_pos hlast] at hpause
                exact absurd rfl hpause
              · rw [if_neg hlast] at hpause ⊢
                exact Nat.le_trans hle (ih hpause)

/-- For the first line, a reader that has read nothing ahead reads a block, or all of the file. -/
theorem block_le_drain (hs : Handlers σ) (cursor : Path) {count : Nat} {r : LineReader}
    {p : Progress σ} (hholds : r.Holds inode p.offset) (hbuffer : r.buffer = [])
    (hcontent : p.surroundings.files.content inode = content)
    (hpause : (drain hs cursor true (count + 1) r p).1 = .ok .busy) :
    min content.length (r.position + LineReader.blockSize) ≤
      (drain hs cursor true (count + 1) r p).2.1.position := by
  have hblock := LineReader.block_le_nextLine (r := r) (by simp [hbuffer]) content
  unfold drain at hpause ⊢
  simp only [Bool.not_true, Bool.false_eq_true, if_false, hholds.read_eq hcontent] at hpause ⊢
  split at hpause
  · cases hpause
  next hempty =>
    split at hpause
    · cases hpause
    next hlast =>
      rw [if_neg hempty, if_neg hlast]
      exact Nat.le_trans hblock (position_le_drain hs cursor true (by simp [hpause]))

/-- A busy poll that opens the log reads a block ahead, or all of the log. -/
theorem block_le_poll (hs : Handlers σ) {s : Surroundings σ}
    (hlog : s.files.Shows p.path inode content) (hclosed : p.reader? = none)
    (hover : p.startsOver inode content.length = false)
    (hpause : (p.poll hs true s).1 = .ok .busy) :
    ∀ r ∈ (p.poll hs true s).2.1.reader?,
      min content.length (p.offset + LineReader.blockSize) ≤ r.position := by
  obtain ⟨modified, hinfo⟩ := hlog.metadata
  have hopen : s.files.openFile p.path = .ok ⟨inode, false⟩ := hlog.openFile
  simp only [poll, hinfo, notice_eq, hover, reader, hclosed, hopen, bind, Except.bind,
    Bool.false_eq_true, if_false] at hpause ⊢
  intro r hr
  cases hr
  exact block_le_drain hs p.cursorPath (LineReader.openAt_holds inode p.offset) rfl
    (FileSystem.content_eq hlog.bytes) hpause

/-! ### A log that is gone -/

theorem noticeMissing_reader (p : Poller) (s : Surroundings σ) :
    (p.noticeMissing s).1.reader? = none := by
  unfold noticeMissing
  split
  · rfl
  next hnone =>
    obtain ⟨hreader, -⟩ : p.reader? = none ∧ p.offset = 0 := by simpa using hnone
    exact hreader

/-- Of the reader, only whether there is one matters. -/
theorem noticeMissing_congr {r? : Option LineReader} (s : Surroundings σ)
    (hsome : r?.isSome = p.reader?.isSome) :
    { p with reader? := r? }.noticeMissing s = p.noticeMissing s := by
  simp only [noticeMissing, hsome]
  split
  · rfl
  next hnone =>
    obtain ⟨hreader, -⟩ : p.reader? = none ∧ p.offset = 0 := by simpa using hnone
    rw [hreader, Option.isSome_none, Option.isSome_eq_false_iff, Option.isNone_iff_eq_none] at hsome
    rw [hsome, ← hreader]

end Poller

/-! ## Two pollers -/

/-- A poller in its surroundings, and the lines that it has handed on. -/
structure Tailing (σ : Type) where
  poller : Poller
  around : Surroundings σ
  handed : List (List UInt8) := []

/-- What happens next: files change, in whatever way, or the log is polled. -/
inductive Turn where
  | change (f : FileSystem → FileSystem)
  | poll

namespace Tailing

/-- One turn, in which a poll may renew the reader before. -/
def step (hs : Handlers σ) (renew : Bool) (t : Tailing σ) : Turn → Tailing σ
  | .change f => { t with around := { t.around with files := f t.around.files } }
  | .poll =>
    let p := if renew then t.poller.renewed t.around.files else t.poller
    let (_, poller, around) := p.poll hs true t.around
    ⟨poller, around, t.handed ++ p.handed hs true t.around⟩

def run (hs : Handlers σ) (renew : Bool) (t : Tailing σ) (turns : List Turn) : Tailing σ :=
  turns.foldl (step hs renew) t

/-- The same lines were handed on, and the same offset, counts and files are left. -/
structure Agrees (t u : Tailing σ) : Prop where
  handed : t.handed = u.handed
  offset : t.poller.offset = u.poller.offset
  around : t.around = u.around

/-- There is no log, or one that saves leave as it is. -/
def Polls (t : Tailing σ) : Prop :=
  t.around.files.find t.poller.path = .error .notFound ∨
    ∃ inode content,
      CursorFile.KeepsLog t.around.files t.poller.cursorPath t.poller.path inode content

/-- If there is a log, the next poll hands on lines that stand in it. -/
def Faithful (t : Tailing σ) : Prop :=
  ∀ inode content, t.around.files.Shows t.poller.path inode content →
    t.poller.Faithful inode content

def withReader (t : Tailing σ) (r? : Option LineReader) : Tailing σ :=
  { t with poller := { t.poller with reader? := r? } }

/-- The same but for the reader. -/
def Twin (t u : Tailing σ) : Prop :=
  ∃ r?, r?.isSome = t.poller.reader?.isSome ∧ u = t.withReader r?

theorem Twin.agrees {t u : Tailing σ} (h : t.Twin u) : t.Agrees u := by
  obtain ⟨r?, -, rfl⟩ := h
  exact ⟨rfl, rfl, rfl⟩

/-- What a poll leaves that finds a log and hands on some lines. -/
def after (hs : Handlers σ) (t : Tailing σ) (inode length : Nat) (lines : List (List UInt8))
    (r : LineReader) : Tailing σ :=
  let progress := lines.foldl (Progress.performLine hs t.poller.cursorPath)
    ⟨t.poller.base inode length, t.poller.noticed inode length t.around⟩
  ⟨{ t.poller with offset := progress.offset, inode? := some inode, reader? := some r },
    progress.surroundings, t.handed ++ lines⟩

section Poll

variable (hs : Handlers σ) {t u : Tailing σ} {inode : Nat} {content : List UInt8}

theorem step_missing (renew : Bool) (hlog : t.around.files.find t.poller.path = .error .notFound) :
    t.step hs renew .poll =
      ⟨(t.poller.noticeMissing t.around).1, (t.poller.noticeMissing t.around).2, t.handed⟩ := by
  obtain ⟨hhanded, hpoll⟩ := Poller.poll_missing hs true hlog
  have hsame : (if renew then t.poller.renewed t.around.files else t.poller) = t.poller := by
    rw [Poller.renewed_missing hlog, ite_self]
  simp only [step, hsame, hhanded, hpoll, List.append_nil]

/-- A poll with the kept reader hands on what is ahead of the reader. -/
theorem step_kept (hkept : t.poller.Kept)
    (hlog : CursorFile.KeepsLog t.around.files t.poller.cursorPath t.poller.path inode content) :
    ∃ r, t.step hs false .poll =
        t.after hs inode content.length
          ((Log.lines (t.poller.ahead inode content)).take maxLinesPerPoll) r ∧
      r.Holds inode (t.step hs false .poll).poller.offset := by
  obtain ⟨hhanded, r, hpoll, hholds, -⟩ :=
    Poller.poll_ahead hs hlog fun hover => hkept.holds hover
  have hstep : t.step hs false .poll = t.after hs inode content.length
      ((Log.lines (t.poller.ahead inode content)).take maxLinesPerPoll) r := by
    simp only [step, Bool.false_eq_true, if_false, hpoll, hhanded]
    rfl
  refine ⟨r, hstep, ?_⟩
  rw [hstep]
  exact hholds

theorem kept_step (hkept : t.poller.Kept) (turn : Turn) (hlog : turn = .poll → t.Polls) :
    (t.step hs false turn).poller.Kept := by
  cases turn with
  | change f => exact hkept
  | poll =>
      intro r hr
      rcases hlog rfl with hmissing | ⟨inode, content, hlog⟩
      · rw [step_missing hs false hmissing, Poller.noticeMissing_reader] at hr
        cases hr
      · obtain ⟨r', hstep, hholds⟩ := step_kept hs hkept hlog
        rw [hstep] at hr hholds ⊢
        cases hr
        exact ⟨inode, rfl, hholds⟩

/-- A poll with a renewed reader hands on what stands in the file. -/
theorem step_renewed
    (hlog : CursorFile.KeepsLog t.around.files t.poller.cursorPath t.poller.path inode content) :
    ∃ r, t.step hs true .poll =
      t.after hs inode content.length
        ((Log.lines (content.drop (t.poller.base inode content.length))).take maxLinesPerPoll)
        r := by
  have hready := Poller.renewed_ready hlog.shows
  rw [Poller.renewed_shows hlog.shows] at hready
  obtain ⟨hhanded, r, hpoll, -⟩ := Poller.poll_eq hs (p := { t.poller with
    reader? := t.poller.reader?.map fun _ => .openAt ⟨inode, false⟩ t.poller.offset }) hlog hready
  refine ⟨r, ?_⟩
  simp only [step, if_true, Poller.renewed_shows hlog.shows, hpoll, hhanded]
  rfl

theorem faithful_iff (hlog : t.around.files.Shows t.poller.path inode content) :
    t.Faithful ↔ t.poller.Faithful inode content := by
  constructor
  · exact fun hfaithful => hfaithful inode content hlog
  · intro hfaithful other bytes hother
    obtain ⟨rfl, rfl⟩ := hother.unique hlog
    exact hfaithful

theorem Polls.keepsLog (h : t.Polls) (hlog : t.around.files.Shows t.poller.path inode content) :
    CursorFile.KeepsLog t.around.files t.poller.cursorPath t.poller.path inode content := by
  rcases h with hmissing | ⟨other, bytes, hkeeps⟩
  · have hfind := hlog.find
    rw [hmissing] at hfind
    cases hfind
  · obtain ⟨rfl, rfl⟩ := hlog.unique hkeeps.shows
    exact hkeeps

theorem faithful_of_missing (hlog : t.around.files.find t.poller.path = .error .notFound) :
    t.Faithful := by
  intro inode content hshows
  have hfind := hshows.find
  rw [hlog] at hfind
  cases hfind

/-- Both pollers notice that the log is gone, and have no reader left. -/
theorem Twin.missing (h : t.Twin u)
    (hlog : t.around.files.find t.poller.path = .error .notFound) :
    (t.step hs false .poll).Twin (u.step hs true .poll) := by
  obtain ⟨r?, hsome, rfl⟩ := h
  have hsame : (t.withReader r?).step hs true .poll = t.step hs false .poll := by
    rw [step_missing hs false hlog, step_missing hs true (t := t.withReader r?) hlog]
    simp only [withReader, Poller.noticeMissing_congr t.around hsome]
  rw [hsame]
  exact ⟨_, rfl, rfl⟩

/-- Pollers that are the same but for the reader stay so over a poll if and only if the reader hands
on what stands in the file. -/
theorem Twin.poll (h : t.Twin u) (hkept : t.poller.Kept) (hlog : t.Polls) :
    ((t.step hs false .poll).Agrees (u.step hs true .poll) ↔ t.Faithful) ∧
      (t.Faithful → (t.step hs false .poll).Twin (u.step hs true .poll)) := by
  rcases hlog with hmissing | ⟨inode, content, hlog⟩
  · have hfaithful := faithful_of_missing hmissing
    have htwin := h.missing hs hmissing
    exact ⟨⟨fun _ => hfaithful, fun _ => htwin.agrees⟩, fun _ => htwin⟩
  · obtain ⟨r?, hsome, rfl⟩ := h
    obtain ⟨r, hstep, -⟩ := step_kept hs hkept hlog
    obtain ⟨r', hstep'⟩ := step_renewed hs (t := t.withReader r?) hlog
    have htwin : t.Faithful →
        (t.step hs false .poll).Twin ((t.withReader r?).step hs true .poll) := by
      intro hfaithful
      rw [hstep, hstep', (faithful_iff hlog.shows).mp hfaithful]
      exact ⟨some r', rfl, rfl⟩
    refine ⟨⟨fun hagrees => ?_, fun hfaithful => (htwin hfaithful).agrees⟩, htwin⟩
    have hhanded := hagrees.handed
    rw [hstep, hstep'] at hhanded
    exact (faithful_iff hlog.shows).mpr (List.append_cancel_left hhanded)

/-- A poll that hands on what stands in the file leaves the offset within the file. -/
theorem step_faithful (hkept : t.poller.Kept)
    (hlog : CursorFile.KeepsLog t.around.files t.poller.cursorPath t.poller.path inode content)
    (hfaithful : t.poller.Faithful inode content) :
    ∃ lines, (t.step hs false .poll).handed = t.handed ++ lines ∧
      lines.flatten <+: content.drop (t.poller.base inode content.length) ∧
      (t.step hs false .poll).poller.offset ≤ content.length := by
  obtain ⟨r, hstep, -⟩ := step_kept hs hkept hlog
  rw [hstep, hfaithful]
  refine ⟨_, rfl, Log.flatten_take_isPrefix _ _, ?_⟩
  simp only [after, Progress.foldl_performLine_offset]
  exact t.poller.base_add_le inode content maxLinesPerPoll

end Poll

/-! ## All turns -/

section Run

variable (hs : Handlers σ)

@[simp]
theorem step_change_poller (renew : Bool) (t : Tailing σ) (f : FileSystem → FileSystem) :
    (t.step hs renew (.change f)).poller = t.poller := rfl

@[simp]
theorem step_change_handed (renew : Bool) (t : Tailing σ) (f : FileSystem → FileSystem) :
    (t.step hs renew (.change f)).handed = t.handed := rfl

theorem run_take_succ (renew : Bool) (t : Tailing σ) {turns : List Turn} {k : Nat} {turn : Turn}
    (hturn : turns[k]? = some turn) :
    t.run hs renew (turns.take (k + 1)) = (t.run hs renew (turns.take k)).step hs renew turn := by
  rw [List.take_add_one, hturn, run, List.foldl_append]
  rfl

theorem run_kept {t : Tailing σ} (hkept : t.poller.Kept) {turns : List Turn}
    (hlog : ∀ k, turns[k]? = some .poll → (t.run hs false (turns.take k)).Polls) (k : Nat) :
    (t.run hs false (turns.take k)).poller.Kept := by
  induction k with
  | zero => exact hkept
  | succ k ih =>
      cases hturn : turns[k]? with
      | none => rwa [List.take_add_one, hturn, Option.toList_none, List.append_nil]
      | some turn =>
          rw [run_take_succ hs false t hturn]
          exact kept_step hs ih turn fun hpoll => hlog k (hpoll ▸ hturn)

/-- Pollers that are the same but for the reader leave the same after all turns if and only if every
poll hands on what stands in the file. -/
theorem Twin.run_iff {t u : Tailing σ} (h : t.Twin u) (hkept : t.poller.Kept) {turns : List Turn}
    (hlog : ∀ k, turns[k]? = some .poll → (t.run hs false (turns.take k)).Polls) :
    (∀ k, (t.run hs false (turns.take k)).Agrees (u.run hs true (turns.take k))) ↔
      ∀ k, turns[k]? = some .poll → (t.run hs false (turns.take k)).Faithful := by
  induction turns generalizing t u with
  | nil => exact ⟨fun _ k hk => by simp at hk, fun _ k => by simpa [run] using h.agrees⟩
  | cons turn rest ih =>
      have hrest : ∀ k, rest[k]? = some .poll →
          ((t.step hs false turn).run hs false (rest.take k)).Polls := fun k => hlog (k + 1)
      cases turn with
      | change f =>
          have hnext : (t.step hs false (.change f)).Twin (u.step hs true (.change f)) := by
            obtain ⟨r?, hsome, rfl⟩ := h
            exact ⟨r?, hsome, rfl⟩
          have hiff := ih hnext hkept hrest
          constructor
          · intro hall k hk
            cases k with
            | zero => cases hk
            | succ k => exact hiff.mp (fun k => hall (k + 1)) k hk
          · intro hall k
            cases k with
            | zero => exact h.agrees
            | succ k => exact hiff.mpr (fun k => hall (k + 1)) k
      | poll =>
          obtain ⟨hpoll, hnext⟩ := h.poll hs hkept (hlog 0 rfl)
          have hkept' := kept_step hs hkept .poll fun _ => hlog 0 rfl
          -- only a faithful poll leaves pollers that are the same again
          constructor
          · intro hall k hk
            have hfaithful := hpoll.mp (hall 1)
            cases k with
            | zero => exact hfaithful
            | succ k => exact (ih (hnext hfaithful) hkept' hrest).mp (fun k => hall (k + 1)) k hk
          · intro hall k
            cases k with
            | zero => exact h.agrees
            | succ k =>
                exact (ih (hnext (hall 0 rfl)) hkept' hrest).mpr (fun k => hall (k + 1)) k

/-- Whatever happens to the files, a poller that keeps its reader and one that opens the log anew
for each poll hand on the same lines and leave the same if and only if the former only ever hands on
what stands in the file. It does so while what it has read ahead still stands there, and then the
offset stays within the file. -/
theorem kept_reader_unseen_iff {t : Tailing σ} (hclosed : t.poller.reader? = none)
    (turns : List Turn)
    (hlog : ∀ k, turns[k]? = some .poll → (t.run hs false (turns.take k)).Polls) :
    ((∀ k, (t.run hs false (turns.take k)).Agrees (t.run hs true (turns.take k))) ↔
        ∀ k, turns[k]? = some .poll → (t.run hs false (turns.take k)).Faithful) ∧
      ∀ k, turns[k]? = some .poll →
        let before := t.run hs false (turns.take k)
        let after := t.run hs false (turns.take (k + 1))
        ∀ inode content, before.around.files.Shows before.poller.path inode content →
          (before.poller.Intact inode content → before.Faithful) ∧
          (before.Faithful → ∃ lines, after.handed = before.handed ++ lines ∧
            lines.flatten <+: content.drop (before.poller.base inode content.length) ∧
            after.poller.offset ≤ content.length) := by
  have hkept : t.poller.Kept := fun r hr => by
    rw [hclosed] at hr
    cases hr
  refine ⟨Twin.run_iff hs ⟨_, rfl, rfl⟩ hkept hlog, ?_⟩
  intro k hk before after inode content hshows
  have hbefore : before.poller.Kept := run_kept hs hkept hlog k
  have hafter : after = before.step hs false .poll := run_take_succ hs false t hk
  rw [faithful_iff hshows, hafter]
  exact ⟨hbefore.faithful, step_faithful hs hbefore ((hlog k hk).keepsLog hshows)⟩

end Run

/-! ## A log that is cut -/

open CursorFile (logBeside logBeside_savable)
open LineReader (lineFeed)

/-- A new poller at a log. -/
def opened (content : List UInt8) : Tailing Unit where
  poller := { path := ⟨"/log"⟩, cursorPath := ⟨"/cursor"⟩, offset := 0 }
  around := ⟨logBeside 1 content [48], {}, ()⟩

/-- A busy poll of a log of at most a block reads all of it, and keeps what it does not hand on. -/
theorem step_opened {content : List UInt8} {lines : List (List UInt8)}
    (hlines : (Log.lines content).take maxLinesPerPoll = lines)
    (hbusy : maxLinesPerPoll ≤ (Log.lines content).length)
    (hblock : content.length ≤ LineReader.blockSize)
    (hleft : lines.flatten.length < content.length) :
    ((opened content).step Handlers.none false .poll).poller =
        { (opened content).poller with
          offset := lines.flatten.length
          inode? := some 1
          reader? := some ⟨⟨1, false⟩, content.length, content.drop lines.flatten.length⟩ } ∧
      ((opened content).step Handlers.none false .poll).handed = lines := by
  have hlog := logBeside_savable content [48] (.inl rfl)
  have hover : (opened content).poller.startsOver 1 content.length = false := by
    simp [Poller.startsOver, opened]
  have hahead : (opened content).poller.ahead 1 content = content := by
    rw [Poller.ahead, hover]
    rfl
  have hbase : (opened content).poller.base 1 content.length = 0 := by
    rw [Poller.base, hover]
    rfl
  obtain ⟨hhanded, r, hpoll, hholds, hbuffer⟩ := Poller.poll_ahead (p := (opened content).poller)
    (s := (opened content).around) Handlers.none hlog.keepsLog fun _ r hr => by cases hr
  have hpause : Poller.pauseAfter maxLinesPerPoll content = .busy := if_pos hbusy
  simp only [hahead, hlines, hbase, hpause, Progress.foldl_performLine_offset, Nat.zero_add]
    at hhanded hpoll hholds hbuffer
  have hread := Poller.block_le_poll (p := (opened content).poller) Handlers.none
    hlog.shows rfl hover (by rw [hpoll]) r (by rw [hpoll]; rfl)
  have hposition := hholds.position
  have hkept : r.buffer = content.drop lines.flatten.length := by
    rcases hbuffer with hnone | ⟨-, hrest⟩
    · rw [hnone, List.length_nil] at hposition
      simp only [opened, LineReader.blockSize] at hread hblock
      omega
    · have hend : content.drop r.position = [] := by
        refine List.drop_eq_nil_iff.mpr ?_
        simp only [opened, LineReader.blockSize] at hread hblock
        omega
      rwa [LineReader.ahead, hend, List.append_nil] at hrest
  have hend : r.position = content.length := by
    rw [hposition, hkept, List.length_drop]
    omega
  have hr : r = ⟨⟨1, false⟩, content.length, content.drop lines.flatten.length⟩ := by
    rw [← hholds.handle, ← hend, ← hkept]
  rw [hr] at hpoll
  simp only [step, Bool.false_eq_true, if_false, hpoll, hhanded]
  exact ⟨trivial, List.nil_append lines⟩

/-- Empty lines. -/
def blank (count : Nat) : List UInt8 := .replicate count lineFeed

theorem length_blank (count : Nat) : (blank count).length = count := List.length_replicate

theorem lines_blank (count : Nat) : Log.lines (blank count) = .replicate count [lineFeed] :=
  Log.lines_replicate count

theorem drop_blank (count more : Nat) : (blank (count + more)).drop count = blank more := by
  rw [blank, List.drop_replicate, Nat.add_sub_cancel_left, blank]

/-- A log of 1025 lines is polled, cut behind those that were handed on, and polled again. -/
def cutting : List Turn :=
  [.poll, .change fun _ => logBeside 1 (blank 1024) [49, 48, 50, 52], .poll]

theorem step_blank :
    ((opened (blank 1025)).step Handlers.none false .poll).poller =
        { (opened (blank 1025)).poller with
          offset := 1024, inode? := some 1, reader? := some ⟨⟨1, false⟩, 1025, [lineFeed]⟩ } ∧
      ((opened (blank 1025)).step Handlers.none false .poll).handed =
        .replicate 1024 [lineFeed] := by
  have hlines : (Log.lines (blank 1025)).take maxLinesPerPoll = .replicate 1024 [lineFeed] := by
    rw [lines_blank, List.take_replicate]
    rfl
  have hbusy : maxLinesPerPoll ≤ (Log.lines (blank 1025)).length := by
    rw [lines_blank, List.length_replicate]
    decide
  have hstep := step_opened hlines hbusy (by rw [length_blank]; decide)
    (by rw [length_blank, Log.length_flatten_replicate]; decide)
  rw [Log.length_flatten_replicate, length_blank, drop_blank 1024 1] at hstep
  exact hstep

/-- After the log was cut. -/
def left : Tailing Unit :=
  ((opened (blank 1025)).step Handlers.none false .poll).step Handlers.none false
    (.change fun _ => logBeside 1 (blank 1024) [49, 48, 50, 52])

theorem left_poller : left.poller =
    { path := ⟨"/log"⟩, cursorPath := ⟨"/cursor"⟩, offset := 1024, inode? := some 1,
      reader? := some ⟨⟨1, false⟩, 1025, [lineFeed]⟩ } := by
  rw [left, step_change_poller, step_blank.1]
  rfl

theorem left_keepsLog :
    CursorFile.KeepsLog left.around.files left.poller.cursorPath left.poller.path 1
      (blank 1024) := by
  rw [left_poller]
  exact (logBeside_savable (blank 1024) [49, 48, 50, 52] (.inl rfl)).keepsLog

theorem polls_cutting (k : Nat) (hk : cutting[k]? = some .poll) :
    ((opened (blank 1025)).run Handlers.none false (cutting.take k)).Polls := by
  match k with
  | 0 => exact .inr ⟨1, _, (logBeside_savable (blank 1025) [48] (.inl rfl)).keepsLog⟩
  | 1 => cases hk
  | 2 => exact .inr ⟨1, _, left_keepsLog⟩

/-- The line that was read ahead is no longer in the log, and all the same it is handed on: the
offset is behind the end of the log. -/
theorem left_step :
    ¬ left.Faithful ∧ (left.step Handlers.none false .poll).handed = .replicate 1025 [lineFeed] ∧
      (left.step Handlers.none false .poll).poller.offset = 1025 := by
  have hkept : left.poller.Kept := by
    rw [left_poller]
    intro r hr
    cases hr
    exact ⟨1, rfl, rfl, rfl⟩
  have hover : left.poller.startsOver 1 (blank 1024).length = false := by
    rw [left_poller, length_blank]
    rfl
  have hbase : left.poller.base 1 (blank 1024).length = 1024 := by
    rw [Poller.base, hover, left_poller]
    rfl
  have hahead : left.poller.ahead 1 (blank 1024) = [lineFeed] := by
    have hend : (blank 1024).drop 1025 = [] :=
      List.drop_of_length_le (by rw [length_blank]; decide)
    rw [Poller.ahead, hover, left_poller]
    simp only [LineReader.ahead, hend, Bool.false_eq_true, if_false, List.append_nil]
  have hlines : (Log.lines [lineFeed]).take maxLinesPerPoll = [[lineFeed]] := rfl
  have hgone : (blank 1024).drop 1024 = [] := List.drop_of_length_le (length_blank 1024).le
  have hhanded : left.handed = .replicate 1024 [lineFeed] := by
    rw [left, step_change_handed, step_blank.2]
  obtain ⟨r, hstep, -⟩ := step_kept Handlers.none hkept left_keepsLog
  rw [hahead, hlines] at hstep
  refine ⟨fun hfaithful => ?_, ?_, ?_⟩
  · have hsame := (faithful_iff left_keepsLog.shows).mp hfaithful
    rw [Poller.Faithful, hahead, hlines, hbase, hgone] at hsame
    cases hsame
  · rw [hstep, after, hhanded]
    exact (List.replicate_succ' ..).symm
  · rw [hstep]
    simp only [after, Progress.foldl_performLine_offset, hbase]
    rfl

theorem run_cutting :
    (opened (blank 1025)).run Handlers.none false cutting =
      left.step Handlers.none false .poll := by
  simp only [run, cutting, List.foldl_cons, List.foldl_nil, left]

/-- The kept reader is seen. -/
theorem cutting_seen :
    (∀ k, cutting[k]? = some .poll →
        ((opened (blank 1025)).run Handlers.none false (cutting.take k)).Polls) ∧
      ((opened (blank 1025)).run Handlers.none false cutting).poller.offset = 1025 ∧
      ¬ ∀ k, ((opened (blank 1025)).run Handlers.none false (cutting.take k)).Agrees
        ((opened (blank 1025)).run Handlers.none true (cutting.take k)) := by
  rw [run_cutting]
  refine ⟨polls_cutting, left_step.2.2, fun hall => ?_⟩
  have hfaithful := (kept_reader_unseen_iff Handlers.none rfl cutting polls_cutting).1.mp hall
  exact left_step.1 (hfaithful 2 rfl)

end Tailing

end DebugDashboard
