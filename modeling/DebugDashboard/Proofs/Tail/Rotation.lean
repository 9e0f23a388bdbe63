import DebugDashboard.Proofs.Tail.Accounts

/-!
# Rotation

Between two polls the log may grow, be cut, be replaced, be removed and be made again. If it was
removed or replaced, or is shorter than the offset, the next poll that finds a file begins at the
start of the file, and otherwise it goes on at the offset. What a poll notices is counted once, and
the lines that it hands on are the ones that it accounts for.
-/

namespace DebugDashboard

variable {σ : Type}

/-! ## What happens to the log -/

/-- What stands at the log: a file with its number and content, or nothing. -/
abbrev View := Option (Nat × List UInt8)

/-- The log is as it is viewed, and saving the cursor leaves it so. -/
def Shown (files : FileSystem) (cursor log : Path) : View → Prop
  | some (inode, content) => CursorFile.KeepsLog files cursor log inode content
  | none => files.find log = .error .notFound

/-- What happens to the log. -/
inductive FileEvent where
  | append (bytes : List UInt8)
  /-- The file is cut in place. -/
  | truncate (length : Nat)
  | remove
  /-- A file is put in the place of the log, or is made. -/
  | put (inode : Nat) (content : List UInt8)
  deriving Repr, DecidableEq

/-- What happened to the log since the previous poll. -/
structure Since where
  /-- Whether that poll found a file. -/
  found : Bool
  /-- Whether a file was removed or replaced. -/
  broken : Bool := false
  /-- Whether a file was cut. -/
  cut : Bool := false
  deriving Repr, DecidableEq

namespace FileEvent

/-- The log after an event. -/
def view : FileEvent → View → View
  | append bytes, view => view.map fun (inode, content) => (inode, content ++ bytes)
  | truncate length, view => view.map fun (inode, content) => (inode, content.take length)
  | remove, _ => none
  | put inode content, _ => some (inode, content)

/-- What happened, and besides an event to a log that was viewed before. -/
def since (e : FileEvent) (view : View) (since : Since) : Since :=
  match e with
  | append _ => since
  | truncate length =>
    { since with cut := since.cut || view.any fun (_, content) => length < content.length }
  | remove => { since with broken := since.broken || view.isSome }
  | put _ _ => { since with broken := since.broken || view.isSome }

end FileEvent

/-- A log that was cut, and not replaced as well, is still shorter than the offset. -/
def Since.CutSeen (since : Since) (offset : Nat) (view : View) : Prop :=
  since.found = true → since.broken = false → since.cut = true →
    ∀ inode content, view = some (inode, content) → content.length < offset

/-- What a poller, its surroundings and the log can come to after a first poll of the log. A file
that is put there is another one than the poller knows. -/
inductive Story (hs : Handlers σ) : Poller → Surroundings σ → View → Since → Prop
  | first {p : Poller} {s : Surroundings σ} {inode : Nat} {content : List UInt8}
      (hreader : p.reader? = none)
      (hlog : CursorFile.KeepsLog s.files p.cursorPath p.path inode content) :
      Story hs (p.poll hs true s).2.1 (p.poll hs true s).2.2 (some (inode, content))
        { found := true }
  | change {p : Poller} {s : Surroundings σ} {view : View} {since : Since} {files : FileSystem}
      (h : Story hs p s view since) (e : FileEvent)
      (hother : ∀ inode content, e = .put inode content → p.inode? ≠ some inode)
      (hfiles : Shown files p.cursorPath p.path (e.view view)) :
      Story hs p { s with files := files } (e.view view) (e.since view since)
  | poll {p : Poller} {s : Surroundings σ} {view : View} {since : Since}
      (h : Story hs p s view since) (hcut : since.CutSeen p.offset view) :
      Story hs (p.poll hs true s).2.1 (p.poll hs true s).2.2 view { found := view.isSome }

/-! ## What the poller knows -/

/-- How the poller knows the log: after a poll that found a file, the file with its number, unless
it was removed or replaced; and after one that found none, nothing. -/
structure Knows (p : Poller) (s : Surroundings σ) (view : View) (since : Since) : Prop where
  shown : Shown s.files p.cursorPath p.path view
  found : since.found = true → ∃ inode r, p.inode? = some inode ∧ p.reader? = some r ∧
    (since.broken = true → ∀ other content, view = some (other, content) → other ≠ inode) ∧
    (since.broken = false → ∃ content, view = some (inode, content) ∧
      (since.cut = false → r.At inode content p.offset))
  missed : since.found = false → p.offset = 0 ∧ p.inode? = none ∧ p.reader? = none

namespace Knows

variable {p : Poller} {s : Surroundings σ} {view : View} {since : Since} {inode : Nat}
  {content : List UInt8}

theorem change (h : Knows p s view since) (e : FileEvent)
    (hother : ∀ inode content, e = .put inode content → p.inode? ≠ some inode)
    {files : FileSystem} (hfiles : Shown files p.cursorPath p.path (e.view view)) :
    Knows p { s with files := files } (e.view view) (e.since view since) := by
  refine ⟨hfiles, fun hfound => ?_, fun hmissed => h.missed (by cases e <;> exact hmissed)⟩
  obtain ⟨inode, r, hinode, hreader, hbroken, hwhole⟩ := h.found (by cases e <;> exact hfound)
  refine ⟨inode, r, hinode, hreader, ?_⟩
  cases e with
  | append bytes =>
      refine ⟨fun hb other content hview => ?_, fun hb => ?_⟩
      · obtain ⟨⟨i, c⟩, hi, heq⟩ := Option.map_eq_some_iff.mp hview
        cases heq
        exact hbroken hb _ _ hi
      · obtain ⟨content, rfl, hat⟩ := hwhole hb
        exact ⟨content ++ bytes, rfl, fun hcut => (hat hcut).append bytes⟩
  | truncate length =>
      refine ⟨fun hb other content hview => ?_, fun hb => ?_⟩
      · obtain ⟨⟨i, c⟩, hi, heq⟩ := Option.map_eq_some_iff.mp hview
        cases heq
        exact hbroken hb _ _ hi
      · obtain ⟨content, rfl, hat⟩ := hwhole hb
        refine ⟨content.take length, rfl, fun hcut => ?_⟩
        simp only [FileEvent.since, Option.any_some, Bool.or_eq_false_iff, decide_eq_false_iff_not,
          Nat.not_lt] at hcut
        rw [List.take_of_length_le hcut.2]
        exact hat hcut.1
  | remove =>
      refine ⟨fun _ other content hview => by (cases hview), fun hb => ?_⟩
      obtain ⟨hb, hview⟩ := Bool.or_eq_false_iff.mp hb
      obtain ⟨content, rfl, -⟩ := hwhole hb
      cases hview
  | put new content =>
      -- by `hother` it is not the file that the poller knows
      refine ⟨fun _ other content hview => ?_, fun hb => ?_⟩
      · cases hview
        rintro rfl
        exact hother _ _ rfl hinode
      · obtain ⟨hb, hview⟩ := Bool.or_eq_false_iff.mp hb
        obtain ⟨content, rfl, -⟩ := hwhole hb
        cases hview

theorem startsOver (h : Knows p s (some (inode, content)) since) :
    p.startsOver inode content.length =
      (since.found && (since.broken || decide (content.length < p.offset))) := by
  cases hfound : since.found with
  | false =>
      obtain ⟨hoffset, hinode, -⟩ := h.missed hfound
      simp [Poller.startsOver, hoffset, hinode]
  | true =>
      obtain ⟨known, r, hinode, -, hbroken, hwhole⟩ := h.found hfound
      cases hb : since.broken with
      | true =>
          have hne := hbroken hb _ _ rfl
          simp [Poller.startsOver, hinode, Ne.symm hne]
      | false =>
          obtain ⟨_, heq, -⟩ := hwhole hb
          cases heq
          simp [Poller.startsOver, hinode]

theorem base (h : Knows p s (some (inode, content)) since) :
    p.base inode content.length =
      if since.broken || decide (content.length < p.offset) then 0 else p.offset := by
  rw [Poller.base, h.startsOver]
  cases hfound : since.found with
  | false => simp [(h.missed hfound).1]
  | true => rfl

theorem ready (h : Knows p s (some (inode, content)) since)
    (hcut : since.CutSeen p.offset (some (inode, content))) : p.Ready inode content := by
  intro hover r hr
  rw [h.startsOver] at hover
  cases hfound : since.found with
  | false =>
      rw [(h.missed hfound).2.2] at hr
      cases hr
  | true =>
      rw [hfound, Bool.true_and, Bool.or_eq_false_iff, decide_eq_false_iff_not] at hover
      obtain ⟨known, r', -, hreader, -, hwhole⟩ := h.found hfound
      obtain ⟨_, heq, hat⟩ := hwhole hover.1
      cases heq
      obtain rfl : r' = r := Option.some.inj (hreader.symm.trans hr)
      refine hat ?_
      cases hc : since.cut with
      | false => rfl
      | true => exact absurd (hcut hfound hover.1 hc _ _ rfl) hover.2

/-- After a poll that is ready for the file it finds, the poller knows the file. -/
theorem of_poll (hs : Handlers σ)
    (hlog : CursorFile.KeepsLog s.files p.cursorPath p.path inode content)
    (hready : p.Ready inode content) :
    Knows (p.poll hs true s).2.1 (p.poll hs true s).2.2 (some (inode, content))
      { found := true } := by
  obtain ⟨-, r, hpoll, hat⟩ := Poller.poll_eq hs hlog hready
  rw [hpoll]
  refine ⟨?_, fun _ => ⟨inode, r, rfl, rfl, fun hb => by (cases hb), fun _ => ?_⟩,
    fun hmissed => by (cases hmissed)⟩
  · refine Progress.foldl_performLine_files
      (I := (CursorFile.KeepsLog · p.cursorPath p.path inode content)) hs _ _ _
      (fun _ n h => h.save n) ?_
    rw [Poller.noticed_files]
    exact hlog
  · exact ⟨content, rfl, fun _ => hat⟩

/-- A poll that finds no file forgets the one it knew, and counts that once. -/
theorem noticeMissing (h : Knows p s none since) :
    Knows (p.noticeMissing s).1 (p.noticeMissing s).2 none { found := false } ∧
      (p.noticeMissing s).2.stats.rotations =
        s.stats.rotations + if since.found then 1 else 0 := by
  cases hfound : since.found with
  | false =>
      obtain ⟨hoffset, hinode, hreader⟩ := h.missed hfound
      simp only [Poller.noticeMissing, hreader, hoffset]
      exact ⟨⟨h.shown, fun hf => by (cases hf), fun _ => ⟨hoffset, hinode, hreader⟩⟩, rfl⟩
  | true =>
      obtain ⟨known, r, -, hreader, -, -⟩ := h.found hfound
      simp only [Poller.noticeMissing, hreader]
      exact ⟨⟨h.shown, fun hf => by (cases hf), fun _ => ⟨rfl, rfl, rfl⟩⟩, rfl⟩

theorem poll (hs : Handlers σ) (h : Knows p s view since) (hcut : since.CutSeen p.offset view) :
    Knows (p.poll hs true s).2.1 (p.poll hs true s).2.2 view { found := view.isSome } := by
  cases view with
  | some log => exact of_poll hs h.shown (h.ready hcut)
  | none =>
      rw [(Poller.poll_missing hs true h.shown).2]
      exact h.noticeMissing.1

end Knows

namespace Story

variable {hs : Handlers σ} {p : Poller} {s : Surroundings σ} {view : View} {since : Since}

theorem knows (h : Story hs p s view since) : Knows p s view since := by
  induction h with
  | first hreader hlog =>
      refine Knows.of_poll hs hlog fun _ r hr => ?_
      rw [hreader] at hr
      cases hr
  | change h e hother hfiles ih => exact ih.change e hother hfiles
  | poll h hcut ih => exact ih.poll hs hcut

/-- After whatever happened to the log, a poll that finds a file hands on the first 1024 complete
lines of the file as it is now, from its start if it was removed or replaced or is shorter than the
offset, and from the offset if not. A poll that finds none hands on nothing. Each counts what it
notices once, and nothing if the poll before found no file. The lines are counted as what they are,
and the handlers are called for them, once and in order. -/
theorem poll_after_events (h : Story hs p s view since) (hcut : since.CutSeen p.offset view) :
    match view with
    | some (_, content) =>
      let anew := since.broken || decide (content.length < p.offset)
      let base := if anew then 0 else p.offset
      let lines := (Log.lines (content.drop base)).take maxLinesPerPoll
      p.handed hs true s = lines ∧
        ∃ pause p' s', p.poll hs true s = (.ok pause, p', s') ∧ pause ≠ .missingFile ∧
          p'.offset = base + lines.flatten.length ∧
          s'.stats.rotations = s.stats.rotations + (if since.found && anew then 1 else 0) ∧
          hs.Accounts lines s s'
    | none =>
      p.handed hs true s = [] ∧
        ∃ p' s', p.poll hs true s = (.ok .missingFile, p', s') ∧ p'.offset = 0 ∧
          s'.stats.rotations = s.stats.rotations + (if since.found then 1 else 0) ∧
          hs.Accounts [] s s' := by
  have hknows := h.knows
  have haccounts := p.poll_accounts hs true s
  cases view with
  | none =>
      obtain ⟨hhanded, hpoll⟩ := Poller.poll_missing hs true hknows.shown
      obtain ⟨hnext, hcount⟩ := hknows.noticeMissing
      rw [hhanded, hpoll] at haccounts
      exact ⟨hhanded, _, _, hpoll, (hnext.missed rfl).1, hcount, haccounts⟩
  | some log =>
      obtain ⟨inode, content⟩ := log
      obtain ⟨hhanded, r, hpoll, -⟩ := Poller.poll_eq hs hknows.shown (hknows.ready hcut)
      simp only [hknows.base] at hhanded hpoll
      rw [hhanded, hpoll] at haccounts
      refine ⟨hhanded, _, _, _, hpoll, Poller.pauseAfter_ne_missingFile _ _, ?_, ?_, haccounts⟩
      · rw [Progress.foldl_performLine_offset]
      · rw [Progress.foldl_performLine_rotations, Poller.noticed_rotations, hknows.startsOver]

open CursorFile (logBeside logBeside_savable)

/-- After a poll of a line and a fragment. -/
def begun : Poller × Surroundings Unit :=
  ((Poller.mk ⟨"/log"⟩ ⟨"/cursor"⟩ 0 none none).poll Handlers.none true
    ⟨logBeside 1 [97, 10, 98] [], {}, ()⟩).2

/-- After a poll of the same file, cut below the offset. -/
def cut : Poller × Surroundings Unit :=
  (begun.1.poll Handlers.none true { begun.2 with files := logBeside 1 [97] [50] }).2

/-- Another file has taken the place of the log. -/
def replaced : Surroundings Unit := { cut.2 with files := logBeside 3 [99, 10] [50] }

theorem begun_paths : begun.1.cursorPath = ⟨"/cursor"⟩ ∧ begun.1.path = ⟨"/log"⟩ := by
  unfold begun
  rw [Poller.poll_cursorPath, Poller.poll_path]
  exact ⟨rfl, rfl⟩

theorem cut_paths : cut.1.cursorPath = ⟨"/cursor"⟩ ∧ cut.1.path = ⟨"/log"⟩ := by
  unfold cut
  rw [Poller.poll_cursorPath, Poller.poll_path]
  exact begun_paths

theorem story_replaced :
    Story Handlers.none cut.1 replaced (some (3, [99, 10])) { found := true, broken := true } := by
  have hbegun : Story Handlers.none begun.1 begun.2 (some (1, [97, 10, 98])) { found := true } := by
    unfold begun
    exact .first rfl (logBeside_savable _ _ (.inl rfl)).keepsLog
  have hcut : Story Handlers.none cut.1 cut.2 (some (1, [97])) { found := true } := by
    unfold cut
    refine .poll (.change hbegun (.truncate 1) (fun _ _ heq => by cases heq) ?_) ?_
    · rw [begun_paths.1, begun_paths.2]
      exact (logBeside_savable _ _ (.inl rfl)).keepsLog
    · rintro - - - inode content heq
      cases heq
      decide +kernel
  unfold replaced
  refine .change hcut (.put 3 [99, 10]) ?_ ?_
  · rintro inode content heq
    cases heq
    decide +kernel
  · rw [cut_paths.1, cut_paths.2]
    exact (logBeside_savable _ _ (.inr rfl)).keepsLog

/-- The poll after the replacement begins at the start of the new file, and counts a second time. -/
theorem poll_replaced :
    Story Handlers.none cut.1 replaced (some (3, [99, 10])) { found := true, broken := true } ∧
      cut.1.handed Handlers.none true replaced = [[99, 10]] ∧
        ∃ pause p' s', cut.1.poll Handlers.none true replaced = (.ok pause, p', s') ∧
          p'.offset = 2 ∧ s'.stats.rotations = 2 ∧
          Handlers.none.Accounts [[99, 10]] replaced s' := by
  obtain ⟨hhanded, pause, p', s', hpoll, -, hoffset, hrotations, haccounts⟩ :=
    story_replaced.poll_after_events (fun _ hb => by cases hb)
  have hline : cut.1.handed Handlers.none true replaced = [[99, 10]] :=
    hhanded.trans (by decide +kernel)
  exact ⟨story_replaced, hline, pause, p', s', hpoll, hoffset.trans (by decide +kernel),
    hrotations.trans (by decide +kernel), hline ▸ hhanded ▸ haccounts⟩

end Story

end DebugDashboard
