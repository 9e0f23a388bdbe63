import DebugDashboard.Proofs.Tail.Poll

/-!
# A log that only grows

While a log only grows, the lines that a poller has handed on are the first lines from where it
began, and the offset is behind them. Polls take the lines that follow. A poller that began at the
start of the log hands on its first lines.
-/

namespace DebugDashboard.Poller

variable {σ : Type} {p : Poller} {log cursor : Path} {inode : Nat}
  {content : List UInt8} {done : List (List UInt8)}

/-- The poller follows the file that holds `content` from the offset `start` on. Of the lines there,
`done` were handed on. -/
structure FollowsFrom (p : Poller) (start : Nat) (log cursor : Path) (inode : Nat)
    (content : List UInt8) (done : List (List UInt8)) : Prop where
  path : p.path = log
  cursorPath : p.cursorPath = cursor
  start_le : start ≤ content.length
  first : done <+: Log.lines (content.drop start)
  offset : p.offset = start + done.flatten.length
  file : p.inode? = none ∨ p.inode? = some inode
  reader : ∀ r, p.reader? = some r → r.At inode content p.offset

namespace FollowsFrom

variable {start : Nat} (h : p.FollowsFrom start log cursor inode content done)

include h

/-- Bytes that are added disturb neither the poller nor its reader. -/
theorem append (more : List UInt8) :
    p.FollowsFrom start log cursor inode (content ++ more) done :=
  { h with
    start_le := by
      rw [List.length_append]
      exact Nat.le_add_right_of_le h.start_le
    first := by
      rw [List.drop_append_of_le_length h.start_le]
      exact h.first.trans (Log.lines_prefix_append _ more)
    reader := fun r hr => (h.reader r hr).append more }

theorem startsOver : p.startsOver inode content.length = false := by
  have hdone := Log.length_flatten_le h.first
  rw [List.length_drop] at hdone
  have hstart := h.start_le
  have hlength : ¬ content.length < p.offset := by
    rw [h.offset]
    omega
  rcases h.file with hinode | hinode <;> simp [Poller.startsOver, hinode, hlength]

theorem base : p.base inode content.length = p.offset := by
  rw [Poller.base, h.startsOver, if_neg Bool.false_ne_true]

theorem noticed (s : Surroundings σ) : p.noticed inode content.length s = s := by
  rw [Poller.noticed, h.startsOver, if_neg Bool.false_ne_true]

/-- A poll is busy if 1024 lines are left. -/
theorem poll_pause (hs : Handlers σ) {s : Surroundings σ}
    (hlog : CursorFile.KeepsLog s.files cursor log inode content) :
    (p.poll hs true s).1 = .ok (pauseAfter maxLinesPerPoll (content.drop p.offset)) := by
  obtain ⟨rfl, rfl⟩ := And.intro h.path h.cursorPath
  obtain ⟨-, r, hpoll, -⟩ := poll_eq hs hlog fun _ => h.reader
  rw [hpoll, h.base]

/-- A poll takes the next lines, 1024 of them unless fewer are left, and when it has nothing more to
do none is left. -/
theorem poll (hs : Handlers σ) {s : Surroundings σ}
    (hlog : CursorFile.KeepsLog s.files cursor log inode content) :
    let next := (Log.lines (content.drop p.offset)).take maxLinesPerPoll
    p.handed hs true s = next ∧
      ∃ pause p',
        p.poll hs true s = (.ok pause, p',
          (next.foldl (Progress.performLine hs cursor) ⟨p.offset, s⟩).surroundings) ∧
        p'.FollowsFrom start log cursor inode content (done ++ next) ∧
        (pause = .idle ∨ pause = .partialLine →
          done ++ next = Log.lines (content.drop start)) := by
  intro next
  obtain ⟨rfl, rfl⟩ := And.intro h.path h.cursorPath
  obtain ⟨hhanded, r, hpoll, hat⟩ := poll_eq hs hlog fun _ => h.reader
  simp only [h.base, h.noticed] at hhanded hpoll hat
  have hlines := Log.lines_eq_append h.first
  rw [List.drop_drop, ← h.offset] at hlines
  refine ⟨hhanded, _, _, hpoll, ?_, ?_⟩
  · exact {
      path := rfl
      cursorPath := rfl
      start_le := h.start_le
      first := by
        rw [hlines]
        exact (List.prefix_append_right_inj done).mpr (List.take_prefix _ _)
      offset := by
        simp only [Progress.foldl_performLine_offset, List.flatten_append, List.length_append,
          h.offset, next, Nat.add_assoc]
      file := .inr rfl
      reader := fun r' hr => by cases hr; exact hat }
  · intro hpause
    have hfew : (Log.lines (content.drop p.offset)).length ≤ maxLinesPerPoll := by
      by_contra hmany
      have hbusy : pauseAfter maxLinesPerPoll (content.drop p.offset) = .busy :=
        if_pos (Nat.le_of_not_le hmany)
      simp [hbusy] at hpause
    rw [hlines, show next = _ from List.take_of_length_le hfew]

end FollowsFrom

/-- The poller follows the file that holds `content`, of which the lines `done` were handed on. -/
structure Follows (p : Poller) (log cursor : Path) (inode : Nat) (content : List UInt8)
    (done : List (List UInt8)) : Prop where
  path : p.path = log
  cursorPath : p.cursorPath = cursor
  first : done <+: Log.lines content
  offset : p.offset = done.flatten.length
  file : p.inode? = none ∨ p.inode? = some inode
  reader : ∀ r, p.reader? = some r → r.At inode content p.offset

theorem follows_iff :
    p.Follows log cursor inode content done ↔ p.FollowsFrom 0 log cursor inode content done := by
  constructor
  · intro h
    exact { h with
      start_le := Nat.zero_le _
      first := h.first
      offset := h.offset.trans (Nat.zero_add _).symm }
  · intro h
    exact { h with
      first := h.first
      offset := h.offset.trans (Nat.zero_add _) }

namespace Follows

variable (h : p.Follows log cursor inode content done)

include h

/-- Bytes that are added disturb neither the poller nor its reader. -/
theorem append (more : List UInt8) : p.Follows log cursor inode (content ++ more) done :=
  follows_iff.mpr ((follows_iff.mp h).append more)

theorem startsOver : p.startsOver inode content.length = false := (follows_iff.mp h).startsOver

theorem base : p.base inode content.length = p.offset := (follows_iff.mp h).base

/-- A poll is busy if 1024 lines are left. -/
theorem poll_pause (hs : Handlers σ) {s : Surroundings σ}
    (hlog : CursorFile.KeepsLog s.files cursor log inode content) :
    (p.poll hs true s).1 = .ok (pauseAfter maxLinesPerPoll (content.drop p.offset)) :=
  (follows_iff.mp h).poll_pause hs hlog

/-- A poll takes the next lines, 1024 of them unless fewer are left, and when it has nothing more to
do none is left. -/
theorem poll (hs : Handlers σ) {s : Surroundings σ}
    (hlog : CursorFile.KeepsLog s.files cursor log inode content) :
    let next := (Log.lines (content.drop p.offset)).take maxLinesPerPoll
    p.handed hs true s = next ∧
      ∃ pause p',
        p.poll hs true s = (.ok pause, p',
          (next.foldl (Progress.performLine hs cursor) ⟨p.offset, s⟩).surroundings) ∧
        p'.Follows log cursor inode content (done ++ next) ∧
        (pause = .idle ∨ pause = .partialLine → done ++ next = Log.lines content) := by
  intro next
  obtain ⟨hhanded, pause, p', hpoll, hnext, hall⟩ := (follows_iff.mp h).poll hs hlog
  exact ⟨hhanded, pause, p', hpoll, follows_iff.mpr hnext, hall⟩

end Follows

end DebugDashboard.Poller
