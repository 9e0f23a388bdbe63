import DebugDashboard.Proofs.Path.Parent
import DebugDashboard.Proofs.Tail.Poll
import DebugDashboard.Tail.Follower

/-!
# Starting at a log

Where the log is there already, a start makes nothing: it puts a new poller at the saved offset.
-/

namespace DebugDashboard

namespace FileSystem

variable {fs : FileSystem} {p q : Path} {node : Node}

theorem walk_root (follow : Bool) (links : Nat) :
    fs.walk follow links [] [.stay] = .ok (.found [] (.directory 0)) := by
  cases links <;> rfl

theorem resolve_root (follow : Bool) (hq : q.text = "/") :
    fs.resolve follow q = .ok (.found [] (.directory 0)) := by
  obtain rfl : q = ⟨"/"⟩ := congrArg Path.mk hq
  exact resolve_of_walk (by decide) (by decide) (by decide) (walk_root follow maxLinks)

theorem utf8ByteSize_le {behind : String} (htext : p.text = q.text ++ behind) :
    q.text.utf8ByteSize ≤ p.text.utf8ByteSize := by
  rw [htext, String.utf8ByteSize_append]
  exact Nat.le_add_right _ _

/-- What a path goes through is a directory, if the path leads anywhere. -/
theorem resolve_through (h : p.Through q) (hfind : fs.find p = .ok node) :
    ∃ loc i, fs.resolve true q = .ok (.found loc (.directory i)) := by
  obtain ⟨loc, hresolve⟩ := find_eq_ok_iff.mp hfind
  obtain ⟨hlength, -, hnul, hwalk⟩ := walk_of_resolve hresolve
  obtain ⟨behind, hbehind⟩ := h.text_eq
  obtain ⟨rest, hrest, hsteps⟩ := h.steps_eq
  obtain ⟨c, hc, -⟩ := h.getLast_text
  rw [hsteps] at hwalk
  obtain ⟨above, i, habove⟩ := walk_front hrest hwalk
  refine ⟨above, i, resolve_of_walk (Nat.lt_of_le_of_lt (utf8ByteSize_le hbehind) hlength) ?_ ?_ ?_⟩
  · intro hempty
    simp [hempty] at hc
  · rw [hbehind, String.toList_append, List.contains_append, Bool.or_eq_false_iff] at hnul
    exact hnul.1
  · rwa [start, h.isAbsolute_eq]

theorem dropEndSlashes_through (h : p.Through q) : dropEndSlashes q = q := by
  obtain ⟨c, hc, hslash⟩ := h.getLast_text
  refine dropEndSlashes_eq_self ?_
  rw [endsWithSlash, hc, decide_eq_false_iff_not]
  simpa using hslash

/-- Where a path leads somewhere, its directory need not be made. -/
theorem makeDirectories_parent (hfind : fs.find p = .ok node) (hparent : p.parent? = some q) :
    fs.makeDirectories q = (.ok (), fs) := by
  by_cases hempty : q.text = ""
  · simp [makeDirectories, makeDirectoriesWithin, hempty]
  · have hthere : (∃ loc i, fs.resolve true q = .ok (.found loc (.directory i))) ∧
        dropEndSlashes q = q := by
      rcases (Path.through_parent hparent).resolve_left hempty with hroot | hthrough
      · obtain rfl : q = ⟨"/"⟩ := congrArg Path.mk hroot
        exact ⟨⟨[], 0, resolve_root true rfl⟩, by decide⟩
      · exact ⟨resolve_through hthrough hfind, dropEndSlashes_through hthrough⟩
    obtain ⟨⟨loc, i, hresolve⟩, hslashes⟩ := hthere
    obtain ⟨hlength, htext, hnul, hwalk⟩ := walk_of_resolve hresolve
    obtain ⟨above, other, hfound⟩ := walk_found_link hwalk
    -- making it fails because it is there, and a directory that is there is enough
    have hmake : fs.makeDirectory q = .error .alreadyExists := by
      rw [makeDirectory, hslashes, resolve_of_walk hlength htext hnul hfound]
      rfl
    have hdirectory : fs.isDirectory q = true := by
      rw [isDirectory, find_eq_ok_iff.mpr ⟨loc, hresolve⟩]
    simp [makeDirectories, makeDirectoriesWithin, hempty, hmake, hdirectory]

end FileSystem

namespace Follower

variable {σ : Type} {files : FileSystem} {inode : Nat} {content : List UInt8}

theorem makeLog_of_shows {log : Path} (hlog : files.Shows log inode content) :
    makeLog files log = (.ok (), files) := by
  have happend : files.append log [] = .ok files := by
    obtain ⟨loc, hloc⟩ := FileSystem.find_eq_ok_iff.mp hlog.find
    simp [FileSystem.append, FileSystem.openForWriting, hloc, bind, Except.bind]
  unfold makeLog
  cases hparent : log.parent?.filter (·.text ≠ "") with
  | none => simp [happend]
  | some parent =>
      have hdirectories := FileSystem.makeDirectories_parent hlog.find
        (Option.filter_eq_some_iff.mp hparent).1
      simp [hdirectories, happend]

/-- The poller that a start makes for a log of the given length. -/
def opened (f : Follower σ) (files : FileSystem) (length : Nat) : Poller where
  path := f.path
  cursorPath := f.cursorPath
  offset := CursorFile.resumeOffset files f.cursorPath length

/-- A start at a log changes no file, and its poller goes on at the saved offset. -/
theorem start_eq {f : Follower σ} {s : Surroundings σ} (hlog : s.files.Shows f.path inode content) :
    f.start s =
      (.ok (f.opened s.files content.length).offset,
        { f with running := true, poller? := some (f.opened s.files content.length) },
        s.count (·.setPosition (f.opened s.files content.length).offset)) := by
  obtain ⟨modified, hinfo⟩ := hlog.metadata
  rw [start, makeLog_of_shows hlog]
  simp only [hinfo]
  rfl

end Follower

end DebugDashboard
