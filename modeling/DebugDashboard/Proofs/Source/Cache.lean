import DebugDashboard.Proofs.FileSystem.Spelling
import DebugDashboard.Proofs.Source.Window

/-!
# What a window keeps of its files

A window keeps what it has read of a file, together with the modification time that the file had
then. Where that time tells whether the file still reads the same, a window that first drops what
was modified shows what stands in the file now.
-/

namespace DebugDashboard.Source

variable {fs : FileSystem} {p q file : Path} {ls : List String} {entry : Path × CachedFile}

/-! ## Reading -/

theorem readLines_congr (hfind : fs.find p = fs.find q) : readLines fs p = readLines fs q := by
  simp only [readLines, FileSystem.read, FileSystem.openFile, hfind]

/-- What can be read was found, and has a modification time. -/
theorem exists_of_readLines (hread : readLines fs p = .ok ls) :
    (∃ node, fs.find p = .ok node) ∧ ∃ time, modified? fs p = some time := by
  cases hfind : fs.find p with
  | error e =>
      simp [readLines, FileSystem.read, FileSystem.openFile, hfind, bind, Except.bind] at hread
  | ok node =>
      refine ⟨⟨node, rfl⟩, ?_⟩
      unfold modified? FileSystem.metadata
      rw [hfind]
      cases node with
      | file inode => exact ⟨_, rfl⟩
      | directory inode => exact ⟨_, rfl⟩
      | link target =>
          simp [readLines, FileSystem.read, FileSystem.openFile, hfind, bind, Except.bind] at hread

theorem exists_find_of_modified {time : FileTime} (htime : modified? fs p = some time) :
    ∃ node, fs.find p = .ok node := by
  cases hfind : fs.find p with
  | error e => simp [modified?, FileSystem.metadata, hfind, bind, Except.bind] at htime
  | ok node => exact ⟨node, rfl⟩

/-- A file reads the same under another spelling under which it is there. -/
theorem readLines_same (hsame : p.same q = true) (hread : readLines fs p = .ok ls) {time : FileTime}
    (htime : modified? fs q = some time) : readLines fs q = .ok ls := by
  obtain ⟨⟨node, hp⟩, -⟩ := exists_of_readLines hread
  obtain ⟨other, hq⟩ := exists_find_of_modified htime
  obtain rfl := FileSystem.find_same hsame hp hq
  rw [readLines_congr (hq.trans hp.symm), hread]

/-! ## The cache -/

namespace FileCache

variable {cache : FileCache}

theorem mem_of_mem_remove (hentry : entry ∈ cache.remove p) : entry ∈ cache :=
  (List.mem_filter.mp hentry).1

theorem mem_of_mem_dropModified (hentry : entry ∈ (cache.dropModified fs p).2) : entry ∈ cache := by
  unfold dropModified at hentry
  split at hentry
  · exact hentry
  · split at hentry
    · exact hentry
    · exact mem_of_mem_remove hentry

/-- What a cache keeps after a look at a file was there, or was read just now. -/
theorem mem_of_mem_lines (hentry : entry ∈ (cache.lines fs p).2) :
    entry ∈ cache ∨ entry.1 = p ∧ readLines fs p = .ok entry.2.lines ∧
      entry.2.modified? = modified? fs p := by
  unfold lines at hentry
  split at hentry
  · exact .inl hentry
  · split at hentry
    next hread =>
      rcases List.mem_append.mp hentry with hentry | hentry
      · exact .inl hentry
      · obtain rfl := List.mem_singleton.mp hentry
        exact .inr ⟨rfl, hread, rfl⟩
    · exact .inl hentry

/-- The lines that a cache has of a file are kept already, or are read just now. -/
theorem exists_of_lines (h : (cache.lines fs p).1 = .ok ls) :
    (∃ entry ∈ cache, entry.2.lines = ls) ∨ readLines fs p = .ok ls := by
  unfold lines at h
  cases hget : cache.get? p with
  | some cached =>
      obtain ⟨entry, hfind, rfl⟩ := Option.map_eq_some_iff.mp hget
      rw [hget] at h
      exact .inl ⟨entry, List.mem_of_find?_eq_some hfind, Except.ok.inj h⟩
  | none =>
      rw [hget] at h
      cases hread : readLines fs p with
      | error e => simp [hread] at h
      | ok read =>
          simp only [hread, Except.ok.injEq] at h
          exact .inr (congrArg _ h)

theorem get?_remove (cache : FileCache) (p : Path) : (cache.remove p).get? p = none := by
  rw [get?, remove, Option.map_eq_none_iff, List.find?_eq_none]
  intro entry hentry
  simpa using (List.mem_filter.mp hentry).2

/-- Where what the cache keeps of a file has the file's modification time, it is what the file
reads. -/
def Current (cache : FileCache) (fs : FileSystem) (file : Path) : Prop :=
  ∀ entry ∈ cache, entry.1.same file = true → entry.2.modified? = modified? fs file →
    readLines fs file = .ok entry.2.lines

/-- Once what was modified is dropped, the cache has what the file reads. -/
theorem Current.lines_dropModified (h : cache.Current fs file) :
    ((cache.dropModified fs file).2.lines fs file).1 = readLines fs file := by
  have hmissing : ∀ cache : FileCache, cache.get? file = none →
      (cache.lines fs file).1 = readLines fs file := by
    intro cache hget
    rw [lines, hget]
    cases hread : readLines fs file with
    | error e => rfl
    | ok ls => rfl
  cases hget : cache.get? file with
  | none =>
      rw [dropModified, hget]
      exact hmissing cache hget
  | some cached =>
      simp only [dropModified, hget]
      split
      next htime =>
        obtain ⟨entry, hfind, rfl⟩ := Option.map_eq_some_iff.mp hget
        have hsame : entry.1.same file = true :=
          List.find?_some (p := fun e : Path × CachedFile => e.1.same file) hfind
        rw [lines, hget, h entry (List.mem_of_find?_eq_some hfind) hsame htime.symm]
      · exact hmissing _ (cache.get?_remove file)

end FileCache

namespace CodeWindow

variable {w : CodeWindow} {calls : List Call}

theorem linesOf_dropModified (h : w.cache.Current fs (resolve fs p)) :
    (w.dropModified fs p).2.linesOf fs p = readLines fs (resolve fs p) :=
  h.lines_dropModified

theorem view_cache (w : CodeWindow) (fs : FileSystem) (p : Path) (focus : Nat)
    (breakpoints : List Nat) (current? : Option Nat) :
    (w.view fs p focus breakpoints current?).2.cache = (w.cache.lines fs (resolve fs p)).2 := by
  unfold view
  dsimp only
  split
  next hlines => rw [hlines]
  next hlines =>
    rw [hlines]
    split
    · rfl
    · split
      next hview =>
        obtain ⟨-, -, rfl⟩ := viewLines_eq_some_iff.mp hview
        rfl
      · rfl

/-- A call that reads a file as an entry has it. -/
def Call.Reads (entry : Path × CachedFile) : Call → Prop
  | .view fs p _ _ _ => entry.1 = resolve fs p ∧ readLines fs (resolve fs p) = .ok entry.2.lines ∧
      entry.2.modified? = modified? fs (resolve fs p)
  | .forget .. | .forgetAll | .dropModified .. => False

theorem mem_cache_perform {call : Call} (hentry : entry ∈ (w.perform call).cache) :
    entry ∈ w.cache ∨ call.Reads entry := by
  cases call with
  | view fs p focus breakpoints current? =>
      rw [perform, view_cache] at hentry
      exact FileCache.mem_of_mem_lines hentry
  | forget fs p => exact .inl (FileCache.mem_of_mem_remove hentry)
  | forgetAll => cases hentry
  | dropModified fs p => exact .inl (FileCache.mem_of_mem_dropModified hentry)

/-- What a window keeps it had, or has read in one of its calls. -/
theorem mem_cache_run (hentry : entry ∈ (w.run calls).cache) :
    entry ∈ w.cache ∨ ∃ call ∈ calls, call.Reads entry := by
  induction calls generalizing w with
  | nil => exact .inl hentry
  | cons call rest ih =>
      rcases ih (w := w.perform call) hentry with hentry | ⟨other, hother, hreads⟩
      · rcases mem_cache_perform hentry with hentry | hreads
        · exact .inl hentry
        · exact .inr ⟨call, List.mem_cons_self, hreads⟩
      · exact .inr ⟨other, List.mem_cons_of_mem _ hother, hreads⟩

/-! ## Files that are told apart by their times -/

/-- If a call was for a view of the file, and the file has the modification time that it had then,
it reads as it did then. -/
def Call.TimeTells (fs : FileSystem) (file : Path) : Call → Prop
  | .view fs' p _ _ _ => (resolve fs' p).same file = true →
      modified? fs' (resolve fs' p) = modified? fs file →
        ∀ ls, readLines fs' (resolve fs' p) = .ok ls → readLines fs file = .ok ls
  | .forget .. | .forgetAll | .dropModified .. => True

/-- The call finds these files. -/
def Call.Finds (fs : FileSystem) : Call → Prop
  | .view fs' _ _ _ _ | .forget fs' _ | .dropModified fs' _ => fs' = fs
  | .forgetAll => True

/-- While the files stay as they are, the times tell. -/
theorem Call.Finds.timeTells {call : Call} (h : call.Finds fs) (file : Path) :
    call.TimeTells fs file := by
  cases call with
  | view fs' p focus breakpoints current? =>
      obtain rfl : fs' = fs := h
      intro hsame htimes ls hread
      obtain ⟨-, time, htime⟩ := exists_of_readLines hread
      exact readLines_same hsame hread (htimes.symm.trans htime)
  | _ => trivial

/-- Where the times tell, a window that drops what was modified has what the file reads. -/
theorem linesOf_run {size margin : Nat}
    (hcalls : ∀ call ∈ calls, call.TimeTells fs (resolve fs p)) :
    (((new size margin).run calls).dropModified fs p).2.linesOf fs p =
      readLines fs (resolve fs p) := by
  refine linesOf_dropModified ?_
  intro entry hentry hsame htime
  rcases mem_cache_run hentry with hentry | ⟨call, hcall, hreads⟩
  · cases hentry
  have htells := hcalls call hcall
  cases call with
  | view fs' p' focus breakpoints current? =>
      obtain ⟨hfile, hread, hmodified⟩ := hreads
      rw [hfile] at hsame
      exact htells hsame (hmodified.symm.trans htime) _ hread
  | _ => cases hreads

end CodeWindow

end DebugDashboard.Source
