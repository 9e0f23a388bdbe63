import DebugDashboard.Proofs.FileSystem.Tree
import DebugDashboard.Proofs.Tail.CursorFile

/-!
# Many saves

The cursor is saved with every line. That leaves the log as it is unless the two are the same file,
and whether they are does not depend on what the log contains.
-/

namespace DebugDashboard.CursorFile

open FileSystem

variable {fs fs' : FileSystem} {cursor log : Path} {c d : Location} {inode : Nat}
  {content content' : List UInt8}

/-- The file system after saves of some offsets, one after the other. -/
def saveAll (fs : FileSystem) (cursor : Path) (offsets : List Nat) : FileSystem :=
  offsets.foldl (fun fs n => (save fs cursor n).2) fs

/-- There is a log, and saving the cursor, however often, leaves it as it is. -/
def KeepsLog (fs : FileSystem) (cursor log : Path) (inode : Nat) (content : List UInt8) : Prop :=
  ∀ offsets, (saveAll fs cursor offsets).Shows log inode content

theorem KeepsLog.shows (h : KeepsLog fs cursor log inode content) : fs.Shows log inode content :=
  h []

theorem KeepsLog.save (h : KeepsLog fs cursor log inode content) (n : Nat) :
    KeepsLog (save fs cursor n).2 cursor log inode content :=
  fun offsets => h (n :: offsets)

theorem ApartAt.keepsLog (h : ApartAt fs cursor log c d inode)
    (hlog : fs.bytes? inode = some content) : KeepsLog fs cursor log inode content := by
  intro offsets
  induction offsets generalizing fs with
  | nil => exact ⟨h.find_log, hlog⟩
  | cons n rest ih =>
      obtain ⟨hapart, hkept⟩ := h.save_apart hlog n
      exact ih hapart hkept

theorem ApartAt.saveAll_alike (h : ApartAt fs cursor log c d inode)
    (hlog : fs.bytes? inode = some content) (offsets : List Nat) :
    ((saveAll fs cursor offsets).without [c, d]).Alike (fs.without [c, d]) := by
  induction offsets generalizing fs with
  | nil => exact .refl _
  | cons n rest ih =>
      obtain ⟨hapart, hkept⟩ := h.save_apart hlog n
      exact (ih hapart hkept).trans (h.save_alike hlog n)

theorem Savable.keepsLog (h : Savable fs cursor log inode content) :
    KeepsLog fs cursor log inode content := by
  obtain ⟨c, d, hapart⟩ := h.apart
  exact hapart.keepsLog h.bytes

/-! ## The same tree -/

/-- What saves do to the tree does not depend on contents, nor on the offsets that are saved. -/
theorem sameTree_save (h : fs.SameTree fs') (n m : Nat) :
    (save fs cursor n).2.SameTree (save fs' cursor m).2 := by
  have hopen := h.openForWriting (draft cursor)
  unfold save FileSystem.write
  generalize fs.openForWriting (draft cursor) = opened at hopen ⊢
  generalize fs'.openForWriting (draft cursor) = opened' at hopen ⊢
  cases hopen with
  | error e => exact h
  | @ok a b hsame =>
      obtain ⟨g, number⟩ := a
      obtain ⟨g', number'⟩ := b
      obtain ⟨htree, rfl⟩ := hsame
      have hdraft := htree.setContent number (Text.Utf8.encode (Text.Decimal.print n))
        (Text.Utf8.encode (Text.Decimal.print m))
      have hrename := hdraft.rename (draft cursor) cursor
      simp only [bind, Except.bind]
      generalize (g.setContent number _).rename (draft cursor) cursor = moved at hrename ⊢
      generalize (g'.setContent number _).rename (draft cursor) cursor = moved' at hrename ⊢
      cases hrename with
      | error e => exact hdraft
      | ok hmoved => exact hmoved

/-- The tree is one that saves have brought about. -/
def Saved (files : FileSystem) (cursor : Path) (fs : FileSystem) : Prop :=
  ∃ offsets, fs.SameTree (saveAll files cursor offsets)

theorem Saved.save {files : FileSystem} (h : Saved files cursor fs) (n : Nat) :
    Saved files cursor (CursorFile.save fs cursor n).2 := by
  obtain ⟨offsets, htree⟩ := h
  refine ⟨offsets ++ [n], ?_⟩
  rw [saveAll, List.foldl_append]
  exact sameTree_save htree n n

/-- A save changes the content of the draft, and of no other file. -/
theorem bytes?_save {number : Nat} {g : FileSystem}
    (hopen : fs.openForWriting (draft cursor) = .ok (g, number))
    (hbytes : fs.bytes? inode = some content) (n : Nat) :
    (save fs cursor n).2.bytes? inode =
      some (if number = inode then Text.Utf8.encode (Text.Decimal.print n) else content) := by
  have hkept := bytes?_openForWriting hopen hbytes
  have hdraft : (g.setContent number (Text.Utf8.encode (Text.Decimal.print n))).bytes? inode =
      some (if number = inode then Text.Utf8.encode (Text.Decimal.print n) else content) := by
    split
    next heq =>
      subst heq
      exact bytes?_setContent_self hkept
    next hne => rw [bytes?_setContent_of_ne hne, hkept]
  unfold save FileSystem.write
  simp only [hopen, bind, Except.bind]
  split
  · exact hdraft
  next hrename => rw [bytes?_rename hrename, hdraft]

/-- The draft is not the log: otherwise a save would be seen there. -/
theorem KeepsLog.draft_ne (h : KeepsLog fs cursor log inode content) {number : Nat}
    {g : FileSystem} (hopen : fs.openForWriting (draft cursor) = .ok (g, number)) :
    number ≠ inode := by
  intro heq
  have hsaved : ∀ n, Text.Utf8.encode (Text.Decimal.print n) = content := fun n => by
    have hbytes := bytes?_save hopen h.shows.bytes n
    rw [(h.save n).shows.bytes, if_pos heq] at hbytes
    exact (Option.some.inj hbytes).symm
  -- the log would hold the digits of every number
  have hdigits := (hsaved 0).trans (hsaved 1).symm
  revert hdigits
  decide

/-- Saving leaves the log as it is whatever the log contains. -/
theorem KeepsLog.of_sameTree (h : KeepsLog fs cursor log inode content) (htree : fs'.SameTree fs)
    (hbytes : fs'.bytes? inode = some content') : KeepsLog fs' cursor log inode content' := by
  intro offsets
  induction offsets generalizing fs fs' with
  | nil => exact ⟨(find_congr htree.alike log).trans h.shows.find, hbytes⟩
  | cons n rest ih =>
      -- the trees stay the same, so the draft has the same number in both, and is not the log
      refine ih (h.save n) (sameTree_save htree n n) ?_
      have hopen := htree.openForWriting (draft cursor)
      cases hdraft : fs'.openForWriting (draft cursor) with
      | error e => simpa [CursorFile.save, FileSystem.write, hdraft, bind, Except.bind] using hbytes
      | ok opened =>
          obtain ⟨g, number⟩ := opened
          rw [bytes?_save hdraft hbytes n]
          rw [hdraft] at hopen
          generalize hother : fs.openForWriting (draft cursor) = other at hopen
          cases hopen with
          | @ok _ b hsame =>
              obtain ⟨g', number'⟩ := b
              obtain ⟨-, rfl⟩ := hsame
              rw [if_neg (h.draft_ne hother)]

/-- Adding to the log adds to what saves leave as it is. -/
theorem KeepsLog.append (h : KeepsLog fs cursor log inode content) (more : List UInt8) :
    ∃ fs', fs.append log more = .ok fs' ∧ fs'.SameTree fs ∧
      KeepsLog fs' cursor log inode (content ++ more) := by
  obtain ⟨fs', happend, hshows, -, -⟩ := h.shows.append more
  have htree := SameTree.append h.shows more happend
  exact ⟨fs', happend, htree, h.of_sameTree htree hshows.bytes⟩

end DebugDashboard.CursorFile
