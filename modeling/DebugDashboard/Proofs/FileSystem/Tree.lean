import DebugDashboard.Proofs.FileSystem.Nodes
import DebugDashboard.Path.Normalise

/-!
# The same tree with other contents

What paths mean, and where new files go, depends on the tree alone. So two file systems with the
same tree, whatever their files contain, stay so under the same operations.
-/

namespace DebugDashboard.FileSystem

variable {fs fs' g : FileSystem} {p q : Path} {inode k : Nat} {content : List UInt8}

/-- The same nodes stand at the same places, and there are as many inodes. -/
structure SameTree (fs fs' : FileSystem) : Prop where
  entries : fs.entries = fs'.entries
  workingDirectory : fs.workingDirectory = fs'.workingDirectory
  size : fs.inodes.size = fs'.inodes.size

namespace SameTree

theorem refl (fs : FileSystem) : fs.SameTree fs := ⟨rfl, rfl, rfl⟩

theorem trans (h : fs.SameTree fs') (h' : fs'.SameTree g) : fs.SameTree g :=
  ⟨h.entries.trans h'.entries, h.workingDirectory.trans h'.workingDirectory, h.size.trans h'.size⟩

theorem alike (h : fs.SameTree fs') : fs.Alike fs' where
  node at_ := by rw [node?, node?, h.entries]
  workingDirectory := h.workingDirectory

theorem setContent (h : fs.SameTree fs') (inode : Nat) (bytes bytes' : List UInt8) :
    (fs.setContent inode bytes).SameTree (fs'.setContent inode bytes') where
  entries := h.entries
  workingDirectory := h.workingDirectory
  size := by simp [FileSystem.setContent, h.size]

theorem put (h : fs.SameTree fs') (at_ : Location) (node : Node) :
    (fs.put at_ node).SameTree (fs'.put at_ node) where
  entries := by simp only [FileSystem.put, h.entries]
  workingDirectory := h.workingDirectory
  size := h.size

theorem allocate (h : fs.SameTree fs') (bytes : List UInt8) :
    (fs.allocate bytes).1.SameTree (fs'.allocate bytes).1 where
  entries := h.entries
  workingDirectory := h.workingDirectory
  size := by simp [FileSystem.allocate, h.size]

theorem move (h : fs.SameTree fs') (source dest : Location) :
    (fs.move source dest).SameTree (fs'.move source dest) where
  entries := by simp only [FileSystem.move, eraseTree, forget, h.entries, h.workingDirectory]
  workingDirectory := by simp only [FileSystem.move, eraseTree, forget, h.workingDirectory]
  size := h.size

end SameTree

/-- Both fail alike, or both succeed with results that are related. -/
inductive Together {α : Type} (rel : α → α → Prop) : Except IoError α → Except IoError α → Prop
  | error (e : IoError) : Together rel (.error e) (.error e)
  | ok {a b : α} (h : rel a b) : Together rel (.ok a) (.ok b)

/-- A file is opened for writing in both trees, and has the same number. -/
theorem SameTree.openForWriting (h : fs.SameTree fs') (p : Path) :
    Together (fun a b => a.1.SameTree b.1 ∧ a.2 = b.2) (fs.openForWriting p)
      (fs'.openForWriting p) := by
  unfold FileSystem.openForWriting
  rw [resolve_congr h.alike]
  cases fs'.resolve true p with
  | error e => exact .error e
  | ok target =>
      cases target with
      | vacant at_ =>
          refine .ok ⟨?_, h.size⟩
          change ((fs.allocate []).1.put at_ (.file fs.inodes.size)).SameTree
            ((fs'.allocate []).1.put at_ (.file fs'.inodes.size))
          rw [← h.size]
          exact (h.allocate []).put at_ _
      | found at_ node =>
          cases node with
          | file inode => exact .ok ⟨h, rfl⟩
          | directory inode => exact .error _
          | link target => exact .error _

/-- At most a file takes over a name, and in both trees the same file takes over the same name. -/
theorem SameTree.rename_together {R : FileSystem → FileSystem → Prop} (h : fs.SameTree fs')
    (hkept : R fs fs') (hmove : ∀ source dest, R (fs.move source dest) (fs'.move source dest))
    (p q : Path) : Together R (fs.rename p q) (fs'.rename p q) := by
  -- all that a rename asks before it moves anything is answered by the tree
  have hdirectory : ∀ at_, fs.isDirectoryAt at_ = fs'.isDirectoryAt at_ := h.alike.isDirectoryAt
  have hempty : ∀ at_, fs.isEmptyAt at_ = fs'.isEmptyAt at_ := fun at_ => by
    rw [isEmptyAt, isEmptyAt, h.entries]
  unfold FileSystem.rename
  simp only [resolve_congr h.alike, hdirectory, hempty]
  cases fs'.resolve false (dropEndSlashes p) with
  | error e => exact .error e
  | ok source =>
      cases fs'.resolve false (dropEndSlashes q) with
      | error e => exact .error e
      | ok dest =>
          cases source with
          | vacant at_ => exact .error _
          | found source node =>
              dsimp only [bind, Except.bind]
              split
              · exact .error _
              split
              · exact .error _
              cases dest with
              | vacant dest =>
                  dsimp only
                  split
                  · exact .error _
                  · exact .ok (hmove source dest)
              | found dest other =>
                  dsimp only
                  split
                  · exact .ok hkept
                  split
                  · split
                    · exact .error _
                    split
                    · exact .error _
                    · exact .ok (hmove source dest)
                  · exact .error _
                  · exact .error _
                  · exact .ok (hmove source dest)

theorem SameTree.rename (h : fs.SameTree fs') (p q : Path) :
    Together SameTree (fs.rename p q) (fs'.rename p q) :=
  h.rename_together h h.move p q

theorem SameTree.append (h : fs.Shows p inode content) (more : List UInt8)
    (happend : fs.append p more = .ok g) : g.SameTree fs := by
  obtain ⟨loc, hloc⟩ := find_eq_ok_iff.mp h.find
  simp only [FileSystem.append, FileSystem.openForWriting, hloc, bind, Except.bind] at happend
  cases happend
  split
  · exact .refl fs
  · exact ⟨rfl, rfl, by simp [FileSystem.setContent]⟩

/-! ## What the operations do to contents -/

theorem bytes?_openForWriting {number : Nat} (hopen : fs.openForWriting p = .ok (g, number))
    (hbytes : fs.bytes? k = some content) : g.bytes? k = some content := by
  unfold FileSystem.openForWriting at hopen
  cases hresolve : fs.resolve true p with
  | error e => simp [hresolve, bind, Except.bind] at hopen
  | ok target =>
      simp only [hresolve, bind, Except.bind] at hopen
      cases target with
      | vacant at_ =>
          cases hopen
          exact bytes?_allocate hbytes
      | found at_ node =>
          cases node with
          | file inode => cases hopen; exact hbytes
          | directory inode => cases hopen
          | link target => cases hopen

theorem bytes?_rename (hrename : fs.rename p q = .ok g) : g.bytes? k = fs.bytes? k := by
  have htogether := (SameTree.refl fs).rename_together
    (R := fun moved _ => moved.bytes? k = fs.bytes? k) rfl (fun _ _ => rfl) p q
  rw [hrename] at htogether
  cases htogether with
  | ok hbytes => exact hbytes

/-! ## What paths mean -/

theorem normalise_congr (h : fs.Alike fs') (home? : Option Path) (p : Path) :
    p.normalise ⟨fs, home?⟩ = p.normalise ⟨fs', home?⟩ := by
  have hhere : fs.workingPath? = fs'.workingPath? := by
    simp only [workingPath?, h.workingDirectory]
  simp only [Path.normalise, Path.absolute, hhere, canonicalise_congr h]

end DebugDashboard.FileSystem
