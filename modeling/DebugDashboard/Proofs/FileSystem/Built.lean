import DebugDashboard.Proofs.FileSystem.Forget

/-!
# File systems that are built

Whatever operations build, from nothing, is a sound file system, also when some of them fail.
-/

namespace DebugDashboard.FileSystem

variable {fs fs' : FileSystem} {at_ loc above : Location} {node : Node} {s : String} {p q : Path}
  {follow : Bool} {links inode : Nat} {steps : List Step}

/-! ## Where walks end -/

/-- A free name is one that something can be put under. -/
theorem Leads.vacant_live (h : Leads fs follow links at_ steps (.vacant loc))
    (hsteps : ∀ s, .name s ∈ steps → s ≠ noName) :
    ∃ above s, loc = above ++ [s] ∧ s ≠ noName ∧ fs.isDirectoryAt above = true ∧
      isRemoved above = false ∧ fs.node? loc = none := by
  generalize htarget : Target.vacant loc = target at h
  induction h with
  | stop => cases htarget
  | stay hdir h ih => exact ih (fun s hs => hsteps s (List.mem_cons_of_mem _ hs)) htarget
  | up hdir h ih => exact ih (fun s hs => hsteps s (List.mem_cons_of_mem _ hs)) htarget
  | @free links at_ s hdir hname hnode hremoved =>
      cases htarget
      exact ⟨at_, s, rfl, hsteps s List.mem_cons_self, hdir, hremoved, hnode⟩
  | enter hdir hname hnode hplain h ih =>
      exact ih (fun s hs => hsteps s (List.mem_cons_of_mem _ hs)) htarget
  | atLink => cases htarget
  | pastLink hdir hname hnode hgo h ih =>
      refine ih (fun s hs => ?_) htarget
      rcases List.mem_append.mp hs with hs | hs
      · exact ne_noName_of_mem_steps hs
      · exact hsteps s (List.mem_cons_of_mem _ hs)

theorem vacant_live (hresolve : fs.resolve follow p = .ok (.vacant loc)) :
    ∃ above s, loc = above ++ [s] ∧ s ≠ noName ∧ fs.isDirectoryAt above = true ∧
      isRemoved above = false ∧ fs.node? loc = none :=
  (leads_of_walk (walk_of_resolve hresolve).2.2.2).vacant_live fun _ hs =>
    ne_noName_of_mem_steps hs

theorem getLast?_tail {step last : Step} (hlast : (step :: steps).getLast? = some last)
    (hne : steps ≠ []) : steps.getLast? = some last := by
  rw [List.getLast?_cons, List.getLast?_eq_some_getLast hne] at hlast
  rw [List.getLast?_eq_some_getLast hne]
  exact hlast

/-- What a walk finds at its last name stands under that name. -/
theorem Leads.found_name (h : Leads fs false links at_ steps (.found loc node))
    (hlast : steps.getLast? = some (.name s)) : ∃ above, loc = above ++ [s] := by
  generalize htarget : Target.found loc node = target at h
  induction h with
  | stop => cases hlast
  | @stay links at_ rest target hdir h ih =>
      by_cases hrest : rest = []
      · subst hrest
        cases hlast
      · exact ih (getLast?_tail hlast hrest) htarget
  | @up links at_ rest target hdir h ih =>
      by_cases hrest : rest = []
      · subst hrest
        cases hlast
      · exact ih (getLast?_tail hlast hrest) htarget
  | free => cases htarget
  | @enter links at_ name rest found target hdir hname hnode hplain h ih =>
      by_cases hrest : rest = []
      · subst hrest
        cases hlast
        cases h with
        | stop => cases htarget; exact ⟨at_, rfl⟩
      · exact ih (getLast?_tail hlast hrest) htarget
  | @atLink links at_ name there hdir hname hnode hfollow =>
      cases hlast
      cases htarget
      exact ⟨at_, rfl⟩
  | @pastLink links at_ name rest there target hdir hname hnode hgo h ih =>
      -- a link at the end is not followed, so there are steps behind it
      have hrest : rest ≠ [] := fun hrest => Bool.false_ne_true (hgo hrest)
      refine ih ?_ htarget
      rw [List.getLast?_append, getLast?_tail hlast hrest]
      rfl

/-- A path that ends with a name leads to a place with that name. -/
theorem found_name (hresolve : fs.resolve false (dropEndSlashes p) = .ok (.found loc node))
    (hname : endsWithName p = true) : ∃ above s, loc = above ++ [s] ∧ s ≠ noName := by
  unfold endsWithName at hname
  split at hname
  next s hlast =>
    obtain ⟨above, hloc⟩ := (leads_of_walk (walk_of_resolve hresolve).2.2.2).found_name hlast
    exact ⟨above, s, hloc, ne_noName_of_mem_steps (List.mem_of_getLast? hlast)⟩
  next => cases hname

/-! ## Files, directories and links -/

namespace Sound

variable (h : fs.Sound)

include h

/-- Contents and times can change. -/
theorem of_contents (hentries : fs'.entries = fs.entries)
    (hhere : fs'.workingDirectory = fs.workingDirectory)
    (hkept : ∀ inode bytes, fs.bytes? inode = some bytes →
      ∃ bytes, fs'.bytes? inode = some bytes) : fs'.Sound := by
  have hroots : ∀ root ∈ [], fs.isDirectoryAt root = false := by simp
  refine h.of_agree hroots (fun loc _ => ?_) hhere hkept (fun loc node hin => ?_)
  · rw [node?, node?, hentries]
  · cases hin

theorem setContent (inode : Nat) (bytes : List UInt8) : (fs.setContent inode bytes).Sound := by
  refine h.of_contents rfl rfl fun other old hold => ?_
  by_cases hsame : inode = other
  · subst hsame
    exact ⟨bytes, bytes?_setContent_self hold⟩
  · exact ⟨old, by rw [bytes?_setContent_of_ne hsame, hold]⟩

theorem setModified (inode : Nat) (time : FileTime) : (fs.setModified inode time).Sound := by
  refine h.of_contents rfl rfl fun other old hold => ⟨old, ?_⟩
  rw [← hold]
  simp only [bytes?, FileSystem.setModified, Array.getElem?_modify]
  split
  · rw [Option.map_map]
    rfl
  · rfl

theorem allocate (bytes : List UInt8) : (fs.allocate bytes).1.Sound :=
  h.of_contents rfl rfl fun _ old hold => ⟨old, bytes?_allocate hold⟩

/-- Something can be put under a free name. -/
theorem put (hs : s ≠ noName) (habove : fs.isDirectoryAt above = true)
    (hlive : isRemoved above = false) (hfree : fs.node? (above ++ [s]) = none)
    (hcontent : ∀ inode, node = .file inode → ∃ bytes, fs.bytes? inode = some bytes) :
    (fs.put (above ++ [s]) node).Sound := by
  have hplain : fs.isDirectoryAt (above ++ [s]) = false := by rw [isDirectoryAt, hfree]
  have hnode : ∀ loc, (fs.put (above ++ [s]) node).node? loc =
      if loc = above ++ [s] then some node else fs.node? loc := node?_put (by simp)
  have hroots : ∀ root ∈ [above ++ [s]], fs.isDirectoryAt root = false := by simpa using hplain
  refine h.of_agree hroots ?_ rfl (fun _ bytes hbytes => ⟨bytes, hbytes⟩) ?_
  · intro loc hin
    rw [hnode, if_neg]
    rintro rfl
    exact liesIn_eq_false_iff.mp hin _ (by simp) List.prefix_rfl
  · intro loc other hin hthere
    rw [hnode] at hthere
    split at hthere
    next heq =>
      cases hthere
      exact ⟨above, s, heq, hs, habove, hlive, hcontent⟩
    next hne =>
      have hpre : above ++ [s] <+: loc := by simpa [liesIn] using hin
      rw [h.node?_below hplain hpre (Ne.symm hne)] at hthere
      cases hthere

/-- A file that is opened for writing has a content. -/
theorem openForWriting (hopen : fs.openForWriting p = .ok (fs', inode)) : fs'.Sound := by
  unfold FileSystem.openForWriting at hopen
  cases hresolve : fs.resolve true p with
  | error e => simp [hresolve, bind, Except.bind] at hopen
  | ok target =>
      simp only [hresolve, bind, Except.bind] at hopen
      cases target with
      | found loc node =>
          cases node with
          | file inode => cases hopen; exact h
          | directory inode => cases hopen
          | link there => cases hopen
      | vacant loc =>
          cases hopen
          obtain ⟨above, s, rfl, hs, habove, hlive, hfree⟩ := vacant_live hresolve
          refine (h.allocate []).put hs habove hlive hfree fun inode hfile => ?_
          cases hfile
          exact ⟨[], bytes?_allocate_new fs []⟩

theorem write {bytes : List UInt8} (hwrite : fs.write p bytes = .ok fs') : fs'.Sound := by
  unfold FileSystem.write at hwrite
  cases hopen : fs.openForWriting p with
  | error e => simp [hopen, bind, Except.bind] at hwrite
  | ok opened =>
      simp only [hopen, bind, Except.bind] at hwrite
      cases hwrite
      exact (h.openForWriting hopen).setContent _ _

theorem append {bytes : List UInt8} (happend : fs.append p bytes = .ok fs') : fs'.Sound := by
  unfold FileSystem.append at happend
  cases hopen : fs.openForWriting p with
  | error e => simp [hopen, bind, Except.bind] at happend
  | ok opened =>
      simp only [hopen, bind, Except.bind] at happend
      cases happend
      split
      · exact h.openForWriting hopen
      · exact (h.openForWriting hopen).setContent _ _

theorem truncate {length : Nat} (htruncate : fs.truncate p length = .ok fs') : fs'.Sound := by
  unfold FileSystem.truncate at htruncate
  cases hfind : fs.find p with
  | error e => simp [hfind, bind, Except.bind] at htruncate
  | ok node =>
      simp only [hfind, bind, Except.bind] at htruncate
      cases node with
      | file inode => cases htruncate; exact h.setContent _ _
      | directory inode => cases htruncate
      | link there => cases htruncate

theorem touch {time : FileTime} (htouch : fs.touch p time = .ok fs') : fs'.Sound := by
  unfold FileSystem.touch at htouch
  cases hinfo : fs.metadata p with
  | error e => simp [hinfo, bind, Except.bind] at htouch
  | ok info =>
      simp only [hinfo, bind, Except.bind] at htouch
      cases htouch
      exact h.setModified _ _

theorem makeDirectory (hmake : fs.makeDirectory p = .ok fs') : fs'.Sound := by
  unfold FileSystem.makeDirectory at hmake
  cases hresolve : fs.resolve false (dropEndSlashes p) with
  | error e => simp [hresolve, bind, Except.bind] at hmake
  | ok target =>
      simp only [hresolve, bind, Except.bind] at hmake
      cases target with
      | found loc node => cases hmake
      | vacant loc =>
          cases hmake
          obtain ⟨above, s, rfl, hs, habove, hlive, hfree⟩ := vacant_live hresolve
          exact (h.allocate []).put hs habove hlive hfree fun inode hfile => by cases hfile

theorem makeLink {target : Path} (hmake : fs.makeLink p target = .ok fs') : fs'.Sound := by
  unfold FileSystem.makeLink at hmake
  split at hmake
  · cases hmake
  split at hmake
  · cases hmake
  cases hresolve : fs.resolve false p with
  | error e => simp [hresolve, bind, Except.bind] at hmake
  | ok target =>
      simp only [hresolve, bind, Except.bind] at hmake
      cases target with
      | found loc node => cases hmake
      | vacant loc =>
          cases hmake
          obtain ⟨above, s, rfl, hs, habove, hlive, hfree⟩ := vacant_live hresolve
          exact h.put hs habove hlive hfree fun inode hfile => by cases hfile

/-! ## Removals -/

theorem removeFile (hremove : fs.removeFile p = .ok fs') : fs'.Sound := by
  unfold FileSystem.removeFile at hremove
  cases hresolve : fs.resolve false p with
  | error e => simp [hresolve, bind, Except.bind] at hremove
  | ok target =>
      simp only [hresolve, bind, Except.bind] at hremove
      cases target with
      | vacant loc => cases hremove
      | found loc node =>
          have hnode := (leads_of_walk (walk_of_resolve hresolve).2.2.2).node_found
          cases node with
          | directory inode => cases hremove
          | file inode => cases hremove; exact h.erase (by rw [isDirectoryAt, hnode])
          | link there => cases hremove; exact h.erase (by rw [isDirectoryAt, hnode])

theorem removeDirectory (hremove : fs.removeDirectory p = .ok fs') : fs'.Sound := by
  unfold FileSystem.removeDirectory at hremove
  cases hresolve : fs.resolve false (dropEndSlashes p) with
  | error e => simp [hresolve, bind, Except.bind] at hremove
  | ok target =>
      simp only [hresolve, bind, Except.bind] at hremove
      cases target with
      | vacant loc => cases hremove
      | found loc node =>
          cases node with
          | file inode => cases hremove
          | link there => cases hremove
          | directory inode =>
              dsimp only at hremove
              split at hremove
              · cases hremove
              next hname =>
                split at hremove
                · cases hremove
                · cases hremove
                  obtain ⟨above, s, rfl, -⟩ := found_name hresolve (by simpa using hname)
                  exact h.eraseTree (by simp)

/-- Removing a tree may fail on the way. -/
theorem removeTree (p : Path) : (fs.removeTree p).2.Sound := by
  unfold FileSystem.removeTree
  cases hresolve : fs.resolve false p with
  | error e => exact h
  | ok target =>
      cases target with
      | vacant loc => exact h
      | found loc node =>
          have hnode := (leads_of_walk (walk_of_resolve hresolve).2.2.2).node_found
          cases node with
          | file inode => exact h
          | link there => exact h.erase (by rw [isDirectoryAt, hnode])
          | directory inode =>
              dsimp only
              cases hremove : (fs.eraseBelow loc).removeDirectory p with
              | ok fs' => exact (h.eraseBelow loc).removeDirectory hremove
              | error e => exact h.eraseBelow loc

/-- Making directories may fail on the way. -/
theorem makeDirectoriesWithin (depth : Nat) (p : Path) :
    (fs.makeDirectoriesWithin depth p).2.Sound := by
  induction depth generalizing p with
  | zero => exact h
  | succ depth ih =>
      unfold FileSystem.makeDirectoriesWithin
      split
      · exact h
      · split
        next fs' hmake => exact h.makeDirectory hmake
        next =>
          split
          · exact h
          next parent hparent =>
            have habove := ih parent
            split
            next e files hmade =>
              rw [hmade] at habove
              exact habove
            next files hmade =>
              rw [hmade] at habove
              split
              next fs' hmake => exact habove.makeDirectory hmake
              next => exact habove
        next => exact h

theorem makeDirectories (p : Path) : (fs.makeDirectories p).2.Sound :=
  h.makeDirectoriesWithin _ p

/-! ## Moves -/

/-- What stands somewhere and is no directory is above nothing. -/
theorem not_prefix_name {source : Location}
    (habove : fs.isDirectoryAt above = true) (hne : source ≠ above ++ [s])
    (hinside : fs.isDirectoryAt source = true → ¬ source <+: above ++ [s]) :
    ¬ source <+: above ++ [s] := by
  intro hpre
  rcases List.prefix_concat_iff.mp hpre with heq | hpre'
  · exact hne heq
  · exact hinside (h.isDirectoryAt_above habove hpre') hpre

/-- What is found under a name is in a directory that still has its own. -/
theorem live_of_node (hs : s ≠ noName) (hnode : fs.node? (above ++ [s]) = some node) :
    fs.isDirectoryAt above = true ∧ isRemoved above = false := by
  refine ⟨h.placed hnode, ?_⟩
  rw [← Bool.not_eq_true]
  intro hremoved
  rw [h.emptied hremoved hs] at hnode
  cases hnode

theorem rename (hrename : fs.rename p q = .ok fs') : fs'.Sound := by
  unfold FileSystem.rename at hrename
  cases hfrom : fs.resolve false (dropEndSlashes p) with
  | error e => simp [hfrom, bind, Except.bind] at hrename
  | ok origin =>
    cases hto : fs.resolve false (dropEndSlashes q) with
    | error e => cases origin <;> simp [hfrom, hto, bind, Except.bind] at hrename
    | ok target =>
      cases origin with
      | vacant loc => simp [hfrom, hto, bind, Except.bind] at hrename
      | found source node =>
        have hsource := (leads_of_walk (walk_of_resolve hfrom).2.2.2).node_found
        simp only [hfrom, hto, bind, Except.bind] at hrename
        split at hrename
        · cases hrename
        next hnames =>
          simp only [Bool.or_eq_true, Bool.not_eq_true', not_or, Bool.not_eq_false] at hnames
          have hroot : source ≠ [] := by
            obtain ⟨from', t, rfl, -⟩ := found_name hfrom hnames.1
            simp
          split at hrename
          · cases hrename
          next =>
            cases target with
            | vacant dest =>
                obtain ⟨above, s, rfl, hs, habove, hlive, hfree⟩ := vacant_live hto
                dsimp only at hrename
                split at hrename
                · cases hrename
                next hinside =>
                  cases hrename
                  refine h.move hs habove hlive hroot (h.not_prefix_name habove ?_ ?_)
                  · rintro rfl
                    rw [hfree] at hsource
                    cases hsource
                  · intro hdir hpre
                    exact hinside (by simp [hdir, List.isPrefixOf_iff_prefix.mpr hpre])
            | found dest other =>
                obtain ⟨above, s, rfl, hs⟩ := found_name hto hnames.2
                have hdest := (leads_of_walk (walk_of_resolve hto).2.2.2).node_found
                obtain ⟨habove, hlive⟩ := h.live_of_node hs hdest
                dsimp only at hrename
                split at hrename
                · cases hrename
                  exact h
                next hne =>
                  have hmoved : (fs.isDirectoryAt source = true → ¬ source <+: above ++ [s]) →
                      (fs.move source (above ++ [s])).Sound := fun hinside =>
                    h.move hs habove hlive hroot (h.not_prefix_name habove (Ne.symm hne) hinside)
                  split at hrename
                  · split at hrename
                    · cases hrename
                    next hinside =>
                      split at hrename
                      · cases hrename
                      · cases hrename
                        exact hmoved fun _ hpre => hinside (List.isPrefixOf_iff_prefix.mpr hpre)
                  · cases hrename
                  · cases hrename
                  next hfile _ _ =>
                    cases hrename
                    refine hmoved fun hdir _ => ?_
                    obtain ⟨i, hi⟩ := isDirectoryAt_iff.mp hdir
                    rw [hsource] at hi
                    exact hfile i (Option.some.inj hi)

end Sound

/-! ## Operations -/

/-- The file systems that operations build. One that fails changes nothing, except that nested
directories may have been made or removed in part. -/
inductive Built : FileSystem → Prop
  | empty : Built .empty
  | goTo {fs : FileSystem} {loc : Location} (h : Built fs) (hdir : fs.isDirectoryAt loc = true) :
      Built { fs with workingDirectory := loc }
  | write {fs fs' : FileSystem} {p : Path} {bytes : List UInt8} (h : Built fs)
      (hrun : fs.write p bytes = .ok fs') : Built fs'
  | append {fs fs' : FileSystem} {p : Path} {bytes : List UInt8} (h : Built fs)
      (hrun : fs.append p bytes = .ok fs') : Built fs'
  | truncate {fs fs' : FileSystem} {p : Path} {length : Nat} (h : Built fs)
      (hrun : fs.truncate p length = .ok fs') : Built fs'
  | touch {fs fs' : FileSystem} {p : Path} {time : FileTime} (h : Built fs)
      (hrun : fs.touch p time = .ok fs') : Built fs'
  | removeFile {fs fs' : FileSystem} {p : Path} (h : Built fs)
      (hrun : fs.removeFile p = .ok fs') : Built fs'
  | removeDirectory {fs fs' : FileSystem} {p : Path} (h : Built fs)
      (hrun : fs.removeDirectory p = .ok fs') : Built fs'
  | removeTree {fs : FileSystem} {p : Path} (h : Built fs) : Built (fs.removeTree p).2
  | makeDirectory {fs fs' : FileSystem} {p : Path} (h : Built fs)
      (hrun : fs.makeDirectory p = .ok fs') : Built fs'
  | makeDirectories {fs : FileSystem} {p : Path} (h : Built fs) : Built (fs.makeDirectories p).2
  | makeLink {fs fs' : FileSystem} {p target : Path} (h : Built fs)
      (hrun : fs.makeLink p target = .ok fs') : Built fs'
  | rename {fs fs' : FileSystem} {p q : Path} (h : Built fs)
      (hrun : fs.rename p q = .ok fs') : Built fs'

theorem Sound.goTo (h : fs.Sound) (hdir : fs.isDirectoryAt loc = true) :
    Sound { fs with workingDirectory := loc } :=
  { h with here := hdir }

/-- Every file system that operations build is sound. -/
theorem Built.sound (h : Built fs) : fs.Sound := by
  induction h with
  | empty => exact sound_empty
  | goTo h hdir ih => exact ih.goTo hdir
  | write h hrun ih => exact ih.write hrun
  | append h hrun ih => exact ih.append hrun
  | truncate h hrun ih => exact ih.truncate hrun
  | touch h hrun ih => exact ih.touch hrun
  | removeFile h hrun ih => exact ih.removeFile hrun
  | removeDirectory h hrun ih => exact ih.removeDirectory hrun
  | removeTree h ih => exact ih.removeTree _
  | makeDirectory h hrun ih => exact ih.makeDirectory hrun
  | makeDirectories h ih => exact ih.makeDirectories _
  | makeLink h hrun ih => exact ih.makeLink hrun
  | rename h hrun ih => exact ih.rename hrun

end DebugDashboard.FileSystem
