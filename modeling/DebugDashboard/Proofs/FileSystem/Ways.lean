import DebugDashboard.Proofs.FileSystem.Nodes

/-!
# Ways to a directory

A walk that leads to a directory can be gone on from there, whatever follows. It depends on nothing
but the directories and links that it passes, so it leads there all the same when files and free
names come and go. What is taken away is missed by the walks that led to it.
-/

namespace DebugDashboard.FileSystem

variable {fs fs' : FileSystem} {follow : Bool} {links inode : Nat} {at_ loc dir : Location}
  {node : Node} {steps : List Step} {s : String} {roots : List Location}

/-! ## Going on from a directory -/

/-- Only from a directory does a walk lead to a directory. -/
theorem Leads.from_directory (h : Leads fs follow links at_ steps (.found dir (.directory inode))) :
    fs.isDirectoryAt at_ = true := by
  cases h with
  | stop hnode => exact isDirectoryAt_iff.mpr ⟨_, hnode⟩
  | stay hdir => exact hdir
  | up hdir => exact hdir
  | enter hdir => exact hdir
  | pastLink hdir => exact hdir

/-- What a walk finds stands where it finds it. -/
theorem Leads.node_found (h : Leads fs follow links at_ steps (.found loc node)) :
    fs.node? loc = some node := by
  generalize htarget : Target.found loc node = target at h
  induction h with
  | stop hnode => cases htarget; exact hnode
  | stay hdir h ih => exact ih htarget
  | up hdir h ih => exact ih htarget
  | free => cases htarget
  | enter hdir hname hnode hplain h ih => exact ih htarget
  | atLink hdir hname hnode => cases htarget; exact hnode
  | pastLink hdir hname hnode hgo h ih => exact ih htarget

/-- A walk whose first steps lead to a directory goes on from there, perhaps with fewer links to
follow. -/
theorem Leads.walk_append (h : Leads fs true links at_ steps (.found dir (.directory inode))) :
    ∃ left, ∀ rest, rest ≠ [] → ∀ follow,
      fs.walk follow links at_ (steps ++ rest) = fs.walk follow left dir rest := by
  generalize htarget : Target.found dir (.directory inode) = target at h
  induction h with
  | @stop links at_ node hnode =>
      cases htarget
      exact ⟨links, fun _ _ _ => rfl⟩
  | stay hdir h ih =>
      obtain ⟨left, hwalk⟩ := ih htarget
      refine ⟨left, fun rest hrest follow => ?_⟩
      rw [← hwalk rest hrest, walk_eq_walkPlain, List.cons_append, walkPlain, if_pos hdir]
  | up hdir h ih =>
      obtain ⟨left, hwalk⟩ := ih htarget
      refine ⟨left, fun rest hrest follow => ?_⟩
      rw [← hwalk rest hrest, walk_eq_walkPlain, List.cons_append, walkPlain, if_pos hdir]
  | free => cases htarget
  | @enter links at_ name steps node target hdir hname hnode hplain h ih =>
      obtain ⟨left, hwalk⟩ := ih htarget
      refine ⟨left, fun rest hrest follow => ?_⟩
      rw [← hwalk rest hrest, walk_eq_walkPlain, List.cons_append, walkPlain, if_pos hdir]
      cases node with
      | file i => simp only [if_neg hname, hnode]
      | directory i => simp only [if_neg hname, hnode]
      | link there => exact absurd rfl (hplain there)
  | atLink _ _ _ hfollow => cases hfollow
  | @pastLink links at_ name steps there target hdir hname hnode hgo h ih =>
      obtain ⟨left, hwalk⟩ := ih htarget
      refine ⟨left, fun rest hrest follow => ?_⟩
      -- there is more to walk, so the link is followed
      have hmore : ¬ ((steps ++ rest).isEmpty && !follow) = true := by simp [hrest]
      rw [← hwalk rest hrest, walk_eq_walkPlain, List.cons_append, walkPlain, if_pos hdir]
      simp only [if_neg hname, hnode, if_neg hmore, List.append_assoc]
      rfl

/-- The last step of a walk, to a name in a directory. -/
theorem walk_name (hdir : fs.isDirectoryAt dir = true)
    (hname : ¬ maxNameBytes < s.utf8ByteSize) (hremoved : isRemoved dir = false)
    (hplain : follow = true → ∀ there, fs.node? (dir ++ [s]) ≠ some (.link there)) :
    fs.walk follow links dir [.name s] = .ok (fs.targetAt (dir ++ [s])) := by
  rw [walk_eq_walkPlain, walkPlain, if_pos hdir]
  simp only [if_neg hname, targetAt]
  cases hnode : fs.node? (dir ++ [s]) with
  | none => simp [hremoved]
  | some node =>
      cases node with
      | file i => simp only [walkPlain, hnode]
      | directory i => simp only [walkPlain, hnode]
      | link there =>
          cases follow with
          | false => rfl
          | true => exact absurd hnode (hplain rfl there)

/-! ## Other names -/

theorem liesIn_eq_false_iff : liesIn roots loc = false ↔ ∀ root ∈ roots, ¬ root <+: loc := by
  simp [liesIn, ← List.isPrefixOf_iff_prefix]

theorem liesIn_pair_eq_false {a b loc : Location} :
    liesIn [a, b] loc = false ↔ ¬ a <+: loc ∧ ¬ b <+: loc := by
  rw [liesIn_eq_false_iff]
  simp

theorem liesIn_concat (hat : liesIn roots at_ = false) (hnew : at_ ++ [s] ∉ roots) :
    liesIn roots (at_ ++ [s]) = false := by
  rw [liesIn_eq_false_iff] at hat ⊢
  intro root hroot hpre
  rcases List.prefix_concat_iff.mp hpre with rfl | hpre
  · exact hnew hroot
  · exact hat root hroot hpre

theorem liesIn_above (hat : liesIn roots at_ = false) (hpre : loc <+: at_) :
    liesIn roots loc = false := by
  rw [liesIn_eq_false_iff] at hat ⊢
  exact fun root hroot hin => hat root hroot (hin.trans hpre)

/-- Neither a directory nor a link stands at a location, so no walk passes it. -/
def Closed (fs : FileSystem) (at_ : Location) : Prop :=
  ∀ node, fs.node? at_ = some node → ∃ inode, node = .file inode

theorem closed_of_plain (hplain : fs.isDirectoryAt at_ = false)
    (hlink : ∀ there, fs.node? at_ ≠ some (.link there)) : fs.Closed at_ := by
  intro node hnode
  cases node with
  | file inode => exact ⟨inode, rfl⟩
  | directory i =>
      have hdir := isDirectoryAt_iff.mpr ⟨i, hnode⟩
      exact absurd (hplain.symm.trans hdir) Bool.false_ne_true
  | link there => exact absurd hnode (hlink there)

theorem Closed.isDirectoryAt (h : fs.Closed at_) : fs.isDirectoryAt at_ = false := by
  rw [← Bool.not_eq_true]
  intro hdir
  obtain ⟨i, hi⟩ := isDirectoryAt_iff.mp hdir
  obtain ⟨j, hj⟩ := h _ hi
  cases hj

theorem Closed.not_link {there : Path} (h : fs.Closed at_) :
    fs.node? at_ ≠ some (.link there) := by
  intro hlink
  obtain ⟨j, hj⟩ := h _ hlink
  cases hj

/-- A way to a directory is there whatever comes and goes at and below names that no walk passes. -/
theorem Leads.of_agree (hclosed : ∀ root ∈ roots, fs.Closed root)
    (hnode : ∀ loc, liesIn roots loc = false → fs'.node? loc = fs.node? loc)
    (h : Leads fs follow links at_ steps (.found dir (.directory inode)))
    (hat : liesIn roots at_ = false) :
    Leads fs' follow links at_ steps (.found dir (.directory inode)) := by
  have hdirectory : ∀ {loc}, liesIn roots loc = false → fs.isDirectoryAt loc = true →
      fs'.isDirectoryAt loc = true := by
    intro loc hloc hdir
    rwa [FileSystem.isDirectoryAt, hnode loc hloc]
  generalize htarget : Target.found dir (.directory inode) = target at h
  induction h with
  | stop hthere => exact .stop ((hnode _ hat).trans hthere)
  | stay hdir h ih => exact .stay (hdirectory hat hdir) (ih hat htarget)
  | up hdir h ih =>
      exact .up (hdirectory hat hdir) (ih (liesIn_above hat (List.dropLast_prefix _)) htarget)
  | free => cases htarget
  | @enter links at_ s rest node target hdir hname hthere hplain h ih =>
      subst htarget
      have hin : liesIn roots (at_ ++ [s]) = false :=
        liesIn_concat hat fun hroot =>
          Bool.false_ne_true ((hclosed _ hroot).isDirectoryAt.symm.trans h.from_directory)
      exact .enter (hdirectory hat hdir) hname ((hnode _ hin).trans hthere) hplain (ih hin rfl)
  | atLink => cases htarget
  | @pastLink links at_ s rest there target hdir hname hthere hgo h ih =>
      have hin : liesIn roots (at_ ++ [s]) = false :=
        liesIn_concat hat fun hroot => (hclosed _ hroot).not_link hthere
      have hfrom : liesIn roots (start at_ there) = false := by
        unfold start
        split
        · exact liesIn_above hat List.nil_prefix
        · exact hat
      exact .pastLink (hdirectory hat hdir) hname ((hnode _ hin).trans hthere) hgo
        (ih hfrom htarget)

/-! ## Paths -/

/-- Some steps lead to a directory, as the front of a path does. -/
def Way (fs : FileSystem) (at_ : Location) (steps : List Step) (dir : Location) : Prop :=
  ∃ inode, Leads fs true maxLinks at_ steps (.found dir (.directory inode))

theorem Way.isDirectoryAt (h : fs.Way at_ steps dir) : fs.isDirectoryAt dir = true := by
  obtain ⟨i, hleads⟩ := h
  exact isDirectoryAt_iff.mpr ⟨i, hleads.node_found⟩

theorem Way.unique {other : Location} (h : fs.Way at_ steps dir) (h' : fs.Way at_ steps other) :
    dir = other := by
  obtain ⟨i, hleads⟩ := h
  obtain ⟨j, hleads'⟩ := h'
  have hsame := (walk_of_leads hleads).symm.trans (walk_of_leads hleads')
  cases hsame
  rfl

theorem Extends.way (hext : fs'.Extends fs) (h : fs.Way at_ steps dir) : fs'.Way at_ steps dir := by
  obtain ⟨i, hleads⟩ := h
  exact ⟨i, hext.leads hleads⟩

theorem Way.of_agree (h : fs.Way at_ steps dir) (hclosed : ∀ root ∈ roots, fs.Closed root)
    (hnode : ∀ loc, liesIn roots loc = false → fs'.node? loc = fs.node? loc)
    (hat : liesIn roots at_ = false) : fs'.Way at_ steps dir := by
  obtain ⟨i, hleads⟩ := h
  exact ⟨i, hleads.of_agree hclosed hnode hat⟩

/-- All steps of a path but the last ones lead to a directory, whatever the path leads to. -/
theorem exists_way {p : Path} {front rest : List Step} {target : Target} (hrest : rest ≠ [])
    (hsteps : p.steps = front ++ rest) (hresolve : fs.resolve true p = .ok target) :
    ∃ dir, fs.Way (start fs.workingDirectory p) front dir := by
  obtain ⟨-, -, -, hwalk⟩ := walk_of_resolve hresolve
  rw [hsteps] at hwalk
  obtain ⟨dir, i, hfront⟩ := walk_front hrest hwalk
  exact ⟨dir, i, leads_of_walk hfront⟩

/-- A path to a name in a directory leads to what stands there. -/
theorem Way.resolve_name {p : Path} {front : List Step}
    (h : fs.Way (start fs.workingDirectory p) front dir) (hsteps : p.steps = front ++ [.name s])
    (hshort : p.text.utf8ByteSize < maxPathBytes) (htext : p.text ≠ "")
    (hclean : p.text.toList.contains '\x00' = false) (hname : ¬ maxNameBytes < s.utf8ByteSize)
    (hremoved : isRemoved dir = false)
    (hplain : follow = true → ∀ there, fs.node? (dir ++ [s]) ≠ some (.link there)) :
    fs.resolve follow p = .ok (fs.targetAt (dir ++ [s])) := by
  have hdir := h.isDirectoryAt
  obtain ⟨i, hleads⟩ := h
  obtain ⟨left, hlast⟩ := hleads.walk_append
  refine resolve_of_walk hshort htext hclean ?_
  rw [hsteps, hlast _ (by simp)]
  exact walk_name hdir hname hremoved hplain

/-! ## The last link -/

theorem walkPlain_follow_eq {onLink onLink' : Location → List Step → Except IoError Target}
    (hlink : ∀ at_ steps, (∀ loc there, onLink at_ steps ≠ .ok (.found loc (.link there))) →
      onLink' at_ steps = onLink at_ steps)
    (hplain : ∀ loc there, fs.walkPlain false onLink at_ steps ≠ .ok (.found loc (.link there))) :
    fs.walkPlain true onLink' at_ steps = fs.walkPlain false onLink at_ steps := by
  induction steps generalizing at_ with
  | nil => rfl
  | cons step rest ih =>
      unfold walkPlain at hplain ⊢
      cases hdir : fs.isDirectoryAt at_ with
      | false => rfl
      | true =>
          simp only [hdir, if_true] at hplain ⊢
          cases step with
          | stay => exact ih hplain
          | up => exact ih hplain
          | name s =>
              simp only at hplain ⊢
              split
              · rfl
              next hname =>
                simp only [if_neg hname] at hplain
                cases hnode : fs.node? (at_ ++ [s]) with
                | none => rfl
                | some node =>
                    simp only [hnode] at hplain
                    cases node with
                    | file i => exact ih hplain
                    | directory i => exact ih hplain
                    | link there =>
                        -- were it the last one, the walk would end at the link
                        cases rest with
                        | nil => exact absurd rfl (hplain _ there)
                        | cons next others => exact hlink _ _ hplain

/-- Whether links are followed matters only to a walk that ends at a link. -/
theorem walk_follow_eq
    (hplain : ∀ loc there, fs.walk false links at_ steps ≠ .ok (.found loc (.link there))) :
    fs.walk true links at_ steps = fs.walk false links at_ steps := by
  induction links generalizing at_ steps with
  | zero => exact walkPlain_follow_eq (fun _ _ _ => rfl) hplain
  | succ links ih => exact walkPlain_follow_eq (fun _ _ h => ih h) hplain

theorem resolve_follow_eq {p : Path}
    (hplain : ∀ loc there, fs.resolve false p ≠ .ok (.found loc (.link there))) :
    fs.resolve true p = fs.resolve false p := by
  unfold resolve locate at hplain ⊢
  split
  · rfl
  next hlength =>
    split
    · rfl
    next htext =>
      split
      · rfl
      next hclean =>
        rw [if_neg hlength, if_neg htext, if_neg hclean] at hplain
        exact walk_follow_eq hplain

/-! ## What is taken away -/

theorem node?_erase (hat : at_ ≠ []) (loc : Location) :
    (fs.erase at_).node? loc = if loc = at_ then none else fs.node? loc := by
  by_cases hloc : loc = []
  · simp [node?, hloc, Ne.symm hat]
  · rw [node?_of_ne_nil hloc, node?_of_ne_nil hloc, erase,
      lookup_filter fun l => decide (l ≠ at_)]
    by_cases heq : loc = at_ <;> simp [heq]

theorem node?_erase_of_liesIn (hat : at_ ≠ []) (hroot : at_ ∈ roots)
    (hloc : liesIn roots loc = false) : (fs.erase at_).node? loc = fs.node? loc := by
  rw [node?_erase hat, if_neg]
  rintro rfl
  exact liesIn_eq_false_iff.mp hloc loc hroot List.prefix_rfl

theorem extends_erase (hat : at_ ≠ []) : fs.Extends (fs.erase at_) where
  node {loc node} h := by
    rw [node?_erase hat] at h
    split at h
    · cases h
    · exact h
  workingDirectory := rfl

/-- A name that is free is found free, if nothing more is asked of it. -/
theorem walk_free {rest : List Step} (hdir : fs.isDirectoryAt at_ = true)
    (hname : ¬ maxNameBytes < s.utf8ByteSize) (hnode : fs.node? (at_ ++ [s]) = none) :
    fs.walk follow links at_ (.name s :: rest) = .ok (.vacant (at_ ++ [s])) ∨
      fs.walk follow links at_ (.name s :: rest) = .error .notFound := by
  rw [walk_eq_walkPlain, walkPlain, if_pos hdir]
  simp only [if_neg hname, hnode]
  split
  · left; rfl
  · right; rfl

/-- A walk that led to what is taken away finds a free name there, or no longer gets there. -/
theorem Leads.walk_erase (h : Leads fs false links at_ steps (.found loc node))
    (hplain : fs.isDirectoryAt loc = false) :
    (fs.erase loc).walk false links at_ steps = .ok (.vacant loc) ∨
      (fs.erase loc).walk false links at_ steps = .error .notFound := by
  have hroot : loc ≠ [] := by
    rintro rfl
    cases hplain
  have hnodes : ∀ at_, (fs.erase loc).node? at_ = if at_ = loc then none else fs.node? at_ :=
    node?_erase hroot
  have hdirectory : ∀ {at_}, fs.isDirectoryAt at_ = true →
      (fs.erase loc).isDirectoryAt at_ = true := by
    intro at_ hdir
    have hne : at_ ≠ loc := by
      rintro rfl
      exact Bool.false_ne_true (hplain.symm.trans hdir)
    rwa [isDirectoryAt, hnodes, if_neg hne]
  generalize htarget : Target.found loc node = target at h
  induction h with
  | @stop links at_ node hnode =>
      cases htarget
      right
      rw [walk_eq_walkPlain, walkPlain, hnodes, if_pos rfl]
  | stay hdir h ih =>
      rw [walk_eq_walkPlain, walkPlain, if_pos (hdirectory hdir), ← walk_eq_walkPlain]
      exact ih htarget
  | up hdir h ih =>
      rw [walk_eq_walkPlain, walkPlain, if_pos (hdirectory hdir), ← walk_eq_walkPlain]
      exact ih htarget
  | free => cases htarget
  | @enter links at_ s rest found target hdir hname hnode hnolink h ih =>
      by_cases hgone : at_ ++ [s] = loc
      · subst hgone
        exact walk_free (hdirectory hdir) hname (by rw [hnodes, if_pos rfl])
      · have hkept : (fs.erase loc).node? (at_ ++ [s]) = some found := by
          rw [hnodes, if_neg hgone, hnode]
        rw [walk_eq_walkPlain, walkPlain, if_pos (hdirectory hdir)]
        simp only [if_neg hname, hkept]
        cases found with
        | file i => rw [← walk_eq_walkPlain]; exact ih htarget
        | directory i => rw [← walk_eq_walkPlain]; exact ih htarget
        | link there => exact absurd rfl (hnolink there)
  | atLink hdir hname hnode =>
      cases htarget
      exact walk_free (hdirectory hdir) hname (by rw [hnodes, if_pos rfl])
  | @pastLink links at_ s rest there target hdir hname hnode hgo h ih =>
      have hne : rest ≠ [] := fun hrest => Bool.false_ne_true (hgo hrest)
      by_cases hgone : at_ ++ [s] = loc
      · subst hgone
        exact walk_free (hdirectory hdir) hname (by rw [hnodes, if_pos rfl])
      · have hkept : (fs.erase loc).node? (at_ ++ [s]) = some (.link there) := by
          rw [hnodes, if_neg hgone, hnode]
        have hmore : ¬ (rest.isEmpty && !false) = true := by simp [hne]
        rw [walk_eq_walkPlain, walkPlain, if_pos (hdirectory hdir)]
        simp only [if_neg hname, hkept, if_neg hmore]
        exact ih htarget

/-- A path that led to what is taken away finds a free name there, or no longer gets there. -/
theorem resolve_erase {p : Path} (hresolve : fs.resolve false p = .ok (.found loc node))
    (hplain : fs.isDirectoryAt loc = false) :
    (fs.erase loc).resolve false p = .ok (.vacant loc) ∨
      (fs.erase loc).resolve false p = .error .notFound := by
  obtain ⟨hlength, htext, hclean, hwalk⟩ := walk_of_resolve hresolve
  rw [resolve, if_neg (Nat.not_le_of_lt hlength), locate_eq p htext hclean]
  exact (leads_of_walk hwalk).walk_erase hplain

end DebugDashboard.FileSystem
