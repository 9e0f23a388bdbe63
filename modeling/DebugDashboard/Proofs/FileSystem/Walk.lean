import DebugDashboard.FileSystem.Operations

/-!
# Walks in related file systems

A walk looks at nothing but the nodes on its way. What a walk finds stays where it is when other
nodes are added, and a free name that a walk ends at is found once something stands there.
-/

namespace DebugDashboard.FileSystem

variable {fs base : FileSystem} {follow : Bool} {links : Nat} {at_ loc : Location}
  {node : Node} {steps rest : List Step}

/-- The same nodes stand at the same places. -/
structure Alike (fs base : FileSystem) : Prop where
  node (at_ : Location) : fs.node? at_ = base.node? at_
  workingDirectory : fs.workingDirectory = base.workingDirectory

/-- All nodes of `base` stand at their places in `fs`, perhaps among others. -/
structure Extends (fs base : FileSystem) : Prop where
  node {at_ : Location} {node : Node} : base.node? at_ = some node → fs.node? at_ = some node
  workingDirectory : fs.workingDirectory = base.workingDirectory

theorem Alike.refl (fs : FileSystem) : fs.Alike fs := ⟨fun _ => rfl, rfl⟩

theorem Alike.trans {other : FileSystem} (h : fs.Alike base) (h' : base.Alike other) :
    fs.Alike other :=
  ⟨fun at_ => (h.node at_).trans (h'.node at_), h.workingDirectory.trans h'.workingDirectory⟩

theorem Alike.isDirectoryAt (h : fs.Alike base) (at_ : Location) :
    fs.isDirectoryAt at_ = base.isDirectoryAt at_ := by
  simp only [FileSystem.isDirectoryAt, h.node]

theorem isDirectoryAt_iff :
    fs.isDirectoryAt at_ = true ↔ ∃ i, fs.node? at_ = some (.directory i) := by
  unfold isDirectoryAt
  split <;> simp_all

theorem Extends.isDirectoryAt (h : fs.Extends base) (hdir : base.isDirectoryAt at_ = true) :
    fs.isDirectoryAt at_ = true := by
  obtain ⟨i, hi⟩ := isDirectoryAt_iff.mp hdir
  exact isDirectoryAt_iff.mpr ⟨i, h.node hi⟩

/-! ## Equal nodes -/

theorem walkPlain_congr (h : fs.Alike base)
    {onLink onLink' : Location → List Step → Except IoError Target}
    (hlink : ∀ at_ steps, onLink at_ steps = onLink' at_ steps) (at_ : Location)
    (steps : List Step) :
    fs.walkPlain follow onLink at_ steps = base.walkPlain follow onLink' at_ steps := by
  induction steps generalizing at_ with
  | nil => simp only [walkPlain, h.node]
  | cons step rest ih => simp only [walkPlain, h.node, h.isDirectoryAt, ih, hlink]

theorem walk_congr (h : fs.Alike base) (links : Nat) (at_ : Location) (steps : List Step) :
    fs.walk follow links at_ steps = base.walk follow links at_ steps := by
  induction links generalizing at_ steps with
  | zero => exact walkPlain_congr h (fun _ _ => rfl) at_ steps
  | succ links ih => exact walkPlain_congr h ih at_ steps

theorem locate_congr (h : fs.Alike base) (follow : Bool) (p : Path) :
    fs.locate follow p = base.locate follow p := by
  simp only [locate, walk_congr h, h.workingDirectory]

theorem resolve_congr (h : fs.Alike base) (follow : Bool) (p : Path) :
    fs.resolve follow p = base.resolve follow p := by
  simp only [resolve, locate_congr h]

theorem find_congr (h : fs.Alike base) (p : Path) : fs.find p = base.find p := by
  simp only [find, resolve_congr h]

theorem canonicalise_congr (h : fs.Alike base) (p : Path) :
    fs.canonicalise p = base.canonicalise p := by
  have hhere : fs.workingPath? = base.workingPath? := by
    simp only [workingPath?, h.workingDirectory]
  rw [canonicalise, canonicalise, hhere, locate_congr h]

/-! ## Walks that lead somewhere -/

/-- What the steps of a walk that leads to a target can be, with at most the given number of links
to follow. -/
inductive Leads (fs : FileSystem) (follow : Bool) :
    Nat → Location → List Step → Target → Prop
  | stop {links : Nat} {at_ : Location} {node : Node} (hnode : fs.node? at_ = some node) :
      Leads fs follow links at_ [] (.found at_ node)
  | stay {links : Nat} {at_ : Location} {rest : List Step} {target : Target}
      (hdir : fs.isDirectoryAt at_ = true) (h : Leads fs follow links at_ rest target) :
      Leads fs follow links at_ (.stay :: rest) target
  | up {links : Nat} {at_ : Location} {rest : List Step} {target : Target}
      (hdir : fs.isDirectoryAt at_ = true) (h : Leads fs follow links at_.dropLast rest target) :
      Leads fs follow links at_ (.up :: rest) target
  | free {links : Nat} {at_ : Location} {s : String} (hdir : fs.isDirectoryAt at_ = true)
      (hname : ¬ maxNameBytes < s.utf8ByteSize) (hnode : fs.node? (at_ ++ [s]) = none)
      (hremoved : isRemoved at_ = false) :
      Leads fs follow links at_ [.name s] (.vacant (at_ ++ [s]))
  | enter {links : Nat} {at_ : Location} {s : String} {rest : List Step} {node : Node}
      {target : Target} (hdir : fs.isDirectoryAt at_ = true)
      (hname : ¬ maxNameBytes < s.utf8ByteSize) (hnode : fs.node? (at_ ++ [s]) = some node)
      (hplain : ∀ there, node ≠ .link there) (h : Leads fs follow links (at_ ++ [s]) rest target) :
      Leads fs follow links at_ (.name s :: rest) target
  | atLink {links : Nat} {at_ : Location} {s : String} {there : Path}
      (hdir : fs.isDirectoryAt at_ = true) (hname : ¬ maxNameBytes < s.utf8ByteSize)
      (hnode : fs.node? (at_ ++ [s]) = some (.link there)) (hfollow : follow = false) :
      Leads fs follow links at_ [.name s] (.found (at_ ++ [s]) (.link there))
  | pastLink {links : Nat} {at_ : Location} {s : String} {rest : List Step} {there : Path}
      {target : Target} (hdir : fs.isDirectoryAt at_ = true)
      (hname : ¬ maxNameBytes < s.utf8ByteSize)
      (hnode : fs.node? (at_ ++ [s]) = some (.link there)) (hgo : rest = [] → follow = true)
      (h : Leads fs follow links (start at_ there) (there.steps ++ rest) target) :
      Leads fs follow (links + 1) at_ (.name s :: rest) target

/-- What a walk does at a link, with at most the given number of links to follow. -/
def onLink (fs : FileSystem) (follow : Bool) : Nat → Location → List Step → Except IoError Target
  | 0 => fun _ _ => .error .tooManyLinks
  | links + 1 => fs.walk follow links

theorem walk_eq_walkPlain :
    fs.walk follow links = fs.walkPlain follow (fs.onLink follow links) := by
  cases links <;> rfl

theorem leads_of_walkPlain {target : Target}
    (hlink : ∀ at_ steps, fs.onLink follow links at_ steps = .ok target →
      ∃ fewer, links = fewer + 1 ∧ Leads fs follow fewer at_ steps target)
    (hwalk : fs.walkPlain follow (fs.onLink follow links) at_ steps = .ok target) :
    Leads fs follow links at_ steps target := by
  induction steps generalizing at_ with
  | nil =>
      cases hnode : fs.node? at_ with
      | none => simp [walkPlain, hnode] at hwalk
      | some node =>
          simp only [walkPlain, hnode, Except.ok.injEq] at hwalk
          exact hwalk ▸ .stop hnode
  | cons step rest ih =>
      cases hdir : fs.isDirectoryAt at_ with
      | false => simp [walkPlain, hdir] at hwalk
      | true =>
          simp only [walkPlain, hdir, if_true] at hwalk
          cases step with
          | stay => exact .stay hdir (ih hwalk)
          | up => exact .up hdir (ih hwalk)
          | name s =>
              simp only at hwalk
              split at hwalk
              · cases hwalk
              next hname =>
                cases hnode : fs.node? (at_ ++ [s]) with
                | none =>
                    simp only [hnode, Bool.and_eq_true, List.isEmpty_iff,
                      Bool.not_eq_true'] at hwalk
                    split at hwalk
                    next hend =>
                      obtain ⟨rfl, hremoved⟩ := hend
                      cases hwalk
                      exact .free hdir hname hnode hremoved
                    next => cases hwalk
                | some node =>
                    cases node with
                    | file i =>
                        simp only [hnode] at hwalk
                        exact .enter hdir hname hnode (by simp) (ih hwalk)
                    | directory i =>
                        simp only [hnode] at hwalk
                        exact .enter hdir hname hnode (by simp) (ih hwalk)
                    | link there =>
                        simp only [hnode, Bool.and_eq_true, List.isEmpty_iff,
                          Bool.not_eq_true'] at hwalk
                        split at hwalk
                        next hend =>
                          obtain ⟨rfl, hfollow⟩ := hend
                          cases hwalk
                          exact .atLink hdir hname hnode hfollow
                        next hgo =>
                          -- the link is followed, which costs one of the links
                          obtain ⟨fewer, rfl, hleads⟩ := hlink _ _ hwalk
                          refine .pastLink hdir hname hnode (fun hrest => ?_) hleads
                          simpa [hrest] using hgo

theorem leads_of_walk {target : Target} (hwalk : fs.walk follow links at_ steps = .ok target) :
    Leads fs follow links at_ steps target := by
  induction links generalizing at_ steps with
  | zero => exact leads_of_walkPlain (fun _ _ hnever => by cases hnever) hwalk
  | succ links ih =>
      exact leads_of_walkPlain (fun _ _ hfurther => ⟨links, rfl, ih hfurther⟩) hwalk

theorem walk_of_leads {target : Target} (h : Leads fs follow links at_ steps target) :
    fs.walk follow links at_ steps = .ok target := by
  rw [walk_eq_walkPlain]
  induction h with
  | stop hnode => simp only [walkPlain, hnode]
  | stay hdir h ih => simp only [walkPlain, hdir, if_true, ih]
  | up hdir h ih => simp only [walkPlain, hdir, if_true, ih]
  | free hdir hname hnode hremoved => simp [walkPlain, hdir, hname, hnode, hremoved]
  | @enter links at_ s rest node target hdir hname hnode hplain h ih =>
      cases node with
      | file i => simp only [walkPlain, hdir, if_true, if_neg hname, hnode, ih]
      | directory i => simp only [walkPlain, hdir, if_true, if_neg hname, hnode, ih]
      | link there => exact absurd rfl (hplain there)
  | atLink hdir hname hnode hfollow => simp [walkPlain, hdir, hname, hnode, hfollow]
  | pastLink hdir hname hnode hgo h ih =>
      rw [← walk_eq_walkPlain] at ih
      simp only [walkPlain, hdir, if_true, if_neg hname, hnode, Bool.and_eq_true, List.isEmpty_iff,
        Bool.not_eq_true']
      rw [if_neg fun hend => Bool.false_ne_true (hend.2.symm.trans (hgo hend.1))]
      exact ih

/-! ## More nodes -/

theorem Extends.leads (hext : fs.Extends base)
    (h : Leads base follow links at_ steps (.found loc node)) :
    Leads fs follow links at_ steps (.found loc node) := by
  generalize htarget : Target.found loc node = target at h ⊢
  induction h with
  | stop hnode => exact .stop (hext.node hnode)
  | stay hdir h ih => exact .stay (hext.isDirectoryAt hdir) (ih htarget)
  | up hdir h ih => exact .up (hext.isDirectoryAt hdir) (ih htarget)
  | free => cases htarget
  | enter hdir hname hnode hplain h ih =>
      exact .enter (hext.isDirectoryAt hdir) hname (hext.node hnode) hplain (ih htarget)
  | atLink hdir hname hnode hfollow =>
      exact .atLink (hext.isDirectoryAt hdir) hname (hext.node hnode) hfollow
  | pastLink hdir hname hnode hgo h ih =>
      exact .pastLink (hext.isDirectoryAt hdir) hname (hext.node hnode) hgo (ih htarget)

/-- What a walk finds is found by the same walk among more nodes. -/
theorem walk_found (h : fs.Extends base)
    (hwalk : base.walk follow links at_ steps = .ok (.found loc node)) :
    fs.walk follow links at_ steps = .ok (.found loc node) :=
  walk_of_leads (h.leads (leads_of_walk hwalk))

/-- What stands at a location, or that the location is free. -/
def targetAt (fs : FileSystem) (loc : Location) : Target :=
  match fs.node? loc with
  | some node => .found loc node
  | none => .vacant loc

theorem Extends.leads_targetAt (hext : fs.Extends base) {follow : Bool}
    (hplain : follow = true → ∀ target, fs.node? loc ≠ some (.link target))
    (h : Leads base false links at_ steps (.vacant loc)) :
    Leads fs follow links at_ steps (fs.targetAt loc) := by
  generalize htarget : Target.vacant loc = target at h
  induction h with
  | stop => cases htarget
  | stay hdir h ih => exact .stay (hext.isDirectoryAt hdir) (ih htarget)
  | up hdir h ih => exact .up (hext.isDirectoryAt hdir) (ih htarget)
  | @free links at_ s hdir hname hnode hremoved =>
      -- the walk ends here, whatever `fs` has at the name that is free in `base`
      cases htarget
      have hdir := hext.isDirectoryAt hdir
      cases hthere : fs.node? (at_ ++ [s]) with
      | none => simpa only [targetAt, hthere] using .free hdir hname hthere hremoved
      | some node =>
          simp only [targetAt, hthere]
          cases node with
          | file i => exact .enter hdir hname hthere (by simp) (.stop hthere)
          | directory i => exact .enter hdir hname hthere (by simp) (.stop hthere)
          | link there =>
              cases follow with
              | false => exact .atLink hdir hname hthere rfl
              | true => exact absurd hthere (hplain rfl there)
  | enter hdir hname hnode hnolink h ih =>
      exact .enter (hext.isDirectoryAt hdir) hname (hext.node hnode) hnolink (ih htarget)
  | atLink => cases htarget
  | pastLink hdir hname hnode hgo h ih =>
      exact .pastLink (hext.isDirectoryAt hdir) hname (hext.node hnode)
        (fun hrest => absurd (hgo hrest) Bool.false_ne_true) (ih htarget)

/-- Where a walk ends at a free name, the same walk among more nodes ends at what stands there. -/
theorem walk_vacant (h : fs.Extends base) {follow : Bool}
    (hplain : follow = true → ∀ target, fs.node? loc ≠ some (.link target))
    (hwalk : base.walk false links at_ steps = .ok (.vacant loc)) :
    fs.walk follow links at_ steps = .ok (fs.targetAt loc) :=
  walk_of_leads (h.leads_targetAt hplain (leads_of_walk hwalk))

/-! ## Paths -/

theorem locate_eq (p : Path) (htext : p.text ≠ "") (hnul : p.text.toList.contains '\x00' = false) :
    fs.locate follow p = fs.walk follow maxLinks (start fs.workingDirectory p) p.steps := by
  rw [locate, if_neg htext, hnul, if_neg Bool.false_ne_true]

/-- Only a path that is neither too long nor empty nor holds NUL leads anywhere. -/
theorem walk_of_resolve {p : Path} {target : Target} (hresolve : fs.resolve follow p = .ok target) :
    p.text.utf8ByteSize < maxPathBytes ∧ p.text ≠ "" ∧ p.text.toList.contains '\x00' = false ∧
      fs.walk follow maxLinks (start fs.workingDirectory p) p.steps = .ok target := by
  unfold resolve at hresolve
  split at hresolve
  · cases hresolve
  next hlength =>
    unfold locate at hresolve
    split at hresolve
    · cases hresolve
    next htext =>
      split at hresolve
      · cases hresolve
      next hnul => exact ⟨Nat.lt_of_not_le hlength, htext, by simpa using hnul, hresolve⟩

theorem resolve_of_walk {p : Path} {target : Target} (hlength : p.text.utf8ByteSize < maxPathBytes)
    (htext : p.text ≠ "") (hnul : p.text.toList.contains '\x00' = false)
    (hwalk : fs.walk follow maxLinks (start fs.workingDirectory p) p.steps = .ok target) :
    fs.resolve follow p = .ok target := by
  rw [resolve, if_neg (Nat.not_le_of_lt hlength), locate_eq p htext hnul, hwalk]

theorem locate_found (h : fs.Extends base) {p : Path}
    (hlocate : base.locate follow p = .ok (.found loc node)) :
    fs.locate follow p = .ok (.found loc node) := by
  unfold locate at hlocate ⊢
  split at hlocate
  · cases hlocate
  next htext =>
    split at hlocate
    · cases hlocate
    next hnul =>
      rw [if_neg htext, if_neg hnul, h.workingDirectory]
      exact walk_found h hlocate

theorem resolve_found (h : fs.Extends base) {p : Path}
    (hresolve : base.resolve follow p = .ok (.found loc node)) :
    fs.resolve follow p = .ok (.found loc node) := by
  obtain ⟨hlength, htext, hnul, hwalk⟩ := walk_of_resolve hresolve
  rw [← h.workingDirectory] at hwalk
  exact resolve_of_walk hlength htext hnul (walk_found h hwalk)

theorem resolve_vacant (h : fs.Extends base) {follow : Bool} {p : Path}
    (hplain : follow = true → ∀ target, fs.node? loc ≠ some (.link target))
    (hresolve : base.resolve false p = .ok (.vacant loc)) :
    fs.resolve follow p = .ok (fs.targetAt loc) := by
  obtain ⟨hlength, htext, hnul, hwalk⟩ := walk_of_resolve hresolve
  rw [← h.workingDirectory] at hwalk
  exact resolve_of_walk hlength htext hnul (walk_vacant h hplain hwalk)

theorem find_eq_ok_iff {p : Path} :
    fs.find p = .ok node ↔ ∃ loc, fs.resolve true p = .ok (.found loc node) := by
  unfold FileSystem.find
  cases hresolve : fs.resolve true p with
  | error e => simp [bind, Except.bind]
  | ok target => cases target <;> simp [bind, Except.bind]

theorem find_found (h : fs.Extends base) {p : Path} (hfind : base.find p = .ok node) :
    fs.find p = .ok node := by
  obtain ⟨loc, hresolve⟩ := find_eq_ok_iff.mp hfind
  exact find_eq_ok_iff.mpr ⟨loc, resolve_found h hresolve⟩

/-! ## What a walk says about its steps -/

theorem Leads.vacant_name (h : Leads fs false links at_ steps (.vacant loc)) :
    (∃ s, steps.getLast? = some (.name s)) ∧
      ∃ above s, loc = above ++ [s] ∧ fs.isDirectoryAt above = true ∧ fs.node? loc = none := by
  have hcons : ∀ {step : Step} {rest : List Step} {s}, rest.getLast? = some (.name s) →
      (step :: rest).getLast? = some (.name s) := by
    intro step rest s hlast
    rw [List.getLast?_cons, hlast]
    rfl
  generalize htarget : Target.vacant loc = target at h
  induction h with
  | stop => cases htarget
  | stay hdir h ih =>
      obtain ⟨⟨s, hlast⟩, habove⟩ := ih htarget
      exact ⟨⟨s, hcons hlast⟩, habove⟩
  | up hdir h ih =>
      obtain ⟨⟨s, hlast⟩, habove⟩ := ih htarget
      exact ⟨⟨s, hcons hlast⟩, habove⟩
  | @free links at_ s hdir hname hnode hremoved =>
      cases htarget
      exact ⟨⟨s, rfl⟩, at_, s, rfl, hdir, hnode⟩
  | enter hdir hname hnode hplain h ih =>
      obtain ⟨⟨s, hlast⟩, habove⟩ := ih htarget
      exact ⟨⟨s, hcons hlast⟩, habove⟩
  | atLink => cases htarget
  | @pastLink links at_ name rest there target hdir hname hnode hgo h ih =>
      -- a link at the end is not followed, so the last step is one behind the link
      obtain ⟨⟨s, hlast⟩, habove⟩ := ih htarget
      have hne : rest ≠ [] := fun hrest => Bool.false_ne_true (hgo hrest)
      rw [List.getLast?_append, List.getLast?_eq_some_getLast hne] at hlast
      rw [Option.some_or, ← List.getLast?_eq_some_getLast hne] at hlast
      exact ⟨⟨s, hcons hlast⟩, habove⟩

/-- A walk that ends at a free name has a name as its last step, and the free name is in a
directory. -/
theorem walk_vacant_name (hwalk : fs.walk false links at_ steps = .ok (.vacant loc)) :
    (∃ s, steps.getLast? = some (.name s)) ∧
      ∃ above s, loc = above ++ [s] ∧ fs.isDirectoryAt above = true ∧ fs.node? loc = none :=
  (leads_of_walk hwalk).vacant_name

theorem Leads.of_isDirectoryAt (hdir : fs.isDirectoryAt at_ = true) :
    ∃ loc i, Leads fs follow links at_ [] (.found loc (.directory i)) := by
  obtain ⟨i, hi⟩ := isDirectoryAt_iff.mp hdir
  exact ⟨at_, i, .stop hi⟩

theorem Leads.front {target : Target} (hrest : rest ≠ [])
    (h : Leads fs true links at_ (steps ++ rest) target) :
    ∃ loc i, Leads fs true links at_ steps (.found loc (.directory i)) := by
  generalize hall : steps ++ rest = all at h
  induction h generalizing steps with
  | stop => exact absurd (List.append_eq_nil_iff.mp hall).2 hrest
  | stay hdir h ih =>
      rcases List.append_eq_cons_iff.mp hall with ⟨rfl, -⟩ | ⟨others, rfl, hothers⟩
      · exact Leads.of_isDirectoryAt hdir
      · obtain ⟨loc, i, hleads⟩ := ih hothers.symm
        exact ⟨loc, i, .stay hdir hleads⟩
  | up hdir h ih =>
      rcases List.append_eq_cons_iff.mp hall with ⟨rfl, -⟩ | ⟨others, rfl, hothers⟩
      · exact Leads.of_isDirectoryAt hdir
      · obtain ⟨loc, i, hleads⟩ := ih hothers.symm
        exact ⟨loc, i, .up hdir hleads⟩
  | free hdir =>
      rcases List.append_eq_cons_iff.mp hall with ⟨rfl, -⟩ | ⟨others, rfl, hothers⟩
      · exact Leads.of_isDirectoryAt hdir
      · exact absurd (List.append_eq_nil_iff.mp hothers.symm).2 hrest
  | enter hdir hname hnode hplain h ih =>
      rcases List.append_eq_cons_iff.mp hall with ⟨rfl, -⟩ | ⟨others, rfl, hothers⟩
      · exact Leads.of_isDirectoryAt hdir
      · obtain ⟨loc, i, hleads⟩ := ih hothers.symm
        exact ⟨loc, i, .enter hdir hname hnode hplain hleads⟩
  | atLink _ _ _ hfollow => cases hfollow
  | pastLink hdir hname hnode hgo h ih =>
      rcases List.append_eq_cons_iff.mp hall with ⟨rfl, -⟩ | ⟨others, rfl, rfl⟩
      · exact Leads.of_isDirectoryAt hdir
      · obtain ⟨loc, i, hleads⟩ := ih (List.append_assoc ..)
        exact ⟨loc, i, .pastLink hdir hname hnode (fun _ => rfl) hleads⟩

/-- Whatever a walk ends at, all its steps but the last ones lead to a directory. -/
theorem walk_front {target : Target} (hrest : rest ≠ [])
    (hwalk : fs.walk true links at_ (steps ++ rest) = .ok target) :
    ∃ loc i, fs.walk true links at_ steps = .ok (.found loc (.directory i)) := by
  obtain ⟨loc, i, hleads⟩ := (leads_of_walk hwalk).front hrest
  exact ⟨loc, i, walk_of_leads hleads⟩

theorem Leads.found_link (h : Leads fs true links at_ steps (.found loc node)) :
    ∃ loc node, Leads fs false links at_ steps (.found loc node) := by
  generalize htarget : Target.found loc node = target at h
  induction h with
  | stop hnode => exact ⟨_, _, .stop hnode⟩
  | stay hdir h ih =>
      obtain ⟨loc, node, hleads⟩ := ih htarget
      exact ⟨loc, node, .stay hdir hleads⟩
  | up hdir h ih =>
      obtain ⟨loc, node, hleads⟩ := ih htarget
      exact ⟨loc, node, .up hdir hleads⟩
  | free => cases htarget
  | enter hdir hname hnode hplain h ih =>
      obtain ⟨loc, node, hleads⟩ := ih htarget
      exact ⟨loc, node, .enter hdir hname hnode hplain hleads⟩
  | atLink _ _ _ hfollow => cases hfollow
  | @pastLink links at_ s rest there target hdir hname hnode hgo h ih =>
      -- only a link at the end is not followed, and then it is what the walk finds
      by_cases hrest : rest = []
      · subst hrest
        exact ⟨_, _, .atLink hdir hname hnode rfl⟩
      · obtain ⟨loc, node, hleads⟩ := ih htarget
        exact ⟨loc, node, .pastLink hdir hname hnode (fun hnil => absurd hnil hrest) hleads⟩

/-- What a walk finds beyond a link at its end, it also finds at the link. -/
theorem walk_found_link (hwalk : fs.walk true links at_ steps = .ok (.found loc node)) :
    ∃ loc node, fs.walk false links at_ steps = .ok (.found loc node) := by
  obtain ⟨loc, node, hleads⟩ := (leads_of_walk hwalk).found_link
  exact ⟨loc, node, walk_of_leads hleads⟩

end DebugDashboard.FileSystem
