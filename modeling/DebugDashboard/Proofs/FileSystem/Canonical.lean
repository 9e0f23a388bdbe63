import DebugDashboard.Proofs.FileSystem.Spelling
import DebugDashboard.Proofs.Path.Lexical

/-!
# Canonical paths

The canonical path of what a path names goes down from the root by names, and nothing on its way is
a link. So a canonical path, as long as it names anything, is its own canonical path, and no path
through a link is the canonical path of anything.
-/

namespace DebugDashboard

namespace Path

variable {s : String} {loc : Location}

theorem isName_of_mem_steps {p : Path} (hs : .name s ∈ p.steps) : IsName s := by
  rcases List.mem_append.mp hs with hs | hs
  · obtain ⟨t, ht, hstep⟩ := List.mem_filterMap.mp hs
    split at hstep
    · cases hstep
    next hempty =>
      split at hstep
      · cases hstep
      next hdot =>
        split at hstep
        · cases hstep
        next hdots =>
          cases hstep
          exact ⟨hempty, hdot, hdots, notMem_of_mem_segments ht⟩
  · split at hs
    · cases List.mem_singleton.mp hs
    · cases hs

theorem ofLocation_eq (loc : Location) :
    ofLocation loc = ofComponents (.root :: loc.map .name) := by
  have htexts : (loc.map Component.name).map Component.text = loc := by
    rw [List.map_map]
    exact List.map_id loc
  rw [ofLocation, ofComponents, htexts]

theorem isPart_of_mem_map_name {names : List String} (hnames : ∀ s ∈ names, IsName s) :
    ∀ c ∈ names.map Component.name, c.IsPart := by
  intro c hc
  obtain ⟨s, hs, rfl⟩ := List.mem_map.mp hc
  exact hnames s hs

theorem isAbsolute_ofLocation (loc : Location) : (ofLocation loc).isAbsolute = true := by
  simp [ofLocation, isAbsolute]

theorem parts_ofLocation (hloc : ∀ s ∈ loc, IsName s) :
    (ofLocation loc).parts = loc.map .name := by
  rw [ofLocation_eq]
  exact (spelt_root (isPart_of_mem_map_name hloc)).2

theorem components_ofLocation (hloc : ∀ s ∈ loc, IsName s) :
    (ofLocation loc).components = .root :: loc.map .name := by
  rw [components_of_isAbsolute (isAbsolute_ofLocation loc), parts_ofLocation hloc]

theorem ofLocation_inj {loc' : Location} (hloc : ∀ s ∈ loc, IsName s)
    (hloc' : ∀ s ∈ loc', IsName s) (hsame : (ofLocation loc).same (ofLocation loc') = true) :
    loc = loc' := by
  have hnames := same_iff.mp hsame
  rw [components_ofLocation hloc, components_ofLocation hloc'] at hnames
  refine List.map_injective_iff.mpr ?_ (List.cons.inj hnames).2
  exact fun s t hst => Component.name.inj hst

/-- A path that goes down from the root by names is clean. -/
theorem lexical_ofLocation (hloc : ∀ s ∈ loc, IsName s) :
    (ofLocation loc).lexical = ofLocation loc := by
  have hdescent : (ofLocation loc).descent = ⟨loc.reverse, 0⟩ := by
    rw [descent, parts_ofLocation hloc, Descent.run_names, List.append_nil]
  have hparts : (ofLocation loc).cleanParts = loc.map .name := by
    rw [cleanParts, climbs, landing, hdescent, List.reverse_reverse]
    rfl
  rw [lexical_eq, hparts, base, isAbsolute_ofLocation, if_pos rfl, ofLocation_eq]
  rfl

end Path

namespace FileSystem

variable {fs : FileSystem} {links : Nat} {at_ loc : Location} {node : Node} {steps : List Step}
  {s : String} {p c : Path}

/-- A link stands at a location or on the way to it. -/
def PassesLink (fs : FileSystem) (loc : Location) : Prop :=
  ∃ above there, above <+: loc ∧ fs.node? above = some (.link there)

/-- A location under names, with no link on the way. -/
structure Settled (fs : FileSystem) (loc : Location) : Prop where
  names : ∀ s ∈ loc, Path.IsName s
  plain : ¬ fs.PassesLink loc

theorem settled_root (fs : FileSystem) : fs.Settled [] := by
  refine ⟨fun s hs => absurd hs List.not_mem_nil, ?_⟩
  rintro ⟨above, there, habove, hnode⟩
  rw [List.prefix_nil.mp habove] at hnode
  cases hnode

namespace Settled

theorem of_prefix {above : Location} (h : fs.Settled loc) (habove : above <+: loc) :
    fs.Settled above := by
  refine ⟨fun s hs => h.names s (habove.subset hs), ?_⟩
  rintro ⟨before, there, hbefore, hnode⟩
  exact h.plain ⟨before, there, hbefore.trans habove, hnode⟩

theorem enter (h : fs.Settled at_) (hs : Path.IsName s) (hnode : fs.node? (at_ ++ [s]) = some node)
    (hplain : ∀ there, node ≠ .link there) : fs.Settled (at_ ++ [s]) := by
  refine ⟨?_, ?_⟩
  · intro t ht
    rcases List.mem_append.mp ht with ht | ht
    · exact h.names t ht
    · rwa [List.mem_singleton.mp ht]
  · rintro ⟨above, there, habove, hlink⟩
    rcases List.prefix_concat_iff.mp habove with rfl | habove
    · rw [hnode] at hlink
      exact hplain there (Option.some.inj hlink)
    · exact h.plain ⟨above, there, habove, hlink⟩

end Settled

/-- What a walk finds from a settled place is in a settled place. -/
theorem Leads.settled (h : Leads fs true links at_ steps (.found loc node)) (hat : fs.Settled at_)
    (hsteps : ∀ s, .name s ∈ steps → Path.IsName s) : fs.Settled loc := by
  generalize htarget : Target.found loc node = target at h
  induction h with
  | stop hnode =>
      cases htarget
      exact hat
  | stay hdir h ih =>
      exact ih hat (fun s hs => hsteps s (List.mem_cons_of_mem _ hs)) htarget
  | @up links at_ rest target hdir h ih =>
      refine ih (hat.of_prefix (List.dropLast_prefix at_)) ?_ htarget
      exact fun s hs => hsteps s (List.mem_cons_of_mem _ hs)
  | free => cases htarget
  | enter hdir hname hnode hplain h ih =>
      refine ih (hat.enter (hsteps _ List.mem_cons_self) hnode hplain) ?_ htarget
      exact fun s hs => hsteps s (List.mem_cons_of_mem _ hs)
  | atLink _ _ _ hfollow => cases hfollow
  | @pastLink links at_ s rest there target hdir hname hnode hgo h ih =>
      -- the walk goes on from where it was, or from the root
      have hstart : fs.Settled (start at_ there) := by
        unfold start
        split
        · exact fs.settled_root
        · exact hat
      refine ih hstart ?_ htarget
      intro t ht
      rcases List.mem_append.mp ht with ht | ht
      · exact Path.isName_of_mem_steps ht
      · exact hsteps t (List.mem_cons_of_mem _ ht)

/-- A walk by names that passes no link ends where the names say. -/
theorem Leads.location_of_names {names : List String}
    (h : Leads fs true links at_ (names.map .name) (.found loc node))
    (hplain : ¬ fs.PassesLink (at_ ++ names)) : loc = at_ ++ names := by
  induction names generalizing at_ with
  | nil =>
      cases h
      exact (List.append_nil _).symm
  | cons s rest ih =>
      have hsplit : at_ ++ s :: rest = at_ ++ [s] ++ rest := by simp
      rw [hsplit] at hplain ⊢
      rw [List.map_cons] at h
      generalize hmore : rest.map Step.name = more at h
      cases h with
      | enter hdir hname hnode hnolink h => exact ih (hmore ▸ h) hplain
      | atLink _ _ _ hfollow => cases hfollow
      | pastLink hdir hname hnode hgo h =>
          exact absurd ⟨_, _, List.prefix_append _ _, hnode⟩ hplain

theorem canonicalise_eq_ok (habs : p.isAbsolute = true) (hc : fs.canonicalise p = .ok c) :
    ∃ loc node, c = .ofLocation loc ∧
      Leads fs true maxLinks [] (p.components.filterMap Path.Component.step?) (.found loc node) ∧
      fs.Settled loc := by
  simp only [canonicalise, habs, Bool.not_true, Bool.false_and, Bool.false_eq_true, if_false] at hc
  cases hlocate : fs.locate true p with
  | error e => simp [hlocate, bind, Except.bind] at hc
  | ok target =>
      cases target with
      | vacant at_ => simp [hlocate, bind, Except.bind] at hc
      | found loc node =>
          have hwalk : fs.walk true maxLinks [] p.steps = .ok (.found loc node) := by
            unfold locate at hlocate
            split at hlocate
            · cases hlocate
            · split at hlocate
              · cases hlocate
              · rwa [start, if_pos habs] at hlocate
          have hleads := leads_of_walk hwalk
          have hsettled := hleads.settled fs.settled_root fun s hs => Path.isName_of_mem_steps hs
          rw [← List.nil_append p.steps] at hleads
          refine ⟨loc, node, ?_, ?_, hsettled⟩
          · simpa [hlocate, bind, Except.bind] using hc.symm
          · rw [← Path.filter_steps]
            exact hleads.drop_stay

/-- A path that goes down by names and passes no link has no other canonical path than itself. -/
theorem canonicalise_ofLocation (hloc : fs.Settled loc)
    (hc : fs.canonicalise (.ofLocation loc) = .ok c) : c = .ofLocation loc := by
  obtain ⟨found, node, rfl, hleads, -⟩ := canonicalise_eq_ok (Path.isAbsolute_ofLocation loc) hc
  have hsteps : (Path.ofLocation loc).components.filterMap Path.Component.step? =
      loc.map .name := by
    rw [Path.components_ofLocation hloc.names, List.filterMap_cons_none rfl, List.filterMap_map]
    exact congrFun (List.filterMap_eq_map (f := Step.name)) loc
  rw [hsteps] at hleads
  rw [hleads.location_of_names hloc.plain, List.nil_append]

end FileSystem

end DebugDashboard
