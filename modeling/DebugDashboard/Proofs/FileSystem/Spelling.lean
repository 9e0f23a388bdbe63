import DebugDashboard.Proofs.FileSystem.Walk
import Mathlib.Data.List.Basic

/-!
# Spellings of a path

Two spellings with the same components lead to the same node. One of them can lead nowhere all the
same: a slash or a dot at the end asks for a directory.
-/

namespace DebugDashboard

namespace Path

/-- The step for a component; the root and the current directory are where a walk starts. -/
def Component.step? : Component → Option Step
  | .root | .current => none
  | .parent => some .up
  | .name s => some (.name s)

theorem filterMap_step?_ofSegment? (segments : List String) :
    (segments.filterMap Component.ofSegment?).filterMap Component.step? =
      segments.filterMap fun s =>
        if s = "" ∨ s = "." then none else if s = ".." then some .up else some (.name s) := by
  rw [List.filterMap_filterMap]
  congr 1
  funext s
  by_cases hidle : s = "" ∨ s = "."
  · simp [Component.ofSegment?, hidle]
  · by_cases hup : s = ".."
    · simp [Component.ofSegment?, hup, Component.step?]
    · simp [Component.ofSegment?, hidle, hup, Component.step?]

/-- But for those that stay where they are, the steps of a path are those of its components. -/
theorem filter_steps (p : Path) :
    p.steps.filter (· ≠ .stay) = p.components.filterMap Component.step? := by
  have hcomponents : p.components.filterMap Component.step? =
      (p.segments.filterMap Component.ofSegment?).filterMap Component.step? := by
    unfold components
    split
    · rfl
    · split
      next hsegments => rw [hsegments]; rfl
      · rfl
  have hend : (if p.text.toList.getLast? = some '/' then [Step.stay] else []).filter (· ≠ .stay) =
      [] := by
    split <;> rfl
  rw [hcomponents, filterMap_step?_ofSegment?, steps, List.filter_append, hend, List.append_nil,
    List.filter_filterMap]
  congr 1
  funext s
  by_cases hempty : s = ""
  · simp [hempty]
  · by_cases hstay : s = "."
    · simp [hstay]
    · by_cases hup : s = ".."
      · simp [hup]
      · simp [hempty, hstay, hup]

theorem isAbsolute_iff (p : Path) : p.isAbsolute = true ↔ .root ∈ p.components := by
  have hroot : ∀ segments : List String,
      Component.root ∉ segments.filterMap Component.ofSegment? := by
    intro segments hmem
    obtain ⟨s, -, hs⟩ := List.mem_filterMap.mp hmem
    unfold Component.ofSegment? at hs
    split at hs
    · cases hs
    · split at hs <;> cases hs
  unfold components
  split
  next habsolute => simp [habsolute]
  next hrelative =>
    split
    · simp [hrelative, hroot]
    · simp [hrelative, hroot]

theorem isAbsolute_of_same {p q : Path} (hsame : p.same q = true) :
    p.isAbsolute = q.isAbsolute := by
  rw [Bool.eq_iff_iff, isAbsolute_iff, isAbsolute_iff, same_iff.mp hsame]

end Path

namespace FileSystem

variable {fs : FileSystem} {links : Nat} {at_ loc : Location} {node other : Node}
  {steps front : List Step} {p q : Path}

/-- Steps that stay where they are can be left out of a walk that finds something. -/
theorem Leads.drop_stay (h : Leads fs true links at_ (front ++ steps) (.found loc node)) :
    Leads fs true links at_ (front ++ steps.filter (· ≠ .stay)) (.found loc node) := by
  generalize hall : front ++ steps = all at h
  generalize htarget : Target.found loc node = target at h ⊢
  induction h generalizing front steps with
  | stop hnode =>
      obtain ⟨rfl, rfl⟩ := List.append_eq_nil_iff.mp hall
      exact .stop hnode
  | stay hdir h ih =>
      rcases List.append_eq_cons_iff.mp hall with ⟨rfl, rfl⟩ | ⟨others, rfl, hothers⟩
      · have hnext := ih (List.nil_append _) htarget
        exact hnext
      · exact .stay hdir (ih hothers.symm htarget)
  | up hdir h ih =>
      rcases List.append_eq_cons_iff.mp hall with ⟨rfl, rfl⟩ | ⟨others, rfl, hothers⟩
      · have hnext := ih (List.nil_append _) htarget
        exact .up hdir hnext
      · exact .up hdir (ih hothers.symm htarget)
  | free => cases htarget
  | enter hdir hname hnode hplain h ih =>
      rcases List.append_eq_cons_iff.mp hall with ⟨rfl, rfl⟩ | ⟨others, rfl, hothers⟩
      · have hnext := ih (List.nil_append _) htarget
        exact .enter hdir hname hnode hplain hnext
      · exact .enter hdir hname hnode hplain (ih hothers.symm htarget)
  | atLink _ _ _ hfollow => cases hfollow
  | @pastLink links at_ s rest there target hdir hname hnode hgo h ih =>
      -- the steps of the link's target join those that are kept as they are
      rcases List.append_eq_cons_iff.mp hall with ⟨rfl, rfl⟩ | ⟨others, rfl, rfl⟩
      · exact .pastLink hdir hname hnode (fun _ => rfl) (ih rfl htarget)
      · refine .pastLink hdir hname hnode (fun _ => rfl) ?_
        have hnext := ih (List.append_assoc there.steps others steps) htarget
        rwa [List.append_assoc] at hnext

/-- A walk along a path that finds something finds it along the components. -/
theorem walk_components (hfind : fs.find p = .ok node) :
    ∃ loc, fs.walk true maxLinks (start fs.workingDirectory p)
      (p.components.filterMap Path.Component.step?) = .ok (.found loc node) := by
  obtain ⟨loc, hresolve⟩ := find_eq_ok_iff.mp hfind
  obtain ⟨-, -, -, hwalk⟩ := walk_of_resolve hresolve
  have hleads := leads_of_walk hwalk
  rw [← List.nil_append p.steps] at hleads
  rw [← Path.filter_steps]
  exact ⟨loc, walk_of_leads hleads.drop_stay⟩

/-- What two spellings of a path find is the same. -/
theorem find_same (hsame : p.same q = true) (hp : fs.find p = .ok node)
    (hq : fs.find q = .ok other) : node = other := by
  obtain ⟨loc, hwalk⟩ := walk_components hp
  obtain ⟨loc', hwalk'⟩ := walk_components hq
  have hstart : start fs.workingDirectory p = start fs.workingDirectory q := by
    simp only [start, Path.isAbsolute_of_same hsame]
  rw [hstart, Path.same_iff.mp hsame, hwalk'] at hwalk
  cases hwalk
  rfl

end FileSystem

end DebugDashboard
