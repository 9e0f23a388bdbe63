import DebugDashboard.Path.Basic
import DebugDashboard.FileSystem.Resolve

/-!
# The directory of a path

A path that has a parent goes through it: the parent is spelt with the first segments of the path,
and the steps of the path begin with those of the parent.
-/

namespace DebugDashboard.Path

variable {p q : Path} {s : String}

/-! ## Segments -/

theorem notMem_of_mem_splitOn {c : Char} {text segment : List Char}
    (hsegment : segment ∈ text.splitOn c) : c ∉ segment := by
  induction text generalizing segment with
  | nil =>
      obtain rfl : segment = [] := by simpa using hsegment
      exact List.not_mem_nil
  | cons first rest ih =>
      rw [List.splitOn_cons_eq_if_modifyHead] at hsegment
      split at hsegment
      · rcases List.mem_cons.mp hsegment with rfl | hrest
        · exact List.not_mem_nil
        · exact ih hrest
      next hfirst =>
        obtain ⟨head, tail, hsplit⟩ := List.exists_cons_of_ne_nil (List.splitOn_ne_nil c rest)
        rw [hsplit] at hsegment ih
        rcases List.mem_cons.mp hsegment with rfl | htail
        · have hc : c ≠ first := by
            rintro rfl
            simp at hfirst
          exact fun hmem => (List.mem_cons.mp hmem).elim hc (ih List.mem_cons_self)
        · exact ih (List.mem_cons_of_mem _ htail)

theorem notMem_of_mem_segments (hs : s ∈ p.segments) : '/' ∉ s.toList := by
  obtain ⟨segment, hsegment, rfl⟩ := List.mem_map.mp hs
  rw [String.toList_ofList]
  exact notMem_of_mem_splitOn hsegment

theorem joinSegments_segments (p : Path) : joinSegments p.segments = p.text := by
  refine String.toList_inj.mp ?_
  simp [joinSegments, segments, Function.comp_def]

/-- Joined segments are split again. -/
theorem segments_joinSegments {front : List String} (hfront : ∀ s ∈ front, '/' ∉ s.toList)
    (hne : front ≠ []) : (Path.mk (joinSegments front)).segments = front := by
  simp only [segments, joinSegments, String.toList_intercalate]
  rw [show "/".toList = ['/'] from rfl, List.splitOn_intercalate]
  · simp [Function.comp_def]
  · simpa using hfront
  · simpa using hne

theorem joinSegments_concat (before : List String) (s behind : String) :
    joinSegments (before ++ [s ++ behind]) = joinSegments (before ++ [s]) ++ behind := by
  unfold joinSegments
  by_cases hbefore : before = []
  · simp [hbefore]
  · rw [String.intercalate_append_of_ne_nil hbefore (by simp),
      String.intercalate_append_of_ne_nil hbefore (by simp)]
    simp [String.append_assoc]

/-! ## Idle segments -/

theorem dropIdleEnd_prefix (segments : List String) : dropIdleEnd segments <+: segments := by
  have hsuffix := List.dropWhile_suffix (l := segments.reverse) isIdle
  rwa [← List.reverse_prefix, List.reverse_reverse] at hsuffix

theorem isIdle_last {segments : List String} (hlast : (dropIdleEnd segments).getLast? = some s) :
    isIdle s = false := by
  rw [dropIdleEnd, List.getLast?_reverse] at hlast
  have hhead := List.head?_dropWhile_not isIdle segments.reverse
  rw [hlast] at hhead
  simpa using hhead

/-- Between a path and its parent there is a segment that stands for a component. -/
theorem dropIdleEnd_dropLast {segments : List String} (hbody : dropIdleEnd segments ≠ []) :
    ∃ rest, segments = dropIdleEnd (dropIdleEnd segments).dropLast ++ rest ∧
      ∃ s ∈ rest, isIdle s = false := by
  obtain ⟨behind, hbehind⟩ := dropIdleEnd_prefix segments
  obtain ⟨idle, hidle⟩ := dropIdleEnd_prefix (dropIdleEnd segments).dropLast
  have hlast := List.dropLast_concat_getLast hbody
  refine ⟨idle ++ [(dropIdleEnd segments).getLast hbody] ++ behind, ?_,
    (dropIdleEnd segments).getLast hbody, by simp, ?_⟩
  · rw [← List.append_assoc, ← List.append_assoc, hidle, hlast, hbehind]
  · exact isIdle_last (List.getLast?_eq_some_getLast hbody)

/-! ## Parents -/

/-- The path goes through another one that is spelt with its first segments and does not end with a
slash. -/
def Through (p q : Path) : Prop :=
  ∃ front rest, p.segments = front ++ rest ∧ q.text = joinSegments front ∧
    (∃ s, front.getLast? = some s ∧ s ≠ "") ∧ ∃ s ∈ rest, isIdle s = false

theorem ne_empty_of_not_isIdle (hs : isIdle s = false) : s ≠ "" := by
  rintro rfl
  simp [isIdle] at hs

theorem segments_of_isAbsolute (habs : p.isAbsolute = true) :
    p.segments = "" :: p.segments.drop 1 := by
  obtain ⟨rest, hrest⟩ := List.head?_eq_some_iff.mp (of_decide_eq_true habs)
  simp [segments, hrest, List.splitOn_cons_eq_if_modifyHead]

theorem through_of_segments (lead : List String) {tail : List String}
    (hp : p.segments = lead ++ tail) (hbody : dropIdleEnd tail ≠ [])
    (hq : q.text = joinSegments (lead ++ dropIdleEnd (dropIdleEnd tail).dropLast))
    (hlead : dropIdleEnd (dropIdleEnd tail).dropLast = [] →
      ∃ s, lead.getLast? = some s ∧ s ≠ "") : p.Through q := by
  obtain ⟨rest, htail, hrest⟩ := dropIdleEnd_dropLast hbody
  refine ⟨_, rest, ?_, hq, ?_, hrest⟩
  · rw [List.append_assoc, ← htail, hp]
  · cases hfront : (dropIdleEnd (dropIdleEnd tail).dropLast).getLast? with
    | none =>
        have hnil := List.getLast?_eq_none_iff.mp hfront
        rw [hnil, List.append_nil]
        exact hlead hnil
    | some s =>
        refine ⟨s, ?_, ne_empty_of_not_isIdle (isIdle_last hfront)⟩
        rw [List.getLast?_append, hfront]
        rfl

/-- The parent of a path is empty, the root, or on the way. -/
theorem through_parent (hparent : p.parent? = some q) :
    q.text = "" ∨ q.text = "/" ∨ p.Through q := by
  unfold parent? at hparent
  split at hparent
  next habs =>
    -- an absolute path begins with an empty segment, which the parent keeps
    have hsegments := segments_of_isAbsolute habs
    generalize p.segments.drop 1 = tail at hparent hsegments
    simp only [List.isEmpty_iff] at hparent
    split at hparent
    · cases hparent
    next hbody =>
      cases hparent
      by_cases hfront : dropIdleEnd (dropIdleEnd tail).dropLast = []
      · right; left
        simp [hfront, joinSegments]
      · right; right
        refine through_of_segments [""] hsegments hbody ?_
          (fun hnil => absurd hnil hfront)
        simp [joinSegments, String.intercalate_cons_of_ne_nil hfront]
  next =>
    split at hparent
    next rest hsegments =>
      -- a dot in front is kept as well
      simp only [List.isEmpty_iff] at hparent
      split at hparent
      next => cases hparent; left; rfl
      next hbody =>
        cases hparent
        right; right
        exact through_of_segments ["."] hsegments hbody (by simp)
          (fun _ => ⟨".", rfl, by decide⟩)
    next =>
      simp only [List.isEmpty_iff] at hparent
      split at hparent
      · cases hparent
      next hbody =>
        cases hparent
        by_cases hfront : dropIdleEnd (dropIdleEnd p.segments).dropLast = []
        · left
          simp [hfront, joinSegments]
        · right; right
          exact through_of_segments [] (by simp) hbody (by simp)
            (fun hnil => absurd hnil hfront)

namespace Through

variable (h : p.Through q)

include h

theorem text_eq : ∃ behind, p.text = q.text ++ behind := by
  obtain ⟨front, rest, hp, hq, ⟨s, hs, -⟩, t, ht, -⟩ := h
  have hfront : front ≠ [] := by
    rintro rfl
    cases hs
  refine ⟨"/" ++ joinSegments rest, ?_⟩
  rw [← joinSegments_segments p, hp, hq, joinSegments, joinSegments, joinSegments,
    String.intercalate_append_of_ne_nil hfront (List.ne_nil_of_mem ht), String.append_assoc]

/-- What it goes through does not end with a slash. -/
theorem getLast_text : ∃ c, q.text.toList.getLast? = some c ∧ c ≠ '/' := by
  obtain ⟨front, rest, hp, hq, ⟨s, hs, hne⟩, -⟩ := h
  obtain ⟨init, rfl⟩ := List.getLast?_eq_some_iff.mp hs
  have hslash : '/' ∉ s.toList := notMem_of_mem_segments (p := p) (by simp [hp])
  have hlast : s.toList ≠ [] := by simpa using hne
  refine ⟨s.toList.getLast hlast, ?_, fun heq => hslash (heq ▸ List.getLast_mem hlast)⟩
  rw [hq, joinSegments]
  by_cases hinit : init = []
  · simp [hinit, List.getLast?_eq_some_getLast hlast]
  · rw [String.intercalate_append_of_ne_nil hinit (by simp)]
    simp [List.getLast?_cons, List.getLast?_eq_some_getLast hlast]

theorem isAbsolute_eq : q.isAbsolute = p.isAbsolute := by
  obtain ⟨behind, hbehind⟩ := h.text_eq
  obtain ⟨c, hc, -⟩ := h.getLast_text
  cases hq : q.text.toList with
  | nil => simp [hq] at hc
  | cons first others => simp [isAbsolute, hbehind, hq]

/-- The steps of a path begin with those to what it goes through, and more follow. -/
theorem steps_eq : ∃ behind, behind ≠ [] ∧ p.steps = q.steps ++ behind := by
  obtain ⟨c, hc, hslash⟩ := h.getLast_text
  obtain ⟨front, rest, hp, hq, ⟨s, hs, -⟩, t, ht, hidle⟩ := h
  have hfront : front ≠ [] := by
    rintro rfl
    cases hs
  have hsegments : q.segments = front := by
    rw [show q = ⟨joinSegments front⟩ from congrArg Path.mk hq]
    exact segments_joinSegments
      (fun s hs => notMem_of_mem_segments (p := p) (by simp [hp, hs])) hfront
  have hend : q.text.toList.getLast? ≠ some '/' := by
    rw [hc]
    simpa using hslash
  simp only [steps, hsegments, hp, List.filterMap_append, if_neg hend, List.append_nil,
    List.append_assoc]
  refine ⟨_, ?_, rfl⟩
  simp only [isIdle, Bool.or_eq_false_iff, decide_eq_false_iff_not] at hidle
  intro hnil
  have hnone := List.filterMap_eq_nil_iff.mp (List.append_eq_nil_iff.mp hnil).1 t ht
  simp only [if_neg hidle.1, if_neg hidle.2] at hnone
  split at hnone <;> cases hnone

end Through

end DebugDashboard.Path
