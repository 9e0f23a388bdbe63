import DebugDashboard.Session.Breakpoints

/-!
# Breakpoints as sets of lines

Setting and removing change the lines of one file, whatever the spelling of its path, and keep the
entries tidy: no file is left without a line, no file has two entries, and the lines ascend. An
entry keeps its spelling until it leaves.
-/

namespace DebugDashboard

namespace Breakpoints

/-! ## Ascending lines -/

theorem mem_insertLine {line n : Nat} {lines : List Nat} :
    n ∈ insertLine line lines ↔ n = line ∨ n ∈ lines := by
  induction lines with
  | nil => simp [insertLine]
  | cons first rest ih =>
      rw [insertLine]
      split
      · exact List.mem_cons
      · split
        next heq =>
          subst heq
          simp
        next => rw [List.mem_cons, ih, List.mem_cons, or_left_comm]

theorem insertLine_ne_nil (line : Nat) (lines : List Nat) : insertLine line lines ≠ [] :=
  List.ne_nil_of_mem (mem_insertLine.mpr (.inl rfl))

theorem pairwise_insertLine (line : Nat) {lines : List Nat} (hlines : lines.Pairwise (· < ·)) :
    (insertLine line lines).Pairwise (· < ·) := by
  induction lines with
  | nil => exact List.pairwise_singleton _ _
  | cons first rest ih =>
      obtain ⟨hfirst, hrest⟩ := List.pairwise_cons.mp hlines
      rw [insertLine]
      split
      next hlt =>
        refine List.pairwise_cons.mpr ⟨?_, hlines⟩
        intro n hn
        rcases List.mem_cons.mp hn with rfl | hn
        · exact hlt
        · exact Nat.lt_trans hlt (hfirst n hn)
      next hge =>
        split
        · exact hlines
        next hne =>
          refine List.pairwise_cons.mpr ⟨?_, ih hrest⟩
          intro n hn
          rcases mem_insertLine.mp hn with rfl | hn
          · omega
          · exact hfirst n hn

/-! ## Lines of a file -/

theorem linesOf_cons (p : Path) (lines : List Nat) (rest : Breakpoints) (file : Path) :
    linesOf ((p, lines) :: rest) file = if p.same file then lines else rest.linesOf file := by
  cases hp : p.same file <;> simp [linesOf, hp]

theorem has_iff {bps : Breakpoints} {file : Path} {line : Nat} :
    bps.has file line = true ↔ line ∈ bps.linesOf file := by
  rw [has, List.contains_iff_mem]

theorem linesOf_set (bps : Breakpoints) (file other : Path) (line : Nat) :
    (bps.set file line).linesOf other =
      if file.same other then insertLine line (bps.linesOf other) else bps.linesOf other := by
  induction bps with
  | nil =>
      rw [set, linesOf_cons]
      rfl
  | cons entry rest ih =>
      obtain ⟨p, lines⟩ := entry
      rw [set]
      cases hp : p.same file with
      | true =>
          rw [if_pos rfl, linesOf_cons, linesOf_cons, Path.same_congr hp]
          cases file.same other <;> rfl
      | false =>
          rw [if_neg Bool.false_ne_true, linesOf_cons, linesOf_cons, ih]
          cases hother : p.same other with
          | true =>
              have hfile : file.same other = false := by
                rw [Path.same_comm, ← Path.same_congr hother, hp]
              simp [hfile]
          | false => rfl

/-- Setting a breakpoint adds the one line to the one file. -/
theorem has_set {bps : Breakpoints} {file other : Path} {line n : Nat} :
    (bps.set file line).has other n = true ↔
      file.same other = true ∧ n = line ∨ bps.has other n = true := by
  rw [has_iff, has_iff, linesOf_set]
  cases file.same other with
  | true => simp [mem_insertLine]
  | false => simp

/-! ## Tidy entries -/

/-- Each file with a line has one entry, and its lines ascend. -/
structure Tidy (bps : Breakpoints) : Prop where
  nonempty : ∀ entry ∈ bps, entry.2 ≠ []
  ascending : ∀ entry ∈ bps, entry.2.Pairwise (· < ·)
  apart : bps.Pairwise fun entry other => entry.1.same other.1 = false

theorem tidy_nil : Tidy [] where
  nonempty := fun _ hentry => absurd hentry List.not_mem_nil
  ascending := fun _ hentry => absurd hentry List.not_mem_nil
  apart := .nil

section Entries

variable {bps : Breakpoints} {file : Path} {line : Nat} {p : Path} {lines : List Nat}
  {entry : Path × List Nat}

theorem tidy_cons_iff :
    Tidy ((p, lines) :: bps) ↔
      lines ≠ [] ∧ lines.Pairwise (· < ·) ∧ (∀ other ∈ bps, p.same other.1 = false) ∧ bps.Tidy := by
  constructor
  · rintro ⟨hnonempty, hascending, hapart⟩
    obtain ⟨hne, hnonempty⟩ := List.forall_mem_cons.mp hnonempty
    obtain ⟨hasc, hascending⟩ := List.forall_mem_cons.mp hascending
    obtain ⟨hother, hapart⟩ := List.pairwise_cons.mp hapart
    exact ⟨hne, hasc, hother, hnonempty, hascending, hapart⟩
  · rintro ⟨hne, hasc, hother, hnonempty, hascending, hapart⟩
    exact ⟨List.forall_mem_cons.mpr ⟨hne, hnonempty⟩, List.forall_mem_cons.mpr ⟨hasc, hascending⟩,
      List.pairwise_cons.mpr ⟨hother, hapart⟩⟩

theorem linesOf_eq_nil_of_apart (hother : ∀ entry ∈ bps, file.same entry.1 = false) :
    bps.linesOf file = [] := by
  induction bps with
  | nil => rfl
  | cons entry rest ih =>
      obtain ⟨p, lines⟩ := entry
      obtain ⟨hp, hrest⟩ := List.forall_mem_cons.mp hother
      rw [linesOf_cons, Path.same_comm, hp, if_neg Bool.false_ne_true, ih hrest]

/-- The lines of a file are those of its entry, under any spelling. -/
theorem Tidy.linesOf_of_mem (h : bps.Tidy) (hentry : entry ∈ bps) :
    bps.linesOf entry.1 = entry.2 := by
  induction bps with
  | nil => cases hentry
  | cons first rest ih =>
      obtain ⟨p, lines⟩ := first
      obtain ⟨-, -, hother, hrest⟩ := tidy_cons_iff.mp h
      rw [linesOf_cons]
      rcases List.mem_cons.mp hentry with rfl | hentry
      · rw [if_pos (Path.same_refl _)]
      · rw [hother entry hentry, if_neg Bool.false_ne_true, ih hrest hentry]

theorem Tidy.pairwise_linesOf (h : bps.Tidy) (file : Path) :
    (bps.linesOf file).Pairwise (· < ·) := by
  induction bps with
  | nil => exact .nil
  | cons first rest ih =>
      obtain ⟨p, lines⟩ := first
      obtain ⟨-, hasc, -, hrest⟩ := tidy_cons_iff.mp h
      rw [linesOf_cons]
      split
      · exact hasc
      · exact ih hrest

/-! ### Setting -/

/-- Setting a breakpoint keeps the spellings, and adds one only if the file had no line. -/
theorem spelling_of_mem_set (hentry : entry ∈ bps.set file line) :
    entry.1 = file ∧ bps.linesOf file = [] ∨ ∃ kept ∈ bps, kept.1 = entry.1 := by
  induction bps with
  | nil =>
      obtain rfl := List.mem_singleton.mp hentry
      exact .inl ⟨rfl, rfl⟩
  | cons first rest ih =>
      obtain ⟨p, lines⟩ := first
      rw [set] at hentry
      split at hentry
      next hp =>
        rcases List.mem_cons.mp hentry with rfl | hentry
        · exact .inr ⟨_, List.mem_cons_self, rfl⟩
        · exact .inr ⟨entry, List.mem_cons_of_mem _ hentry, rfl⟩
      next hp =>
        rcases List.mem_cons.mp hentry with rfl | hentry
        · exact .inr ⟨_, List.mem_cons_self, rfl⟩
        · rcases ih hentry with ⟨hfile, hnone⟩ | ⟨kept, hkept, hspelling⟩
          · refine .inl ⟨hfile, ?_⟩
            rw [linesOf_cons, if_neg hp, hnone]
          · exact .inr ⟨kept, List.mem_cons_of_mem _ hkept, hspelling⟩

theorem Tidy.set (h : bps.Tidy) (file : Path) (line : Nat) : (bps.set file line).Tidy := by
  induction bps with
  | nil =>
      refine tidy_cons_iff.mpr ⟨List.cons_ne_nil _ _, List.pairwise_singleton _ _, ?_, tidy_nil⟩
      exact fun _ hother => absurd hother List.not_mem_nil
  | cons first rest ih =>
      obtain ⟨p, lines⟩ := first
      obtain ⟨hne, hasc, hother, hrest⟩ := tidy_cons_iff.mp h
      rw [Breakpoints.set]
      split
      · exact tidy_cons_iff.mpr
          ⟨insertLine_ne_nil _ _, pairwise_insertLine line hasc, hother, hrest⟩
      next hp =>
        refine tidy_cons_iff.mpr ⟨hne, hasc, ?_, ih hrest⟩
        intro entry hentry
        rcases spelling_of_mem_set hentry with ⟨hfile, -⟩ | ⟨kept, hkept, hspelling⟩
        · rw [hfile]
          exact Bool.eq_false_iff.mpr hp
        · rw [← hspelling]
          exact hother kept hkept

/-! ### Removing -/

theorem spelling_of_mem_remove (hentry : entry ∈ bps.remove file line) :
    ∃ kept ∈ bps, kept.1 = entry.1 := by
  induction bps with
  | nil => cases hentry
  | cons first rest ih =>
      obtain ⟨p, lines⟩ := first
      rw [remove] at hentry
      dsimp only at hentry
      split at hentry
      · split at hentry
        · exact ⟨entry, List.mem_cons_of_mem _ hentry, rfl⟩
        · rcases List.mem_cons.mp hentry with rfl | hentry
          · exact ⟨_, List.mem_cons_self, rfl⟩
          · exact ⟨entry, List.mem_cons_of_mem _ hentry, rfl⟩
      · rcases List.mem_cons.mp hentry with rfl | hentry
        · exact ⟨_, List.mem_cons_self, rfl⟩
        · obtain ⟨kept, hkept, hspelling⟩ := ih hentry
          exact ⟨kept, List.mem_cons_of_mem _ hkept, hspelling⟩

/-- Where each file has one entry, removing a breakpoint takes the one line from the one file. -/
theorem Tidy.linesOf_remove (h : bps.Tidy) (file other : Path) (line : Nat) :
    (bps.remove file line).linesOf other =
      if file.same other then (bps.linesOf other).filter (· ≠ line) else bps.linesOf other := by
  induction bps with
  | nil =>
      rw [remove]
      exact (ite_self _).symm
  | cons first rest ih =>
      obtain ⟨p, lines⟩ := first
      obtain ⟨-, -, hapart, hrest⟩ := tidy_cons_iff.mp h
      rw [remove]
      cases hp : p.same file with
      | true =>
          rw [if_pos rfl, linesOf_cons, Path.same_congr hp]
          cases hother : file.same other with
          | true =>
              -- the other entries are of other files
              have hnone : linesOf rest other = [] := by
                refine linesOf_eq_nil_of_apart ?_
                intro entry hentry
                rw [← Path.same_congr hother, ← Path.same_congr hp, hapart entry hentry]
              dsimp only
              split
              next hempty =>
                rw [hnone, if_pos rfl, if_pos rfl]
                exact (List.isEmpty_iff.mp hempty).symm
              next =>
                rw [linesOf_cons, Path.same_congr hp, hother]
                rfl
          | false =>
              dsimp only
              split
              · rfl
              · rw [linesOf_cons, Path.same_congr hp, hother]
                rfl
      | false =>
          rw [if_neg Bool.false_ne_true, linesOf_cons, linesOf_cons, ih hrest]
          cases hother : p.same other with
          | true =>
              have hfile : file.same other = false := by
                rw [Path.same_comm, ← Path.same_congr hother, hp]
              simp [hfile]
          | false => rfl

theorem Tidy.has_remove (h : bps.Tidy) {file other : Path} {line n : Nat} :
    (bps.remove file line).has other n = true ↔
      bps.has other n = true ∧ ¬(file.same other = true ∧ n = line) := by
  rw [has_iff, has_iff, h.linesOf_remove]
  cases file.same other with
  | true => simp
  | false => simp

theorem Tidy.remove (h : bps.Tidy) (file : Path) (line : Nat) : (bps.remove file line).Tidy := by
  induction bps with
  | nil => exact tidy_nil
  | cons first rest ih =>
      obtain ⟨p, lines⟩ := first
      obtain ⟨hne, hasc, hother, hrest⟩ := tidy_cons_iff.mp h
      rw [Breakpoints.remove]
      split
      · dsimp only
        split
        · exact hrest
        next hleft =>
          refine tidy_cons_iff.mpr ⟨?_, hasc.filter _, hother, hrest⟩
          exact fun hnil => hleft (List.isEmpty_iff.mpr hnil)
      · refine tidy_cons_iff.mpr ⟨hne, hasc, ?_, ih hrest⟩
        intro entry hentry
        obtain ⟨kept, hkept, hspelling⟩ := spelling_of_mem_remove hentry
        rw [← hspelling]
        exact hother kept hkept

end Entries

end Breakpoints

end DebugDashboard
