import DebugDashboard.Proofs.Session.LastWriter

/-!
# Variables in the order of their names

However a record lists its variables, the session has one of each name, and the names ascend.
-/

namespace DebugDashboard

namespace Variables

/-- The names ascend, so that none occurs twice. -/
def Ascending (vars : Variables) : Prop := vars.Pairwise fun v w => v.1 < w.1

variable {vars : Variables} {name value : String}

theorem name_of_mem_put {v : String × String} (hv : v ∈ vars.put name value) :
    v.1 = name ∨ ∃ w ∈ vars, w.1 = v.1 := by
  induction vars with
  | nil =>
      obtain rfl := List.mem_singleton.mp hv
      exact .inl rfl
  | cons first rest ih =>
      obtain ⟨n, other⟩ := first
      rw [put] at hv
      split at hv
      · rcases List.mem_cons.mp hv with rfl | hv
        · exact .inr ⟨_, List.mem_cons_self, rfl⟩
        · exact .inr ⟨v, List.mem_cons_of_mem _ hv, rfl⟩
      · split at hv
        · rcases List.mem_cons.mp hv with rfl | hv
          · exact .inl rfl
          · exact .inr ⟨v, hv, rfl⟩
        · rcases List.mem_cons.mp hv with rfl | hv
          · exact .inr ⟨_, List.mem_cons_self, rfl⟩
          · rcases ih hv with hname | ⟨w, hw, hname⟩
            · exact .inl hname
            · exact .inr ⟨w, List.mem_cons_of_mem _ hw, hname⟩

theorem Ascending.put (h : vars.Ascending) (name value : String) :
    (vars.put name value).Ascending := by
  induction vars with
  | nil => exact List.pairwise_singleton _ _
  | cons first rest ih =>
      obtain ⟨n, other⟩ := first
      obtain ⟨hfirst, hrest⟩ := List.pairwise_cons.mp h
      rw [Variables.put]
      split
      · exact List.pairwise_cons.mpr ⟨hfirst, hrest⟩
      next hne =>
        split
        next hlt =>
          refine List.pairwise_cons.mpr ⟨?_, h⟩
          intro v hv
          rcases List.mem_cons.mp hv with rfl | hv
          · exact hlt
          · exact String.lt_trans hlt (hfirst v hv)
        next hge =>
          have hgt : n < name := String.not_le.mp fun hle =>
            hne (String.le_antisymm hle (String.not_lt.mp hge))
          refine List.pairwise_cons.mpr ⟨?_, ih hrest⟩
          intro v hv
          rcases name_of_mem_put hv with hname | ⟨w, hw, hname⟩
          · rw [hname]
            exact hgt
          · rw [← hname]
            exact hfirst w hw

theorem ascending_ofList (pairs : List (String × String)) : (ofList pairs).Ascending := by
  have hfold : ∀ vars : Variables, vars.Ascending →
      (pairs.foldl (fun vars p => vars.put p.1 p.2) vars).Ascending := by
    induction pairs with
    | nil => exact fun vars h => h
    | cons p rest ih => exact fun vars h => ih _ (h.put p.1 p.2)
  exact hfold [] .nil

end Variables

/-- The variables of a session are in the order of their names. -/
theorem Session.Recounts.ascending {s : Session} {past : Past} (h : s.Recounts past) :
    s.vars.Ascending := by
  rw [h.vars]
  cases hlatest : past.latest? Past.variablesTold? with
  | none => exact .nil
  | some vars =>
      obtain ⟨later, a, earlier, -, htold, -⟩ := Past.latest?_eq_some_iff.mp hlatest
      unfold Past.variablesTold? at htold
      split at htold
      · cases htold
        exact .nil
      · split at htold
        · cases htold
          exact Variables.ascending_ofList _
        · cases htold

end DebugDashboard
