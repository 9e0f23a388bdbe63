import DebugDashboard.Proofs.Json.Compact
import DebugDashboard.Proofs.Session.History
import DebugDashboard.Proofs.Session.Variables

/-!
# The variables that a record reports

A record lists its variables in any shape: some cannot be read, some have no name, some names occur
more than once. Of the first twenty, the session shows each name with the text of the last variable
that has it, and nothing else. The history tells how many these are, and of how many.
-/

namespace DebugDashboard

/-! ## One value for each name -/

namespace Variables

variable {vars : Variables} {name value n v : String}

/-- A variable takes the place of the one with its name; the others stay. -/
theorem mem_put (h : vars.Ascending) :
    (n, v) ∈ vars.put name value ↔ n = name ∧ v = value ∨ n ≠ name ∧ (n, v) ∈ vars := by
  induction vars with
  | nil => simp [put]
  | cons first rest ih =>
      obtain ⟨m, other⟩ := first
      obtain ⟨hfirst, hrest⟩ := List.pairwise_cons.mp h
      rw [put]
      split
      next heq =>
        subst heq
        have hothers : (n, v) ∈ rest → n ≠ name := fun hmem =>
          (String.ne_of_lt (hfirst _ hmem)).symm
        simp only [List.mem_cons, Prod.mk.injEq]
        constructor
        · rintro (hself | hmem)
          · exact .inl hself
          · exact .inr ⟨hothers hmem, .inr hmem⟩
        · rintro (hself | ⟨hne, hself | hmem⟩)
          · exact .inl hself
          · exact absurd hself.1 hne
          · exact .inr hmem
      next hne =>
        split
        next hlt =>
          have hothers : (n, v) ∈ (m, other) :: rest → n ≠ name := by
            intro hmem
            rcases List.mem_cons.mp hmem with hself | hmem
            · rw [(Prod.mk.inj hself).1]
              exact (String.ne_of_lt hlt).symm
            · exact (String.ne_of_lt (String.lt_trans hlt (hfirst _ hmem))).symm
          rw [List.mem_cons, Prod.mk.injEq]
          constructor
          · rintro (hself | hmem)
            · exact .inl hself
            · exact .inr ⟨hothers hmem, hmem⟩
          · rintro (hself | ⟨-, hmem⟩)
            · exact .inl hself
            · exact .inr hmem
        next =>
          rw [List.mem_cons, List.mem_cons, ih hrest, Prod.mk.injEq]
          constructor
          · rintro (hself | hnew | ⟨hother, hmem⟩)
            · exact .inr ⟨fun heq => hne (heq.symm.trans hself.1), .inl hself⟩
            · exact .inl hnew
            · exact .inr ⟨hother, .inr hmem⟩
          · rintro (hnew | ⟨hother, hself | hmem⟩)
            · exact .inr (.inl hnew)
            · exact .inl hself
            · exact .inr (.inr ⟨hother, hmem⟩)

theorem length_put_le (vars : Variables) (name value : String) :
    (vars.put name value).length ≤ vars.length + 1 := by
  induction vars with
  | nil => exact Nat.le_refl _
  | cons first rest ih =>
      rw [put]
      split
      · exact Nat.le_succ _
      · split
        · exact Nat.le_refl _
        · exact Nat.succ_le_succ ih

theorem ofList_append_singleton (pairs : List (String × String)) (p : String × String) :
    ofList (pairs ++ [p]) = (ofList pairs).put p.1 p.2 := by
  rw [ofList, List.foldl_append]
  rfl

theorem length_ofList_le (pairs : List (String × String)) :
    (ofList pairs).length ≤ pairs.length := by
  induction pairs using List.reverseRecOn with
  | nil => exact Nat.le_refl _
  | append_singleton pairs p ih =>
      rw [ofList_append_singleton, List.length_append]
      exact Nat.le_trans (length_put_le _ _ _) (Nat.succ_le_succ ih)

/-- The last value of a name counts. -/
theorem mem_ofList {pairs : List (String × String)} :
    (n, v) ∈ ofList pairs ↔
      ∃ before after, pairs = before ++ (n, v) :: after ∧ ∀ p ∈ after, p.1 ≠ n := by
  induction pairs using List.reverseRecOn with
  | nil => simp [ofList]
  | append_singleton pairs p ih =>
      rw [ofList_append_singleton, mem_put (ascending_ofList pairs), ih]
      constructor
      · rintro (⟨hname, hvalue⟩ | ⟨hne, before, after, rfl, hafter⟩)
        · exact ⟨pairs, [], by rw [hname, hvalue], fun q hq => absurd hq List.not_mem_nil⟩
        · refine ⟨before, after ++ [p], by rw [List.append_assoc, List.cons_append], ?_⟩
          intro q hq
          rcases List.mem_append.mp hq with hq | hq
          · exact hafter q hq
          · rw [List.mem_singleton.mp hq]
            exact hne.symm
      · rintro ⟨before, after, hpairs, hafter⟩
        cases after using List.reverseRecOn with
        | nil =>
            obtain ⟨-, hlast⟩ := List.append_inj' hpairs rfl
            obtain rfl := List.singleton_inj.mp hlast
            exact .inl ⟨rfl, rfl⟩
        | append_singleton after q =>
            rw [← List.cons_append, ← List.append_assoc] at hpairs
            obtain ⟨rfl, hlast⟩ := List.append_inj' hpairs rfl
            obtain rfl := List.singleton_inj.mp hlast
            refine .inr ⟨(hafter p (List.mem_append_right _ List.mem_cons_self)).symm, ?_⟩
            exact ⟨before, after, rfl, fun q hq => hafter q (List.mem_append_left _ hq)⟩

end Variables

/-! ## What can be read, and what is shown of it -/

/-- A text that may be missing, and is then empty. -/
inductive GivesText : Option Json → String → Prop
  | missing : GivesText none ""
  | text (s : String) : GivesText (some (.string s)) s

/-- The value as a text: a string as it is, anything else as compact JSON. -/
inductive GivesValue : Json → String → Prop
  | string (s : String) : GivesValue (.string s) s
  | compact {value : Json} {text : String} (h : ∀ s, value ≠ .string s)
    (htext : value.Compact text) : GivesValue value text

namespace ReportedVariable

/-- How an element of the list reports a variable: by the fields of an object, or by the items of an
array that has no more than three. What is missing is empty or null. -/
inductive ReportedBy (v : ReportedVariable) : Json → Prop
  | fields {fields : Fields} (hname : GivesText (fields.get? "name") v.name)
    (htype : GivesText (fields.get? "type") v.typeName)
    (hvalue : v.value = (fields.get? "value").getD .null) : ReportedBy v (.object fields)
  | items {items : List Json} (hlength : items.length ≤ 3) (hname : GivesText items[0]? v.name)
    (htype : GivesText items[1]? v.typeName)
    (hvalue : v.value = items[2]?.getD .null) : ReportedBy v (.array items)

/-- Whether the type says nothing that the value does not say. -/
def Untold (typeName : String) : Prop := typeName = "" ∨ typeName = "object"

/-- The text of a variable before it is cut: its value, and its type unless that says nothing. -/
inductive FullText (v : ReportedVariable) : String → Prop
  | value {value : String} (hvalue : GivesValue v.value value) (htype : Untold v.typeName) :
    FullText v value
  | typed {value : String} (hvalue : GivesValue v.value value) (htype : ¬ Untold v.typeName) :
    FullText v (value ++ " (" ++ v.typeName ++ ")")

/-- The text that is shown: of a text with more than sixty characters only the first fifty-seven,
and three dots. -/
inductive ShownAs (v : ReportedVariable) : String → Prop
  | full {text : String} (htext : FullText v text) (hlength : text.length ≤ 60) : ShownAs v text
  | cut {text start : String} (htext : FullText v text) (hlength : 60 < text.length)
    (hstart : start.toList <+: text.toList) (hkeep : start.length = 57) : ShownAs v (start ++ "...")

/-- A name is shown with the text of the last variable that has it, and only if it is not empty. -/
structure LastNamed (items : List Json) (name shown : String) : Prop where
  named : name ≠ ""
  last : ∃ (before : List Json) (item : Json) (after : List Json) (v : ReportedVariable),
    items = before ++ item :: after ∧ v.ReportedBy item ∧ v.name = name ∧ v.ShownAs shown ∧
    ∀ later ∈ after, ∀ w : ReportedVariable, w.ReportedBy later → w.name ≠ name

theorem text?_eq_some_iff {field? : Option Json} {text : String} :
    text? field? = some text ↔ GivesText field? text := by
  constructor
  · intro h
    unfold text? at h
    split at h
    · cases h
      exact .missing
    · cases h
      exact .text _
    · cases h
  · rintro (_ | _)
    · rfl
    · rfl

theorem ofJson?_eq_some_iff {item : Json} {v : ReportedVariable} :
    ofJson? item = some v ↔ v.ReportedBy item := by
  constructor
  · intro h
    unfold ofJson? at h
    split at h
    next fields =>
      obtain ⟨name, hname, h⟩ := Option.bind_eq_some_iff.mp h
      obtain ⟨typeName, htype, h⟩ := Option.bind_eq_some_iff.mp h
      cases h
      exact .fields (text?_eq_some_iff.mp hname) (text?_eq_some_iff.mp htype) rfl
    next items =>
      split at h
      · cases h
      next hlength =>
        obtain ⟨name, hname, h⟩ := Option.bind_eq_some_iff.mp h
        obtain ⟨typeName, htype, h⟩ := Option.bind_eq_some_iff.mp h
        cases h
        exact .items (Nat.not_lt.mp hlength) (text?_eq_some_iff.mp hname)
          (text?_eq_some_iff.mp htype) rfl
    · cases h
  · rintro (⟨hname, htype, hvalue⟩ | ⟨hlength, hname, htype, hvalue⟩)
    · simp [ofJson?, text?_eq_some_iff.mpr hname, text?_eq_some_iff.mpr htype, ← hvalue]
    · simp [ofJson?, Nat.not_lt.mpr hlength, text?_eq_some_iff.mpr hname,
        text?_eq_some_iff.mpr htype, ← hvalue]

theorem givesValue_display (value : Json) : GivesValue value value.display := by
  cases value with
  | string s => exact .string s
  | _ => exact .compact (fun _ h => by cases h) (Json.compact_iff.mpr rfl)

variable {v : ReportedVariable} {text told : String}

theorem display_of_givesValue {value : Json} (h : GivesValue value text) :
    value.display = text := by
  cases h with
  | string => rfl
  | compact hvalue htext =>
      unfold Json.display
      split
      · exact absurd rfl (hvalue _)
      · exact Json.compact_iff.mp htext

theorem FullText.display (h : v.FullText text) : v.display = Text.ellipsize 60 57 text := by
  have huntold : (v.typeName = "" || v.typeName = "object") = true ↔ Untold v.typeName := by
    simp [Untold]
  unfold ReportedVariable.display
  cases h with
  | value hvalue htype =>
      simp only [display_of_givesValue hvalue, huntold.mpr htype, if_true]
  | typed hvalue htype =>
      simp only [display_of_givesValue hvalue, if_neg (mt huntold.mp htype)]

theorem exists_fullText (v : ReportedVariable) : ∃ text, v.FullText text := by
  by_cases htype : Untold v.typeName
  · exact ⟨_, .value (givesValue_display _) htype⟩
  · exact ⟨_, .typed (givesValue_display _) htype⟩

theorem shownAs_iff : v.ShownAs told ↔ v.display = told := by
  constructor
  · rintro (⟨htext, hlength⟩ | ⟨htext, hlength, hstart, hkeep⟩)
    · rw [htext.display, Text.ellipsize, String.length_toList, if_neg (Nat.not_lt.mpr hlength)]
    · rw [htext.display, Text.ellipsize, String.length_toList, if_pos hlength, Text.takeChars,
        ← hkeep, ← String.length_toList, ← List.prefix_iff_eq_take.mp hstart, String.ofList_toList]
  · rintro rfl
    obtain ⟨text, htext⟩ := v.exists_fullText
    rw [htext.display, Text.ellipsize, String.length_toList]
    split
    next hlong =>
      refine .cut htext hlong ?_ ?_
      · rw [Text.takeChars, String.toList_ofList]
        exact List.take_prefix _ _
      · rw [Text.takeChars, String.length_ofList, List.length_take, String.length_toList]
        omega
    next hshort => exact .full htext (Nat.not_lt.mp hshort)

/-- What is shown fits into sixty characters. -/
theorem ShownAs.length_le (h : v.ShownAs told) : told.length ≤ 60 := by
  cases h with
  | full htext hlength => exact hlength
  | cut htext hlength hstart hkeep =>
      rw [String.length_append, hkeep]
      decide

/-- The name of an element and the text shown for it, if it can be read and has a name. -/
def shown? (item : Json) : Option (String × String) :=
  ((ofJson? item).filter (·.name ≠ "")).map fun v => (v.name, v.display)

theorem shown_eq (items : List Json) : shown items = (items.take maxListed).filterMap shown? := by
  rw [shown, List.filter_filterMap, List.map_filterMap]
  rfl

theorem shown?_eq_some_iff {item : Json} {name : String} :
    shown? item = some (name, told) ↔
      ∃ v : ReportedVariable, v.ReportedBy item ∧ v.name = name ∧ name ≠ "" ∧ v.ShownAs told := by
  simp only [shown?, Option.map_eq_some_iff, Option.filter_eq_some_iff, ofJson?_eq_some_iff,
    Prod.mk.injEq, shownAs_iff, decide_eq_true_eq]
  constructor
  · rintro ⟨v, ⟨hitem, hnamed⟩, rfl, hshown⟩
    exact ⟨v, hitem, rfl, hnamed, hshown⟩
  · rintro ⟨v, hitem, rfl, hnamed, hshown⟩
    exact ⟨v, ⟨hitem, hnamed⟩, rfl, hshown⟩

/-- The variables that are shown, by the elements of the list that report them. -/
theorem mem_collect_iff {items : List Json} {name : String} :
    (name, told) ∈ collect items ↔ LastNamed (items.take maxListed) name told := by
  rw [collect, Variables.mem_ofList, shown_eq]
  constructor
  · rintro ⟨before, after, hpairs, hafter⟩
    obtain ⟨front, rest, hitems, -, hrest⟩ := List.filterMap_eq_append_iff.mp hpairs
    obtain ⟨passed, item, back, rfl, -, hitem, hback⟩ := List.filterMap_eq_cons_iff.mp hrest
    obtain ⟨v, hreported, hname, hnamed, hshown⟩ := shown?_eq_some_iff.mp hitem
    refine ⟨hnamed, front ++ passed, item, back, v, by rw [hitems, List.append_assoc], hreported,
      hname, hshown, ?_⟩
    intro later hlater w hw heq
    have hpair : shown? later = some (name, w.display) :=
      shown?_eq_some_iff.mpr ⟨w, hw, heq, hnamed, shownAs_iff.mpr rfl⟩
    have hmem : (name, w.display) ∈ after := by
      rw [← hback]
      exact List.mem_filterMap.mpr ⟨later, hlater, hpair⟩
    exact hafter _ hmem rfl
  · rintro ⟨hnamed, before, item, after, v, hitems, hreported, hname, hshown, hafter⟩
    have hitem : shown? item = some (name, told) :=
      shown?_eq_some_iff.mpr ⟨v, hreported, hname, hnamed, hshown⟩
    refine ⟨before.filterMap shown?, after.filterMap shown?, ?_, ?_⟩
    · rw [hitems, List.filterMap_append, List.filterMap_cons_some hitem]
    · rintro ⟨other, text⟩ hp
      obtain ⟨later, hlater, hpair⟩ := List.mem_filterMap.mp hp
      obtain ⟨w, hw, heq, -, -⟩ := shown?_eq_some_iff.mp hpair
      rw [← heq]
      exact hafter later hlater w hw

theorem length_collect_le (items : List Json) : (collect items).length ≤ maxListed := by
  calc (collect items).length
      ≤ (shown items).length := Variables.length_ofList_le _
    _ ≤ (items.take maxListed).length := by
        rw [shown_eq]
        exact List.length_filterMap_le _ _
    _ ≤ maxListed := List.length_take_le _ _

end ReportedVariable

/-! ## What the session shows -/

/-- How many variables there are: as many as the record says, else as many as it lists. -/
def Record.reportedCount (r : Record) : Nat :=
  (r.fields.count? "variableCount").getD r.listedVariables.length

namespace Tracker

/-- After a record of variables the session has, of the first twenty that are listed, those that can
be read and have a name, each name once and with the text of the last one. None of the variables
from before is left, and nothing but variables and history changes. The history tells how many are
shown if there are more, and else how many there are. -/
theorem handle_variables {t : Tracker} {s : Session} {r : Record} (host : Host) (now : Int)
    (hs : t.session = .available s) (hkind : r.kind = .debugVariables) :
    ∃ s' details, (t.handle host now r).1 = .ok () ∧
      (t.handle host now r).2.session = .available s' ∧
      s' = { s with vars := s'.vars, history := s'.history } ∧
      s'.vars.Ascending ∧
      (∀ name shown, (name, shown) ∈ s'.vars ↔
        ReportedVariable.LastNamed (r.listedVariables.take 20) name shown) ∧
      s'.vars.length ≤ 20 ∧ (∀ v ∈ s'.vars, v.2.length ≤ 60) ∧
      s'.history = Session.lastOf s.capacity
        (s.history ++ [⟨"variables", .success, details, r.stamp now⟩]) ∧
      (s'.vars.length < r.reportedCount → details = "Retrieved " ++ Nat.repr s'.vars.length ++
        " of " ++ Nat.repr r.reportedCount ++ " variables") ∧
      (r.reportedCount ≤ s'.vars.length →
        details = "Retrieved " ++ Nat.repr r.reportedCount ++ " variables") := by
  have hentry : r.entryAt? now = some ⟨"variables", .success, r.variablesDetails, r.stamp now⟩ := by
    simp [Record.entryAt?, Record.activity?, hkind]
  have hchange : ∀ remembered?, r.change host remembered? =
      .showVariables (ReportedVariable.collect r.listedVariables) := by
    intro remembered?
    simp [Record.change, hkind]
  have hmem : ∀ name shown, (name, shown) ∈ ReportedVariable.collect r.listedVariables ↔
      ReportedVariable.LastNamed (r.listedVariables.take 20) name shown :=
    fun name shown => ReportedVariable.mem_collect_iff
  have hnext : t.handle host now r = (.ok (), ⟨.available
      (({ s with vars := ReportedVariable.collect r.listedVariables } : Session).addActivity
        ⟨"variables", .success, r.variablesDetails, r.stamp now⟩), t.pending.after r⟩) := by
    simp only [handle, hentry, hs, Guarded.update, step, hchange, Session.apply,
      Session.setVariables]
  rw [hnext]
  refine ⟨_, r.variablesDetails, rfl, rfl, rfl, Variables.ascending_ofList _, hmem,
    ReportedVariable.length_collect_le _, ?_, rfl, ?_, ?_⟩
  · intro v hv
    obtain ⟨-, -, -, -, w, -, -, -, hshown, -⟩ := (hmem v.1 v.2).mp hv
    exact hshown.length_le
  · intro hlt
    exact if_pos hlt
  · intro hle
    exact if_neg (Nat.not_lt.mpr hle)

/-! ### A name twice, an element without a name and one that cannot be read -/

def listing : Record :=
  (bare .debugVariables [("variables", .array
    [.object [("name", .string "a"), ("value", .number (.integer 1))],
      .array [.string "a", .string "int", .string "2"],
      .object [("value", .string "nameless")],
      .object [("name", .number (.integer 5))]])]).record

/-- The second element tells the value, and one of four variables is shown. -/
theorem handle_variables_repeated :
    listing.kind = .debugVariables ∧
      ∃ s', ((new (.withCapacity 5)).handle ⟨.empty, none⟩ 0 listing).2.session = .available s' ∧
        ("a", "2 (int)") ∈ s'.vars ∧ s'.vars.length = 1 ∧
        s'.history = [⟨"variables", .success, "Retrieved 1 of 4 variables", .clock 0⟩] := by
  obtain ⟨s', details, -, hs', -, -, hvars, -, -, hhistory, hmore, -⟩ :=
    handle_variables (t := new (.withCapacity 5)) (r := listing) ⟨.empty, none⟩ 0 rfl rfl
  have hlast : ReportedVariable.LastNamed (listing.listedVariables.take 20) "a" "2 (int)" := by
    refine ⟨by decide, [_], _, [_, _], ⟨"a", "int", .string "2"⟩, rfl,
      .items (by decide) (.text _) (.text _) rfl, rfl,
      ReportedVariable.shownAs_iff.mpr (by decide), ?_⟩
    intro later hlater w hw hname
    rcases List.mem_cons.mp hlater with rfl | hlater
    · obtain ⟨hgiven, -, -⟩ := hw
      rw [← ReportedVariable.text?_eq_some_iff, hname] at hgiven
      exact absurd hgiven (by decide)
    · obtain rfl := List.mem_singleton.mp hlater
      obtain ⟨hgiven, -, -⟩ := hw
      rw [← ReportedVariable.text?_eq_some_iff, hname] at hgiven
      exact absurd hgiven (by decide)
  have hlength : s'.vars.length = 1 := by
    cases hs'
    rfl
  refine ⟨rfl, s', hs', (hvars _ _).mpr hlast, hlength, ?_⟩
  rw [hhistory, hmore (by rw [hlength]; decide), hlength]
  rfl

end Tracker

end DebugDashboard
