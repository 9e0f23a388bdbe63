import DebugDashboard.Proofs.Session.Closed

/-!
# Sessions that begin and end

The record that begins a session and the record that ends it carry the same identifier, or none. The
end resets what is shown of the session, whatever came between, with one exception: an empty
identifier is none for the beginning but not for the end. The end of another session changes nothing
but the activities.
-/

namespace DebugDashboard

namespace Fields

variable {fields fields' : Fields} {key : String}

theorem string?_congr (hsame : fields.get? key = fields'.get? key) :
    fields.string? key = fields'.string? key := by
  rw [string?, string?, hsame]

/-- A text is read alike with and without regard to its being empty, unless it is empty. -/
theorem nonEmpty?_eq_string? (hne : fields.get? key ≠ some (.string "")) :
    fields.nonEmpty? key = fields.string? key := by
  cases htext : fields.string? key with
  | none => rw [nonEmpty?, htext, Option.filter_none]
  | some s =>
      have hs : s ≠ "" := by
        rintro rfl
        unfold string? at htext
        split at htext
        next hget =>
          cases htext
          exact hne hget
        · cases htext
      rw [nonEmpty?, htext]
      exact Option.filter_some_pos (decide_eq_true hs)

end Fields

namespace Record

/-- A record ends the session that another one began if the field that both carry is not an empty
text. -/
theorem closes_begun_iff {created closed : Record} (hclosed : closed.kind = .sessionClosed)
    (hsame : closed.fields.get? "sessionId" = created.fields.get? "sessionId") :
    closed.closes (created.fields.nonEmpty? "sessionId") = true ↔
      created.fields.get? "sessionId" ≠ some (.string "") := by
  rw [closes, decide_eq_true hclosed, Bool.true_and, Fields.string?_congr hsame]
  constructor
  · intro hcloses hempty
    simp [Fields.nonEmpty?, Fields.string?, hempty] at hcloses
  · intro hne
    rw [Fields.nonEmpty?_eq_string? hne]
    cases created.fields.string? "sessionId" with
    | none => rfl
    | some id => exact decide_eq_true rfl

end Record

namespace Past

variable {earlier between before : Past} {a created : Arrival}

theorem identityTold?_created (hkind : created.record.kind = .sessionCreated) :
    earlier.identityTold? created = some (created.record.fields.nonEmpty? "sessionId",
      some ((created.record.fields.string? "sessionName").getD "Debug Session")) := by
  simp [identityTold?, Record.identityTold?, Record.closes, hkind]

theorem identityTold?_between (hcreated : a.record.kind ≠ .sessionCreated)
    (hclosed : a.record.kind ≠ .sessionClosed) : earlier.identityTold? a = none := by
  simp [identityTold?, Record.identityTold?, Record.closes, hcreated, hclosed]

/-- Until another session begins or one ends, the identity is that of the session that began. -/
theorem latest?_identityTold? (hcreated : created.record.kind = .sessionCreated)
    (hbetween : ∀ a ∈ between, a.record.kind ≠ .sessionCreated ∧ a.record.kind ≠ .sessionClosed) :
    latest? identityTold? (between ++ created :: before) =
      some (created.record.fields.nonEmpty? "sessionId",
        some ((created.record.fields.string? "sessionName").getD "Debug Session")) := by
  induction between with
  | nil =>
      rw [List.nil_append, latest?, identityTold?_created hcreated]
      rfl
  | cons a rest ih =>
      obtain ⟨ha, hrest⟩ := List.forall_mem_cons.mp hbetween
      rw [List.cons_append, latest?, identityTold?_between ha.1 ha.2, Option.none_or]
      exact ih hrest

end Past

namespace Tracker

variable {past : Past} {a : Arrival}

/-- The end of a session that is not the current one changes nothing but the activities. -/
theorem agree_of_not_closes (capacity : Nat) (hkind : a.record.kind = .sessionClosed)
    (hopen : a.record.closes past.currentId? = false) :
    Agree (after capacity past) (after capacity (a :: past)) := by
  obtain ⟨s, hs, hrecounts⟩ := receive_recounts capacity past
  obtain ⟨history, hnext⟩ := receive_cons hs a
  have harrive := Session.arrive_closed hrecounts.current hkind
  rw [if_neg (Bool.eq_false_iff.mp hopen), Session.arrive] at harrive
  refine ⟨s, history, hs, ?_⟩
  rw [after, hnext, harrive]

/-- Until another session begins or one ends, the session that began is the current one, with a
name. -/
theorem after_begun (capacity : Nat) (before between : Past) {created : Arrival}
    (hcreated : created.record.kind = .sessionCreated)
    (hbetween : ∀ a ∈ between,
      a.record.kind ≠ .sessionCreated ∧ a.record.kind ≠ .sessionClosed) :
    Past.currentId? (between ++ created :: before) =
        created.record.fields.nonEmpty? "sessionId" ∧
      ∃ s, (after capacity (between ++ created :: before)).session = .available s ∧
        s.name?.isSome = true := by
  obtain ⟨s, hs, hrecounts⟩ := receive_recounts capacity (between ++ created :: before)
  have hidentity := hrecounts.identity
  rw [Past.latest?_identityTold? hcreated hbetween] at hidentity
  obtain ⟨hid, hname⟩ := Prod.mk.inj hidentity
  exact ⟨hrecounts.current.symm.trans hid, s, hs, by rw [hname]; rfl⟩

/-- What agrees with a session that has a name does not agree with a fresh one. -/
theorem Agree.not_fresh {t t' : Tracker} {s : Session} (h : Agree t t')
    (hs : t.session = .available s) (hname : s.name?.isSome = true) (capacity : Nat) :
    ¬ Agree (.new (.withCapacity capacity)) t' := by
  rintro ⟨fresh, history, hfresh, hreset⟩
  obtain ⟨shown, history', hshown, hsame⟩ := h
  rw [hs] at hshown
  cases hshown
  cases hfresh
  rw [hsame] at hreset
  have hnone : s.name? = none := congrArg Session.name? (Guarded.available.inj hreset)
  rw [hnone] at hname
  cases hname

/-- A close resets the session that a record with the same identifier began, if and only if that is
not an empty text; else it changes nothing but the activities. The close of a session that is not
the current one always changes nothing but these. -/
theorem close_pairs_iff (capacity : Nat) (before between : Past) {created closed : Arrival}
    (hcreated : created.record.kind = .sessionCreated)
    (hclosed : closed.record.kind = .sessionClosed)
    (hbetween : ∀ a ∈ between, a.record.kind ≠ .sessionCreated ∧ a.record.kind ≠ .sessionClosed)
    (hsame : closed.record.fields.get? "sessionId" = created.record.fields.get? "sessionId") :
    (Agree (.new (.withCapacity capacity))
        (after capacity (closed :: (between ++ created :: before))) ↔
      created.record.fields.get? "sessionId" ≠ some (.string "")) ∧
    (created.record.fields.get? "sessionId" = some (.string "") →
      Agree (after capacity (between ++ created :: before))
        (after capacity (closed :: (between ++ created :: before)))) ∧
    ∀ (past : Past) (other : Arrival) (s : Session) (v w : String), v ≠ w →
      (after capacity past).session = .available s → s.id? = some v →
      other.record.kind = .sessionClosed →
      other.record.fields.string? "sessionId" = some w →
      Agree (after capacity past) (after capacity (other :: past)) := by
  obtain ⟨hcurrent, s, hs, hname⟩ := after_begun capacity before between hcreated hbetween
  have hcloses := Record.closes_begun_iff hclosed hsame
  rw [← hcurrent] at hcloses
  have hkept : created.record.fields.get? "sessionId" = some (.string "") →
      Agree (after capacity (between ++ created :: before))
        (after capacity (closed :: (between ++ created :: before))) := by
    intro hempty
    refine agree_of_not_closes capacity hclosed ?_
    rw [Bool.eq_false_iff]
    exact fun h => hcloses.mp h hempty
  refine ⟨⟨?_, ?_⟩, hkept, ?_⟩
  · intro hfresh hempty
    exact (hkept hempty).not_fresh hs hname capacity hfresh
  · intro hne
    have hended : Past.closed (closed :: (between ++ created :: before)) = true := hcloses.mpr hne
    obtain ⟨history, hreset⟩ := after_closed capacity hended
    exact ⟨_, history, rfl, hreset⟩
  · intro past other s v w hvw hs hid hkind hw
    obtain ⟨t, ht, hrecounts⟩ := receive_recounts capacity past
    rw [after, ht] at hs
    cases hs
    refine agree_of_not_closes capacity hkind ?_
    rw [← hrecounts.current, hid, Record.closes, hkind, hw]
    simpa using hvw

/-! ### An empty identifier -/

def begun (id : String) : Arrival := bare .sessionCreated [("sessionId", .string id)]

def ended (id : String) : Arrival := bare .sessionClosed [("sessionId", .string id)]

def pausing : Arrival := bare .debugState [("event", .string "paused")]

/-- A session with an identifier is closed, and one with an empty identifier stays. -/
theorem close_pairs_iff_empty :
    (∀ id, (begun id).record.kind = .sessionCreated ∧ (ended id).record.kind = .sessionClosed ∧
      (ended id).record.fields.get? "sessionId" = (begun id).record.fields.get? "sessionId") ∧
      (∀ a ∈ [pausing], a.record.kind ≠ .sessionCreated ∧ a.record.kind ≠ .sessionClosed) ∧
      Agree (.new (.withCapacity 5)) (after 5 [ended "s1", pausing, begun "s1"]) ∧
      ¬ Agree (.new (.withCapacity 5)) (after 5 [ended "", pausing, begun ""]) := by
  have hbetween : ∀ a ∈ [pausing],
      a.record.kind ≠ .sessionCreated ∧ a.record.kind ≠ .sessionClosed := by
    intro a ha
    rw [List.mem_singleton.mp ha]
    exact ⟨by decide, by decide⟩
  have hpairs : ∀ id, Agree (.new (.withCapacity 5)) (after 5 [ended id, pausing, begun id]) ↔
      (begun id).record.fields.get? "sessionId" ≠ some (.string "") := fun id =>
    (@close_pairs_iff 5 [] [pausing] (begun id) (ended id) rfl rfl hbetween rfl).1
  refine ⟨fun id => ⟨rfl, rfl, rfl⟩, hbetween, (hpairs "s1").mpr ?_, fun h => (hpairs "").mp h rfl⟩
  intro hempty
  exact absurd (Json.string.inj (Option.some.inj hempty)) (by decide)

end Tracker

end DebugDashboard
