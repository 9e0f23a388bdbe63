import DebugDashboard.Proofs.Session.Requests

/-!
# Who wrote last

Whether a session is paused, where it stands, its variables and its name were each told by the
latest record that tells anything of them. The close of the current session tells all of them:
nothing is left.
-/

namespace DebugDashboard

namespace Record

/-- A pause, with or without a place. -/
def reportsPause (r : Record) : Bool := r.kind = .debugState && r.event = "paused"

/-- A hit of a breakpoint of which file and line are told. -/
def reportsHit (r : Record) : Bool :=
  r.kind = .debugBreakpoint && r.event = "hit" && (fileLine? r.fields).isSome

def reportsResume (r : Record) : Bool :=
  r.kind = .debugState && (r.event = "running" || r.event = "stopped")

/-- Whether a record closes the current session: the one with its identifier, or any if it gives
none. -/
def closes (r : Record) (current? : Option String) : Bool :=
  r.kind = .sessionClosed &&
    match r.fields.string? "sessionId" with
    | none => true
    | some id => current? = some id

/-- Identifier and name that a record gives the session, or takes from the current one. -/
def identityTold? (r : Record) (current? : Option String) :
    Option (Option String × Option String) :=
  if r.closes current? then some (none, none)
  else if r.kind = .sessionCreated then
    some (r.fields.nonEmpty? "sessionId",
      some ((r.fields.string? "sessionName").getD "Debug Session"))
  else none

end Record

namespace Past

/-- What the latest arrival that tells something tells. What an arrival tells may depend on its
past. -/
def latest? {α : Type} (told? : Past → Arrival → Option α) : Past → Option α
  | [] => none
  | a :: earlier => (told? earlier a).or (latest? told? earlier)

theorem latest?_eq_some_iff {α : Type} {told? : Past → Arrival → Option α} {past : Past} {x : α} :
    past.latest? told? = some x ↔
      ∃ later a earlier, past = later ++ a :: earlier ∧ told? earlier a = some x ∧
        ∀ newer b older, later = newer ++ b :: older → told? (older ++ a :: earlier) b = none := by
  induction past with
  | nil => simp [latest?]
  | cons first rest ih =>
      rw [latest?]
      cases hfirst : told? rest first with
      | some told =>
          rw [Option.some_or, Option.some.injEq]
          constructor
          · rintro rfl
            exact ⟨[], first, rest, rfl, hfirst, by simp⟩
          · rintro ⟨later, a, earlier, hpast, htold, hlater⟩
            rcases List.cons_eq_append_iff.mp hpast with ⟨rfl, heq⟩ | ⟨newer, rfl, rfl⟩
            · cases heq
              rw [hfirst] at htold
              exact Option.some.inj htold
            · rw [hlater [] first newer rfl] at hfirst
              cases hfirst
      | none =>
          rw [Option.none_or, ih]
          constructor
          · rintro ⟨later, a, earlier, rfl, htold, hlater⟩
            refine ⟨first :: later, a, earlier, rfl, htold, fun newer b older heq => ?_⟩
            rcases List.cons_eq_append_iff.mp heq with ⟨rfl, hcons⟩ | ⟨others, rfl, hrest⟩
            · cases hcons
              exact hfirst
            · exact hlater _ _ _ hrest
          · rintro ⟨later, a, earlier, hpast, htold, hlater⟩
            rcases List.cons_eq_append_iff.mp hpast with ⟨rfl, heq⟩ | ⟨newer, rfl, rfl⟩
            · cases heq
              rw [hfirst] at htold
              cases htold
            · exact ⟨newer, a, earlier, rfl, htold, fun others b older heq =>
                hlater (first :: others) b older (by rw [heq]; rfl)⟩

theorem latest?_cons {α : Type} (told? : Past → Arrival → Option α) (a : Arrival) (earlier : Past)
    (default : α) :
    (latest? told? (a :: earlier)).getD default =
      (told? earlier a).getD ((earlier.latest? told?).getD default) := by
  rw [latest?]
  cases told? earlier a <;> rfl

/-- The identifier of the session that is current. -/
def currentId? : Past → Option String
  | [] => none
  | a :: earlier =>
    ((a.record.identityTold? (currentId? earlier)).map (·.1)).getD (currentId? earlier)

def identityTold? (earlier : Past) (a : Arrival) : Option (Option String × Option String) :=
  a.record.identityTold? earlier.currentId?

def pausedTold? (earlier : Past) (a : Arrival) : Option Bool :=
  if a.record.reportsPause || a.record.reportsHit then some true
  else if a.record.reportsResume || a.record.closes earlier.currentId? then some false
  else none

theorem pausedTold?_eq_some_true_iff {earlier : Past} {a : Arrival} :
    earlier.pausedTold? a = some true ↔ (a.record.reportsPause || a.record.reportsHit) = true := by
  unfold pausedTold?
  split
  next htold => simp [htold]
  next htold => simp [htold]

/-- The file and the line at which an arrival says that the session stands. -/
def reportedPlace? (earlier : Past) (a : Arrival) : Option (String × Nat) :=
  match a.record.kind with
  | .debugState =>
    if a.record.event = "paused" then Record.fileLine? a.record.pausePlace else none
  | .debugBreakpoint =>
    if a.record.event = "hit" then Record.fileLine? a.record.fields else none
  | .toolResponse =>
    if a.record.tool = "set_breakpoint" && a.record.succeeded then earlier.markedPlace? a.record
    else none
  | _ => none

def positionTold? (earlier : Past) (a : Arrival) : Option (Option Position) :=
  if a.record.closes earlier.currentId? then some none
  else (earlier.reportedPlace? a).map fun (file, line) =>
    some ⟨Path.normalise a.host ⟨file⟩, line⟩

def variablesTold? (earlier : Past) (a : Arrival) : Option Variables :=
  if a.record.closes earlier.currentId? then some []
  else if a.record.kind = .debugVariables then
    some (ReportedVariable.collect a.record.listedVariables)
  else none

end Past

namespace Session

/-! ## One arrival -/

section Arrives

variable {s : Session} {earlier : Past} {a : Arrival}

/-- The session after an arrival, its activities aside. -/
def arrive (s : Session) (earlier : Past) (a : Arrival) : Session :=
  s.apply (a.record.change a.host (earlier.unanswered? a.record.tool))

/-- A response marks a place or changes nothing. -/
theorem arrive_response (hkind : a.record.kind = .toolResponse) :
    s.arrive earlier a =
      match earlier.reportedPlace? a with
      | some (file, line) => s.apply (.mark (Record.position a.host file line))
      | none => s := by
  rw [arrive, earlier.change_response a.host hkind, Past.reportedPlace?, hkind]
  split
  · cases earlier.markedPlace? a.record <;> rfl
  · rfl

theorem arrive_state (hkind : a.record.kind = .debugState) :
    s.arrive earlier a =
      if a.record.event = "paused" then
        s.apply (.pause ((earlier.reportedPlace? a).map fun (file, line) =>
          Record.position a.host file line))
      else if a.record.event = "running" || a.record.event = "stopped" then s.setPaused false
      else s := by
  simp only [arrive, Record.change, Past.reportedPlace?, hkind]
  split
  · rfl
  · split <;> rfl

variable (s earlier) in
/-- A breakpoint is only shown as the place of the session when it is hit. -/
theorem arrive_breakpoint (hkind : a.record.kind = .debugBreakpoint) :
    if a.record.event = "hit" then
      s.arrive earlier a =
        match earlier.reportedPlace? a with
        | some (file, line) => s.apply (.hitBreakpoint (Record.position a.host file line))
        | none => s
    else ∃ bps, s.arrive earlier a = { s with breakpoints := bps } := by
  simp only [arrive, Record.change, Past.reportedPlace?, hkind]
  cases hplace : Record.fileLine? a.record.fields with
  | none =>
      split
      · rfl
      · exact ⟨s.breakpoints, rfl⟩
  | some place =>
      obtain ⟨file, line⟩ := place
      split
      next hhit => simp [hhit]
      next hhit =>
        dsimp only
        split
        · exact ⟨_, rfl⟩
        · split
          · exact ⟨_, rfl⟩
          · exact ⟨s.breakpoints, rfl⟩

variable (hid : s.id? = earlier.currentId?)

include hid

theorem arrive_closed (hkind : a.record.kind = .sessionClosed) :
    s.arrive earlier a = if a.record.closes earlier.currentId? then s.reset else s := by
  have hcloses : a.record.closes earlier.currentId? =
      s.isEndedBy (a.record.fields.string? "sessionId") := by
    rw [Record.closes, hkind, ← hid]
    rfl
  rw [hcloses]
  simp only [arrive, Record.change, hkind, apply]

/-- An arrival leaves what it does not tell. -/
theorem arrive_told :
    (s.arrive earlier a).paused = (earlier.pausedTold? a).getD s.paused ∧
      (s.arrive earlier a).position? = (earlier.positionTold? a).getD s.position? ∧
      (s.arrive earlier a).vars = (earlier.variablesTold? a).getD s.vars ∧
      ((s.arrive earlier a).id?, (s.arrive earlier a).name?) =
        (earlier.identityTold? a).getD (s.id?, s.name?) := by
  unfold Past.pausedTold? Past.positionTold? Past.variablesTold? Past.identityTold?
    Record.identityTold? Record.reportsPause Record.reportsHit Record.reportsResume
  cases hkind : a.record.kind with
  | sessionClosed =>
      rw [arrive_closed hid hkind]
      cases a.record.closes earlier.currentId? <;> simp [Past.reportedPlace?, hkind, reset]
  | toolResponse =>
      rw [arrive_response hkind]
      cases earlier.reportedPlace? a <;>
        simp [Record.closes, hkind, apply, moveTo, setBreakpoint, Record.position]
  | debugState =>
      rw [arrive_state hkind]
      by_cases hpaused : a.record.event = "paused"
      · cases earlier.reportedPlace? a <;>
          simp [Record.closes, hkind, hpaused, apply, moveTo, setPaused, Record.position]
      · have hplace : earlier.reportedPlace? a = none := by
          simp [Past.reportedPlace?, hkind, hpaused]
        cases a.record.event = "running" || a.record.event = "stopped" <;>
          simp [Record.closes, hkind, hpaused, hplace, setPaused]
  | debugBreakpoint =>
      have harrive := arrive_breakpoint s earlier hkind
      by_cases hhit : a.record.event = "hit"
      · rw [if_pos hhit] at harrive
        rw [harrive]
        have hplace : earlier.reportedPlace? a = Record.fileLine? a.record.fields := by
          simp [Past.reportedPlace?, hkind, hhit]
        cases hreported : earlier.reportedPlace? a <;>
          simp [Record.closes, hkind, hhit, ← hplace, hreported, apply, moveTo, setPaused,
            Record.position]
      · rw [if_neg hhit] at harrive
        obtain ⟨bps, harrive⟩ := harrive
        simp [harrive, Record.closes, hkind, hhit, Past.reportedPlace?]
  | _ =>
      simp [arrive, Record.change, hkind, Record.closes, Past.reportedPlace?, apply, setIdentity,
        setVariables]

end Arrives

/-! ## All arrivals -/

/-- The session shows what was told last, and where nothing was told, nothing. -/
structure Recounts (s : Session) (past : Past) : Prop where
  paused : s.paused = (past.latest? Past.pausedTold?).getD false
  position : s.position? = (past.latest? Past.positionTold?).getD none
  vars : s.vars = (past.latest? Past.variablesTold?).getD []
  identity : (s.id?, s.name?) = (past.latest? Past.identityTold?).getD (none, none)
  current : s.id? = past.currentId?

/-- One more arrival is recounted as well, whatever activities are kept. -/
theorem Recounts.arrive {s : Session} {earlier : Past} (h : s.Recounts earlier) (a : Arrival)
    (history : List Activity.Entry) :
    Recounts { s.arrive earlier a with history := history } (a :: earlier) := by
  obtain ⟨hpaused, hposition, hvars, hidentity⟩ := arrive_told (a := a) h.current
  refine ⟨?_, ?_, ?_, ?_, ?_⟩
  · rw [Past.latest?_cons, ← h.paused, ← hpaused]
  · rw [Past.latest?_cons, ← h.position, ← hposition]
  · rw [Past.latest?_cons, ← h.vars, ← hvars]
  · rw [Past.latest?_cons, ← h.identity, ← hidentity]
  · have hid := congrArg Prod.fst hidentity
    rw [Past.currentId?, ← h.current]
    rw [Past.identityTold?, ← h.current] at hid
    dsimp only at hid ⊢
    rw [hid]
    cases a.record.identityTold? s.id? <;> rfl

end Session

namespace Tracker

theorem receive_recounts (capacity : Nat) (past : Past) :
    ∃ s, ((Tracker.new (.withCapacity capacity)).receive past.reverse).session = .available s ∧
      s.Recounts past := by
  induction past with
  | nil => exact ⟨_, rfl, rfl, rfl, rfl, rfl, rfl⟩
  | cons a earlier ih =>
      obtain ⟨s, hs, hrecounts⟩ := ih
      obtain ⟨history, hnext⟩ := receive_cons hs a
      exact ⟨_, hnext, hrecounts.arrive a history⟩

/-- After any records, the session shows what the latest of them tell of each of its parts. So it is
paused if a pause or a hit was reported and nothing since tells otherwise. A record that tells
nothing of a part leaves it as it is. -/
theorem receive_last_told (capacity : Nat) (past : Past) :
    ∃ s, ((Tracker.new (.withCapacity capacity)).receive past.reverse).session = .available s ∧
      s.Recounts past ∧
      (s.paused = true ↔ ∃ later a earlier, past = later ++ a :: earlier ∧
        (a.record.reportsPause || a.record.reportsHit) = true ∧
        ∀ newer b older, later = newer ++ b :: older →
          Past.pausedTold? (older ++ a :: earlier) b = none) ∧
      ∀ a, ∃ s', ((Tracker.new (.withCapacity capacity)).receive (a :: past).reverse).session =
          .available s' ∧
        (past.pausedTold? a = none → s'.paused = s.paused) ∧
        (past.positionTold? a = none → s'.position? = s.position?) ∧
        (past.variablesTold? a = none → s'.vars = s.vars) ∧
        (past.identityTold? a = none → s'.id? = s.id? ∧ s'.name? = s.name?) := by
  obtain ⟨s, hs, hrecounts⟩ := receive_recounts capacity past
  refine ⟨s, hs, hrecounts, ?_, fun a => ?_⟩
  · have hlatest : s.paused = true ↔ past.latest? Past.pausedTold? = some true := by
      rw [hrecounts.paused]
      cases past.latest? Past.pausedTold? <;> simp
    simp only [hlatest, Past.latest?_eq_some_iff, Past.pausedTold?_eq_some_true_iff]
  · obtain ⟨history, hnext⟩ := receive_cons hs a
    obtain ⟨hpaused, hposition, hvars, hidentity⟩ := Session.arrive_told (a := a) hrecounts.current
    refine ⟨_, hnext, fun hnone => ?_, fun hnone => ?_, fun hnone => ?_, fun hnone => ?_⟩
    · rwa [hnone] at hpaused
    · rwa [hnone] at hposition
    · rwa [hnone] at hvars
    · rw [hnone] at hidentity
      exact Prod.mk.inj hidentity

end Tracker

end DebugDashboard
