import DebugDashboard.Proofs.Session.Breakpoints
import DebugDashboard.Proofs.Session.Past

/-!
# What a response to a breakpoint call marks

A response may leave out the file or the line of the breakpoint. What it leaves out is taken from
the request that it answers: the one that it repeats, or else the one that the tool was last called
with, unless an answer of the tool came since. Other tools make no difference.
-/

namespace DebugDashboard

/-! ## Requests that wait for an answer -/

/-- Whether a record is a call of a tool, or an answer to one. -/
def Record.concerns (tool : String) (r : Record) : Bool :=
  (r.kind = .toolCall || r.kind = .toolResponse || r.kind = .toolError) && r.tool = tool

namespace PendingRequests

variable (pending : PendingRequests)

theorem get?_drop (tool other : String) :
    (pending.drop tool).get? other = if other = tool then none else pending.get? other := by
  induction pending with
  | nil => simp [drop, get?]
  | cons request rest ih =>
      obtain ⟨name, fields⟩ := request
      simp only [drop, get?, List.filter_cons, List.lookup_cons] at ih ⊢
      by_cases hname : name = tool
      · subst hname
        by_cases hother : other = name
        · simpa [hother] using ih
        · have hbeq : (other == name) = false := beq_eq_false_iff_ne.mpr hother
          simpa [hbeq, hother] using ih
      · by_cases hother : other = name
        · simp [hother, hname]
        · have hbeq : (other == name) = false := beq_eq_false_iff_ne.mpr hother
          simpa [hname, hbeq, List.lookup_cons] using ih

theorem get?_add (tool other : String) (request : Fields) :
    (pending.add tool request).get? other =
      if other = tool then some request else pending.get? other := by
  have hdrop := pending.get?_drop tool other
  simp only [get?] at hdrop
  by_cases hother : other = tool
  · simp [add, get?, hother]
  · have hbeq : (other == tool) = false := beq_eq_false_iff_ne.mpr hother
    simpa [add, get?, List.lookup_cons, hbeq, hother] using hdrop

/-- Only calls of a tool and answers to them change what is remembered for it. -/
theorem get?_after (r : Record) (tool : String) :
    (pending.after r).get? tool =
      if r.concerns tool then if r.kind = .toolCall then some r.request else none
      else pending.get? tool := by
  unfold after Record.concerns
  cases r.kind <;> simp [get?_add, get?_drop, eq_comm]

end PendingRequests

namespace Past

/-- The request of the latest call of a tool, unless an answer of the tool came after it. -/
def unanswered? (tool : String) (past : Past) : Option Fields :=
  ((past.map (·.record)).find? (·.concerns tool)).bind fun r =>
    if r.kind = .toolCall then some r.request else none

/-- The request that a response answers, without fields if there is none. -/
def answeredRequest (past : Past) (r : Record) : Fields :=
  ((r.fields.object? "request").or (past.unanswered? r.tool)).getD []

/-- The file and the line that a response marks, each the first that the response and then its
request tell. -/
def markedPlace? (past : Past) (r : Record) : Option (String × Nat) := do
  let told := [r.response, past.answeredRequest r]
  let file ← told.findSome? fun fields => fields.nonEmpty? "file"
  let line ← told.findSome? fun fields => fields.line? "line"
  some (file, line)

theorem markedPlace?_eq (past : Past) (r : Record) :
    past.markedPlace? r =
      Record.answeredPlace? r.response (r.answeredRequest? (past.unanswered? r.tool)) := by
  have hnone : ∀ request? : Option Fields, ∀ {β : Type} (f : Fields → Option β), f [] = none →
      ([r.response, request?.getD []].findSome? f) = (f r.response).or (request?.bind f) := by
    intro request? β f hempty
    cases hresponse : f r.response with
    | some told => simp [hresponse]
    | none =>
        cases request? with
        | none => simp [hresponse, hempty]
        | some request => cases hrequest : f request <;> simp [hresponse, hrequest]
  simp only [markedPlace?, answeredRequest, Record.answeredPlace?, Record.answeredRequest?,
    hnone _ (fun fields => fields.nonEmpty? "file") rfl,
    hnone _ (fun fields => fields.line? "line") rfl]

theorem change_response (past : Past) (host : Host) {r : Record} (hkind : r.kind = .toolResponse) :
    r.change host (past.unanswered? r.tool) =
      if r.tool = "set_breakpoint" && r.succeeded then
        match past.markedPlace? r with
        | some (file, line) => .mark (Record.position host file line)
        | none => .nothing
      else .nothing := by
  rw [markedPlace?_eq, Record.change]
  cases Record.answeredPlace? r.response (r.answeredRequest? (past.unanswered? r.tool)) <;>
    simp only [hkind]

/-- Only the records of its own tool decide what a response marks. -/
theorem markedPlace?_congr {past past' : Past} {r : Record}
    (hsame : (past.map (·.record)).filter (·.concerns r.tool) =
      (past'.map (·.record)).filter (·.concerns r.tool)) :
    past.markedPlace? r = past'.markedPlace? r := by
  have hunanswered : past.unanswered? r.tool = past'.unanswered? r.tool := by
    rw [unanswered?, unanswered?, ← List.head?_filter, hsame, List.head?_filter]
  rw [markedPlace?, answeredRequest, hunanswered]
  rfl

end Past

namespace Tracker

/-- The requests that are remembered are those without an answer. -/
theorem pending_receive (session : Session) (past : Past) (tool : String) :
    ((Tracker.new session).receive past.reverse).pending.get? tool = past.unanswered? tool := by
  induction past with
  | nil => rfl
  | cons a earlier ih =>
      rw [receive_reverse_cons, handle_pending, PendingRequests.get?_after, ih]
      simp only [Past.unanswered?, List.map_cons, List.find?_cons]
      cases a.record.concerns tool <;> rfl

/-- One more arrival changes the session as its record says, given the request that waits. -/
theorem receive_cons {session s : Session} {earlier : Past}
    (hs : ((Tracker.new session).receive earlier.reverse).session = .available s) (a : Arrival) :
    ∃ history, ((Tracker.new session).receive (a :: earlier).reverse).session =
      .available { s.apply (a.record.change a.host (earlier.unanswered? a.record.tool)) with
        history := history } := by
  rw [receive_reverse_cons, ← pending_receive session]
  exact handle_session a.host a.now a.record hs

/-- A response to a breakpoint call that does not deny success marks the file and the line that it
and its request tell, if they tell both. A response that denies it marks nothing. Records of other
tools, wherever they arrive, do not matter. -/
theorem receive_response (session : Session) (past : Past) (a : Arrival)
    (hkind : a.record.kind = .toolResponse) :
    ∃ s s', ((Tracker.new session).receive past.reverse).session = .available s ∧
      ((Tracker.new session).receive (a :: past).reverse).session = .available s' ∧
      (a.record.tool = "set_breakpoint" → a.record.fields.bool? "success" ≠ some false →
        match past.markedPlace? a.record with
        | some (file, line) =>
          let marked := Path.normalise a.host ⟨file⟩
          s'.position? = some ⟨marked, line⟩ ∧ s'.breakpoints = s.breakpoints.set marked line ∧
            ∀ p n, s'.breakpoints.has p n = true ↔
              marked.same p = true ∧ n = line ∨ s.breakpoints.has p n = true
        | none => s'.position? = s.position? ∧ s'.breakpoints = s.breakpoints) ∧
      (a.record.fields.bool? "success" = some false →
        s'.position? = s.position? ∧ s'.breakpoints = s.breakpoints) ∧
      ∀ past' : Past,
        (past'.map (·.record)).filter (·.concerns a.record.tool) =
          (past.map (·.record)).filter (·.concerns a.record.tool) →
        past'.markedPlace? a.record = past.markedPlace? a.record := by
  obtain ⟨s, hs⟩ := receive_available session past
  obtain ⟨history, hnext⟩ := receive_cons hs a
  refine ⟨s, _, hs, hnext, ?_, ?_, fun past' hsame => Past.markedPlace?_congr hsame⟩
  · intro htool hsuccess
    have hsucceeded : a.record.succeeded = true := by
      rw [Record.succeeded]
      cases hbool : a.record.fields.bool? "success" with
      | none => rfl
      | some b =>
          cases b with
          | true => rfl
          | false => exact absurd hbool hsuccess
    rw [past.change_response a.host hkind, htool, hsucceeded]
    cases past.markedPlace? a.record with
    | none => exact ⟨rfl, rfl⟩
    | some place =>
        obtain ⟨file, line⟩ := place
        exact ⟨rfl, rfl, fun p n => Breakpoints.has_set⟩
  · intro hfailed
    have hsucceeded : a.record.succeeded = false := by rw [Record.succeeded, hfailed]; rfl
    rw [past.change_response a.host hkind, hsucceeded, Bool.and_false]
    exact ⟨rfl, rfl⟩

/-! ### A response without a file -/

/-- A record without a time, at a host without files. -/
def bare (kind : Kind) (fields : Fields) : Arrival :=
  ⟨⟨.empty, none⟩, 0, ⟨kind, none, fields⟩⟩

/-- A breakpoint call, and after it an answer of another tool. -/
def called : Past :=
  [bare .toolResponse [("tool", .string "step_over")],
    bare .toolCall [("tool", .string "set_breakpoint"),
      ("request", .object [("file", .string "/src/./main.py"), ("line", .number (.integer 3))])]]

/-- The answer tells another line, and no file. -/
def answer : Arrival :=
  bare .toolResponse [("tool", .string "set_breakpoint"),
    ("response", .object [("line", .number (.integer 7))])]

/-- The file is taken from the call, and the line is not. -/
theorem receive_response_without_file :
    answer.record.kind = .toolResponse ∧ answer.record.tool = "set_breakpoint" ∧
      answer.record.fields.bool? "success" ≠ some false ∧
      ∃ s', ((Tracker.new (.withCapacity 5)).receive (answer :: called).reverse).session =
          .available s' ∧
        s'.position? = some ⟨⟨"/src/main.py"⟩, 7⟩ ∧
        s'.breakpoints.has ⟨"/src/main.py"⟩ 7 = true := by
  have htool : answer.record.tool = "set_breakpoint" := rfl
  have hsuccess : answer.record.fields.bool? "success" ≠ some false := by
    have hnone : answer.record.fields.bool? "success" = none := rfl
    simp [hnone]
  obtain ⟨s, s', -, hs', hmarks, -, -⟩ :=
    receive_response (.withCapacity 5) called answer rfl
  have hplace : called.markedPlace? answer.record = some ("/src/./main.py", 7) := rfl
  have hmarks := hmarks htool hsuccess
  rw [hplace] at hmarks
  obtain ⟨hposition, -, hhas⟩ := hmarks
  have hnormal : Path.normalise answer.host ⟨"/src/./main.py"⟩ = ⟨"/src/main.py"⟩ := by
    decide +kernel
  rw [hnormal] at hposition hhas
  exact ⟨rfl, htool, hsuccess, s', hs', hposition, (hhas _ _).mpr (.inl ⟨Path.same_refl _, rfl⟩)⟩

end Tracker

end DebugDashboard
