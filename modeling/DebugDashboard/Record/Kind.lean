/-!
# Kinds of records

Each record of the log says in a field what it is about.
-/

namespace DebugDashboard

/-- What a record reports. -/
inductive Kind where
  | toolCall
  | toolResponse
  | toolError
  | sessionCreated
  | sessionClosed
  | debugState
  | debugBreakpoint
  | debugVariables
  | debugOutput
  | debugStackTrace
  | debugScopes
  deriving Repr, DecidableEq

namespace Kind

def all : List Kind :=
  [toolCall, toolResponse, toolError, sessionCreated, sessionClosed, debugState, debugBreakpoint,
    debugVariables, debugOutput, debugStackTrace, debugScopes]

def word : Kind → String
  | toolCall => "tool:call"
  | toolResponse => "tool:response"
  | toolError => "tool:error"
  | sessionCreated => "session:created"
  | sessionClosed => "session:closed"
  | debugState => "debug:state"
  | debugBreakpoint => "debug:breakpoint"
  | debugVariables => "debug:variables"
  | debugOutput => "debug:output"
  | debugStackTrace => "debug:stack_trace"
  | debugScopes => "debug:scopes"

def ofWord? (s : String) : Option Kind := all.find? fun kind => kind.word = s

theorem mem_all (kind : Kind) : kind ∈ all := by cases kind <;> decide

theorem ofWord?_word (kind : Kind) : ofWord? kind.word = some kind := by cases kind <;> decide

end Kind

end DebugDashboard
