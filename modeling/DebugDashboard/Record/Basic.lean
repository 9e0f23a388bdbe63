import DebugDashboard.Json.Fields
import DebugDashboard.Number.Layout
import DebugDashboard.Record.Kind
import DebugDashboard.Text.Quoted
import DebugDashboard.Time

/-!
# Records

A line of the log is a record if it holds a JSON object whose field `message` names a kind. All
other fields are optional, and are looked at only by whoever needs them.
-/

namespace DebugDashboard

/-- One record of the log. -/
structure Record where
  kind : Kind
  /-- Milliseconds since the start of 1970, if the writer gave them. -/
  timestamp? : Option Binary64
  fields : Fields
  deriving Repr

/-- Why a line yields no record. -/
inductive RecordError where
  /-- The line is blank. -/
  | empty
  /-- The line is not JSON. -/
  | json
  /-- There is no object, or its field `message` is not a string. -/
  | missingDiscriminator
  /-- The field `message` names no kind. -/
  | unknownDiscriminator (word : String)
  deriving Repr, DecidableEq

namespace RecordError

def message : RecordError → String
  | empty => "empty line"
  | json => "invalid JSON"
  | missingDiscriminator => "missing message discriminator"
  | unknownDiscriminator word => "unknown message discriminator " ++ Text.Quoted.print word

end RecordError

namespace Kind

/-- The kind that a word names, or the error for the word. -/
def parse (word : String) : Except RecordError Kind :=
  match ofWord? word with
  | some kind => .ok kind
  | none => .error (.unknownDiscriminator word)

end Kind

namespace Record

def ofJson : Json → Except RecordError Record
  | .object fields =>
    match Fields.string? fields "message" with
    | none => .error .missingDiscriminator
    | some word => do
      let kind ← Kind.parse word
      .ok ⟨kind, Fields.double? fields "timestamp", fields⟩
  | _ => .error .missingDiscriminator

/-- The record that a line holds, blanks around it aside. -/
def parse (line : String) : Except RecordError Record :=
  let line := Text.trim line
  if line = "" then .error .empty
  else match Json.parse? line with
    | none => .error .json
    | some value => ofJson value

/-- The time of a record in whole milliseconds, if it lies within the calendar. -/
def time? (r : Record) : Option Int :=
  (r.timestamp?.map Binary64.truncateSigned).filter fun millis =>
    Time.earliest ≤ millis && millis ≤ Time.latest

/-- The time of the day at which the record was written. -/
def readableTime? (r : Record) : Option String :=
  r.time?.map Time.fineClock

/-- Timestamps are shown without exponent from `1e-4` up to below `1e16`, exponents carry no plus
sign, and a tie between two shortest forms goes away from zero. -/
def timestampLayout : Binary64.Layout := ⟨-4, 15, "", .up⟩

def timestampText? (r : Record) : Option String :=
  r.timestamp?.map (Binary64.write timestampLayout)

end Record

end DebugDashboard
