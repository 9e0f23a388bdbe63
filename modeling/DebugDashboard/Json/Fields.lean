import DebugDashboard.Json.Parser
import DebugDashboard.Text.Blank
import DebugDashboard.Text.Decimal

/-!
# Lenient fields

A field of the wrong type reads as if it were not there.
-/

namespace DebugDashboard

namespace Fields

def string? (fields : Fields) (key : String) : Option String :=
  match fields.get? key with
  | some (.string s) => some s
  | _ => none

def nonEmpty? (fields : Fields) (key : String) : Option String :=
  (fields.string? key).filter (· ≠ "")

def bool? (fields : Fields) (key : String) : Option Bool :=
  match fields.get? key with
  | some (.bool b) => some b
  | _ => none

/-- A number as a count: without fraction, not below zero. -/
def count? (fields : Fields) (key : String) : Option Nat :=
  match fields.get? key with
  | some (.number n) => n.toWord?
  | _ => none

/-- The number that a value gives for a line: a number as for a count, or the digits of a string. -/
def lineValue? : Json → Option Nat
  | .number n => n.toWord?
  | .string s => Text.Decimal.word? (Text.trim s)
  | _ => none

/-- A line number, counted from one. -/
def line? (fields : Fields) (key : String) : Option Nat :=
  ((fields.get? key).bind lineValue?).filter (0 < ·)

def object? (fields : Fields) (key : String) : Option Fields :=
  match fields.get? key with
  | some (.object fs) => some fs
  | _ => none

def array? (fields : Fields) (key : String) : Option (List Json) :=
  match fields.get? key with
  | some (.array items) => some items
  | _ => none

def double? (fields : Fields) (key : String) : Option Binary64 :=
  match fields.get? key with
  | some (.number n) => some n.toDouble
  | _ => none

end Fields

end DebugDashboard
