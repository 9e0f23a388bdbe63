import DebugDashboard.FileSystem.Basic
import DebugDashboard.Record.Basic
import DebugDashboard.Tail.Stats
import DebugDashboard.Text.Utf8

/-!
# Handing lines to handlers

For each kind of record there is at most one handler. A complete line goes to the handler of its
record; blank lines go nowhere, and all other lines are counted. A handler that fails half way is
stopped there and has been called all the same.
-/

namespace DebugDashboard

/-- What a call of a handler leaves: the state of the observer, and whether the call failed. -/
structure Reaction (σ : Type) where
  observer : σ
  failed : Bool := false

/-- What is done with a record, given the file system of the moment. -/
abbrev Handler (σ : Type) := FileSystem → Record → σ → Reaction σ

/-- The handlers by kind. -/
abbrev Handlers (σ : Type) := Kind → Option (Handler σ)

namespace Handlers

variable {σ : Type}

def none : Handlers σ := fun _ => Option.none

/-- The handlers with one for a kind, which replaces an earlier one. -/
def register (hs : Handlers σ) (kind : Kind) (h : Handler σ) : Handlers σ :=
  fun k => if k = kind then some h else hs k

end Handlers

/-- What a complete line is. -/
inductive LineClass where
  | blank
  | malformed
  /-- The discriminator names no kind. -/
  | foreign
  | record (r : Record)
  deriving Repr

/-- What a complete line is, its line end included. -/
def LineClass.of (line : List UInt8) : LineClass :=
  match Text.Utf8.decode? line with
  | none => .malformed
  | some text =>
    match Record.parse text with
    | .ok r => .record r
    | .error .empty => .blank
    | .error (.unknownDiscriminator _) => .foreign
    | .error _ => .malformed

/-- The file system, the counters, and the state that the handlers change. -/
structure Surroundings (σ : Type) where
  files : FileSystem
  stats : Stats
  observer : σ

namespace Surroundings

variable {σ : Type}

def count (s : Surroundings σ) (f : Stats → Stats) : Surroundings σ :=
  { s with stats := f s.stats }

/-- Hands a complete line to its handler, or counts it. -/
def dispatch (hs : Handlers σ) (s : Surroundings σ) (line : List UInt8) : Surroundings σ :=
  match LineClass.of line with
  | .blank => s
  | .malformed => s.count Stats.countMalformed
  | .foreign => s.count Stats.countUnhandled
  | .record r =>
    match hs r.kind with
    | some h => { s with observer := (h s.files r s.observer).observer }.count Stats.countDispatched
    | none => s.count Stats.countUnhandled

end Surroundings

end DebugDashboard
