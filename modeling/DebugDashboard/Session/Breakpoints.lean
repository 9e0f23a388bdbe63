import DebugDashboard.Path.Basic

/-!
# Breakpoints

The lines with a breakpoint, by file. A file is known by the components of its path; it keeps the
spelling under which its first line was set, and leaves with its last line.
-/

namespace DebugDashboard

/-- The lines of each file, ascending. -/
abbrev Breakpoints := List (Path × List Nat)

namespace Breakpoints

/-- A number put into an ascending list, unless it is there. -/
def insertLine (line : Nat) : List Nat → List Nat
  | [] => [line]
  | n :: rest =>
    if line < n then line :: n :: rest
    else if line = n then n :: rest
    else n :: insertLine line rest

def linesOf (bps : Breakpoints) (file : Path) : List Nat :=
  match bps.find? fun e => e.1.same file with
  | some e => e.2
  | none => []

def has (bps : Breakpoints) (file : Path) (line : Nat) : Bool :=
  (bps.linesOf file).contains line

def set : Breakpoints → Path → Nat → Breakpoints
  | [], file, line => [(file, [line])]
  | (p, ls) :: rest, file, line =>
    if p.same file then (p, insertLine line ls) :: rest else (p, ls) :: set rest file line

def remove : Breakpoints → Path → Nat → Breakpoints
  | [], _, _ => []
  | (p, ls) :: rest, file, line =>
    if p.same file then
      let left := ls.filter (· ≠ line)
      if left.isEmpty then rest else (p, left) :: rest
    else (p, ls) :: remove rest file line

end Breakpoints

end DebugDashboard
