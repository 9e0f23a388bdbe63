/-!
# Counters

What became of the lines that were read.
-/

namespace DebugDashboard

/-- Counters of a tailer. -/
structure Stats where
  /-- Lines handed to a handler. -/
  dispatched : Nat := 0
  /-- Complete lines that were no records. -/
  malformed : Nat := 0
  /-- Records without a handler. -/
  unhandled : Nat := 0
  /-- Replacements, removals and truncations of the log. -/
  rotations : Nat := 0
  ioErrors : Nat := 0
  /-- The offset behind the last processed line. -/
  position : Nat := 0
  deriving Repr, DecidableEq

namespace Stats

def dropped (s : Stats) : Nat := s.malformed

def countDispatched (s : Stats) : Stats := { s with dispatched := s.dispatched + 1 }

def countMalformed (s : Stats) : Stats := { s with malformed := s.malformed + 1 }

def countUnhandled (s : Stats) : Stats := { s with unhandled := s.unhandled + 1 }

def countRotation (s : Stats) : Stats := { s with rotations := s.rotations + 1 }

def countIoError (s : Stats) : Stats := { s with ioErrors := s.ioErrors + 1 }

def setPosition (s : Stats) (offset : Nat) : Stats := { s with position := offset }

end Stats

end DebugDashboard
