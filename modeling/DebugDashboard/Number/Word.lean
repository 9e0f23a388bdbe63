/-!
# Machine words

Counts, offsets and line numbers are words of 64 bits. A computation on words goes through numbers
of any size, and each step of it is checked to stay within the words.
-/

namespace DebugDashboard.Word

/-- The first natural number that is no unsigned word. -/
def limit : Nat := Nat.pow 2 64

/-- The first natural number that is no signed word. -/
def signedLimit : Nat := Nat.pow 2 63

/-- A natural number that fits into an unsigned word. -/
def checked (n : Nat) : Option Nat := if n < limit then some n else none

/-- The difference of two unsigned words; there is none below zero. -/
def minus (m n : Nat) : Option Nat := if n ≤ m then some (m - n) else none

/-- Whether an integer fits into a signed word. -/
def isSigned (i : Int) : Bool := -(signedLimit : Int) ≤ i && i < signedLimit

/-- An integer that fits into a signed word. -/
def checkedSigned (i : Int) : Option Int := if isSigned i then some i else none

/-- The signed word with the bits of an unsigned word. -/
def asSigned (n : Nat) : Int := if n < signedLimit then n else n - (limit : Int)

/-- The signed word nearest to an integer. -/
def clampSigned (i : Int) : Int := max (-(signedLimit : Int)) (min (signedLimit - 1) i)

end DebugDashboard.Word
