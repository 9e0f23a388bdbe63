/-!
# UTF-8

A byte string is read as a sequence of characters and of maximal invalid runs: the longest
stretches that start like a well-formed sequence and break off. A run ends in front of the first
byte that cannot continue it, and that byte starts something new.
-/

namespace DebugDashboard.Text.Utf8

/-- A well-formed sequence that has begun: how many bytes are still to come, the least and the
greatest byte that may come next, and the value of the bytes so far. -/
structure Partial where
  /-- Bytes to come after the next one. -/
  more : Nat
  low : UInt8
  high : UInt8
  value : Nat
  deriving Repr, DecidableEq

/-- The sequence that a byte of 0x80 and above begins. The bounds on the second byte exclude
overlong forms, surrogates, and values above 0x10FFFF. -/
def Partial.start? (b : UInt8) : Option Partial :=
  if 0xc2 ≤ b ∧ b ≤ 0xdf then some ⟨0, 0x80, 0xbf, b.toNat - 0xc0⟩
  else if b = 0xe0 then some ⟨1, 0xa0, 0xbf, 0⟩
  else if b = 0xed then some ⟨1, 0x80, 0x9f, 0xd⟩
  else if 0xe1 ≤ b ∧ b ≤ 0xef then some ⟨1, 0x80, 0xbf, b.toNat - 0xe0⟩
  else if b = 0xf0 then some ⟨2, 0x90, 0xbf, 0⟩
  else if 0xf1 ≤ b ∧ b ≤ 0xf3 then some ⟨2, 0x80, 0xbf, b.toNat - 0xf0⟩
  else if b = 0xf4 then some ⟨2, 0x80, 0x8f, 4⟩
  else none

def Partial.accepts (p : Partial) (b : UInt8) : Bool :=
  p.low ≤ b && b ≤ p.high

/-- The value after one more byte, which carries six bits. -/
def Partial.push (p : Partial) (b : UInt8) : Nat :=
  p.value * 64 + (b.toNat - 0x80)

/-- What has been read: a character, or an invalid run. -/
abbrev Piece := Option Char

/-- The pieces that a byte completes when no sequence has begun, and the sequence it begins. -/
def startWith (b : UInt8) : List Piece × Option Partial :=
  if b < 0x80 then ([some (Char.ofNat b.toNat)], none)
  else match Partial.start? b with
    | some p => ([], some p)
    | none => ([none], none)

/-- The pieces that a byte completes after `state`, and the sequence that is begun then. -/
def feed : Option Partial → UInt8 → List Piece × Option Partial
  | none, b => startWith b
  | some p, b =>
    if p.accepts b then
      match p.more with
      | 0 => ([some (Char.ofNat (p.push b))], none)
      | more + 1 => ([], some ⟨more, 0x80, 0xbf, p.push b⟩)
    else
      let (pieces, state) := startWith b
      (none :: pieces, state)

/-- The pieces of the remaining bytes, given the pieces before (last first). A sequence that the
end cuts off is an invalid run. -/
def piecesFrom (done : List Piece) (state : Option Partial) : List UInt8 → List Piece
  | [] => if state.isSome then (none :: done).reverse else done.reverse
  | b :: rest =>
    let (pieces, state) := feed state b
    piecesFrom (pieces.reverseAux done) state rest

/-- The characters and invalid runs of a byte string, in order. -/
def pieces (bytes : List UInt8) : List Piece :=
  piecesFrom [] none bytes

def decode? (bytes : List UInt8) : Option String :=
  let ps := pieces bytes
  if ps.all Option.isSome then some (String.ofList (ps.filterMap id)) else none

/-- The text of a byte string, with U+FFFD for every invalid run. -/
def decodeLossy (bytes : List UInt8) : String :=
  String.ofList ((pieces bytes).map (·.getD '\uFFFD'))

def encode (text : String) : List UInt8 :=
  text.toList.flatMap String.utf8EncodeChar

end DebugDashboard.Text.Utf8
