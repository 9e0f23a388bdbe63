import DebugDashboard.Number.Shortest

/-!
# Written doubles

How the shortest digits of a double are laid out: with a point among them as long as the number
is neither too great nor too small, else with an exponent of ten.
-/

namespace DebugDashboard.Binary64

/-- The choices that a written form makes. -/
structure Layout where
  /-- The least and the greatest power of ten of a leading digit that is written without
  exponent. -/
  least : Int
  greatest : Int
  /-- What stands in front of an exponent that is not negative. -/
  plus : String
  tie : Tie

def zeros (n : Nat) : List Char := List.replicate n '0'

/-- The digits with a point, and with at least one digit on either side of it. -/
def positional (digits : List Char) (exponent : Int) : List Char :=
  if 0 ≤ exponent then digits ++ zeros exponent.toNat ++ ['.', '0']
  else
    let places := (-exponent).toNat
    if places < digits.length then
      digits.take (digits.length - places) ++ '.' :: digits.drop (digits.length - places)
    else ['0', '.'] ++ zeros (places - digits.length) ++ digits

/-- One digit in front of the point, and the power of ten. -/
def scientific (plus : String) (digits : List Char) (power : Int) : List Char :=
  let fraction := digits.drop 1
  digits.take 1 ++ (if fraction.isEmpty then [] else '.' :: fraction) ++ 'e' ::
    (if power < 0 then '-' :: Nat.toDigits 10 power.natAbs
      else plus.toList ++ Nat.toDigits 10 power.toNat)

def write (layout : Layout) (x : Binary64) : String :=
  let sign := if x.negative then ['-'] else []
  if x.isZero then String.ofList (sign ++ ['0', '.', '0'])
  else
    let short := x.shortest layout.tie
    let digits := Nat.toDigits 10 short.digits
    let power : Int := short.exponent + digits.length - 1
    String.ofList <| sign ++
      if layout.least ≤ power && power ≤ layout.greatest then positional digits short.exponent
      else scientific layout.plus digits power

end DebugDashboard.Binary64
