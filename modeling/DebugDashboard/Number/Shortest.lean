import DebugDashboard.Number.Binary64

/-!
# Shortest decimal digits

The fewest decimal digits that read back as a given double: of the decimals with that many digits
within the numbers that round to the double, the nearest to it. The double itself may lie midway
between two of them, and a tie rule says which one is taken.
-/

namespace DebugDashboard.Binary64

/-- Which of two equally near decimals is taken. -/
inductive Tie where
  /-- The one whose last digit is even. -/
  | even
  /-- The one farther from zero. -/
  | up
  deriving Repr, DecidableEq

/-- The decimal `digits · 10 ^ exponent`. -/
structure Digits where
  digits : Nat
  exponent : Int
  deriving Repr, DecidableEq

def digitCount (n : Nat) : Nat := (Nat.toDigits 10 n).length

/-- The greatest `k` with `10 ^ k ≤ num / den`, for positive numbers. -/
def floorLog10 (num den : Nat) : Int :=
  if den ≤ num then (digitCount (num / den) : Int) - 1
  else -(digitCount ((den - 1) / num) : Int)

/-- The numbers that round to a double, as numerators over one denominator: the double itself, the
ends of the interval, and whether the ends belong to it. -/
structure Interval where
  value : Nat
  low : Nat
  high : Nat
  den : Nat
  closed : Bool

/-- The interval around a magnitude that is not zero. Below a power of two the neighbours are half
as far away. -/
def interval (x : Binary64) : Interval :=
  let (a, b) := x.quotient
  -- a quarter of the distance to the next greater double
  let (c, d) := ({ x with significand := 1 } : Binary64).quotient
  let value := 4 * a * d
  let quarter := c * b
  let below :=
    if x.significand = Nat.pow 2 52 && minExponent < x.exponent then quarter else 2 * quarter
  ⟨value, value - below, value + 2 * quarter, 4 * b * d, x.significand % 2 == 0⟩

/-- Whether `digits · 10 ^ exponent` rounds to the double. -/
def Interval.contains (i : Interval) (c : Digits) : Bool :=
  let (n, d) :=
    if 0 ≤ c.exponent then (c.digits * Nat.pow 10 c.exponent.toNat * i.den, 1)
    else (c.digits * i.den, Nat.pow 10 (-c.exponent).toNat)
  if i.closed then i.low * d ≤ n && n ≤ i.high * d else i.low * d < n && n < i.high * d

/-- The decimal with `count` digits that is nearest to the double, if it rounds to it. -/
def Interval.candidate? (i : Interval) (tie : Tie) (magnitude : Int) (count : Nat) :
    Option Digits :=
  let e : Int := magnitude - count + 1
  let (n, d) :=
    if 0 ≤ e then (i.value, i.den * Nat.pow 10 e.toNat)
    else (i.value * Nat.pow 10 (-e).toNat, i.den)
  let q := n / d
  let twice := 2 * (n % d)
  let below : Digits := ⟨q, e⟩
  let above : Digits := ⟨q + 1, e⟩
  if i.contains below && i.contains above then
    if twice < d then some below
    else if d < twice then some above
    else match tie with
      | .even => some (if q % 2 = 0 then below else above)
      | .up => some above
  else if i.contains below then some below
  else if i.contains above then some above
  else none

/-- A decimal without the zeros at the end of its digits. -/
def Digits.strip : Nat → Digits → Digits
  | 0, c => c
  | fuel + 1, c =>
    if c.digits ≠ 0 && c.digits % 10 = 0 then strip fuel ⟨c.digits / 10, c.exponent + 1⟩ else c

/-- The shortest decimal of a magnitude that is not zero. Seventeen digits always suffice. -/
def shortest (tie : Tie) (x : Binary64) : Digits :=
  let i := x.interval
  let magnitude := floorLog10 i.value i.den
  let found := (List.range 17).findSome? fun k => i.candidate? tie magnitude (k + 1)
  (found.getD ⟨0, 0⟩).strip 18

end DebugDashboard.Binary64
