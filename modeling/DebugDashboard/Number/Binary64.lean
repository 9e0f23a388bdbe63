import DebugDashboard.Number.Word

/-!
# Finite doubles

A finite number of the IEEE 754 format binary64 as sign, significand and exponent. Every operation
computes the exact result as a quotient of natural numbers and rounds it once, to the nearest
double, a tie to the even significand.
-/

namespace DebugDashboard

/-- The finite double `±significand · 2 ^ exponent`. In the forms that rounding yields the
significand has 53 bits, or fewer at the least exponent. -/
structure Binary64 where
  negative : Bool
  significand : Nat
  exponent : Int
  deriving Repr, DecidableEq

namespace Binary64

/-- The least exponent, that of the subnormal numbers. -/
def minExponent : Int := -1074

/-- The greatest exponent of a finite double. -/
def maxExponent : Int := 971

def zero (negative : Bool) : Binary64 := ⟨negative, 0, minExponent⟩

/-- The natural number nearest to `num / den`, of two the even one. -/
def roundQuotient (num den : Nat) : Nat :=
  let q := num / den
  let twice := 2 * (num % den)
  if twice < den then q
  else if den < twice then q + 1
  else if q % 2 = 0 then q else q + 1

/-- `num / den` scaled by `2 ^ (-exponent)`, as a numerator and a denominator. -/
def scale (num den : Nat) (exponent : Int) : Nat × Nat :=
  if 0 ≤ exponent then (num, den * Nat.pow 2 exponent.toNat)
  else (num * Nat.pow 2 (-exponent).toNat, den)

/-- The greatest `k` with `2 ^ k ≤ num / den`, for positive numbers. -/
def floorLog2 (num den : Nat) : Int :=
  let k : Int := (Nat.log2 num : Int) - (Nat.log2 den : Int)
  let (n, d) := scale num den k
  if n < d then k - 1 else k

/-- The double nearest to `num / den`; none if it lies beyond the greatest finite double. -/
def ofQuotient? (negative : Bool) (num den : Nat) : Option Binary64 :=
  if num = 0 then some (zero negative)
  else
    let e := max minExponent (floorLog2 num den - 52)
    let (n, d) := scale num den e
    let m := roundQuotient n d
    let (m, e) := if m = Nat.pow 2 53 then (Nat.pow 2 52, e + 1) else (m, e)
    if maxExponent < e then none else some ⟨negative, m, e⟩

/-- Whether `digits · 10 ^ power` lies beyond the greatest finite double, rounded to the nearest. It
has a power of ten of 308. -/
def overflows (digits : Nat) (power : Int) : Bool :=
  let places : Int := (Nat.toDigits 10 digits).length + power
  if digits = 0 || places < 309 then false
  else if 309 < places then true
  else if 0 ≤ power then (ofQuotient? false (digits * Nat.pow 10 power.toNat) 1).isNone
  else (ofQuotient? false digits (Nat.pow 10 (-power).toNat)).isNone

def quotient (x : Binary64) : Nat × Nat :=
  if 0 ≤ x.exponent then (x.significand * Nat.pow 2 x.exponent.toNat, 1)
  else (x.significand, Nat.pow 2 (-x.exponent).toNat)

/-- Whether the number is zero, of either sign. -/
def isZero (x : Binary64) : Bool := x.significand == 0

def neg (x : Binary64) : Binary64 := { x with negative := !x.negative }

/-- The double nearest to a natural number below `2 ^ 64`. -/
def ofNat (n : Nat) : Binary64 := (ofQuotient? false n 1).getD (zero false)

/-- The double nearest to an integer of at most 64 bits. -/
def ofInt (i : Int) : Binary64 := if i < 0 then (ofNat i.natAbs).neg else ofNat i.toNat

/-- The product, unless it overflows. -/
def mul? (x y : Binary64) : Option Binary64 :=
  let (a, b) := x.quotient
  let (c, d) := y.quotient
  ofQuotient? (x.negative != y.negative) (a * c) (b * d)

/-- The quotient by a number that is not zero, unless it overflows. -/
def div? (x y : Binary64) : Option Binary64 :=
  let (a, b) := x.quotient
  let (c, d) := y.quotient
  ofQuotient? (x.negative != y.negative) (a * d) (b * c)

/-- The remainder of a magnitude by a positive natural number, which is always a double. -/
def rem (x : Binary64) (n : Nat) : Binary64 :=
  let (a, b) := x.quotient
  (ofQuotient? x.negative (a % (n * b)) b).getD (zero x.negative)

def floorAbs (x : Binary64) : Nat :=
  let (a, b) := x.quotient
  a / b

/-- The integer nearest to zero's side, kept within the signed words of 64 bits. -/
def truncateSigned (x : Binary64) : Int :=
  let n : Int := x.floorAbs
  Word.clampSigned (if x.negative then -n else n)

/-- The natural number that remains of a number that is not below zero, kept within the words of
64 bits; none for numbers below zero. -/
def truncateUnsigned? (x : Binary64) : Option Nat :=
  if x.negative && !x.isZero then none else some (min (Word.limit - 1) x.floorAbs)

def absLt (x : Binary64) (n : Nat) : Bool :=
  let (a, b) := x.quotient
  a < n * b

/-- The digits of the magnitude rounded to one decimal place, a tie to the even digit: the whole
part and the tenths. -/
def tenths (x : Binary64) : Nat × Nat :=
  let (a, b) := x.quotient
  let t := roundQuotient (10 * a) b
  (t / 10, t % 10)

end Binary64

end DebugDashboard
