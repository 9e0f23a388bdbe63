import DebugDashboard.Number.Binary64

/-!
# Durations

A duration in milliseconds is shown in the unit that fits: milliseconds below a second, seconds
with one decimal below a minute, minutes and seconds below an hour, else hours and minutes. The
quotients and the remainder are those of doubles, and the unit is chosen before anything is
rounded to the places shown.
-/

namespace DebugDashboard.Duration

/-- A quotient of a double by a small number, which does not overflow. -/
def divide (x : Binary64) (n : Nat) : Binary64 :=
  (x.div? (Binary64.ofNat n)).getD (Binary64.zero false)

/-- A number of milliseconds below `2 ^ 64` as text. -/
def print (millis : Nat) : String :=
  if millis < 1000 then Nat.repr millis ++ "ms"
  else
    let seconds := divide (Binary64.ofNat millis) 1000
    if seconds.absLt 60 then
      let (whole, tenth) := seconds.tenths
      Nat.repr whole ++ "." ++ Nat.repr tenth ++ "s"
    else
      let minutes := (divide seconds 60).floorAbs
      if minutes < 60 then
        Nat.repr minutes ++ "m " ++ Nat.repr (seconds.rem 60).floorAbs ++ "s"
      else Nat.repr (minutes / 60) ++ "h " ++ Nat.repr (minutes % 60) ++ "m"

end DebugDashboard.Duration
