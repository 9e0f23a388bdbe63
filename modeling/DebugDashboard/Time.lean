import DebugDashboard.Text.Cut

/-!
# Times

Times are milliseconds since the start of 1970 in UTC, and are shown as the time of the day.
-/

namespace DebugDashboard.Time

/-- The milliseconds of a day. -/
def dayMillis : Int := 86400000

/-- The first and the last millisecond of the calendar. -/
def earliest : Int := -8334601228800000

/-- The last millisecond of the calendar. -/
def latest : Int := 8210266876799999

/-- The milliseconds since the start of the day. -/
def ofDay (millis : Int) : Nat := (millis % dayMillis).toNat

/-- Hours, minutes and seconds of the day. -/
def clock (millis : Int) : String :=
  let s := ofDay millis / 1000
  Text.padNat '0' 2 (s / 3600) ++ ":" ++ Text.padNat '0' 2 (s / 60 % 60) ++ ":" ++
    Text.padNat '0' 2 (s % 60)

/-- The time of the day to the millisecond. -/
def fineClock (millis : Int) : String :=
  clock millis ++ "." ++ Text.padNat '0' 3 (ofDay millis % 1000)

end DebugDashboard.Time
