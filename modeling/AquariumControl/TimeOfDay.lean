/-!
# Time of day

The wall clock as clock rules see it, and how it is taken from a count of seconds since
1970-01-01 00:00 UTC.
-/

set_option autoImplicit false

namespace AquariumControl

/-- Hour, minute and day of the week, Monday being day 0. -/
structure TimeOfDay where
  hour : Nat
  minute : Nat
  weekday : Nat
deriving DecidableEq

namespace TimeOfDay

/-- Minutes since midnight. -/
def minuteOfDay (t : TimeOfDay) : Nat :=
  t.hour * 60 + t.minute

/-- 2020-01-01 00:00 UTC.  A clock that shows an earlier time has never been set. -/
def earliestTrusted : Int := 1577836800

/-- The time of day at a number of seconds since 1970-01-01, a Thursday; `none` while the clock
is not set. -/
def ofUnix (seconds : Int) : Option TimeOfDay :=
  if seconds < earliestTrusted then
    none
  else
    let days := seconds.fdiv 86400
    let rest := (seconds.fmod 86400).toNat
    some ⟨rest / 3600, rest % 3600 / 60, ((days + 3).fmod 7).toNat⟩

end TimeOfDay

end AquariumControl
