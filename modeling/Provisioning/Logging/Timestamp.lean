import Provisioning.Calendar
import Provisioning.Value.Access

/-!
# Time stamps

The date and the time of day of a number of seconds since the start of 1970, in the Gregorian
calendar and in UTC. Seconds are kept in 64 bits, and years in 32 bits, counted from 1900.
-/

set_option autoImplicit false

namespace Provisioning.Logging

/-- The least number that does not fit into a number of bits with a sign. -/
def signedBound (bits : Nat) : Int := pow2 (bits - 1)

/-- Whether a number fits into a number of bits with a sign. -/
def fits (bits : Nat) (n : Int) : Bool := -signedBound bits ≤ n && n < signedBound bits

/-- The whole seconds of a time. -/
def wholeSeconds (t : Number) : Except Fault Int :=
  let outside := Fault.ofClass "OverflowError" "timestamp out of range for platform time_t"
  match t with
  | .float .undefined => .error (.badValue "Invalid value NaN (not a number)")
  | t =>
    match t.floor? with
    | some n => if fits 64 n then .ok n else .error outside
    | none => .error outside

/-- The day of a number of seconds. -/
def dayOf (seconds : Int) : Except Fault Day :=
  let day := Day.ofNumber (seconds / 86400)
  if !fits 32 (day.year - 1900) then
    .error (.ofClass "OSError" "[Errno 75] Value too large for defined data type")
  else if !fits 32 day.year then
    .error (.ofClass "OverflowError" "signed integer is greater than maximum")
  else .ok day

/-- The date and time of a number of seconds, as in `2024-02-29T12:00:00`. The year has as many
digits as it needs. -/
def timestamp (t : Number) : Except Fault String := do
  let seconds ← wholeSeconds t
  let day ← dayOf seconds
  let time := (seconds % 86400).toNat
  return toString day.year ++ "-" ++ zeroPadded 2 day.month ++ "-" ++ zeroPadded 2 day.day ++ "T"
    ++ zeroPadded 2 (time / 3600) ++ ":" ++ zeroPadded 2 (time / 60 % 60) ++ ":"
    ++ zeroPadded 2 (time % 60)

end Provisioning.Logging
