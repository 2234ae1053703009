import Provisioning.Calendar
import Provisioning.Number.Reading
import Provisioning.Text.Search

/-!
# Dates with a time of day

A date is what a clock shows, to the microsecond, with the offset of that clock from universal time
if it is known. Dates with an offset mean the same if they are the same instant; a date without one
is only the same as itself.

Dates are written as `2024-05-01T12:00:00+02:00`. Inside of lists and mappings they are written by
their parts, of which seconds and microseconds are left out when they are zero.
-/

set_option autoImplicit false

namespace Provisioning

/-- A date with a time of day, in microseconds since the start of 1970 on the clock that shows it,
and the offset of that clock in microseconds. -/
structure DateTime where
  clock : Int
  offset : Option Int := none
  deriving DecidableEq, Repr, Inhabited

namespace DateTime

/-- The microseconds of a second. -/
def second : Int := 1000000

/-- The microseconds of a day. -/
def dayLength : Int := 86400 * second

/-- The form that dates of the same meaning share: an instant on the clock of universal time. -/
def canonical (d : DateTime) : DateTime :=
  match d.offset with
  | some offset => { clock := d.clock - offset, offset := some 0 }
  | none => d

/-- The day that the clock shows. -/
def day (d : DateTime) : Day := Day.ofNumber (d.clock / dayLength)

/-- The microseconds since the start of the day. -/
def timeOfDay (d : DateTime) : Nat := (d.clock % dayLength).toNat

/-! ## Writing -/

/-- Hours, minutes and seconds of a number of microseconds. -/
def hourText (t : Nat) : String :=
  zeroPadded 2 (t / 3600000000) ++ ":" ++ zeroPadded 2 (t / 60000000 % 60) ++ ":"
    ++ zeroPadded 2 (t / 1000000 % 60)

/-- The fraction of a second, in microseconds; nothing for a whole second. -/
def fractionText (t : Nat) : String :=
  if t % 1000000 = 0 then "" else "." ++ zeroPadded 6 (t % 1000000)

/-- An offset: hours and minutes, and seconds if there are any. -/
def offsetText (offset : Int) : String :=
  let t := offset.natAbs
  let minutes := zeroPadded 2 (t / 3600000000) ++ ":" ++ zeroPadded 2 (t / 60000000 % 60)
  (if offset < 0 then "-" else "+")
    ++ (if t % 60000000 = 0 then minutes else hourText t ++ fractionText t)

/-- The text of a date, with a separator between the day and the time. -/
def text (separator : Char) (d : DateTime) : String :=
  zeroPaddedInt 4 d.day.year ++ "-" ++ zeroPadded 2 d.day.month ++ "-" ++ zeroPadded 2 d.day.day
    ++ String.ofList [separator] ++ hourText d.timeOfDay ++ fractionText d.timeOfDay
    ++ (d.offset.map offsetText).getD ""

/-- The text of a date in a standard form. -/
def iso (d : DateTime) : String := d.text 'T'

/-- A duration by its parts that are not zero: days, seconds of the day, microseconds. -/
def durationParts (t : Int) : String :=
  let parts : List (String × Int) :=
    [("days", t / dayLength), ("seconds", t % dayLength / second), ("microseconds", t % second)]
  let shown := (parts.filter (·.2 ≠ 0)).map fun (name, n) => name ++ "=" ++ toString n
  "datetime.timedelta(" ++ (if shown.isEmpty then "0" else String.intercalate ", " shown) ++ ")"

/-- A zone by its offset. -/
def zoneParts (offset : Int) : String :=
  if offset = 0 then "datetime.timezone.utc"
  else "datetime.timezone(" ++ durationParts offset ++ ")"

/-- A date by its parts: the day, hour and minute, then seconds and microseconds up to the last of
them that is not zero, then the zone. -/
def parts (d : DateTime) : String :=
  let t := d.timeOfDay
  let smallest :=
    if t % 1000000 ≠ 0 then [t / 1000000 % 60, t % 1000000]
    else if t / 1000000 % 60 ≠ 0 then [t / 1000000 % 60]
    else []
  let numbers := [d.day.month, d.day.day, t / 3600000000, t / 60000000 % 60] ++ smallest
  let zone := (d.offset.map fun offset => ", tzinfo=" ++ zoneParts offset).getD ""
  "datetime.datetime(" ++ String.intercalate ", " (toString d.day.year :: numbers.map toString)
    ++ zone ++ ")"

/-! ## Reading -/

/-- A number of exactly `width` digits. -/
def number? (width : Nat) (cs : List Char) : Option Nat :=
  if cs.length = width ∧ cs.all Char.isDigit then some (ofDigitValues (cs.map asciiDigit)) else none

/-- A number of `width` digits that is less than a bound. -/
def numberBelow? (bound : Nat) (cs : List Char) : Option Nat := do
  let n ← number? 2 cs
  if n < bound then some n else none

/-- Seconds with a fraction, in microseconds; digits behind the sixth are dropped. -/
def seconds? (cs : List Char) : Option Nat := do
  let whole ← numberBelow? 60 (cs.take 2)
  match cs.drop 2 with
  | [] => return whole * 1000000
  | point :: ds =>
    if (point = '.' ∨ point = ',') ∧ ds ≠ [] ∧ ds.all Char.isDigit then
      let six := (ds ++ ['0', '0', '0', '0', '0']).take 6
      return whole * 1000000 + ofDigitValues (six.map asciiDigit)
    else none

/-- A time of day, in microseconds: hours, then minutes and seconds, which may be left out. -/
def time? (cs : List Char) : Option Nat :=
  match Text.splitAtChar ':' cs with
  | [h] => do return 3600000000 * (← numberBelow? 24 h)
  | [h, m] => do return 3600000000 * (← numberBelow? 24 h) + 60000000 * (← numberBelow? 60 m)
  | [h, m, s] => do
    return 3600000000 * (← numberBelow? 24 h) + 60000000 * (← numberBelow? 60 m) + (← seconds? s)
  | _ => none

/-- The offset behind a time: none, universal time, or a time of day with a sign. Less than a second
is no offset. -/
def offset? : List Char → Option (Option Int)
  | [] => some none
  | ['Z'] => some (some 0)
  | sign :: rest => do
    let t : Int := ← time? rest
    return some (if t < second then 0 else if sign = '-' then -t else t)

/-- A day as year, month and day. -/
def day? (cs : List Char) : Option Day :=
  match Text.splitAtChar '-' cs with
  | [y, m, d] => do
    let day : Day := { year := ← number? 4 y, month := ← number? 2 m, day := ← number? 2 d }
    if day.isValid ∧ 1 ≤ day.year then some day else none
  | _ => none

/-- The date of a text. -/
def ofIso? (s : String) : Option DateTime := do
  let day ← day? (s.toList.take 10)
  let start := day.number * dayLength
  match s.toList.drop 10 with
  | [] => return { clock := start }
  | _ :: rest =>
    let isTime := fun (c : Char) => c ≠ '+' ∧ c ≠ '-' ∧ c ≠ 'Z'
    let t ← time? (rest.takeWhile isTime)
    return { clock := start + t, offset := ← offset? (rest.dropWhile isTime) }

end DateTime

end Provisioning
