/-!
# Calendar dates

Days of the Gregorian calendar and their numbers, counted from the first of January 1970, and
numbers of a fixed width as dates are written with.
-/

set_option autoImplicit false

namespace Provisioning

/-- A day of the Gregorian calendar. -/
structure Day where
  year : Int
  month : Nat
  day : Nat
  deriving DecidableEq, Repr

namespace Day

/-- The day that lies a number of days after the first of January 1970. Years are counted from
March, so that the leap day is the last day of its year, and in eras of 400 years. -/
def ofNumber (days : Int) : Day :=
  let shifted := days + 719468
  let era := shifted / 146097
  let dayOfEra := (shifted % 146097).toNat
  let yearOfEra := (dayOfEra - dayOfEra / 1460 + dayOfEra / 36524 - dayOfEra / 146096) / 365
  let dayOfYear := dayOfEra - (365 * yearOfEra + yearOfEra / 4 - yearOfEra / 100)
  let monthFromMarch := (5 * dayOfYear + 2) / 153
  let day := dayOfYear - (153 * monthFromMarch + 2) / 5 + 1
  let month := if monthFromMarch < 10 then monthFromMarch + 3 else monthFromMarch - 9
  let year := era * 400 + yearOfEra
  { year := if month ≤ 2 then year + 1 else year, month, day }

/-- How many days after the first of January 1970 a day lies. -/
def number (d : Day) : Int :=
  let year := if d.month ≤ 2 then d.year - 1 else d.year
  let yearOfEra := year % 400
  let dayOfYear : Int := (153 * ((d.month + 9) % 12) + 2) / 5 + d.day - 1
  let dayOfEra := 365 * yearOfEra + yearOfEra / 4 - yearOfEra / 100 + dayOfYear
  146097 * (year / 400) + dayOfEra - 719468

/-- Whether there is such a day. -/
def isValid (d : Day) : Bool := ofNumber d.number = d

example : ofNumber 0 = ⟨1970, 1, 1⟩ := by decide
example : ofNumber 19782 = ⟨2024, 2, 29⟩ := by decide
example : number ⟨2024, 2, 29⟩ = 19782 := by decide
example : isValid ⟨2023, 2, 29⟩ = false := by decide

end Day

/-- A number with zeros in front up to a width. -/
def zeroPadded (width : Nat) (n : Nat) : String :=
  let ds := Nat.toDigits 10 n
  String.ofList (List.replicate (width - ds.length) '0' ++ ds)

/-- An integer with zeros in front up to a width, which counts the sign. -/
def zeroPaddedInt (width : Nat) (n : Int) : String :=
  if n < 0 then "-" ++ zeroPadded (width - 1) n.natAbs else zeroPadded width n.natAbs

end Provisioning
