import Provisioning.Number.Binary64

/-!
# The shortest decimal form of a floating-point number

A floating-point number is written with the fewest decimal digits that read back as the same
number, and with the nearest such digits. The digits are searched for on the decimal grids of
1, 2, … 17 digits: if a point of a grid lies in the interval of values that round to the number,
so does one of the two grid points next to the number.
-/

set_option autoImplicit false

namespace Provisioning

namespace Binary64

/-- A positive binary number `significand * 2 ^ exponent`, with the significand in full precision
or the exponent as small as it can be. -/
structure Scaled where
  significand : Nat
  exponent : Int
  deriving DecidableEq, Repr

/-- A positive ratio that is representable, in full precision. -/
def Scaled.ofRatio (num den : Nat) : Scaled :=
  let e := lastBit num den
  let (n, d) := scaleDown num den e
  ⟨n / d, e⟩

/-- The values that round to a number lie between two bounds, given in quarters of a unit of the
last bit; the lower gap is half as wide below a power of two. -/
structure Interval where
  low : Nat
  high : Nat
  closed : Bool

/-- The interval of values that round to a number. -/
def Scaled.interval (x : Scaled) : Interval :=
  let atPower := x.significand = pow2 (precision - 1) ∧ minExponent < x.exponent
  { low := 4 * x.significand - (if atPower then 1 else 2)
    high := 4 * x.significand + 2
    closed := x.significand % 2 == 0 }

/-- The number of decimal digits of a positive number. -/
def digitCount (n : Nat) : Nat := (Nat.toDigits 10 n).length

/-- The exponent of the first decimal digit of `num / den`. -/
def leadingExponent (num den : Nat) : Int :=
  let k : Int := (digitCount num : Int) - digitCount den
  let reached := if k < 0 then den ≤ num * pow10 (-k).toNat else den * pow10 k.toNat ≤ num
  if reached then k else k - 1

/-- Decimal digits with the exponent of the first one: `3, 0, 5` with exponent 1 is `30.5`. -/
structure Digits where
  digits : Nat
  exponent : Int
  deriving DecidableEq, Repr

/-- The nearest point to `num / den` on the grid of `count` digits, where `leading` is the exponent
of the first digit, if it lies in the interval; all in quarters of a unit of the last bit. -/
def gridPoint? (i : Interval) (num den : Nat) (leading : Int) (count : Nat) : Option Digits :=
  let gridExponent : Int := leading - (count - 1)
  -- the number and the bounds, in units of the grid
  let scale := fun (n : Nat) =>
    if gridExponent < 0 then (n * pow10 (-gridExponent).toNat, den)
    else (n, den * pow10 gridExponent.toNat)
  let (n, d) := scale num
  let inside := fun (q : Nat) =>
    let (low, _) := scale i.low
    let (high, _) := scale i.high
    if i.closed then low * 1 ≤ q * d ∧ q * d ≤ high else low < q * d ∧ q * d < high
  let below := n / d
  let above := below + 1
  let nearer := if roundDiv n d = below then [below, above] else [above, below]
  (nearer.find? fun q => q ≠ 0 ∧ inside q).map fun q =>
    { digits := q, exponent := gridExponent + (digitCount q - 1) }

/-- The shortest digits of a positive number. -/
def Scaled.shortest (x : Scaled) : Digits :=
  let i := x.interval
  -- `value = num / den`, and the interval in the same unit of a quarter of the last bit
  let unit : Int := x.exponent - 2
  let toRatio := fun (n : Nat) =>
    if unit < 0 then (n, pow2 (-unit).toNat) else (n * pow2 unit.toNat, 1)
  let (num, den) := toRatio (4 * x.significand)
  let interval : Interval := ⟨(toRatio i.low).1, (toRatio i.high).1, i.closed⟩
  let leading := leadingExponent num den
  let counts := (List.range 17).map (· + 1)
  (counts.findSome? (gridPoint? interval num den leading)).getD
    { digits := num / den, exponent := leading }

/-- Where the decimal point goes: numbers from `10 ^ -4` up to but not including `10 ^ 16` are
written without an exponent. -/
def isPositional (exponent : Int) : Bool := -4 ≤ exponent && exponent < 16

/-- Digits without the zeros at the end. -/
def dropTrailingZeros (ds : List Char) : List Char := (ds.reverse.dropWhile (· == '0')).reverse

/-- Digits around a decimal point: `30.5`, `0.001`, `100.0`. -/
def positional (ds : List Char) (exponent : Int) : List Char :=
  if exponent < 0 then
    ['0', '.'] ++ List.replicate (-exponent - 1).toNat '0' ++ ds
  else
    let wholes := exponent.toNat + 1
    let whole := ds.take wholes ++ List.replicate (wholes - ds.length) '0'
    let fraction := ds.drop wholes
    whole ++ '.' :: (if fraction.isEmpty then ['0'] else fraction)

/-- Digits with an exponent of at least two digits: `1e+16`, `1.5e-07`. -/
def exponential (ds : List Char) (exponent : Int) : List Char :=
  let mantissa := match ds with
    | [] => []
    | [d] => [d]
    | d :: rest => d :: '.' :: rest
  let digits := Nat.toDigits 10 exponent.natAbs
  let padded := if digits.length < 2 then '0' :: digits else digits
  mantissa ++ 'e' :: (if exponent < 0 then '-' else '+') :: padded

/-- The text of positive digits. -/
def Digits.text (d : Digits) : List Char :=
  let ds := dropTrailingZeros (Nat.toDigits 10 d.digits)
  if isPositional d.exponent then positional ds d.exponent else exponential ds d.exponent

/-- The text of a positive ratio. -/
def textOfRatio (num den : Nat) : List Char := (Scaled.ofRatio num den).shortest.text

/-- The text of a number: the shortest digits that read back, `inf` for an infinity, `nan` for what
is undefined. -/
def text : Binary64 → String
  | .negativeZero => "-0.0"
  | .infinite negative => if negative then "-inf" else "inf"
  | .undefined => "nan"
  | .finite .zero => "0.0"
  | .finite (.ofOdd n k _) =>
    let magnitude :=
      if k < 0 then textOfRatio (n.natAbs * pow2 (-k).toNat) 1
      else textOfRatio n.natAbs (pow2 k.toNat)
    String.ofList (if n < 0 then '-' :: magnitude else magnitude)

end Binary64

end Provisioning
