import Provisioning.Number.Shortest

/-!
# Decimal forms with a given number of digits

A number with a fixed number of digits behind the point, with an exponent, or in the shorter of the
two forms. The exact value is rounded once, to an even last digit at a tie.
-/

set_option autoImplicit false

namespace Provisioning

/-- A form of decimal numbers. -/
inductive DecimalForm
  | fixed
  | exponential
  | general
  deriving DecidableEq, Repr

/-- How a number is written in a form. -/
structure DecimalStyle where
  form : DecimalForm
  /-- The digits behind the point; in the general form all digits. -/
  precision : Nat := 6
  /-- Whether the point and zeros at the end stay. -/
  complete : Bool := false

namespace DecimalStyle

/-- The last digits of a number, with zeros in front. -/
def paddedDigits (count n : Nat) : List Char :=
  let digits := Nat.toDigits 10 n
  List.replicate (count - digits.length) '0' ++ digits

/-- A whole part and a fraction around a point, which is left out if nothing is behind it. -/
def pointed (style : DecimalStyle) (whole fraction : List Char) : List Char :=
  if fraction.isEmpty && !style.complete then whole else whole ++ '.' :: fraction

/-- A ratio with a number of digits behind the point. -/
def fixedText (style : DecimalStyle) (num den : Nat) : List Char :=
  let scaled := Binary64.roundDiv (num * pow10 style.precision) den
  style.pointed (Nat.toDigits 10 (scaled / pow10 style.precision))
    (if style.precision = 0 then []
      else paddedDigits style.precision (scaled % pow10 style.precision))

/-- The first digits of a ratio, `count` behind the first one, and the exponent of the first. -/
def leadingDigits (count num den : Nat) : Nat × Int :=
  if num = 0 then (0, 0)
  else
    let exponent := Binary64.leadingExponent num den
    let shift : Int := count - exponent
    let scaled :=
      if shift < 0 then Binary64.roundDiv num (den * pow10 (-shift).toNat)
      else Binary64.roundDiv (num * pow10 shift.toNat) den
    if scaled = pow10 (count + 1) then (scaled / 10, exponent + 1) else (scaled, exponent)

/-- An exponent with its sign and at least two digits. -/
def exponentText (exponent : Int) : List Char :=
  'e' :: (if exponent < 0 then '-' else '+') :: paddedDigits 2 exponent.natAbs

/-- A ratio with an exponent. -/
def exponentialText (style : DecimalStyle) (num den : Nat) : List Char :=
  let (digits, exponent) := leadingDigits style.precision num den
  let ds := paddedDigits (style.precision + 1) digits
  style.pointed (ds.take 1) (ds.drop 1) ++ exponentText exponent

/-- A ratio in the shorter form: with an exponent if that is below -4 or not below the number of
digits. -/
def generalText (style : DecimalStyle) (num den : Nat) : List Char :=
  let count := max 1 style.precision
  let (digits, exponent) := leadingDigits (count - 1) num den
  let ds := paddedDigits count digits
  let trimmed := fun (fraction : List Char) =>
    if style.complete then fraction else Binary64.dropTrailingZeros fraction
  if exponent < -4 || (count : Int) ≤ exponent then
    style.pointed (ds.take 1) (trimmed (ds.drop 1)) ++ exponentText exponent
  else if exponent < 0 then
    style.pointed ['0'] (trimmed (List.replicate (-exponent - 1).toNat '0' ++ ds))
  else style.pointed (ds.take (exponent.toNat + 1)) (trimmed (ds.drop (exponent.toNat + 1)))

/-- A ratio in the form of the style. -/
def ratioText (style : DecimalStyle) (num den : Nat) : List Char :=
  match style.form with
  | .fixed => style.fixedText num den
  | .exponential => style.exponentialText num den
  | .general => style.generalText num den

/-- A number in the form of the style. -/
def text (style : DecimalStyle) : Binary64 → List Char
  | .negativeZero => '-' :: style.ratioText 0 1
  | .infinite negative => (if negative then "-inf" else "inf").toList
  | .undefined => "nan".toList
  | .finite .zero => style.ratioText 0 1
  | .finite (.ofOdd n k _) =>
    let magnitude :=
      if k < 0 then style.ratioText (n.natAbs * pow2 (-k).toNat) 1
      else style.ratioText n.natAbs (pow2 k.toNat)
    if n < 0 then '-' :: magnitude else magnitude

end DecimalStyle

end Provisioning
