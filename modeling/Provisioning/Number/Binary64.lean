/-!
# Binary floating-point numbers

Numbers with 53 significant bits and exponents down to `-1074`, kept as the exact dyadic rational
that they are. Every operation computes the exact result and rounds it once, to the nearest
representable number and to an even significand at a tie.
-/

set_option autoImplicit false

namespace Provisioning

/-- A power of two. -/
def pow2 (n : Nat) : Nat := Nat.pow 2 n

/-- A power of ten. -/
def pow10 (n : Nat) : Nat := Nat.pow 10 n

/-- A floating-point number: an exact finite value, the zero that keeps a minus sign, an infinity,
or the result of an operation that has none. -/
inductive Binary64
  | finite (value : Dyadic)
  | negativeZero
  | infinite (negative : Bool)
  | undefined
  deriving DecidableEq

namespace Binary64

/-- The number of significant bits. -/
def precision : Nat := 53

/-- The exponent of the last bit of the smallest numbers. -/
def minExponent : Int := -1074

/-- The quotient of two numbers, rounded to the nearest integer and to an even one at a tie. -/
def roundDiv (num den : Nat) : Nat :=
  let q := num / den
  let r := num % den
  if den < 2 * r || (2 * r == den && q % 2 == 1) then q + 1 else q

/-- `num / den` scaled by `2 ^ (-exponent)`, as a quotient of two numbers. -/
def scaleDown (num den : Nat) (exponent : Int) : Nat × Nat :=
  if exponent < 0 then (num * pow2 (-exponent).toNat, den) else (num, den * pow2 exponent.toNat)

/-- The exponent of the last bit that a ratio is rounded to. -/
def lastBit (num den : Nat) : Int :=
  let e : Int := (Nat.log2 num : Int) - Nat.log2 den - (precision - 1)
  let (n, d) := scaleDown num den e
  max minExponent (if n < d * pow2 (precision - 1) then e - 1 else e)

/-- Zero with a sign. -/
def zero (negative : Bool) : Binary64 := if negative then .negativeZero else .finite 0

/-- The number nearest to the ratio `num / den`. -/
def ofRatio (negative : Bool) (num den : Nat) : Binary64 :=
  if num = 0 then zero negative
  else
    let e := lastBit num den
    let (n, d) := scaleDown num den e
    let q := roundDiv n d
    if q = 0 then zero negative
    else if 1024 < (Nat.log2 q : Int) + 1 + e then .infinite negative
    else .finite (Dyadic.ofIntWithPrec (if negative then -q else q) (-e))

/-- The number nearest to an exact dyadic value. -/
def round : Dyadic → Binary64
  | .zero => .finite 0
  | .ofOdd n k _ =>
    if k < 0 then ofRatio (n < 0) (n.natAbs * pow2 (-k).toNat) 1
    else ofRatio (n < 0) n.natAbs (pow2 k.toNat)

/-- The number nearest to an integer. -/
def ofInt (n : Int) : Binary64 := ofRatio (n < 0) n.natAbs 1

/-- The exact value of a finite number. -/
def value? : Binary64 → Option Dyadic
  | .finite x => some x
  | .negativeZero => some 0
  | .infinite _ => none
  | .undefined => none

/-- The number with the other sign. -/
def neg : Binary64 → Binary64
  | .finite x => if x = 0 then .negativeZero else .finite (-x)
  | .negativeZero => .finite 0
  | .infinite negative => .infinite (!negative)
  | .undefined => .undefined

/-- The difference of two numbers; infinities of one sign have none. -/
def sub : Binary64 → Binary64 → Binary64
  | .undefined, _ => .undefined
  | _, .undefined => .undefined
  | .infinite s, .infinite t => if s = t then .undefined else .infinite s
  | .infinite s, _ => .infinite s
  | _, .infinite t => .infinite (!t)
  | .negativeZero, .finite x => if x = 0 then .negativeZero else round (-x)
  | .negativeZero, .negativeZero => .finite 0
  | .finite x, .negativeZero => .finite x
  | .finite x, .finite y => round (x - y)

/-- The integer part of an exact value, cut off toward zero. -/
def truncateValue : Dyadic → Int
  | .zero => 0
  | .ofOdd n k _ => if k < 0 then n * pow2 (-k).toNat else n.tdiv (pow2 k.toNat)

/-- The integer part of a finite number, cut off toward zero. -/
def truncate? (x : Binary64) : Option Int := x.value?.map truncateValue

/-- The integer that an exact value is, if it is one. -/
def integerValue? : Dyadic → Option Int
  | .zero => some 0
  | .ofOdd n k _ => if k ≤ 0 then some (n * pow2 (-k).toNat) else none

end Binary64

end Provisioning
