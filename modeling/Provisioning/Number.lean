import Provisioning.Number.Shortest
import Provisioning.Number.Reading

/-!
# Numbers

Documents and clocks hold exact integers and floating-point numbers. The two kinds compare by
value; a difference with a floating-point operand is a floating-point number.
-/

set_option autoImplicit false

namespace Provisioning

/-- An integer or a floating-point number. -/
inductive Number
  | int (n : Int)
  | float (x : Binary64)
  deriving DecidableEq

instance : Inhabited Number := ⟨.int 0⟩

/-- A value on the number line with its two ends. -/
inductive Extent
  | below
  | exact (x : Dyadic)
  | above
  deriving DecidableEq

/-- The strict order of the number line. -/
def Extent.lt : Extent → Extent → Bool
  | .below, .below => false
  | .below, _ => true
  | .exact _, .below => false
  | .exact x, .exact y => x < y
  | .exact _, .above => true
  | .above, _ => false

namespace Number

/-- Where a number lies on the number line; what is undefined lies nowhere. -/
def extent? : Number → Option Extent
  | .int n => some (.exact (Dyadic.ofInt n))
  | .float (.finite x) => some (.exact x)
  | .float .negativeZero => some (.exact 0)
  | .float (.infinite negative) => some (if negative then .below else .above)
  | .float .undefined => none

/-- The strict order by value, between numbers of either kind. -/
def lt (a b : Number) : Bool :=
  match a.extent?, b.extent? with
  | some x, some y => x.lt y
  | _, _ => false

/-- The order by value. What is undefined is not even less than or equal to itself. -/
def le (a b : Number) : Bool :=
  match a.extent?, b.extent? with
  | some x, some y => !y.lt x
  | _, _ => false

/-- A number as a floating-point number; an integer beyond the largest one has none. -/
def toBinary64? : Number → Option Binary64
  | .int n =>
    match Binary64.ofInt n with
    | .infinite _ => none
    | x => some x
  | .float x => some x

/-- The difference of two numbers: exact between integers, else rounded; there is none if an integer
is too large for a floating-point number. -/
def sub? : Number → Number → Option Number
  | .int a, .int b => some (.int (a - b))
  | a, b => do return .float ((← a.toBinary64?).sub (← b.toBinary64?))

/-- The number with the other sign. -/
def neg : Number → Number
  | .int n => .int (-n)
  | .float x => .float x.neg

/-- The integer part of a finite number, cut off toward zero. -/
def truncate? : Number → Option Int
  | .int n => some n
  | .float x => x.truncate?

/-- The integer part of a finite number, rounded down. -/
def floor? (n : Number) : Option Int :=
  n.truncate?.map fun t => if n.lt (.int t) then t - 1 else t

/-- The form that numbers of the same value share: an integer, if the value is one. -/
def canonical : Number → Number
  | .int n => .int n
  | .float .negativeZero => .int 0
  | .float (.infinite negative) => .float (.infinite negative)
  | .float .undefined => .float .undefined
  | .float (.finite x) =>
    match Binary64.integerValue? x with
    | some n => .int n
    | none => .float (.finite x)

/-- Whether a number is zero, of either sign. -/
def isZero (n : Number) : Bool := n.canonical = .int 0

/-- The text of a number: an integer without a point, a floating-point number with a point or an
exponent. -/
def text : Number → String
  | .int n => toString n
  | .float x => x.text

end Number

end Provisioning
