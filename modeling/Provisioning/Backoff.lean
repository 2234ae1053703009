import Provisioning.Text.Units
import Provisioning.Value.Access

/-!
# Polling policies

A policy polls at a fixed interval up to a time limit, counted from the first poll. A negative
limit stands for none.
-/

set_option autoImplicit false

namespace Provisioning

/-- A polling policy: the interval and the time limit in seconds. -/
structure Backoff where
  delay : Number := .int 30
  timeout : Number := .int (-1)

namespace Backoff

/-- Why a field of a policy is refused. -/
inductive FieldError
  | notNumeric
  | unreadable
  | notUnicode
  | tooSmall
  deriving DecidableEq, Repr

/-- The name of the error. -/
def FieldError.name : FieldError → String
  | .notNumeric => "float_type"
  | .unreadable => "float_parsing"
  | .notUnicode => "string_unicode"
  | .tooSmall => "greater_than_equal"

/-- A number, a boolean or a numeric text as a floating-point number. An integer that is too large
for one does not count as a number, and a text with a lone surrogate is not even looked at. -/
def readNumber : Value → Except FieldError Binary64
  | .text s =>
    match readFloat? s with
    | some x => .ok x
    | none =>
      .error (if s.any fun c => (Text.surrogate? c).isSome then .notUnicode else .unreadable)
  | v =>
    match v.number?.bind Number.toBinary64? with
    | some x => .ok x
    | none => .error .notNumeric

/-- A field of a policy that has to be at least `least`. -/
def readField (least : Int) (v : Value) : Except FieldError Number := do
  let x ← readNumber v
  if (Number.int least).le (.float x) then return .float x else .error .tooSmall

/-- A field of a policy that may be left out. -/
def readOptional (fallback : Number) (least : Int) : Option Value → Except FieldError Number
  | none => .ok fallback
  | some v => readField least v

/-- A policy from the fields that are given; the errors of all fields are reported. -/
def ofFields (delay timeout : Option Value) : Except (List (String × FieldError)) Backoff :=
  match readOptional (.int 30) 0 delay, readOptional (.int (-1)) (-1) timeout with
  | .ok delay, .ok timeout => .ok { delay, timeout }
  | .error e, .ok _ => .error [("delay", e)]
  | .ok _, .error e => .error [("timeout", e)]
  | .error e, .error f => .error [("delay", e), ("timeout", f)]

/-- The fault of times that are no numbers. -/
def noTimes (startedAt now : Value) : Fault :=
  .wrongType ("unsupported operand type(s) for -: '" ++ now.kind ++ "' and '" ++ startedAt.kind
    ++ "'")

/-- The time from the start to now, never negative; it is a fault if the two times cannot be
subtracted from each other. -/
def elapsed (startedAt now : Value) : Except Fault Number :=
  match startedAt.number?, now.number? with
  | some start, some now =>
    match now.sub? start with
    | some d => .ok (if d.lt (.int 0) then .int 0 else d)
    | none => .error .tooLarge
  | _, _ => .error (noTimes startedAt now)

/-- Whether the time limit is over; nothing is over that has not started, for which the start is
null. -/
def isExpired (b : Backoff) (startedAt now : Value) : Except Fault Bool :=
  if startedAt.isNull || b.timeout.lt (.int 0) then .ok false
  else return b.timeout.lt (← elapsed startedAt now)

end Backoff

end Provisioning
