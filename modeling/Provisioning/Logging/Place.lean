import Provisioning.Number.Decimal
import Provisioning.Text.Units
import Provisioning.Value.Access

/-!
# Places for arguments

A place in a message says in which form an argument is written there: as a text, an integer in some
base, a number with a point, or a character; and how it is filled up to a width.
-/

set_option autoImplicit false

namespace Provisioning.Logging

/-- A width or a precision: a number in the message, or an argument of its own. -/
inductive Size
  | given (n : Nat)
  | argument
  deriving DecidableEq, Repr

/-- A place of a message as it is written. -/
structure Place where
  /-- The name of the value, if the place names one. -/
  key : Option String := none
  /-- Filled up on the right. -/
  left : Bool := false
  /-- A plus sign before a number that is not negative. -/
  plus : Bool := false
  /-- A blank in the place of that sign. -/
  blank : Bool := false
  /-- The base before an integer; the point of a number stays. -/
  marked : Bool := false
  /-- Filled up with zeros behind the sign of a number. -/
  zeros : Bool := false
  width : Option Size := none
  precision : Option Size := none
  deriving DecidableEq, Repr

/-- A place with its sizes known. -/
structure Layout where
  left : Bool
  plus : Bool
  blank : Bool
  marked : Bool
  zeros : Bool
  width : Nat
  precision : Option Nat
  deriving DecidableEq, Repr

/-- An argument in a form: its sign, what marks its base, and the rest. -/
structure Shown where
  isNumber : Bool
  sign : List Char := []
  mark : List Char := []
  body : List Char

namespace Layout

/-- The sign of a number that is shown. -/
def signOf (l : Layout) (s : Shown) : List Char :=
  if !s.isNumber then []
  else if !s.sign.isEmpty then s.sign
  else if l.plus then ['+']
  else if l.blank then [' ']
  else []

/-- What is shown, filled up to the width. -/
def fill (l : Layout) (s : Shown) : List Char :=
  let sign := l.signOf s
  let missing := l.width - (sign.length + s.mark.length + s.body.length)
  if s.isNumber && l.zeros then
    if l.left then sign ++ s.mark ++ s.body ++ List.replicate missing ' '
    else sign ++ s.mark ++ List.replicate missing '0' ++ s.body
  else if l.left then sign ++ s.mark ++ s.body ++ List.replicate missing ' '
  else List.replicate missing ' ' ++ sign ++ s.mark ++ s.body

end Layout

/-! ## Forms -/

/-- A text cut to the precision. -/
def shownText (l : Layout) (cs : List Char) : Shown :=
  { isNumber := false, body := (l.precision.map cs.take).getD cs }

/-- The sign of a text of a number, and the rest. -/
def splitSign : List Char → List Char × List Char
  | '-' :: rest => (['-'], rest)
  | cs => ([], cs)

/-- An integer in a base, with at least as many digits as the precision says. -/
def shownInteger (l : Layout) (form : Char) (n : Int) : Shown :=
  let base := if form = 'o' then 8 else if form = 'x' || form = 'X' then 16 else 10
  let digits := Nat.toDigits base n.natAbs
  let padded := List.replicate (l.precision.getD 0 - digits.length) '0' ++ digits
  let mark := if l.marked && base != 10 then ['0', form] else []
  { isNumber := true, sign := if n < 0 then ['-'] else [], mark
    body := if form = 'X' then padded.map Char.toUpper else padded }

/-- The form of numbers with a point that a letter stands for. -/
def decimalForm? (form : Char) : Option DecimalForm :=
  match form.toLower with
  | 'e' => some .exponential
  | 'f' => some .fixed
  | 'g' => some .general
  | _ => none

/-- A number with a point. -/
def shownDecimal (l : Layout) (form : Char) (kind : DecimalForm) (x : Binary64) : Shown :=
  let style : DecimalStyle :=
    { form := kind, precision := l.precision.getD 6, complete := l.marked }
  let (sign, body) := splitSign (style.text x)
  { isNumber := true, sign, body := if form.isUpper then body.map Char.toUpper else body }

/-- The text of a document as part of another one in ASCII. -/
def asciiInner (v : Value) : List Char :=
  v.inner.toList.flatMap fun c => if c.toNat < 0x80 then [c] else Text.escapeCode (Text.codeOf c)

/-- The character with a code. -/
def charOfCode (n : Int) : Except Fault Char :=
  if n < 0 ∨ 0x110000 ≤ n then .error (.ofClass "OverflowError" "%c arg not in range(0x110000)")
  else
    let code := n.toNat
    .ok (if 0xD800 ≤ code ∧ code < 0xE000 then Text.loneSurrogate code else Char.ofNat code)

/-- An argument as a single character. -/
def characterOf (v : Value) : Except Fault Char :=
  match v with
  | .number (.int n) => charOfCode n
  | .bool b => charOfCode (if b then 1 else 0)
  | .text s =>
    match s.toList with
    | [c] => .ok c
    | _ => .error (.wrongType "%c requires int or char")
  | _ => .error (.wrongType "%c requires int or char")

/-- An argument as an integer, for a form that takes other numbers as well. -/
def integerOf (form : Char) (v : Value) : Except Fault Int :=
  match v.number? with
  | some n => n.whole
  | none =>
    .error (.wrongType ("%" ++ String.ofList [form] ++ " format: a real number is required, not "
      ++ v.kind))

/-- An argument as an integer, for a form that takes no other numbers. -/
def exactInteger (form : Char) (v : Value) : Except Fault Int :=
  match v.number? with
  | some (.int n) => .ok n
  | _ =>
    .error (.wrongType ("%" ++ String.ofList [form] ++ " format: an integer is required, not "
      ++ v.kind))

/-- An argument as a number with a point. -/
def decimalOf (v : Value) : Except Fault Binary64 :=
  match v.number? with
  | some n =>
    match n.toBinary64? with
    | some x => .ok x
    | none => .error .tooLarge
  | none => .error (.wrongType ("must be real number, not " ++ v.kind))

/-- An argument in the form of a letter; `none` for a letter that stands for no form. -/
def shown? (l : Layout) (form : Char) (v : Value) : Option (Except Fault Shown) :=
  if form = 's' then some (.ok (shownText l v.display.toList))
  else if form = 'r' then some (.ok (shownText l v.inner.toList))
  else if form = 'a' then some (.ok (shownText l (asciiInner v)))
  else if form = 'd' || form = 'i' || form = 'u' then
    some ((integerOf form v).map (shownInteger l form))
  else if form = 'o' || form = 'x' || form = 'X' then
    some ((exactInteger form v).map (shownInteger l form))
  else if form = 'c' then
    some ((characterOf v).map fun c => { isNumber := false, body := [c] })
  else
    (decimalForm? form).map fun kind => (decimalOf v).map (shownDecimal l form kind)

/-- An argument in the form of a letter, filled up. -/
def Layout.write? (l : Layout) (form : Char) (v : Value) : Option (Except Fault (List Char)) :=
  (shown? l form v).map (·.map l.fill)

end Provisioning.Logging
