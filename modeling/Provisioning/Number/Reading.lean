import Provisioning.Number.Binary64
import Provisioning.Text.Blank
import Provisioning.Text.DecimalDigit

/-!
# Numbers from text

Integers may have blanks around them, a sign, digits of any script and single underscores between
digits. Floating-point numbers have a fraction, an exponent, both or neither.
-/

set_option autoImplicit false

namespace Provisioning

/-- The most digits that an integer may have. -/
def maxIntegerDigits : Nat := 4300

/-- A sign and what follows it: whether it is a minus sign, and the rest. -/
def takeSign : List Char → Bool × List Char
  | '-' :: rest => (true, rest)
  | '+' :: rest => (false, rest)
  | rest => (false, rest)

/-- The values of digits with single underscores between them; `afterDigit` tells whether an
underscore may stand here. -/
def digitValues? (afterDigit : Bool) : List Char → Option (List Nat)
  | [] => if afterDigit then some [] else none
  | '_' :: rest => if afterDigit then digitValues? false rest else none
  | c :: rest => do
    let d ← Text.decimalDigit? c
    let ds ← digitValues? true rest
    return d :: ds

/-- The number of decimal digits. -/
def ofDigitValues (ds : List Nat) : Nat := ds.foldl (fun n d => 10 * n + d) 0

/-- The integer of a text. -/
def readInteger? (s : String) : Option Int := do
  let (negative, rest) := takeSign (Text.trimBy Text.isBlankChar s.toList)
  let ds ← digitValues? false rest
  if ds.length ≤ maxIntegerDigits then
    let n : Int := ofDigitValues ds
    return if negative then -n else n
  else none

/-- The number nearest to `digits * 10 ^ exponent`. -/
def Binary64.ofDecimal (negative : Bool) (digits : Nat) (exponent : Int) : Binary64 :=
  let magnitude : Int := (Nat.toDigits 10 digits).length + exponent
  if digits = 0 then zero negative
  else if 400 < magnitude then .infinite negative
  else if magnitude < -400 then zero negative
  else if exponent < 0 then ofRatio negative digits (pow10 (-exponent).toNat)
  else ofRatio negative (digits * pow10 exponent.toNat) 1

/-- The value of an ASCII digit. -/
def asciiDigit (c : Char) : Nat := c.toNat - '0'.toNat

/-- The exponent part of a decimal, which may be absent. -/
def readExponent? : List Char → Option Int
  | [] => some 0
  | c :: rest =>
    if c = 'e' || c = 'E' then
      let (negative, ds) := takeSign rest
      if ds ≠ [] ∧ ds.all Char.isDigit then
        let n : Int := ofDigitValues (ds.map asciiDigit)
        some (if negative then -n else n)
      else none
    else none

/-- A decimal without its sign: digits, a fraction and an exponent, with a digit before or after
the point. -/
def readUnsignedDecimal? (negative : Bool) (cs : List Char) : Option Binary64 := do
  let whole := cs.takeWhile Char.isDigit
  let rest := cs.dropWhile Char.isDigit
  let (fraction, rest) := match rest with
    | '.' :: rest => (rest.takeWhile Char.isDigit, rest.dropWhile Char.isDigit)
    | rest => ([], rest)
  if whole = [] ∧ fraction = [] then none
  else
    let exponent ← readExponent? rest
    let digits := ofDigitValues ((whole ++ fraction).map asciiDigit)
    return Binary64.ofDecimal negative digits (exponent - fraction.length)

/-- A decimal with ASCII digits and an optional sign, or a word for an infinity or for what is
undefined. -/
def readDecimal? (cs : List Char) : Option Binary64 :=
  let (negative, rest) := takeSign cs
  let word := String.ofList (rest.map Char.toLower)
  if word = "inf" || word = "infinity" then some (.infinite negative)
  else if word = "nan" then some .undefined
  else readUnsignedDecimal? negative rest

/-- Digits with single underscores between characters, without the underscores. -/
def dropUnderscores? (afterOther : Bool) : List Char → Option (List Char)
  | [] => if afterOther then some [] else none
  | '_' :: rest => if afterOther then dropUnderscores? false rest else none
  | c :: rest => (dropUnderscores? true rest).map (c :: ·)

/-- The floating-point number of a text: either white space around it or single underscores inside
it are skipped, but not both. -/
def readFloat? (s : String) : Option Binary64 :=
  (readDecimal? (Text.trimBy Text.isWhiteSpace s.toList)).or
    ((dropUnderscores? false s.toList).bind readDecimal?)

end Provisioning
