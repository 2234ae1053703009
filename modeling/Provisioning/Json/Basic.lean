import Provisioning.Number
import Provisioning.Text.Quoted
import Provisioning.Text.Units

/-!
# JSON texts

The values of JSON, with numbers kept as they are written and the members of objects in the order in
which they are written. Only ASCII characters are printed; every other character is escaped.
-/

set_option autoImplicit false

namespace Provisioning

/-- A JSON value. -/
inductive Json
  | null
  | bool (b : Bool)
  | number (literal : String)
  | text (s : String)
  | list (items : List Json)
  | object (members : List (String × Json))
  deriving Inhabited

namespace Json

/-! ## Printing -/

/-- One character of a printed text. -/
def escape (c : Char) : List Char :=
  if c = '"' || c = '\\' then ['\\', c]
  else if c = '\n' then ['\\', 'n']
  else if c.toNat < 0x20 || 0x7F ≤ c.toNat then
    (Text.utf16Units c).flatMap fun unit => ['\\', 'u'] ++ Text.hexDigits 4 unit
  else [c]

/-- A printed text. -/
def printText (s : String) : String :=
  String.ofList ('"' :: s.toList.flatMap escape ++ ['"'])

mutual

/-- The JSON text of a value. -/
def print : Json → String
  | .null => "null"
  | .bool b => if b then "true" else "false"
  | .number literal => literal
  | .text s => printText s
  | .list items => "[" ++ String.intercalate "," (printItems items) ++ "]"
  | .object members => "\x7b" ++ String.intercalate "," (printMembers members) ++ "\x7d"

/-- The texts of the items of a list. -/
def printItems : List Json → List String
  | [] => []
  | j :: js => print j :: printItems js

/-- The texts of the members of an object. -/
def printMembers : List (String × Json) → List String
  | [] => []
  | (key, j) :: rest => (printText key ++ ":" ++ print j) :: printMembers rest

end

/-! ## Parts of a value -/

/-- A member of an object; the last of several with one name. -/
def member? (j : Json) (name : String) : Option Json :=
  match j with
  | .object members => (members.reverse.find? (·.1 == name)).map (·.2)
  | _ => none

/-- A member of an object; null if it is absent. -/
def member (j : Json) (name : String) : Json := (j.member? name).getD .null

/-- A member of an object that is present and not null. -/
def given? (j : Json) (name : String) : Option Json :=
  match j.member? name with
  | some .null => none
  | other => other

/-- The items of a list; anything else has none. -/
def items : Json → List Json
  | .list items => items
  | _ => []

/-- The items of a member that is a list. -/
def itemsAt (j : Json) (name : String) : List Json := (j.member name).items

/-- An item of a list; null behind its end. -/
def item (j : Json) (n : Nat) : Json := j.items.getD n .null

/-- The members of an object; anything else has none. -/
def members : Json → List (String × Json)
  | .object members => members
  | _ => []

/-- The text that a value is; the empty text for anything else. -/
def asText : Json → String
  | .text s => s
  | _ => ""

/-- Whether a value is true. -/
def isTrue : Json → Bool
  | .bool b => b
  | _ => false

/-- The number of a literal: anything but digits and a sign makes it a floating-point number. -/
def numberOf (literal : String) : Number :=
  let cs := literal.toList
  if cs.any fun c => !(c.isDigit || c = '-') then
    .float ((readDecimal? cs).getD (.finite 0))
  else
    let (negative, ds) := takeSign cs
    let n : Int := ofDigitValues (ds.map asciiDigit)
    .int (if negative then -n else n)

/-- The number that a value is; zero for anything else. -/
def asNumber : Json → Number
  | .number literal => numberOf literal
  | .bool b => .int (if b then 1 else 0)
  | _ => .int 0

/-- The integer that a value is, without its fraction. -/
def asInt (j : Json) : Int := j.asNumber.truncate?.getD 0

/-- An integer as a value. -/
def ofInt (n : Int) : Json := .number (toString n)

/-- A number as a value; what lies outside of JSON is spelled out. -/
def ofNumber : Number → Json
  | .float (.infinite negative) => .number (if negative then "-Infinity" else "Infinity")
  | .float .undefined => .number "NaN"
  | n => .number n.text

end Json

end Provisioning
