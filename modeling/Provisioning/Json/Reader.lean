import Provisioning.Json.Basic

/-!
# Reading JSON

A JSON text is read in two passes, each a fold: characters become tokens, and tokens become values
on a stack of the lists and objects that are still open. Texts are collected in units of UTF-16, so
that a pair of escaped surrogates becomes one character.
-/

set_option autoImplicit false

namespace Provisioning.Json

/-! ## Tokens -/

/-- A token of a JSON text. Commas and colons carry no meaning that brackets do not. -/
inductive Token
  | openList
  | openObject
  | close
  | value (j : Json)
  deriving Inhabited

/-- What the last characters were part of. The units of a text and the characters of a word are
collected in reverse. -/
inductive Scan
  | between
  | inText (units : List Nat)
  | afterBackslash (units : List Nat)
  | inEscape (units : List Nat) (left : Nat) (unit : Nat)
  | inWord (read : List Char)

/-- The characters of units of UTF-16. -/
def charsOfUnits : List Nat → List Char
  | [] => []
  | high :: rest =>
    if 0xD800 ≤ high ∧ high < 0xE000 then
      match rest with
      | low :: rest =>
        if high < 0xDC00 ∧ 0xDC00 ≤ low ∧ low < 0xE000 then
          Char.ofNat (0x10000 + (high - 0xD800) * 0x400 + (low - 0xDC00)) :: charsOfUnits rest
        else Text.loneSurrogate high :: charsOfUnits (low :: rest)
      | [] => [Text.loneSurrogate high]
    else Char.ofNat high :: charsOfUnits rest

/-- The value of a hexadecimal digit. -/
def hexValue (c : Char) : Nat :=
  if c.isDigit then c.toNat - 48
  else if 'a' ≤ c then c.toNat - 87
  else c.toNat - 55

/-- The character that an escape of one letter stands for. -/
def unescape (c : Char) : Char :=
  if c = 'n' then '\n'
  else if c = 't' then '\t'
  else if c = 'r' then '\r'
  else if c = 'b' then Char.ofNat 8
  else if c = 'f' then Char.ofNat 12
  else c

/-- The value of a word without quotes. -/
def wordValue (word : List Char) : Json :=
  if word = "null".toList then .null
  else if word = "true".toList then .bool true
  else if word = "false".toList then .bool false
  else .number (String.ofList word)

/-- The tokens of a character between values. -/
def punctuation (c : Char) : List Token :=
  if c = '[' then [.openList]
  else if c = '\x7b' then [.openObject]
  else if c = ']' || c = '\x7d' then [.close]
  else []

/-- Whether a character ends a word. -/
def endsWord (c : Char) : Bool :=
  c = ',' || c = ':' || c = ']' || c = '\x7d' || c = '[' || c = '\x7b' || Text.isBlankChar c

/-- Reads one character; tokens are collected in reverse. -/
def scan : Scan × List Token → Char → Scan × List Token
  | (.between, tokens), c =>
    if c = '"' then (.inText [], tokens)
    else if endsWord c then (.between, punctuation c ++ tokens)
    else (.inWord [c], tokens)
  | (.inText units, tokens), c =>
    if c = '"' then
      (.between, .value (.text (String.ofList (charsOfUnits units.reverse))) :: tokens)
    else if c = '\\' then (.afterBackslash units, tokens)
    else (.inText ((Text.utf16Units c).reverse ++ units), tokens)
  | (.afterBackslash units, tokens), c =>
    if c = 'u' then (.inEscape units 4 0, tokens)
    else (.inText ((unescape c).toNat :: units), tokens)
  | (.inEscape units left unit, tokens), c =>
    let unit := 16 * unit + hexValue c
    if left ≤ 1 then (.inText (unit :: units), tokens)
    else (.inEscape units (left - 1) unit, tokens)
  | (.inWord read, tokens), c =>
    if endsWord c then
      (.between, punctuation c ++ .value (wordValue read.reverse) :: tokens)
    else (.inWord (c :: read), tokens)

/-- The tokens of a JSON text. -/
def tokens (s : String) : List Token :=
  (((s.toList ++ ['\n']).foldl scan (.between, [])).2).reverse

/-! ## Values -/

/-- A list or an object that is still open, with its parts in reverse. In an object every other
part is a name. -/
structure Open where
  isObject : Bool
  parts : List Json

/-- Parts of an object as its members. -/
def pairUp : List Json → List (String × Json)
  | .text name :: j :: rest => (name, j) :: pairUp rest
  | _ => []

/-- The value of a list or an object that is closed. -/
def Open.close (o : Open) : Json :=
  if o.isObject then .object (pairUp o.parts.reverse) else .list o.parts.reverse

/-- Adds a value to the innermost open list or object. -/
def add (stack : List Open) (j : Json) : List Open :=
  match stack with
  | [] => [⟨false, [j]⟩]
  | top :: rest => { top with parts := j :: top.parts } :: rest

/-- Reads one token. -/
def build (stack : List Open) : Token → List Open
  | .openList => ⟨false, []⟩ :: stack
  | .openObject => ⟨true, []⟩ :: stack
  | .value j => add stack j
  | .close =>
    match stack with
    | [] => []
    | top :: rest => add rest top.close

/-- The value of a JSON text. -/
def read (s : String) : Json :=
  match ((tokens s).foldl build [⟨false, []⟩]).getLast? with
  | some o => o.parts.getLastD .null
  | none => .null

end Provisioning.Json
