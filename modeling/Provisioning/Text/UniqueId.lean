import Provisioning.Text.Sha1

/-!
# Unique identifiers

Short identifiers are cut from the hash of a seed, so that the same seed gives the same identifier.
Long identifiers are random and have the form of a version 4 UUID.
-/

set_option autoImplicit false

namespace Provisioning.Text

/-- The length of a short identifier. -/
def shortUidLength : Nat := 8

/-- The short identifier of a seed: the first hexadecimal digits of the hash of its UTF-8 bytes. -/
def shortUid (seed : String) : String :=
  String.ofList ((Sha1.hash (seed.toList.flatMap String.utf8EncodeChar)).hex.take shortUidLength)

/-- The long identifier made of 122 random bits: 32 hexadecimal digits in five groups, where the
version digit is 4 and the variant digit is one of `8`, `9`, `a` and `b`. -/
def longUid (random : Nat) : String :=
  String.ofList (hexDigits 8 random ++ '-' :: hexDigits 4 (random >>> 32) ++ ['-', '4']
    ++ hexDigits 3 (random >>> 48) ++ ['-', hexDigit (8 + (random >>> 60) % 4)]
    ++ hexDigits 3 (random >>> 62) ++ '-' :: hexDigits 12 (random >>> 74))

/-- Whether a character is a hexadecimal digit in lower case. -/
def isHexDigit (c : Char) : Bool := c.isDigit || ('a' ≤ c && c ≤ 'f')

/-- Whether a text is a version 4 UUID in lower case. -/
def isLongUid (s : String) : Bool :=
  let cs := s.toList
  cs.length == 36 && (cs.zip (List.range 36)).all fun (c, i) =>
    if i == 8 || i == 13 || i == 18 || i == 23 then c == '-'
    else if i == 14 then c == '4'
    else if i == 19 then c == '8' || c == '9' || c == 'a' || c == 'b'
    else isHexDigit c

end Provisioning.Text
