/-!
# Blank characters

What counts as blank at the ends of a text: the white space of every script, and the four
information separators.
-/

set_option autoImplicit false

namespace Provisioning.Text

/-- The Unicode white space characters: the ASCII blanks from tab to carriage return, the space,
the next-line control, and the spaces and separators outside ASCII. -/
def isWhiteSpace (c : Char) : Bool :=
  let n := c.toNat
  (0x09 ≤ n && n ≤ 0x0D) || n == 0x20 || n == 0x85 || n == 0xA0 || n == 0x1680
    || (0x2000 ≤ n && n ≤ 0x200A) || n == 0x2028 || n == 0x2029 || n == 0x202F || n == 0x205F
    || n == 0x3000

/-- Blank characters: white space and the information separators U+001C to U+001F. -/
def isBlankChar (c : Char) : Bool :=
  isWhiteSpace c || (0x1C ≤ c.toNat && c.toNat ≤ 0x1F)

/-- Drops the characters of a class from the end of a text. -/
def trimEndBy (p : Char → Bool) (cs : List Char) : List Char :=
  (cs.reverse.dropWhile p).reverse

/-- Drops the characters of a class from both ends of a text. -/
def trimBy (p : Char → Bool) (cs : List Char) : List Char :=
  trimEndBy p (cs.dropWhile p)

/-- A text without the blanks at its two ends. -/
def strip (s : String) : String :=
  String.ofList (trimBy isBlankChar s.toList)

/-- Whether a text holds nothing but blanks. -/
def isBlank (s : String) : Bool :=
  s.toList.all isBlankChar

example : isBlankChar '\t' = true := by decide
example : isBlankChar (Char.ofNat 0x200B) = false := by decide

end Provisioning.Text
