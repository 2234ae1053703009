/-!
# Units of UTF-16

A unit of UTF-16 is a character or one of two surrogates that make up a character. A text may hold a
surrogate without its partner. It is no character, so a character of private use stands for it:
those from U+FB000 to U+FB7FF are set aside for the surrogates, in their order.
-/

set_option autoImplicit false

namespace Provisioning.Text

/-- The character that stands for a surrogate. -/
def loneSurrogate (unit : Nat) : Char := Char.ofNat (0xFB000 + (unit - 0xD800))

/-- The surrogate that a character stands for. -/
def surrogate? (c : Char) : Option Nat :=
  if 0xFB000 ≤ c.toNat && c.toNat < 0xFB800 then some (0xD800 + (c.toNat - 0xFB000)) else none

/-- The code of a character, or of the surrogate that it stands for. -/
def codeOf (c : Char) : Nat := (surrogate? c).getD c.toNat

example : surrogate? (loneSurrogate 0xD800) = some 0xD800 := by decide
example : surrogate? (loneSurrogate 0xDFFF) = some 0xDFFF := by decide
example : codeOf 'a' = 0x61 := by decide

/-- One character in UTF-16: one unit, or a pair of surrogates. -/
def utf16Units (c : Char) : List Nat :=
  let n := codeOf c
  if n < 0x10000 then [n] else [0xD800 + (n - 0x10000) / 0x400, 0xDC00 + (n - 0x10000) % 0x400]

end Provisioning.Text
