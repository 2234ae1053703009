import Provisioning.Text.CharacterName.Coding
import Provisioning.Text.CharacterName.Names00020
import Provisioning.Text.CharacterName.Names00D54
import Provisioning.Text.CharacterName.Names01E00
import Provisioning.Text.CharacterName.Names02660
import Provisioning.Text.CharacterName.Names02F00
import Provisioning.Text.CharacterName.Names0FBD3
import Provisioning.Text.CharacterName.Names11200
import Provisioning.Text.CharacterName.Names16900
import Provisioning.Text.CharacterName.Names1E100
import Provisioning.Text.CharacterName.Names1FA60
import Provisioning.Text.Quoted

/-!
# Names of characters

The names by which the character standard calls its characters. Most are kept in a table; those of
ideographs, of syllables of Hangul and of some other sets follow a rule.
-/

set_option autoImplicit false

namespace Provisioning.Text

/-- The names that follow no rule. -/
def namedBlocks : List NameBlock :=
  [names00020, names00D54, names01E00, names02660, names02F00, names0FBD3, names11200,
   names16900, names1E100, names1FA60].flatten

/-- Ranges of characters that are named by their code. -/
def namedByCode : List (Nat × Nat × String) :=
  [(0x3400, 0x4DBF, "CJK UNIFIED IDEOGRAPH"), (0x4E00, 0x9FFF, "CJK UNIFIED IDEOGRAPH"),
   (0x20000, 0x2A6DF, "CJK UNIFIED IDEOGRAPH"), (0x2A700, 0x2B738, "CJK UNIFIED IDEOGRAPH"),
   (0x2B740, 0x2B81D, "CJK UNIFIED IDEOGRAPH"), (0x2B820, 0x2CEA1, "CJK UNIFIED IDEOGRAPH"),
   (0x2CEB0, 0x2EBE0, "CJK UNIFIED IDEOGRAPH"), (0x30000, 0x3134A, "CJK UNIFIED IDEOGRAPH"),
   (0xF900, 0xFA6D, "CJK COMPATIBILITY IDEOGRAPH"),
   (0xFA70, 0xFAD9, "CJK COMPATIBILITY IDEOGRAPH"),
   (0x2F800, 0x2FA1D, "CJK COMPATIBILITY IDEOGRAPH"),
   (0x18B00, 0x18CD5, "KHITAN SMALL SCRIPT CHARACTER"), (0x1B170, 0x1B2FB, "NUSHU CHARACTER")]

/-- Ranges of characters that are numbered: the first number and the least count of digits. -/
def namedByNumber : List (Nat × Nat × String × Nat × Nat) :=
  [(0xFE00, 0xFE0F, "VARIATION SELECTOR", 1, 1), (0xE0100, 0xE01EF, "VARIATION SELECTOR", 17, 1),
   (0x18800, 0x18AFF, "TANGUT COMPONENT", 1, 3)]

/-- The sounds that a syllable of Hangul begins with. -/
def initialSounds : List String :=
  ["G", "GG", "N", "D", "DD", "R", "M", "B", "BB", "S", "SS", "", "J", "JJ", "C", "K", "T", "P",
   "H"]

/-- The sounds in the middle of a syllable of Hangul. -/
def middleSounds : List String :=
  ["A", "AE", "YA", "YAE", "EO", "E", "YEO", "YE", "O", "WA", "WAE", "OE", "YO", "U", "WEO", "WE",
   "WI", "YU", "EU", "YI", "I"]

/-- The sounds that a syllable of Hangul ends with. -/
def finalSounds : List String :=
  ["", "G", "GG", "GS", "N", "NJ", "NH", "D", "L", "LG", "LM", "LB", "LS", "LT", "LP", "LH", "M",
   "B", "BS", "S", "SS", "NG", "J", "C", "K", "T", "P", "H"]

/-- The name of the syllable of Hangul with a number: the final sound changes fastest. -/
def syllableName? (n : Nat) : Option String := do
  let first ← initialSounds[n / (21 * 28)]?
  let middle ← middleSounds[n / 28 % 21]?
  let last ← finalSounds[n % 28]?
  return "HANGUL SYLLABLE " ++ first ++ middle ++ last

/-- The name of a character in the table. -/
def nameInBlocks? (c : Char) : Option String := do
  let block ← (namedBlocks.filter (·.first ≤ c.toNat)).getLast?
  block.name? c.toNat

/-- A code in capital hexadecimal digits, at least four of them. -/
def codeDigits (code : Nat) : List Char :=
  (hexDigits (if code < 0x10000 then 4 else 5) code).map Char.toUpper

/-- A number with zeros in front up to a count of digits. -/
def paddedNumber (count n : Nat) : List Char :=
  let digits := (toString n).toList
  List.replicate (count - digits.length) '0' ++ digits

/-- The name of a character that follows from its code. -/
def nameByCode? (code : Nat) : Option String :=
  ((namedByCode.find? fun r => r.1 ≤ code && code ≤ r.2.1).map fun r =>
    r.2.2 ++ "-" ++ String.ofList (codeDigits code)).or <|
  (namedByNumber.find? fun r => r.1 ≤ code && code ≤ r.2.1).map fun r =>
    r.2.2.1 ++ "-" ++ String.ofList (paddedNumber r.2.2.2.2 (r.2.2.2.1 + (code - r.1)))

/-- The name of a character. -/
def characterName? (c : Char) : Option String :=
  if 0xAC00 ≤ c.toNat && c.toNat < 0xD7A4 then syllableName? (c.toNat - 0xAC00)
  else (nameByCode? c.toNat).or (nameInBlocks? c)

end Provisioning.Text
