import Provisioning.Text.CharacterName
import Provisioning.Text.CodePage
import Provisioning.Text.DomainName.Ascii
import Provisioning.Text.EastAsian.MultiByte
import Provisioning.Text.EastAsian.Switching
import Provisioning.Text.EncodingName
import Provisioning.Text.Punycode
import Provisioning.Text.Units

/-!
# Texts as bytes

Encodings of texts, and what becomes of a character that an encoding cannot hold.
-/

set_option autoImplicit false

namespace Provisioning.Text

/-- The encodings. -/
inductive Encoding
  | utf7
  | utf8 (marked : Bool)
  | utf16 (marked bigEndian : Bool)
  | utf32 (marked bigEndian : Bool)
  /-- Each character below a limit is a byte, and there are no others. -/
  | below (limit : Nat)
  | page (p : CodePage)
  /-- ASCII, with escapes for what is not printable. -/
  | escaped
  /-- The characters below 256 are bytes, and there are escapes for the others. -/
  | escapedAbove
  | punycode
  /-- Domain names in ASCII; there are no substitutes. -/
  | domainName
  /-- The encoding that holds no text at all. -/
  | undefined
  | multiByte (e : EastAsian.MultiByte)
  | switching (w : EastAsian.Switching)
  deriving DecidableEq, Repr

/-- What becomes of a character that an encoding cannot hold. -/
inductive Substitution
  | refuse
  /-- The upper surrogates from U+DC80 to U+DCFF stand for bytes above ASCII. -/
  | escapedByte
  /-- Surrogates are encoded like characters where the encoding has a place for them. -/
  | passedSurrogate
  | questionMark
  | omit
  | characterReference
  | backslash
  | nameOfCharacter
  deriving DecidableEq, Repr

/-- The encodings that are not code pages, by name. -/
def Encoding.named : List (String × Encoding) :=
  [("utf_7", .utf7), ("utf_8", .utf8 false), ("utf_8_sig", .utf8 true),
   ("utf_16", .utf16 true false), ("utf_16_le", .utf16 false false),
   ("utf_16_be", .utf16 false true), ("utf_32", .utf32 true false),
   ("utf_32_le", .utf32 false false), ("utf_32_be", .utf32 false true), ("ascii", .below 0x80),
   ("latin_1", .below 0x100), ("iso8859_1", .below 0x100), ("charmap", .below 0x100),
   ("unicode_escape", .escaped), ("raw_unicode_escape", .escapedAbove), ("punycode", .punycode),
   ("idna", .domainName), ("undefined", .undefined), ("big5", .multiByte .big5),
   ("big5hkscs", .multiByte .big5Hkscs),
   ("cp932", .multiByte .cp932), ("cp949", .multiByte .cp949), ("cp950", .multiByte .cp950),
   ("euc_jis_2004", .multiByte (.eucJisX0213 .of2004)),
   ("euc_jisx0213", .multiByte (.eucJisX0213 .of2000)), ("euc_jp", .multiByte .eucJp),
   ("euc_kr", .multiByte .eucKr), ("gb18030", .multiByte .gb18030),
   ("gb2312", .multiByte .gb2312), ("gbk", .multiByte .gbk), ("johab", .multiByte .johab),
   ("shift_jis", .multiByte .shiftJis),
   ("shift_jis_2004", .multiByte (.shiftJisX0213 .of2004)),
   ("shift_jisx0213", .multiByte (.shiftJisX0213 .of2000)), ("hz", .switching EastAsian.hz),
   ("iso2022_jp", .switching EastAsian.iso2022Jp),
   ("iso2022_jp_1", .switching EastAsian.iso2022Jp1),
   ("iso2022_jp_2", .switching EastAsian.iso2022Jp2),
   ("iso2022_jp_2004", .switching (EastAsian.iso2022JpX0213 .of2004)),
   ("iso2022_jp_3", .switching (EastAsian.iso2022JpX0213 .of2000)),
   ("iso2022_jp_ext", .switching EastAsian.iso2022JpExt),
   ("iso2022_kr", .switching EastAsian.iso2022Kr)]

/-- The encoding of a name or an alias. -/
def Encoding.ofName? (name : String) : Option Encoding :=
  (ownName? (textEncodings ++ eastAsianEncodings) name).bind fun own =>
    (Encoding.named.lookup own).or ((codePages.find? (·.name == own)).map Encoding.page)

/-- The substitution of a name. -/
def Substitution.ofName? (name : String) : Option Substitution :=
  [("strict", Substitution.refuse), ("surrogateescape", .escapedByte),
   ("surrogatepass", .passedSurrogate),
   ("replace", .questionMark), ("ignore", .omit), ("xmlcharrefreplace", .characterReference),
   ("backslashreplace", .backslash), ("namereplace", .nameOfCharacter)].lookup name

/-- The low `count` bytes of a number in the order of the encoding. -/
def bytesOf (bigEndian : Bool) (count n : Nat) : List UInt8 :=
  let low := (List.range count).map fun i => UInt8.ofNat ((n >>> (8 * i)) % 256)
  if bigEndian then low.reverse else low

/-- The bytes of characters below 256. -/
def bytesOfChars (cs : List Char) : List UInt8 := cs.map fun c => UInt8.ofNat c.toNat

/-! ## UTF-7 -/

/-- Whether a character stands for itself in UTF-7: all of ASCII that can be seen but the plus
sign, the backslash and the tilde, and of the blanks tab, line feed, carriage return and space. -/
def standsForItself (c : Char) : Bool :=
  c = '\t' || c = '\n' || c = '\r' ||
    (32 ≤ c.toNat && c.toNat < 126 && c != '+' && c != '\\')

/-- The digits of base 64. -/
def base64Digits : List Char :=
  "ABCDEFGHIJKLMNOPQRSTUVWXYZabcdefghijklmnopqrstuvwxyz0123456789+/".toList

/-- The bits of a number, `count` of them, highest first. -/
def bitsOf (count n : Nat) : List Bool := (List.range count).reverse.map n.testBit

/-- The digit of base 64 with some bits, completed by zeros to six. -/
def base64Digit (bits : List Bool) : Char :=
  base64Digits.getD ((bits ++ List.replicate (6 - bits.length) false).foldl
    (fun n bit => 2 * n + bit.toNat) 0) 'A'

/-- Bits in base 64. -/
def base64 : List Bool → List Char
  | [] => []
  | a :: b :: c :: d :: e :: f :: rest => base64Digit [a, b, c, d, e, f] :: base64 rest
  | bits => [base64Digit bits]

/-- Units of UTF-16 in base 64. -/
def base64OfUnits (units : List Nat) : List Char := base64 (units.flatMap (bitsOf 16))

/-- Characters in UTF-7. Those that do not stand for themselves are written as units in base 64
between a plus sign and a hyphen; the hyphen is left out before a character that cannot be taken
for more of the units. `pending` are the units of a run that is not yet written. -/
def utf7 (pending : Option (List Nat)) : List Char → List Char
  | [] =>
    match pending with
    | none => []
    | some units => base64OfUnits units ++ ['-']
  | c :: rest =>
    match pending with
    | none =>
      if c = '+' then '+' :: '-' :: utf7 none rest
      else if standsForItself c then c :: utf7 none rest
      else '+' :: utf7 (some (utf16Units c)) rest
    | some units =>
      if standsForItself c then
        let close := if base64Digits.contains c || c = '-' then ['-'] else []
        base64OfUnits units ++ close ++ c :: utf7 none rest
      else utf7 (some (units ++ utf16Units c)) rest

example : utf7 none ['a', '+', 'b'] = ['a', '+', '-', 'b'] := by decide
example : utf7 none ['é', 'b'] = ['+', 'A', 'O', 'k', '-', 'b'] := by decide
example : utf7 none ['é', '.'] = ['+', 'A', 'O', 'k', '.'] := by decide

/-! ## Encoding -/

/-- The escape of a character by four or eight hexadecimal digits. -/
def wideEscape (c : Char) : List Char :=
  if codeOf c < 0x10000 then ['\\', 'u'] ++ hexDigits 4 (codeOf c) else escapeCode (codeOf c)

/-- The characters that stand for one character in ASCII with escapes. -/
def escapedChar (c : Char) : List Char :=
  if c = '\\' then ['\\', '\\']
  else if c = '\t' then ['\\', 't']
  else if c = '\n' then ['\\', 'n']
  else if c = '\r' then ['\\', 'r']
  else if 0x20 ≤ c.toNat && c.toNat < 0x7F then [c]
  else escapeCode (codeOf c)

/-- The bytes of a surrogate in the way of UTF-8. -/
def utf8OfSurrogate (unit : Nat) : List UInt8 :=
  [UInt8.ofNat (0xE0 + unit / 0x1000), UInt8.ofNat (0x80 + unit / 0x40 % 0x40),
   UInt8.ofNat (0x80 + unit % 0x40)]

example : utf8OfSurrogate 0xD800 = [0xED, 0xA0, 0x80] := by decide

/-- The bytes of a surrogate, where an encoding has a place for them. -/
def Encoding.bytesOfSurrogate? (e : Encoding) (unit : Nat) : Option (List UInt8) :=
  match e with
  | .utf8 _ => some (utf8OfSurrogate unit)
  | .utf16 _ bigEndian => some (bytesOf bigEndian 2 unit)
  | .utf32 _ bigEndian => some (bytesOf bigEndian 4 unit)
  | _ => none

/-- How many bytes make up a unit of an encoding. -/
def Encoding.unitSize : Encoding → Nat
  | .utf16 _ _ => 2
  | .utf32 _ _ => 4
  | _ => 1

/-- The bytes of one character, if the encoding can hold it and writes each character by itself. -/
def Encoding.bytesOfChar? (e : Encoding) (c : Char) : Option (List UInt8) :=
  match e with
  | .utf8 _ => if (surrogate? c).isSome then none else some (String.utf8EncodeChar c)
  | .utf16 _ bigEndian =>
    if (surrogate? c).isSome then none else some ((utf16Units c).flatMap (bytesOf bigEndian 2))
  | .utf32 _ bigEndian =>
    if (surrogate? c).isSome then none else some (bytesOf bigEndian 4 c.toNat)
  | .below limit => if c.toNat < limit then some [UInt8.ofNat c.toNat] else none
  | .page p => (p.byte? c).map ([·])
  | .escaped => some (bytesOfChars (escapedChar c))
  | .escapedAbove => some (bytesOfChars (if c.toNat < 0x100 then [c] else wideEscape c))
  | .multiByte m => if (surrogate? c).isSome then none else m.code? c
  | .utf7 | .punycode | .domainName | .undefined | .switching _ => none

/-- The bytes of two characters that the encoding writes as one. -/
def Encoding.bytesOfPair? (e : Encoding) (a b : Char) : Option (List UInt8) :=
  match e with
  | .multiByte m => m.modifiedCode? a b
  | _ => none

/-- The byte order mark that an encoding begins with. -/
def Encoding.preamble : Encoding → List UInt8
  | .utf8 true => [0xEF, 0xBB, 0xBF]
  | .utf16 true bigEndian => bytesOf bigEndian 2 0xFEFF
  | .utf32 true bigEndian => bytesOf bigEndian 4 0xFEFF
  | _ => []

/-- What is written in the place of a character that an encoding cannot hold. -/
def Substitution.text? (c : Char) : Substitution → Option (List Char)
  | .refuse | .escapedByte | .passedSurrogate => none
  | .questionMark => some ['?']
  | .omit => some []
  | .characterReference => some ("&#" ++ toString (codeOf c) ++ ";").toList
  | .backslash => some (escapeCode (codeOf c))
  | .nameOfCharacter =>
    match characterName? c with
    | some name => some ("\\N\x7b" ++ name ++ "\x7d").toList
    | none => some (escapeCode (codeOf c))

/-- The bytes that are written as they are in the place of a character. -/
def Substitution.bytes? (e : Encoding) (c : Char) (s : Substitution) : Option (List UInt8) :=
  match s, surrogate? c with
  | .escapedByte, some unit =>
    if 0xDC80 ≤ unit && unit ≤ 0xDCFF && e.unitSize = 1 then some [UInt8.ofNat (unit - 0xDC00)]
    else none
  | .passedSurrogate, some unit => e.bytesOfSurrogate? unit
  | _, _ => none

/-- How an encoding writes characters: the code of one, the code of two that are written as one,
and bytes that are written as they are. -/
structure Coding (α : Type) where
  one? : Char → Option α
  two? : Char → Char → Option α
  raw : List UInt8 → α

/-- The code of one character, or the codes of what stands in its place. -/
def Coding.codesOfChar? {α : Type} (k : Coding α) (e : Encoding) (s : Substitution) (c : Char) :
    Option (List α) :=
  ((k.one? c).map ([·])).or <| ((s.bytes? e c).map fun bytes => [k.raw bytes]).or <|
    (s.text? c).bind (·.mapM k.one?)

/-- The codes of characters, where two characters may have one code. -/
def Coding.codes? {α : Type} (k : Coding α) (e : Encoding) (s : Substitution) :
    List Char → Option (List α)
  | [] => some []
  | [c] => k.codesOfChar? e s c
  | a :: b :: rest =>
    match k.two? a b with
    | some code => (k.codes? e s rest).map (code :: ·)
    | none => do return (← k.codesOfChar? e s a) ++ (← k.codes? e s (b :: rest))

/-- The bytes of a text; `none` if a character has neither bytes nor a substitute. -/
def encode? (e : Encoding) (s : Substitution) (text : String) : Option (List UInt8) :=
  let cs := text.toList
  match e with
  | .utf7 => some (bytesOfChars (utf7 none cs))
  | .punycode => some (bytesOfChars (punycode cs))
  | .domainName => if s = .refuse then (DomainName.ascii? cs).map bytesOfChars else none
  | .undefined => none
  | .switching w => (Coding.codes? ⟨w.code?, w.modifiedCode?, .raw⟩ e s cs).map w.bytes
  | _ =>
    (Coding.codes? ⟨e.bytesOfChar?, e.bytesOfPair?, id⟩ e s cs).map
      fun codes => e.preamble ++ codes.flatten

/-- Bytes in hexadecimal, two digits each. -/
def hexOfBytes (bytes : List UInt8) : String :=
  String.ofList (bytes.flatMap fun b => hexDigits 2 b.toNat)

end Provisioning.Text
