import Provisioning.Text.EastAsian.Big5
import Provisioning.Text.EastAsian.Gb2312
import Provisioning.Text.EastAsian.Gbk
import Provisioning.Text.EastAsian.Hkscs

/-!
# Chinese encodings

The encodings of mainland China extend GB 2312, and those of Taiwan and Hong Kong extend Big5.
-/

set_option autoImplicit false

namespace Provisioning.Text.EastAsian

/-! ## Extensions of GB 2312 -/

/-- The extended code of GB 2312. -/
def gb2312? (c : Char) : Option (List UInt8) :=
  (ascii? c).or <| (gb2312.place? c).map Place.upper

/-- Whether a character is one of the 20902 unified ideographs of the first block. -/
def isUnified (c : Char) : Bool := (indexWithin? 0x4E00 0x9FA5 c).isSome

/-- The second bytes below those of GB 2312, in their order. -/
def lowTrails : List Nat := List.range' 0x40 63 ++ List.range' 0x80 33

/-- All second bytes of GBK, in their order. -/
def wideTrails : List Nat := lowTrails ++ List.range' 0xA1 94

/-- The bytes of a cell in rows from a first one on, with some second bytes. -/
def cellBytes (first : Nat) (trails : List Nat) (n : Nat) : List UInt8 :=
  [UInt8.ofNat (first + n / trails.length), UInt8.ofNat (trails.getD (n % trails.length) 0)]

/-- The bytes of a unified ideograph that is not in GB 2312, by its number among these. They fill
the rows above GB 2312, and then what is left before its rows of ideographs. -/
def unifiedIdeograph (n : Nat) : List UInt8 :=
  let above := 32 * wideTrails.length
  if n < above then cellBytes 0x81 wideTrails n else cellBytes 0xAA lowTrails (n - above)

/-- GBK: the extended code of GB 2312 with additions, and the other unified ideographs in their
order. Of the symbols of GB 2312 one has another code, and one is left out. -/
def gbk? (c : Char) : Option (List UInt8) :=
  if c = '・' then none
  else if c = '―' then some [0xA8, 0x44]
  else
    (ascii? c).or <| ((gbkAdditions.place? c).map (·.bytes 0)).or <| (gb2312? c).or <|
      if isUnified c then
        some (unifiedIdeograph (c.toNat - 0x4E00 - gb2312.countBetween 0x4E00 c.toNat))
      else none

/-- The bytes of the characters of private use that come in the order of their codes. Two areas are
rows of 94 cells, and one the part of rows before those of GB 2312. -/
def privateUse? (c : Char) : Option (List UInt8) :=
  ((indexWithin? 0xE000 0xE233 c).map (cellBytes 0xAA (List.range' 0xA1 94))).or <|
    ((indexWithin? 0xE234 0xE4C5 c).map (cellBytes 0xF8 (List.range' 0xA1 94))).or <|
      (indexWithin? 0xE4C6 0xE765 c).map (cellBytes 0xA1 lowTrails)

/-- The characters of GB 18030 with two bytes. -/
def twoBytes? (c : Char) : Option (List UInt8) :=
  (gbk? c).or <| (privateUse? c).or <| (gb18030Additions.place? c).map (·.bytes 0)

/-- How many characters above ASCII and below a code of sixteen bits have two bytes in GB 18030. The
unified ideographs and the areas of private use all have two bytes; the others are counted one by
one, but for the symbol of GB 2312 that is left out. -/
def twoBytesBelow (code : Nat) : Nat :=
  let upTo := fun (low high : Nat) => min code high - low
  upTo 0x4E00 0x9FA6 + upTo 0xE000 0xE766 +
    gb2312.countBetween 0 (min code 0x4E00) + gb2312.countBetween 0x9FA6 code +
    gbkAdditions.countBetween 0 code + gb18030Additions.countBetween 0 code -
    (if '・'.toNat < code then 1 else 0)

/-- The four bytes of a number: the second and the last have ten values and the third has 126. -/
def fourBytes (n : Nat) : List UInt8 :=
  [UInt8.ofNat (0x81 + n / 12600), UInt8.ofNat (0x30 + n / 1260 % 10),
   UInt8.ofNat (0x81 + n / 10 % 126), UInt8.ofNat (0x30 + n % 10)]

/-- GB 18030, which holds all characters. Those without two bytes have four, by their number; the
codes above sixteen bits start at a number of their own, and surrogates are not counted. -/
def gb18030 (c : Char) : List UInt8 :=
  match twoBytes? c with
  | some bytes => bytes
  | none =>
    let code := c.toNat
    if 0x10000 ≤ code then fourBytes (189000 + (code - 0x10000))
    else
      let surrogates := if 0xE000 ≤ code then 0x800 else 0
      fourBytes (code - 0x80 - surrogates - twoBytesBelow code)

/-! ## Big5 -/

/-- Big5. -/
def big5? (c : Char) : Option (List UInt8) :=
  (ascii? c).or <| (big5Grid.place? c).map (·.bytes 0)

/-- Code page 950: Big5 with some codes of its own. -/
def cp950? (c : Char) : Option (List UInt8) :=
  ((cp950Additions.place? c).map (·.bytes 0)).or (big5? c)

/-- Big5 with the supplementary character set of Hong Kong. -/
def big5Hkscs? (c : Char) : Option (List UInt8) :=
  ((hkscsAdditions.place? c).map (·.bytes 0)).or (big5? c)

/-- The bytes of a base with a modifier in the supplementary character set of Hong Kong: two letters
with two accents. Of the modifier only the low sixteen bits are looked at. -/
def hkscsModified? (base modifier : Char) : Option (List UInt8) :=
  let letter : Option UInt8 :=
    if base = 'Ê' then some 0x62 else if base = 'ê' then some 0xA3 else none
  let accent : Option UInt8 :=
    if modifier.toNat % 0x10000 = 0x304 then some 0
    else if modifier.toNat % 0x10000 = 0x30C then some 2
    else none
  letter.bind fun l => accent.map fun a => [0x88, l + a]

end Provisioning.Text.EastAsian
