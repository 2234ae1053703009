import Provisioning.Text.EastAsian.Cp932
import Provisioning.Text.EastAsian.JisX0208
import Provisioning.Text.EastAsian.JisX0212
import Provisioning.Text.EastAsian.JisX0213

/-!
# Japanese encodings

Extended codes keep the rows and cells of a set above ASCII. Shifted codes put two rows under one
first byte, so that the bytes between are left to the katakana of half width.
-/

set_option autoImplicit false

namespace Provisioning.Text.EastAsian

/-- The number of a katakana of half width, or of a mark that belongs to them. -/
def katakana? : Char → Option Nat := indexWithin? 0xFF61 0xFF9F

/-- The yen sign and the overline, which the Japanese variant of ASCII has in the place of the
backslash and the tilde. -/
def jisRoman? (c : Char) : Option (List UInt8) :=
  if c = '¥' then some [0x5C] else if c = '‾' then some [0x7E] else none

/-! ## JIS X 0213 -/

/-- The editions of JIS X 0213. -/
inductive Edition
  | of2000
  | of2004
  deriving DecidableEq, Repr

/-- The characters that the second edition of JIS X 0213 added. -/
def addedIn2004 : List Char := "俱剝吞噓姸屛幷瘦繫𠮟".toList

/-- The character that the second edition has in the place of one of an edition. -/
def Edition.current? (e : Edition) (c : Char) : Option Char :=
  match e with
  | .of2004 => some c
  | .of2000 =>
    if c = '鬝' then some '鬜' else if c = '鬜' || addedIn2004.contains c then none else some c

/-- The place of a character of the first plane that is not in JIS X 0208. -/
def Edition.first? (e : Edition) (c : Char) : Option Place :=
  (e.current? c).bind jisX0213First.place?

/-- The place of a character of the second plane. -/
def Edition.second? (e : Edition) (c : Char) : Option Place :=
  (e.current? c).bind jisX0213Second.place?

/-- The characters of the first plane that are a base with a modifier. -/
def modified : List (Char × List Nat × Place) :=
  [('か', [0x309A], ⟨4, 87⟩), ('き', [0x309A], ⟨4, 88⟩), ('く', [0x309A], ⟨4, 89⟩),
   ('け', [0x309A], ⟨4, 90⟩), ('こ', [0x309A], ⟨4, 91⟩), ('カ', [0x309A], ⟨5, 87⟩),
   ('キ', [0x309A], ⟨5, 88⟩), ('ク', [0x309A], ⟨5, 89⟩), ('ケ', [0x309A], ⟨5, 90⟩),
   ('コ', [0x309A], ⟨5, 91⟩), ('セ', [0x309A], ⟨5, 92⟩), ('ツ', [0x309A], ⟨5, 93⟩),
   ('ト', [0x309A], ⟨5, 94⟩), ('ㇷ', [0x309A], ⟨6, 88⟩), ('æ', [0x300], ⟨11, 36⟩),
   ('ɔ', [0x300, 0x301], ⟨11, 40⟩), ('ʌ', [0x300, 0x301], ⟨11, 42⟩),
   ('ə', [0x300, 0x301], ⟨11, 44⟩), ('ɚ', [0x300, 0x301], ⟨11, 46⟩),
   ('˩', [0x2E5], ⟨11, 69⟩), ('˥', [0x2E9], ⟨11, 70⟩)]

/-- The low sixteen bits of a code. They are all that is looked at in a modifier. -/
def lowHalf (c : Char) : Nat := c.toNat % 0x10000

/-- The place of a base with a modifier. A null character after such a base is lost: it counts as
the absence of a modifier. -/
def modified? (base modifier : Char) : Option Place := do
  let (modifiers, first) ← modified.lookup base
  if lowHalf modifier = 0 then (jisX0208.place? base).or (jisX0213First.place? base)
  else
    let n ← modifiers.idxOf? (lowHalf modifier)
    return ⟨first.row, first.cell + n⟩

/-! ## Extended codes -/

/-- The bytes of a katakana of half width in an extended code. -/
def extendedKatakana? (c : Char) : Option (List UInt8) :=
  (katakana? c).map fun n => [0x8E, UInt8.ofNat (0xA1 + n)]

/-- The bytes of a place in a set that a byte of its own announces. -/
def Place.announced (p : Place) : List UInt8 := 0x8F :: p.upper

/-- The extended code of JIS X 0208 and JIS X 0212. -/
def eucJp? (c : Char) : Option (List UInt8) :=
  (ascii? c).or <| (extendedKatakana? c).or <| (jisRoman? c).or <|
    ((jisX0208.place? c).map Place.upper).or <| (jisX0212.place? c).map Place.announced

/-- The extended code of JIS X 0213, with what only JIS X 0212 holds. What the second edition added
is not looked up in JIS X 0212 either. -/
def eucJisX0213? (e : Edition) (c : Char) : Option (List UInt8) :=
  if (e.current? c).isNone then none
  else if c = '～' then some (Place.upper ⟨2, 18⟩)
  else
    (ascii? c).or <| (extendedKatakana? c).or <| ((jisX0208.place? c).map Place.upper).or <|
      ((e.first? c).map Place.upper).or <| ((e.second? c).map Place.announced).or <|
        (jisX0212.place? c).map Place.announced

/-! ## Shifted codes -/

/-- The bytes of a place in a shifted code. Two rows share a first byte; the first bytes leave out
those of the katakana, and the second bytes leave out that of the delete character. -/
def Place.shifted (p : Place) : List UInt8 :=
  let pair := (p.row - 1) / 2
  let lead := if pair < 0x1F then 0x81 + pair else 0xC1 + pair
  let trail :=
    if p.row % 2 = 0 then 0x9E + p.cell
    else if p.cell < 0x40 then 0x3F + p.cell
    else 0x40 + p.cell
  [UInt8.ofNat lead, UInt8.ofNat trail]

example : Place.shifted ⟨1, 63⟩ = [0x81, 0x7E] := by decide
example : Place.shifted ⟨1, 64⟩ = [0x81, 0x80] := by decide
example : Place.shifted ⟨38, 92⟩ = [0x93, 0xFA] := by decide
example : Place.shifted ⟨63, 1⟩ = [0xE0, 0x40] := by decide

/-- A katakana of half width is one byte in a shifted code. -/
def shiftedKatakana? (c : Char) : Option (List UInt8) :=
  (katakana? c).map fun n => [UInt8.ofNat (0xA1 + n)]

/-- The shifted code of JIS X 0208. -/
def shiftJis? (c : Char) : Option (List UInt8) :=
  (ascii? c).or <| (shiftedKatakana? c).or <| (jisRoman? c).or <|
    (jisX0208.place? c).map Place.shifted

/-- The single bytes of code page 932 that are no katakana. -/
def cp932Bytes : List (Nat × UInt8) :=
  [(0x80, 0x80), (0xF8F0, 0xA0), (0xF8F1, 0xFD), (0xF8F2, 0xFE), (0xF8F3, 0xFF)]

/-- Code page 932: the shifted code of JIS X 0208 with additions and rows of private use. -/
def cp932? (c : Char) : Option (List UInt8) :=
  (ascii? c).or <| (shiftedKatakana? c).or <| ((cp932Bytes.lookup c.toNat).map ([·])).or <|
    ((jisX0208.place? c).map Place.shifted).or <|
      ((cp932Additions.place? c).map (·.bytes 0)).or <|
        (indexWithin? 0xE000 0xE757 c).map fun n => Place.shifted ⟨95 + n / 94, n % 94 + 1⟩

/-- The rows of the second plane of JIS X 0213, as they follow in a shifted code. -/
def secondRows : List Nat := [1, 8, 3, 4, 5, 12, 13, 14, 15] ++ List.range' 78 17

/-- The bytes of a place in the second plane: its rows follow the first plane without gaps. -/
def Place.shiftedSecond (p : Place) : List UInt8 :=
  Place.shifted ⟨95 + secondRows.idxOf p.row, p.cell⟩

/-- The shifted code of JIS X 0213. Its single bytes are those of the Japanese variant of ASCII, so
that the backslash and the tilde are the wide ones. -/
def shiftJisX0213? (e : Edition) (c : Char) : Option (List UInt8) :=
  if c = '\\' then some (Place.shifted ⟨1, 32⟩)
  else if c = '~' then some (Place.shifted ⟨2, 18⟩)
  else if c = '＼' then none
  else
    (ascii? c).or <| (shiftedKatakana? c).or <| (jisRoman? c).or <|
      ((jisX0208.place? c).map Place.shifted).or <| ((e.first? c).map Place.shifted).or <|
        (e.second? c).map Place.shiftedSecond

end Provisioning.Text.EastAsian
