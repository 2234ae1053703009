import Provisioning.Text.EastAsian.KsX1001

/-!
# Korean encodings

KS X 1001 holds a part of the 11172 syllables. An encoding writes the others by their letters, in an
area of their own, or all by a code that is made of those of their letters.
-/

set_option autoImplicit false

namespace Provisioning.Text.EastAsian

/-- The number of a syllable. -/
def syllable? : Char → Option Nat := indexWithin? 0xAC00 0xD7A3

/-- The leading consonant, the vowel and the trailing consonant of a syllable, by their numbers.
There are 21 vowels, and 27 trailing consonants after the absence of one. -/
def letters (syllable : Nat) : Nat × Nat × Nat :=
  (syllable / 588, syllable / 28 % 21, syllable % 28)

/-- The cells of the leading consonants in the row of letters of KS X 1001. -/
def leadingCells : List Nat :=
  [1, 2, 4, 7, 8, 9, 17, 18, 19, 21, 22, 23, 24, 25, 26, 27, 28, 29, 30]

/-- The cells of the trailing consonants; the filler stands for the absence of one. -/
def trailingCells : List Nat :=
  [52, 1, 2, 3, 4, 5, 6, 7, 9, 10, 11, 12, 13, 14, 15, 16, 17, 18, 20, 21, 22, 23, 24, 26, 27, 28,
   29, 30]

/-- The extended code of KS X 1001. Another syllable is a filler and its three letters. -/
def eucKr? (c : Char) : Option (List UInt8) :=
  (ascii? c).or <| ((ksX1001.place? c).map Place.upper).or <| (syllable? c).map fun n =>
    let (leading, vowel, trailing) := letters n
    [52, leadingCells.getD leading 0, 31 + vowel, trailingCells.getD trailing 0].flatMap
      fun cell => Place.upper ⟨4, cell⟩

/-- The second bytes of code page 949 below those of KS X 1001, in their order. -/
def unifiedTrails : List Nat := List.range' 0x41 26 ++ List.range' 0x61 26 ++ List.range' 0x81 32

/-- All the second bytes of code page 949, in their order. -/
def allTrails : List Nat := unifiedTrails ++ List.range' 0xA1 94

/-- The bytes of a syllable that is not in KS X 1001, by its number among these. They fill the rows
above KS X 1001, and then what is left before its rows. -/
def unifiedHangul (n : Nat) : List UInt8 :=
  let above := 32 * allTrails.length
  if n < above then
    [UInt8.ofNat (0x81 + n / allTrails.length),
     UInt8.ofNat (allTrails.getD (n % allTrails.length) 0)]
  else
    [UInt8.ofNat (0xA1 + (n - above) / unifiedTrails.length),
     UInt8.ofNat (unifiedTrails.getD ((n - above) % unifiedTrails.length) 0)]

/-- Code page 949: the extended code of KS X 1001, with the other syllables in their order. -/
def cp949? (c : Char) : Option (List UInt8) :=
  (ascii? c).or <| ((ksX1001.place? c).map Place.upper).or <| (syllable? c).map fun n =>
    unifiedHangul (n - ksX1001.countBetween 0xAC00 c.toNat)

/-! ## Johab -/

/-- The codes of the vowels in a code that is made of three letters. -/
def vowelCodes : List Nat :=
  [3, 4, 5, 6, 7, 10, 11, 12, 13, 14, 15, 18, 19, 20, 21, 22, 23, 26, 27, 28, 29]

/-- The codes of the trailing consonants; the first one is the absence of one. -/
def trailingCodes : List Nat := List.range' 1 17 ++ List.range' 19 11

/-- Two bytes made of the five-bit codes of three letters. -/
def composed (leading vowel trailing : Nat) : List UInt8 :=
  let code := 0x8000 + 0x400 * leading + 0x20 * vowel + trailing
  [UInt8.ofNat (code / 0x100), UInt8.ofNat (code % 0x100)]

/-- The bytes of a letter by its cell in KS X 1001: a consonant that can lead is a leading one, the
other consonants are trailing, and the letters that are absent are fillers. -/
def composedLetter (cell : Nat) : List UInt8 :=
  if 31 ≤ cell then composed 1 (vowelCodes.getD (cell - 31) 0) 1
  else
    match leadingCells.idxOf? cell with
    | some n => composed (2 + n) 2 1
    | none => composed 1 2 (trailingCodes.getD (trailingCells.idxOf cell) 0)

/-- The bytes of a place of KS X 1001 other than syllables. Two rows share a first byte, symbols and
ideographs apart. -/
def Place.folded (p : Place) : List UInt8 :=
  let row := if p.row < 42 then p.row - 1 else p.row - 42
  let lead := if p.row < 42 then 0xD9 else 0xE0
  let cell := if row % 2 = 0 then p.cell - 1 else p.cell + 93
  [UInt8.ofNat (lead + row / 2), UInt8.ofNat (if cell < 0x4E then 0x31 + cell else 0x43 + cell)]

/-- Johab: all syllables and letters by what they are made of, and the rest of KS X 1001. -/
def johab? (c : Char) : Option (List UInt8) :=
  (ascii? c).or <|
    match syllable? c with
    | some n =>
      let (leading, vowel, trailing) := letters n
      some (composed (2 + leading) (vowelCodes.getD vowel 0) (trailingCodes.getD trailing 0))
    | none => (ksX1001.place? c).map fun p =>
      if p.row = 4 && p.cell < 52 then composedLetter p.cell else p.folded

end Provisioning.Text.EastAsian
