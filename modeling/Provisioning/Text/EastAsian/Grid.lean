/-!
# Grids of characters

The sets of characters of East Asian scripts are grids of rows and cells. In the sets of national
standards both are numbered from 1 to 94, and the code of a character is its row and its cell, each
moved by a constant. A grid is kept as runs of characters in neighbouring cells of a row.
-/

set_option autoImplicit false

namespace Provisioning.Text.EastAsian

/-- Characters in neighbouring cells of a row, from a first cell on. -/
structure Run where
  row : Nat
  first : Nat
  chars : String
  deriving DecidableEq, Repr

/-- A set of characters, in rows and cells. -/
abbrev Grid := List Run

/-- A row and a cell of a grid. -/
structure Place where
  row : Nat
  cell : Nat
  deriving DecidableEq, Repr

/-- The place of a character in a run. -/
def Run.place? (r : Run) (c : Char) : Option Place :=
  (r.chars.toList.idxOf? c).map fun n => ⟨r.row, r.first + n⟩

/-- The place of a character in a grid. -/
def Grid.place? (g : Grid) (c : Char) : Option Place := g.findSome? (·.place? c)

/-- How many characters of a grid have a code between two bounds, the upper one excluded. -/
def Grid.countBetween (g : Grid) (low high : Nat) : Nat :=
  g.foldl (fun n r => n + r.chars.toList.countP fun c => low ≤ c.toNat && c.toNat < high) 0

/-- The row and the cell of a place as bytes, each moved by an offset. -/
def Place.bytes (p : Place) (offset : Nat) : List UInt8 :=
  [UInt8.ofNat (p.row + offset), UInt8.ofNat (p.cell + offset)]

/-- The codes of a place in the printable part of ASCII. -/
def Place.lower (p : Place) : List UInt8 := p.bytes 0x20

/-- The codes of a place above ASCII. -/
def Place.upper (p : Place) : List UInt8 := p.bytes 0xA0

/-- A character of ASCII is one byte. -/
def ascii? (c : Char) : Option (List UInt8) :=
  if c.toNat < 0x80 then some [UInt8.ofNat c.toNat] else none

/-- The code of a character, if it lies between two bounds, counted from the lower one. -/
def indexWithin? (low high : Nat) (c : Char) : Option Nat :=
  if low ≤ c.toNat && c.toNat ≤ high then some (c.toNat - low) else none

end Provisioning.Text.EastAsian
