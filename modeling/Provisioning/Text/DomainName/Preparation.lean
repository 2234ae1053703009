import Provisioning.Text.DomainName.Composition
import Provisioning.Text.DomainName.FoldedTable
import Provisioning.Text.DomainName.Ranges
import Provisioning.Text.Search

/-!
# Preparing labels of domain names

Two labels are the same if they are prepared alike: folded, and with bases and marks in one form.
-/

set_option autoImplicit false

namespace Provisioning.Text.DomainName

/-- What a character counts as in the table of runs. -/
def foldedInRuns? (c : Char) : Option (List Char) := do
  let (first, entries) ← (foldedRuns.filter (·.1 ≤ c.toNat)).getLast?
  (splitAtChar '\n' entries.toList)[c.toNat - first]?

/-- What a character above ASCII counts as, if it does not count as itself. -/
def folded? (c : Char) : Option (List Char) :=
  let n := c.toNat
  if casePairs.any fun r => r.1 ≤ n && n ≤ r.2 && (n - r.1) % 2 == 0 then some [Char.ofNat (n + 1)]
  else
    ((shiftedRanges.find? fun r => r.1 ≤ n && n ≤ r.2.1).map fun r =>
      [Char.ofNat (n + r.2.2 : Int).toNat]).or <|
    ((foldedAbove.lookup n).map (·.map Char.ofNat)).or <|
    if 0xAC00 ≤ n && n < 0xD7A4 then some (lettersOfSyllable (n - 0xAC00)) else foldedInRuns? c

/-- What a character counts as, taken apart. -/
def folded (c : Char) : List Char :=
  if c.toNat < 0x80 then [c.toLower] else (folded? c).getD [c]

/-- Whether a character is in one of some ranges. -/
def isWithin (ranges : List (Nat × Nat)) (c : Char) : Bool :=
  ranges.any fun r => r.1 ≤ c.toNat && c.toNat ≤ r.2

/-- Whether the characters of a label can be in one: none of them is refused, and a label with
characters that are written from right to left begins and ends with such and has none of the other
direction. -/
def isAccepted (label : List Char) : Bool :=
  let isRight := isWithin rightToLeftRanges
  !label.any (isWithin refusedRanges) &&
    (!label.any isRight ||
      (!label.any (isWithin leftToRightRanges) && label.head?.any isRight &&
        label.getLast?.any isRight))

/-- A label in the form in which labels are compared. -/
def prepared? (label : List Char) : Option (List Char) :=
  let cs := composed (ordered (label.flatMap folded))
  if isAccepted cs then some cs else none

end Provisioning.Text.DomainName
