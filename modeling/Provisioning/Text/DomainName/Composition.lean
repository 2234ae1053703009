import Provisioning.Text.DomainName.MarkTable

/-!
# Bases and marks

Characters that are taken apart into a base and marks are put into one form: the marks that do not
touch each other are ordered by their classes, and then each base takes up the marks with which it
makes another character.
-/

set_option autoImplicit false

namespace Provisioning.Text.DomainName

/-- The class of a mark; bases have the class 0. -/
def combiningClass (c : Char) : Nat :=
  ((markRanges.find? fun r => r.1 ≤ c.toNat && c.toNat ≤ r.2.1).map (·.2.2)).getD 0

/-! ## Order of marks -/

/-- Puts a character before others, but a mark behind the marks of lower classes. -/
def insertMark (c : Char) : List Char → List Char
  | [] => [c]
  | d :: rest =>
    if 0 < combiningClass d && combiningClass d < combiningClass c then d :: insertMark c rest
    else c :: d :: rest

/-- Characters with their marks ordered by class. -/
def ordered (cs : List Char) : List Char := cs.foldr insertMark []

/-! ## Hangul -/

/-- The code of a leading consonant, of a vowel and of what is before the trailing consonants. -/
def firstLeading : Nat := 0x1100

/-- The code of the first vowel. -/
def firstVowel : Nat := 0x1161

/-- The code before that of the first trailing consonant. -/
def beforeTrailing : Nat := 0x11A7

/-- The letters of a syllable by its number. -/
def lettersOfSyllable (n : Nat) : List Char :=
  [Char.ofNat (firstLeading + n / 588), Char.ofNat (firstVowel + n / 28 % 21)] ++
    if n % 28 = 0 then [] else [Char.ofNat (beforeTrailing + n % 28)]

/-- The number of a leading consonant. -/
def leading? (c : Char) : Option Nat :=
  if firstLeading ≤ c.toNat && c.toNat < firstLeading + 19 then some (c.toNat - firstLeading)
  else none

/-- The number of a vowel. -/
def vowel? (c : Char) : Option Nat :=
  if firstVowel ≤ c.toNat && c.toNat < firstVowel + 21 then some (c.toNat - firstVowel) else none

/-- The number of a trailing consonant. -/
def trailing? (c : Char) : Option Nat :=
  if beforeTrailing < c.toNat && c.toNat < beforeTrailing + 28 then some (c.toNat - beforeTrailing)
  else none

/-- The syllable of a leading consonant and a vowel by their numbers. -/
def openSyllable (leading vowel : Nat) : Char :=
  Char.ofNat (0xAC00 + (leading * 21 + vowel) * 28)

/-- Whether a syllable ends in its vowel. -/
def isOpen (c : Char) : Bool :=
  0xAC00 ≤ c.toNat && c.toNat < 0xD7A4 && (c.toNat - 0xAC00) % 28 == 0

/-! ## Composition -/

/-- The character that two characters make, where the second is a mark or a letter of Hangul. -/
def pair? (a b : Char) : Option Char :=
  match leading? a, vowel? b, trailing? b with
  | some l, some v, _ => some (openSyllable l v)
  | _, _, some t => if isOpen a then some (Char.ofNat (a.toNat + t)) else none
  | _, _, _ =>
    (marked.findSome? fun (mark, bases, composites) =>
      if mark = b.toNat then
        (bases.toList.idxOf? a).bind fun n => composites.toList[n]?
      else none).or <|
    (markedAbove.find? fun m => m.1 == a.toNat && m.2.1 == b.toNat).map fun m => Char.ofNat m.2.2

/-- Lets a base take up what it can of the characters behind it; `passed` is the class of the last
mark that stayed. A mark is kept from the base by one of its own class or a higher one, and what is
behind another base is out of reach. -/
def absorb (base : Char) (passed : Nat) : List Char → Char × List Char
  | [] => (base, [])
  | c :: rest =>
    let k := combiningClass c
    if passed ≠ 0 ∧ k = 0 then (base, c :: rest)
    else if passed ≠ 0 ∧ k ≤ passed then
      let (composite, left) := absorb base passed rest
      (composite, c :: left)
    else
      match pair? base c with
      | some composite => absorb composite passed rest
      | none =>
        if k = 0 then (base, c :: rest)
        else
          let (composite, left) := absorb base k rest
          (composite, c :: left)

theorem length_absorb_le (base : Char) (passed : Nat) (cs : List Char) :
    (absorb base passed cs).2.length ≤ cs.length := by
  induction cs generalizing base passed with
  | nil => simp [absorb]
  | cons c rest ih =>
    unfold absorb
    dsimp only
    split
    · exact Nat.le_refl _
    · split
      · simpa using ih base passed
      · split
        · exact Nat.le_succ_of_le (ih _ _)
        · split
          · exact Nat.le_refl _
          · simpa using ih base _

/-- Characters in which every base has taken up what it can. -/
def composed : List Char → List Char
  | [] => []
  | c :: rest => (absorb c 0 rest).1 :: composed (absorb c 0 rest).2
termination_by cs => cs.length
decreasing_by exact Nat.lt_succ_of_le (length_absorb_le c 0 rest)

end Provisioning.Text.DomainName
