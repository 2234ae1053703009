import Provisioning.Text.Search

/-!
# How names of characters are kept

Characters that follow each other often have names that share words. A name is kept as the number of
words that it takes over from the front of the name before it, the words of its own, and the number
of words that it takes over from the end.
-/

set_option autoImplicit false

namespace Provisioning.Text

/-- Names of characters that follow each other from a first one on, several to a line with
semicolons between them. An entry is empty where a character has no name; else it is a digit, words,
and, if words are taken over from the end, a slash with another digit. -/
structure NameBlock where
  first : Nat
  lines : List String

/-- The words of a name. -/
abbrev Words := List (List Char)

/-- The number of a decimal digit; other characters count as zero. -/
def digitNumber (c : Char) : Nat := if c.isDigit then c.toNat - 48 else 0

/-- The words of the name of an entry, where `before` is the name before it. -/
def wordsOfEntry (before : Words) : List Char → Words
  | [] => before
  | front :: rest =>
    let parts := splitAtChar '/' rest
    let own := parts.headD []
    let back := (parts.getD 1 []).head?.elim 0 digitNumber
    before.take (digitNumber front) ++ (if own.isEmpty then [] else splitAtChar ' ' own) ++
      before.drop (before.length - back)

/-- The words of the name of the last of some entries. -/
def wordsOfLast (before : Words) (entries : List (List Char)) : Words :=
  entries.foldl wordsOfEntry before

/-- The entries of a block. -/
def NameBlock.entries (b : NameBlock) : List (List Char) :=
  b.lines.flatMap fun line => splitAtChar ';' line.toList

/-- The name of the character with a code, if the block has it. -/
def NameBlock.name? (b : NameBlock) (code : Nat) : Option String := do
  let entries := b.entries.take (code - b.first + 1)
  let last ← entries[code - b.first]?
  if last.isEmpty then none else some (String.ofList (joinWith ' ' (wordsOfLast [] entries)))

example : wordsOfEntry [['A'], ['B'], ['C']] ['1', 'X', '/', '1'] = [['A'], ['X'], ['C']] := by
  decide

end Provisioning.Text
