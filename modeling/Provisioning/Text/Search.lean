/-!
# Searching and splitting text

Searching and splitting over lists of characters, by recursion on the text.
-/

set_option autoImplicit false

namespace Provisioning.Text

/-- Whether `pattern` occurs in `cs` as consecutive characters. -/
def occursIn (pattern : List Char) : (cs : List Char) → Bool
  | [] => pattern.isEmpty
  | c :: cs => pattern.isPrefixOf (c :: cs) || occursIn pattern cs

/-- Whether a text contains another one. -/
def contains (text pattern : String) : Bool :=
  occursIn pattern.toList text.toList

theorem contains_self (text : String) : contains text text = true := by
  unfold contains
  cases text.toList with
  | nil => rfl
  | cons c cs => simp [occursIn]

/-- The segments of a text between the occurrences of a separator; never empty. -/
def splitAtChar (sep : Char) : (cs : List Char) → List (List Char)
  | [] => [[]]
  | c :: cs =>
    if c = sep then [] :: splitAtChar sep cs
    else match splitAtChar sep cs with
      | [] => [[c]]
      | segment :: rest => (c :: segment) :: rest

/-- Segments joined by a separator. -/
def joinWith (sep : Char) : List (List Char) → List Char
  | [] => []
  | [segment] => segment
  | segment :: rest => segment ++ sep :: joinWith sep rest

theorem splitAtChar_ne_nil (sep : Char) (cs : List Char) : splitAtChar sep cs ≠ [] := by
  cases cs with
  | nil => simp [splitAtChar]
  | cons c cs =>
    by_cases h : c = sep
    · simp [splitAtChar, h]
    · simp only [splitAtChar, h, if_false]
      split <;> simp

/-- Joining the segments of a text gives the text back. -/
theorem joinWith_splitAtChar (sep : Char) (cs : List Char) :
    joinWith sep (splitAtChar sep cs) = cs := by
  induction cs with
  | nil => rfl
  | cons c cs ih =>
    rcases hs : splitAtChar sep cs with _ | ⟨segment, rest⟩
    · exact absurd hs (splitAtChar_ne_nil sep cs)
    · rw [hs] at ih
      by_cases h : c = sep
      · simp [splitAtChar, h, hs, joinWith, ih]
      · cases rest <;> simp_all [splitAtChar, joinWith]

end Provisioning.Text
