import Provisioning.Text.Search

/-!
# Short names of loggers

A logger name that is too long is shortened from the front: its leading segments are cut down to
their first letter, until the name fits.
-/

set_option autoImplicit false

namespace Provisioning.Logging

open Text

/-- The first letter of every segment; an empty segment has none. -/
def initials (segments : List (List Char)) : Option (List (List Char)) :=
  segments.mapM fun
    | [] => none
    | c :: _ => some [c]

/-- Goes through the segments from the last one on. `used` is the length of the name in which the
segments seen so far are whole and all others are cut to one letter. A segment stays whole as long
as the name fits; a last segment that does not fit is cut to what is left. -/
def keepWhole (length : Int) (isLast : Bool) (used : Int) :
    List (List Char) → Option (List (List Char))
  | [] => some []
  | segment :: rest =>
    let used' := used + (segment.length - 1)
    if used' > length then do
      let letters ← initials (segment :: rest)
      if isLast && used < length then
        return segment.take (length - used + 1).toNat :: letters.drop 1
      else return letters
    else return segment :: (← keepWhole length false used' rest)

/-- A name in at most `length` characters, as far as one letter for every segment allows; `none`
if an empty segment would have to be cut to its first letter. -/
def compress? (name : String) (length : Int) : Option String :=
  let cs := name.toList
  if cs.length ≤ length then some name
  else do
    let segments := splitAtChar '.' cs
    let kept ← keepWhole length true (2 * segments.length - 1) segments.reverse
    return String.ofList (joinWith '.' kept.reverse)

end Provisioning.Logging
