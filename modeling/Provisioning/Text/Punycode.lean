import Provisioning.Text.Units

/-!
# Punycode

A text as ASCII: its ASCII characters, a hyphen, and then for each other character, by code and
place, how far a decoder has to count from one to the next. The counts are numbers of variable
length in base 36, whose thresholds adapt to the counts before.
-/

set_option autoImplicit false

namespace Provisioning.Text

/-- A digit of base 36: letters first. -/
def base36Digit (n : Nat) : Char :=
  if n < 26 then Char.ofNat (97 + n) else Char.ofNat (22 + n)

/-- The threshold of the digit in position `k`, which counts in steps of 36. -/
def threshold (k bias : Nat) : Nat :=
  if k ≤ bias then 1 else if bias + 26 ≤ k then 26 else k - bias

theorem threshold_pos (k bias : Nat) : 1 ≤ threshold k bias := by
  unfold threshold
  split <;> (try split) <;> omega

/-- A number of variable length from position `k` on; a digit below its threshold is the last. -/
def variableLength (bias k n : Nat) : List Char :=
  if n < threshold k bias then [base36Digit n]
  else
    let above := n - threshold k bias
    let digits := 36 - threshold k bias
    base36Digit (threshold k bias + above % digits)
      :: variableLength bias (k + 36) (above / digits)
termination_by n
decreasing_by
  have := threshold_pos k bias
  have : (n - threshold k bias) / (36 - threshold k bias) ≤ n - threshold k bias :=
    Nat.div_le_self _ _
  omega

/-- Divides a count by 35 until it is at most 455; each division adds 36. -/
def scaledBias (added count : Nat) : Nat :=
  if 455 < count then scaledBias (added + 36) (count / 35) else added + 36 * count / (count + 38)
termination_by count
decreasing_by omega

/-- The bias after a count, where `places` characters are in place. -/
def adapted (first : Bool) (count places : Nat) : Nat :=
  let scaled := count / (if first then 700 else 2)
  scaledBias 0 (scaled + scaled / places)

/-- The state of an encoding: the least code not yet counted to, the count since the last character,
the bias, the number of characters in place, and what is written. -/
structure PunycodeState where
  next : Nat
  count : Nat
  bias : Nat
  places : Nat
  written : List Char

/-- Passes one character of the text on the way to all characters with a code. -/
def PunycodeState.pass (ascii code : Nat) (s : PunycodeState) (c : Char) : PunycodeState :=
  if codeOf c < code then { s with count := s.count + 1 }
  else if codeOf c = code then
    { s with
      count := 0
      bias := adapted (s.places == ascii) s.count (s.places + 1)
      places := s.places + 1
      written := s.written ++ variableLength s.bias 36 s.count }
  else s

/-- Passes the whole text to write all characters with a code. -/
def PunycodeState.insert (ascii : Nat) (cs : List Char) (s : PunycodeState) (code : Nat) :
    PunycodeState :=
  let s := { s with count := s.count + (code - s.next) * (s.places + 1) }
  let s := cs.foldl (PunycodeState.pass ascii code) s
  { s with count := s.count + 1, next := code + 1 }

/-- Characters in Punycode. -/
def punycode (cs : List Char) : List Char :=
  let basic := cs.filter (codeOf · < 128)
  let codes := ((cs.map codeOf).filter (128 ≤ ·)).eraseDups.mergeSort
  let last := codes.foldl (PunycodeState.insert basic.length cs) ⟨128, 0, 72, basic.length, []⟩
  (if basic.isEmpty then [] else basic ++ ['-']) ++ last.written

end Provisioning.Text
