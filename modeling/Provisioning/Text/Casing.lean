import Provisioning.Text.UpperTable

/-!
# Letter case

Upper case is total over Unicode and may lengthen a text. Lower case is kept to what can be seen
in names made of ASCII letters: the two characters outside ASCII whose lower case has an ASCII
letter in it are lowered, all others outside ASCII stay as they are.
-/

set_option autoImplicit false

namespace Provisioning.Text

/-- Whether a code point belongs to a run. -/
def CaseRun.covers (r : CaseRun) (n : Nat) : Bool :=
  r.first ≤ n && n ≤ r.last && (n - r.first) % r.step == 0

/-- The upper case of one character, which may be several characters. -/
def upperChar (c : Char) : List Char :=
  match upperExpansions.lookup c.toNat with
  | some ns => ns.map Char.ofNat
  | none =>
    match upperRuns.find? (·.covers c.toNat) with
    | some r => [Char.ofNat (c.toNat + r.shift).toNat]
    | none => [c]

/-- A text in upper case. -/
def upper (s : String) : String :=
  String.ofList (s.toList.flatMap upperChar)

/-- The lower case of one character as far as it holds ASCII letters: `A` to `Z`, the Kelvin sign,
and the dotted capital I, which keeps its dot as a combining character. -/
def lowerChar (c : Char) : List Char :=
  if c.toNat = 0x130 then ['i', Char.ofNat 0x307]
  else if c.toNat = 0x212A then ['k']
  else [c.toLower]

/-- A text in lower case, as far as its ASCII letters go. -/
def lower (s : String) : String :=
  String.ofList (s.toList.flatMap lowerChar)

end Provisioning.Text
