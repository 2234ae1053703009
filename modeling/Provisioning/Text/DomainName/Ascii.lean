import Provisioning.Text.DomainName.Preparation
import Provisioning.Text.Punycode

/-!
# Domain names in ASCII

A domain name is written in ASCII label by label: a label that is not ASCII is prepared, and what is
then still not ASCII is written in Punycode behind a prefix.
-/

set_option autoImplicit false

namespace Provisioning.Text.DomainName

/-- Whether characters are all of ASCII. -/
def isAscii (cs : List Char) : Bool := cs.all (·.toNat < 0x80)

/-- The characters that part the labels of a domain name. -/
def dots : List Char := ['.', '。', '．', '｡']

/-- The labels of a domain name. -/
def labels (cs : List Char) : List (List Char) :=
  splitAtChar '.' (cs.map fun c => if dots.contains c then '.' else c)

/-- A label that is neither empty nor too long. -/
def sized? (label : List Char) : Option (List Char) :=
  if 0 < label.length && label.length < 64 then some label else none

/-- The prefix of a label in Punycode. -/
def acePrefix : List Char := ['x', 'n', '-', '-']

/-- A label in ASCII. -/
def asciiLabel? (label : List Char) : Option (List Char) :=
  if isAscii label then sized? label
  else do
    let cs ← prepared? label
    if isAscii cs then sized? cs
    else if acePrefix.isPrefixOf cs then none
    else sized? (acePrefix ++ punycode cs)

/-- A domain name in ASCII. One that is ASCII stays as it is, if its labels have the right sizes;
the last label may be empty. -/
def ascii? (cs : List Char) : Option (List Char) :=
  if isAscii cs then
    let parts := labels cs
    if parts.dropLast.all (sized? · |>.isSome) && (parts.getLastD []).length < 64 then some cs
    else none
  else
    let parts := labels cs
    let hasEnd := parts.getLastD [] == []
    let named := if hasEnd then parts.dropLast else parts
    (named.mapM asciiLabel?).map fun ls => joinWith '.' ls ++ if hasEnd then ['.'] else []

end Provisioning.Text.DomainName
