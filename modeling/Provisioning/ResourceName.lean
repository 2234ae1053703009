import Provisioning.Encoded
import Provisioning.Text.Blank
import Provisioning.Text.Casing
import Provisioning.Text.Search
import Provisioning.Value.Access

/-!
# Names of resources

A resource name holds lower-case ASCII letters, digits and single hyphens between them. A resource
whose template leaves the name empty gets one from the name of its stack, its logical identifier
and the request token, so that every invocation for the same stack operation finds the same name.
-/

set_option autoImplicit false

namespace Provisioning

/-- The characters of a resource name beside the hyphen. -/
def isNameChar (c : Char) : Bool := ('a' ≤ c && c ≤ 'z') || c.isDigit

/-- A character of a resource name: anything that is not allowed becomes a hyphen. -/
def nameChar (c : Char) : Char := if isNameChar c then c else '-'

/-- Replaces every run of hyphens by one hyphen. -/
def collapseHyphens : List Char → List Char
  | [] => []
  | c :: cs =>
    if c = '-' ∧ cs.head? = some '-' then collapseHyphens cs else c :: collapseHyphens cs

/-- The resource name made of the characters of a text. -/
def resourceNameChars (cs : List Char) : List Char :=
  Text.trimBy (· == '-') (collapseHyphens ((cs.flatMap Text.lowerChar).map nameChar))

/-- The resource name made of a text. -/
def toResourceName (s : String) : String := String.ofList (resourceNameChars s.toList)

/-- The name in a stack identifier of the form `arn:…:cloudformation:…:…:stack/name/…`. -/
def stackNameOf? (stackId : String) : Option String :=
  match Text.splitAtChar ':' stackId.toList with
  | scheme :: partition :: service :: _region :: _account :: first :: rest =>
    let resource := Text.joinWith ':' (first :: rest)
    let stem := "stack/".toList
    let name := (resource.drop stem.length).takeWhile (· ≠ '/')
    if scheme = "arn".toList ∧ partition ≠ [] ∧ service = "cloudformation".toList
        ∧ stem.isPrefixOf resource ∧ name ≠ [] ∧ stem.length + name.length < resource.length
    then some (String.ofList name) else none
  | _ => none

/-- The first characters of a text; a negative count is counted from the end. -/
def takeChars (count : Int) (cs : List Char) : List Char :=
  if count < 0 then cs.take (cs.length - count.natAbs) else cs.take count.toNat

/-- Generates names in the form `<stack name>-<logical identifier>-<suffix>`, with at most
`maxLength` characters. -/
structure IdentifierFactory where
  stackName : String
  resource : String
  maxLength : Int

/-- Whether a resource has no name yet: it is absent, or blank. -/
def lacksName : Value → Except Fault Bool
  | .null => .ok true
  | .text name => .ok (Text.isBlank name)
  | v => .error (.noAttribute v.kind "strip")

namespace IdentifierFactory

/-- A stem that starts with a letter: the name of the factory is put in front of any other. -/
def withLetter (f : IdentifierFactory) (stem : List Char) : List Char :=
  match stem with
  | c :: _ => if 'a' ≤ c ∧ c ≤ 'z' then stem else extended
  | [] => extended
where
  extended : List Char := resourceNameChars (f.stackName.toList ++ '-' :: stem)

/-- A stem cut so that a hyphen and the suffix fit behind it. -/
def cut (f : IdentifierFactory) (stem : List Char) : List Char :=
  Text.trimEndBy (· == '-') (takeChars (f.maxLength - Text.shortUidLength - 1) stem)

/-- The name for a stack name and a logical identifier, with a suffix that depends on nothing but
the request token. -/
def name (f : IdentifierFactory) (stackName logicalId token : String) : String :=
  let stem := resourceNameChars (stackName.toList ++ '-' :: logicalId.toList)
  String.ofList (f.cut (f.withLetter stem) ++ '-' :: (Text.shortUid token).toList)

/-- The stack name for a stack identifier: the name in it, or that of the factory. -/
def stackNameFor (f : IdentifierFactory) (stackId : Option String) : String :=
  (stackId.bind stackNameOf?).getD f.stackName

/-- The name for a stack identifier, a logical identifier and a request token, where an empty
logical identifier counts as absent. -/
def newIdentifier (f : IdentifierFactory) (stackId logicalId : Option String) (token : String) :
    String :=
  let logical := match logicalId with
    | some s => if s.isEmpty then f.resource else s
    | none => f.resource
  f.name (f.stackNameFor stackId) logical token

/-- The name for identifiers that come from documents. -/
def newIdentifierFor (f : IdentifierFactory) (stackId logicalId token : Value) :
    Except Fault String := do
  let stack ← match stackId with
    | .text s => pure (some s)
    | v =>
      if v.truthy then
        throw (.wrongType ("expected string or bytes-like object, got '" ++ v.kind ++ "'"))
      else pure none
  let seed ← seedOf token
  return f.newIdentifier stack (if logicalId.truthy then some logicalId.display else none) seed

end IdentifierFactory

end Provisioning
