import Provisioning.Fault
import Provisioning.Text.Encoding
import Provisioning.Text.UniqueId

/-!
# Encoding by name

A text is encoded in an encoding given by name, and what the encoding cannot hold is replaced by a
rule given by name. A name is looked up only when it is needed: that of the rule, when there is a
character to replace.
-/

set_option autoImplicit false

namespace Provisioning

/-- The lookup of a name failed. -/
def Fault.unknownName (message : String) : Fault := .ofClass "LookupError" message

/-- A text cannot be encoded. -/
def Fault.notEncodable (message : String) : Fault := .ofClass "UnicodeEncodeError" message

/-- The place of the first surrogate of a text and how many follow one another there. -/
def surrogateRun? (cs : List Char) : Option (Nat × Nat) :=
  let isLone := fun c => (Text.surrogate? c).isSome
  (cs.findIdx? isLone).map fun start => (start, ((cs.drop start).takeWhile isLone).length)

/-- A text that can be written in UTF-8, which is one without surrogates. -/
def requireUtf8 (text : String) : Except Fault Unit :=
  let cs := text.toList
  match surrogateRun? cs with
  | none => .ok ()
  | some (start, count) =>
    let place :=
      if count = 1 then
        " '" ++ String.ofList (Text.escapeCode (Text.codeOf (cs.getD start 'a'))) ++
          "' in position " ++ toString start
      else "s in position " ++ toString start ++ "-" ++ toString (start + count - 1)
    .error (.notEncodable ("'utf-8' codec can't encode character" ++ place ++
      ": surrogates not allowed"))

/-- A name that is looked up: a text without null characters. -/
def lookupName : Value → Except Fault String
  | .text name =>
    do
      requireUtf8 name
      if name.toList.contains (Char.ofNat 0) then throw (.badValue "embedded null character")
      return name
  | v => .error (.wrongType ("name must be str, not " ++ v.kind))

/-- The seed of an identifier: a text that can be written in UTF-8. -/
def seedOf : Value → Except Fault String
  | .text s => do
    requireUtf8 s
    return s
  | _ => .error (.wrongType "object supporting the buffer API required")

/-- The short identifier of a seed that comes from a document. -/
def shortUidOf (seed : Value) : Except Fault String := return Text.shortUid (← seedOf seed)

/-- The encoding of a name. -/
def encodingNamed (name : String) : Except Fault Text.Encoding :=
  match Text.Encoding.ofName? name, Text.ownName? Text.otherEncodings name with
  | some e, _ => .ok e
  | none, some _ =>
    .error (.unknownName ("'" ++ name ++ "' is not a text encoding; use codecs.encode() to handle "
      ++ "arbitrary codecs"))
  | none, none => .error (.unknownName ("unknown encoding: " ++ name))

/-- The bytes of a text in an encoding, with a rule for what the encoding cannot hold. -/
def encoded (text : String) (encoding rule : Value) : Except Fault (List UInt8) := do
  let encodingName ← lookupName encoding
  let ruleName ← lookupName rule
  let e ← encodingNamed encodingName
  if e = .undefined then throw (.ofClass "UnicodeError" "undefined encoding")
  if e = .domainName then
    if ruleName ≠ "strict" then
      throw (.ofClass "UnicodeError" ("unsupported error handling " ++ ruleName))
    match Text.encode? e .refuse text with
    | some bytes => return bytes
    | none => throw (.ofClass "UnicodeError" "a label cannot be encoded")
  match Text.Substitution.ofName? ruleName, Text.encode? e .refuse text with
  | _, some bytes => return bytes
  | none, none => throw (.unknownName ("unknown error handler name '" ++ ruleName ++ "'"))
  | some s, none =>
    match Text.encode? e s text with
    | some bytes => return bytes
    | none => throw (.notEncodable "a character cannot be encoded")

end Provisioning
