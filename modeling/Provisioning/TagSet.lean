import Provisioning.Value.Access

/-!
# Tag sets

The tags of a resource come from three sources: system tags, the tags of the stack, and those that
the resource itself declares. A tag set keeps them apart. Its flat view is one mapping in which the
resource wins over the stack and the stack over the system.
-/

set_option autoImplicit false

namespace Provisioning

/-- Tags by key. -/
abbrev Tags := Entries Value Value

/-- The tags of a resource by source. -/
structure TagSet where
  system : Tags := []
  stack : Tags := []
  resource : Tags := []

namespace TagSet

/-- The tag set without tags. -/
def empty : TagSet := {}

def isEmpty (t : TagSet) : Bool := t.system.isEmpty && t.stack.isEmpty && t.resource.isEmpty

/-- All tags in one mapping. -/
def flat (t : TagSet) : Tags := (t.system.merge t.stack).merge t.resource

/-- The tags that the user asked for. -/
def withoutSystem (t : TagSet) : TagSet := { stack := t.stack, resource := t.resource }

/-- The system tags alone. -/
def onlySystem (t : TagSet) : TagSet := { system := t.system }

/-- The tags of one source that are no longer desired. -/
def removed (desired tags : Tags) : Tags := tags.filter fun (k, _) => !desired.has k

/-- The tags of one source that were not there before, or had another value. -/
def added (previous tags : Tags) : Tags :=
  tags.filter fun (k, v) => !(previous.get? k).any (· == v)

/-- What to remove from a resource and what to add to it, to go from the previous tags to the
desired ones. Keys and values are compared on the flat views; the result keeps the sources. -/
def diff (previous desired : TagSet) : TagSet × TagSet :=
  let before := previous.flat
  let after := desired.flat
  ({ system := removed after previous.system, stack := removed after previous.stack
     resource := removed after previous.resource },
   { system := added before desired.system, stack := added before desired.stack
     resource := added before desired.resource })

end TagSet

/-! ## Tags as documents -/

/-- Tags as a list of pairs, which keeps their order. -/
def Tags.toPairs (tags : Tags) : Value := .list (tags.map fun (k, v) => .list [k, v])

/-- A tag set as a document: the tags of each source as a list of pairs. -/
def TagSet.toValue (t : TagSet) : Value :=
  .map [("system", t.system.toPairs), ("stack", t.stack.toPairs),
    ("resource", t.resource.toPairs)]

/-! ## Tag lists -/

/-- A tag as the service takes it. -/
def tagValue (key value : Value) : Value := .map [("Key", key), ("Value", value)]

/-- Tags as the list that the service takes. -/
def Tags.toList (tags : Tags) : List Value := tags.map fun (k, v) => tagValue k v

/-- The key and the value of a tag; the value may be absent. -/
def readTag (tag : Value) : Except Fault (Value × Value) := do
  let key ← tag.require "Key"
  let value ← tag.get "Value"
  key.checkKey
  return (key, value)

/-- The tags of a list of tags, where the last tag of a key counts. -/
def Tags.ofList (tags : List Value) : Except Fault Tags :=
  return Entries.ofList (← tags.mapM readTag)

/-- The tags of a document that is a list of tags, or nothing. -/
def Tags.ofValue (v : Value) : Except Fault Tags := do
  if v.truthy then Tags.ofList (← v.iterate) else return []

/-- The tags of a document that is a mapping. -/
def Tags.ofMap (v : Value) : Except Fault Tags := return (← v.spread).map fun (k, x) => (.text k, x)

/-- The tags of a resource as a request brings them along: the tags of the system and of the stack
are documents, which are read when they are used, so that it does no harm if one that is not used is
no mapping. -/
structure TagSources where
  system : Value
  stack : Value
  resource : Tags

namespace TagSources

/-- All tags. -/
def all (t : TagSources) : Except Fault TagSet := do
  return { system := ← Tags.ofMap t.system, stack := ← Tags.ofMap t.stack, resource := t.resource }

/-- The tags that the user asked for. -/
def withoutSystem (t : TagSources) : Except Fault TagSet := do
  return { stack := ← Tags.ofMap t.stack, resource := t.resource }

end TagSources

/-- All tags of a set as the list that the service takes. -/
def TagSet.toSdkTags (t : TagSet) : List Value := Tags.toList t.flat

end Provisioning
