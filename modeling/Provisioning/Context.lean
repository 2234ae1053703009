import Provisioning.Value.Access

/-!
# Callback contexts

A callback context is the record that travels with a resource between two invocations of its
handler. It has the fields that its kind declares, and it remembers fields beside them only as long
as the invocation lasts. Fields grow monotonically: a field that is set is never unset again.
-/

set_option autoImplicit false

namespace Provisioning

/-- A kind of callback contexts: its name in messages, and its declared fields with their initial
values. No field is declared twice. -/
structure ContextKind where
  className : String
  fields : Entries String Value
  distinct : fields.Distinct := by simp [Entries.Distinct]

namespace ContextKind

/-- The context of a provider that keeps nothing between invocations. -/
def plain : ContextKind where
  className := "CallbackContext"
  fields := []

/-- What is kept while an integration is provisioned. -/
def integration : ContextKind where
  className := "IntegrationCallbackContext"
  fields :=
    [("create_complete", .bool false), ("add_tags_complete", .bool false),
     ("modify_complete", .bool false), ("update_tags_complete", .bool false),
     ("delete_complete", .bool false), ("integration_arn", .null),
     ("stabilization_started_at", .null)]

/-- What is kept while a parameter group is provisioned. -/
def parameterGroup : ContextKind where
  className := "DBParameterGroupCallbackContext"
  fields :=
    [("create_complete", .bool false), ("add_tags_complete", .bool false),
     ("parameters_applied", .bool false), ("update_tags_complete", .bool false),
     ("db_parameter_group_arn", .null)]

end ContextKind

/-- Null and false count as unset; zero and what is empty count as set. -/
def isUnset : Value → Bool
  | .null => true
  | .bool false => true
  | _ => false

/-- A callback context: its kind, its declared fields, and the fields beside them. -/
structure Context where
  kind : ContextKind
  declared : Entries String Value
  extra : Entries String Value := []

namespace Context

/-- The context of a kind before anything is done. -/
def initial (kind : ContextKind) : Context := { kind, declared := kind.fields }

/-- The value of a field, declared or not. -/
def get? (c : Context) (field : String) : Option Value :=
  (c.declared.get? field).or (c.extra.get? field)

/-- The value of a field that has to be there. -/
def get (c : Context) (field : String) : Except Fault Value :=
  match c.get? field with
  | some v => .ok v
  | none => .error (.noAttribute c.kind.className field)

/-- Writes a field without a check. -/
def put (c : Context) (field : String) (v : Value) : Context :=
  if c.declared.has field then { c with declared := c.declared.insert field v }
  else { c with extra := c.extra.insert field v }

/-- Whether writing a value would unset a field. -/
def unsets (c : Context) (field : String) (v : Value) : Bool :=
  (c.get? field).any (!isUnset ·) && isUnset v

/-- Writes a field, unless that would unset it. -/
def set (c : Context) (field : String) (v : Value) : Except Fault Context :=
  if c.unsets field v then
    .error (.badValue ("Callback context field " ++ field ++ " cannot be reset once set"))
  else .ok (c.put field v)

/-- Whether a field counts as true. -/
def flag (c : Context) (field : String) : Except Fault Bool := return (← c.get field).truthy

/-- The declared fields as a document. -/
def toValue (c : Context) : Value := .map c.declared

/-- The context of a kind with the declared fields that a document has; anything that counts as
false stands for no document. -/
def ofValue (kind : ContextKind) (data : Value) : Except Fault Context := do
  if data.truthy then
    let given ← data.entries
    let declared := kind.fields.map fun (field, v) => (field, (given.get? field).getD v)
    return { kind, declared }
  else return initial kind

/-- The context that is left of one after it has travelled. -/
def travelled (c : Context) : Context := { c with extra := [] }

end Context

end Provisioning
