import Provisioning.TagSet

/-!
# Models and requests of integrations

Pure mappings between the model of an integration and the requests and responses of the service.
-/

set_option autoImplicit false

namespace Provisioning.Integration

/-- The type name of an integration. -/
def typeName : String := "AWS::RDS::Integration"

/-- The properties that a modify request can change. -/
def updatableProperties : List String := ["IntegrationName", "Description", "DataFilter"]

/-- The properties that cannot change once an integration is created. -/
def createOnlyProperties : List String :=
  ["SourceArn", "TargetArn", "KMSKeyId", "AdditionalEncryptionContext"]

/-- The properties that a model takes over from a response. -/
def reportedProperties : List String :=
  ["IntegrationName", "IntegrationArn", "SourceArn", "TargetArn", "KMSKeyId",
   "AdditionalEncryptionContext", "Description", "DataFilter"]

/-- The entries that are not null. -/
def present (entries : Entries String Value) : Entries String Value :=
  entries.filter fun e => !e.2.isNull

/-- What an integration is looked up by: its ARN, else its name. -/
def identifier (model : Value) : Except Fault Value := do
  return (← model.get "IntegrationArn").orElse (← model.get "IntegrationName")

/-- A list as a document, or null if it is empty. -/
def listOrNull (items : List Value) : Value := if items.isEmpty then .null else .list items

/-- The request that creates an integration with tags. -/
def createRequest (model : Value) (tags : TagSet) : Except Fault (Entries String Value) := do
  return present
    [("SourceArn", ← model.get "SourceArn"),
     ("TargetArn", ← model.get "TargetArn"),
     ("IntegrationName", ← model.get "IntegrationName"),
     ("KMSKeyId", ← model.get "KMSKeyId"),
     ("AdditionalEncryptionContext", (← model.get "AdditionalEncryptionContext").orElse .null),
     ("Description", ← model.get "Description"),
     ("DataFilter", ← model.get "DataFilter"),
     ("Tags", listOrNull tags.toSdkTags)]

/-- The request that looks up or deletes one integration. -/
def identifyRequest (model : Value) : Except Fault (Entries String Value) := do
  return [("IntegrationIdentifier", ← identifier model)]

/-- The updatable properties that a model declares with another value than before. -/
def changedProperties (previous desired : Value) : Except Fault (Entries String Value) := do
  let previous := previous.orElse (.map [])
  let changed ← updatableProperties.mapM fun key => do
    if ← (Value.text key).occursIn desired then
      let value ← desired.get key
      if value == (← previous.get key) then return none else return some (key, value)
    else return none
  return changed.filterMap id

/-- The request that modifies an integration: only properties that changed are part of it. -/
def modifyRequest (previous desired : Value) : Except Fault (Entries String Value) := do
  return ("IntegrationIdentifier", ← identifier desired) :: (← changedProperties previous desired)

/-- The request for one page of integrations. -/
def listRequest (nextToken : Value) : Entries String Value := present [("Marker", nextToken)]

/-- A date as its text, anything else as it is. -/
def dateAsText : Value → Value
  | .date d => .text d.iso
  | v => v

/-- The model of an integration in a response. -/
def modelOf (integration : Value) : Except Fault Value := do
  let entries ← integration.entries
  let selected := entries.filter fun e => reportedProperties.contains e.1
  let createTime ← integration.get "CreateTime"
  let created := if createTime.truthy then [("CreateTime", dateAsText createTime)] else []
  let tags := (entries.get? "Tags").toList.map fun tags => ("Tags", tags)
  return .map (selected ++ created ++ tags)

/-- The model of the first integration in a response; null if there is none. -/
def firstModelOf (response : Value) : Except Fault Value := do
  let integrations ← response.get "Integrations"
  if integrations.truthy then modelOf (← integrations.first) else return .null

end Provisioning.Integration
