import Provisioning.Batches
import Provisioning.Integration.Provider
import Provisioning.ParameterGroup.Rules
import Provisioning.ParameterGroup.Model

/-!
# The provider of parameter groups

A parameter group exists as soon as its create request returns, so no operation on it is ever
suspended. Its parameters are changed in batches: those no longer declared are reset, and those
declared with another value than the current one are set.
-/

set_option autoImplicit false

namespace Provisioning.ParameterGroup

open Handler
open Integration (requireUnchanged inherit listed listRequest)

/-- Generates names of parameter groups. -/
def names : IdentifierFactory := ⟨defaultStackName, "dbparametergroup", 255⟩

/-- The most parameters that one request may change. -/
def maxParametersPerRequest : Nat := 20

/-- The field of the callback context that holds the ARN. -/
def arnField : String := "db_parameter_group_arn"

/-- The event for a fault. -/
def recover : Recovery := Event.ofFault (some rules)

/-- Looks up the parameter group of a model. -/
def describe (model : Value) : Handler Value := do
  let name ← lift (model.get "DBParameterGroupName")
  let arguments ← lift (nameRequest model)
  lookUp "describe_db_parameter_groups" arguments "DBParameterGroups" "DBParameterGroupNotFound"
    (.handler (.notFound typeName name))

/-- The parameter group of a model and the answer about its tags. -/
def describeWithTags (model : Value) : Handler (Value × Value) := do
  let group ← describe model
  let arn ← lift (group.require "DBParameterGroupArn")
  return (group, ← call "list_tags_for_resource" [("ResourceName", arn)])

/-- Reports the parameter group of a model with its tags. The service knows all parameters of the
family, so the declared ones are kept. -/
def readStep : Step := fun progress => do
  match ← attempt (describeWithTags progress.model) with
  | .error fault => lift (recover progress fault)
  | .ok (group, tags) =>
    let found ← lift (modelOf group)
    let declared ← lift (progress.model.get "Parameters")
    let found ← lift (if declared.isNull then .ok found else found.set "Parameters" declared)
    let tagList := (← lift (tags.get "TagList")).orElse (.list [])
    return .success (← lift (found.set "Tags" tagList))

/-! ## Parameters -/

/-- Adds a parameter of a page to what the service reports. -/
def addReported (current : Reported) (parameter : Value) : Except Fault Reported := do
  let name ← parameter.require "ParameterName"
  name.checkKey
  return current.insert name parameter

/-- Adds the parameters of a page to what the service reports. -/
def addPage (current : Reported) (page : Answer) : Except Fault Reported := do
  let parameters ← (← page).get "Parameters"
  if parameters.truthy then (← parameters.iterate).foldlM addReported current else return current

/-- What the service reports about the parameters of a group. -/
def fetchParameters (groupName : Value) : Handler Reported := do
  let answers ← pages "describe_db_parameters" [("DBParameterGroupName", groupName)]
  lift (answers.foldlM addPage [])

/-- Whether a parameter has another value than the declared one. -/
def differs (current : Reported) (name : String) (value : Value) : Except Fault Bool := do
  let parameter := (current.get? (.text name)).getD .null
  return !((← parameter.get "ParameterValue") == .text value.display)

/-- Whether a parameter can be changed. -/
def isModifiable (current : Reported) (name : String) : Except Fault Bool := do
  let parameter := (current.get? (.text name)).getD .null
  return (← parameter.getD "IsModifiable" (.bool true)).truthy

/-- The names as one text; it is a fault if one of them is no text. -/
def joinNames (names : List Value) : Except Fault String := do
  let texts ← names.zipIdx.mapM fun
    | (.text s, _) => .ok s
    | (v, n) => .error (.wrongType
        ("sequence item " ++ toString n ++ ": expected str instance, " ++ v.kind ++ " found"))
  return String.intercalate ", " texts

/-- Fails if a declared parameter is unknown, or cannot be changed to its declared value. -/
def validate (desired : Value) (current : Reported) : Except Fault Unit := do
  let unknown ← (← desired.iterate).filterM fun name => do
    name.checkKey
    return !current.has name
  unless unknown.isEmpty do
    throw (.handler (.invalidRequest
      (.text ("Invalid / Unsupported DB Parameter: " ++ (← joinNames unknown))) none))
  let readOnly ← (← desired.entries).filterM fun (name, value) => do
    if ← isModifiable current name then return false else differs current name value
  unless readOnly.isEmpty do
    throw (.handler (.invalidRequest
      (.text ("Invalid / Unmodifiable / Unsupported DB Parameter: "
        ++ String.intercalate ", " (readOnly.map (·.1)))) none))

/-- A request that changes some parameters of a group. -/
def changeCall (operation : String) (groupName : Value) (parameters : Except Fault (List Value)) :
    Handler Unit := do
  let parameters ← lift parameters
  let _ ← call operation [("DBParameterGroupName", groupName), ("Parameters", .list parameters)]

/-- The previous parameters that are no longer declared. -/
def toReset (previous desired : Value) : Except Fault (List Value) := do
  (← previous.iterate).filterM fun name => do return !(← name.occursIn desired)

/-- The declared parameters with another value than the current one. -/
def toModify (desired : Value) (current : Reported) : Except Fault (Entries String Value) := do
  (← desired.entries).filterM fun (name, value) => differs current name value

/-- Resets the parameters of a group that are no longer declared and sets those that differ. -/
def changeParameters (groupName previous desired : Value) : Handler Unit := do
  let current ← fetchParameters groupName
  lift (validate desired current)
  let reset ← lift (toReset previous desired)
  let modify ← lift (toModify desired current)
  (batches maxParametersPerRequest reset).forM fun names =>
    changeCall "reset_db_parameter_group" groupName (parametersToReset names current)
  (batches maxParametersPerRequest modify).forM fun parameters =>
    changeCall "modify_db_parameter_group" groupName (parametersToSet parameters current)

/-- Brings the parameters of a group from the previous to the desired ones; nothing is called if
there are none. -/
def parameterStep (previous desired : Value) : Step := fun progress => do
  if !previous.truthy && !desired.truthy then return progress
  let groupName ← lift (progress.model.require "DBParameterGroupName")
  match ← attempt (changeParameters groupName previous desired) with
  | .error fault => lift (recover progress fault)
  | .ok () => return progress

/-- The parameters that a model declares. -/
def parametersOf (model : Value) : Except Fault Value := do
  return (← model.get "Parameters").orElse (.map [])

/-! ## Tags -/

/-- Puts the ARN of the parameter group into the context. -/
def fetchArn : Step := fun progress => do
  match ← attempt (describe progress.model) with
  | .error fault => lift (recover progress fault)
  | .ok group =>
    let arn ← lift (group.require "DBParameterGroupArn")
    return { progress with context := ← setField progress.context arnField arn }

/-- Brings the tags of a parameter group up to date, as far as the caller may tag. -/
def tagStep (previous desired : Except Fault TagSet) : Step := fun progress => do
  let previous ← lift previous
  let desired ← lift desired
  updateTags previous desired (bestEffortRules (some rules) previous desired) arnField fetchArn
    progress

/-! ## Actions -/

/-- Gives the requested model a generated name if it has none. -/
def fillName (r : Request) : Handler Unit := do
  if ← lift (lacksName (← lift ((← model).get "DBParameterGroupName"))) then
    let name ← lift (names.newIdentifierFor r.stackId r.logicalId r.token)
    setModel (← lift ((← model).set "DBParameterGroupName" (.text name)))

/-- The event after a parameter group has been created: its ARN is kept in the context. -/
def created (response : Value) : Step := fun progress => do
  let group ← lift (response.require "DBParameterGroup")
  let arn ← lift (group.require "DBParameterGroupArn")
  let context ← setField progress.context arnField arn
  return .progress progress.model context

/-- Sends the request that creates a parameter group. -/
def createCall (tags : TagSet) : Step :=
  serviceCall "create_db_parameter_group" (createRequest · tags) recover created

/-- Keeps the ARN of a parameter group in a context, if there is one. -/
def keepArn (context : ContextRef) (arn : Value) : Handler Unit := do
  if arn.truthy then
    let _ ← setField context arnField arn

/-- Looks for the parameter group and keeps its ARN in the context. -/
def probe (context : ContextRef) (model : Value) : Handler Value := do
  let group ← describe model
  keepArn context (← lift (group.get "DBParameterGroupArn"))
  lift (modelOf group)

/-- Creates a parameter group with all its tags, as far as the caller may tag. -/
def createTagged (tags : TagSources) : Step := fun progress => do
  createWithTaggingFallback createCall (← lift tags.all) progress

/-- Creates a parameter group unless it is there already. -/
def createStep (s : Settings) (tags : TagSources) : Step := fun progress => do
  safeCreate (probe progress.context) (createTagged tags) s.probing progress

def create (s : Settings) (r : Request) : Handler Event := do
  let tags ← lift (r.desiredTags (← model))
  fillName r
  let model ← model
  chain (.progress model .session)
    [executeOnce "create_complete" (createStep s tags),
     executeOnce "add_tags_complete" (tagStep (.ok .empty) tags.withoutSystem),
     executeOnce "parameters_applied" fun progress => do
       parameterStep (.map []) (← lift (parametersOf model)) progress,
     readStep]

def read : Handler Event := do
  readStep (.progress (← model) .session)

def update (r : Request) : Handler Event := do
  let previous := r.previous.orElse (.map [])
  setModel (← lift (inherit previous (← model) "DBParameterGroupName"))
  let model ← model
  lift (requireUnchanged typeName createOnlyProperties model previous)
  let previousTags ← lift (r.previousTags previous)
  let desiredTags ← lift (r.desiredTags model)
  chain (.progress model .session)
    [executeOnce "parameters_applied" fun progress => do
       let before ← lift (parametersOf previous)
       parameterStep before (← lift (parametersOf model)) progress,
     executeOnce "update_tags_complete" (tagStep previousTags.all desiredTags.all),
     readStep]

def delete : Handler Event := do
  chain (.progress (← model) .session)
    [serviceCall "delete_db_parameter_group" nameRequest recover,
     fun _ => return .success .null]

def list (r : Request) : Handler Event :=
  serviceCall "describe_db_parameter_groups" (fun _ => .ok (listRequest r.nextToken)) recover
    (listed "DBParameterGroups" modelOf) (.progress .null .session)

/-- The provider of parameter groups. -/
def provider (s : Settings) : Provider where
  name := "RDSDBParameterGroupProvider"
  type := typeName
  contextKind := .parameterGroup
  act r := do
    lift r.client
    match r.action with
    | .create => create s r
    | .read => read
    | .update => update r
    | .delete => delete
    | .list => list r
  recover := recover

end Provisioning.ParameterGroup
