import Provisioning.Integration.Rules
import Provisioning.Integration.Model
import Provisioning.Request
import Provisioning.ResourceName
import Provisioning.Settings
import Provisioning.Stabilization

/-!
# The provider of integrations

Creating, changing and deleting an integration takes several invocations: the request is sent once,
the integration is polled until it is active or gone, and the tags are brought up to date by calls
of their own.
-/

set_option autoImplicit false

namespace Provisioning.Integration

open Handler

/-- Generates names of integrations. -/
def names : IdentifierFactory := ⟨defaultStackName, "integration", 63⟩

/-- The statuses of an integration on its way to the one in which it is stable. -/
def poller : StatusPoller where
  stabilized := [.text "active"]
  valid := [.text "creating", .text "active", .text "modifying", .text "syncing"]
  resourceType := typeName

/-- The event for a fault. -/
def recover (s : Settings) : Recovery := Event.ofFault (some (rules s.callbackDelay))

/-- Looks up the integration of a model. -/
def describe (model : Value) : Handler Value := do
  let id ← lift (identifier model)
  let arguments ← lift (identifyRequest model)
  lookUp "describe_integrations" arguments "Integrations" "IntegrationNotFoundFault"
    (.handler (.notFound typeName id))

/-- Reports the integration of a model as the result of the operation. -/
def readStep (s : Settings) : Step := fun progress => do
  match ← attempt (describe progress.model) with
  | .error fault => lift (recover s progress fault)
  | .ok integration => return .success (← lift (modelOf integration))

/-- Gives the model a generated name if it has none. -/
def nameStep (r : Request) : Step := fun progress => do
  if ← lift (lacksName (← lift (progress.model.get "IntegrationName"))) then
    let name ← lift (names.newIdentifierFor r.stackId r.logicalId r.token)
    let model ← lift (progress.model.set "IntegrationName" (.text name))
    setModel model
    return { progress with model }
  else return progress

/-- The event after an integration has been created: its ARN is kept in the model and in the
context, and polling starts after a delay. -/
def created (s : Settings) (response : Value) : Step := fun progress => do
  let arn ← lift (response.get "IntegrationArn")
  let context ← setField progress.context "integration_arn" arn
  let model ← lift (progress.model.set "IntegrationArn" arn)
  return .defer model context s.callbackDelay

/-- Sends the request that creates an integration with tags. -/
def createCall (s : Settings) (tags : TagSet) : Step :=
  serviceCall "create_integration" (createRequest · tags) (recover s) (created s)

/-- Looks for an integration and reports its model. -/
def probe (model : Value) : Handler Value := do lift (modelOf (← describe model))

/-- Keeps the ARN of the model in the context, unless the context has one. -/
def rememberArn : Step := fun progress => do
  let known ← field progress.context "integration_arn"
  if known.isNull then
    let arn ← lift (progress.model.get "IntegrationArn")
    if arn.truthy then
      return { progress with context := ← setField progress.context "integration_arn" arn }
    else return progress
  else return progress

/-- Creates an integration with all its tags, as far as the caller may tag. -/
def createTagged (s : Settings) (tags : TagSources) : Step := fun progress => do
  createWithTaggingFallback (createCall s) (← lift tags.all) progress

/-- Creates an integration unless it is there already, and keeps its ARN in the context. -/
def createStep (s : Settings) (tags : TagSources) : Step := fun progress => do
  rememberArn (← safeCreate probe (createTagged s tags) s.probing progress)

/-- Puts the ARN of the integration into the context. -/
def fetchArn (s : Settings) : Step :=
  serviceCall "describe_integrations" identifyRequest (recover s) fun response progress => do
    let integration ← lift (firstModelOf response)
    if integration.isNull then
      let id ← lift (identifier progress.model)
      return .failed progress.model progress.context .notFound
        (.text (HandlerFault.notFound typeName id).text)
    else
      let arn ← lift (integration.require "IntegrationArn")
      let context ← setField progress.context "integration_arn" arn
      return .progress progress.model context

/-- Brings the tags of an integration up to date; faults of tagging are never ignored. -/
def tagStep (s : Settings) (previous desired : Except Fault TagSet) : Step := fun progress => do
  let previous ← lift previous
  let desired ← lift desired
  updateTags previous desired (some (rules s.callbackDelay)) "integration_arn" (fetchArn s) progress

/-- Whether the integration of a model is active. -/
def isActive (model : Value) : Handler Bool := do
  let id ← lift (identifier model)
  let status ← lift ((← describe model).get "Status")
  lift (poller.isStabilized id status)

/-- Polls until the integration is active. -/
def stabilizeStep (s : Settings) : Step := stabilize isActive s.createUpdate (recover s) typeName

def create (s : Settings) (r : Request) : Handler Event := do
  let tags ← lift (r.desiredTags (← model))
  chain (.progress (← model) .session)
    [nameStep r,
     executeOnce "create_complete" (createStep s tags),
     executeOnce "add_tags_complete" (tagStep s (.ok .empty) tags.withoutSystem),
     stabilizeStep s,
     readStep s]

def read (s : Settings) : Handler Event := do
  readStep s (.progress (← model) .session)

/-- The properties of two models that differ. -/
def differing (keys : List String) (model previous : Value) : Except Fault (List String) :=
  keys.filterM fun key => do return !((← model.get key) == (← previous.get key))

/-- Fails if a property that cannot change is not what it was. -/
def requireUnchanged (type : String) (keys : List String) (model previous : Value) :
    Except Fault Unit := do
  let changed ← differing keys model previous
  if changed.isEmpty then return () else throw (.handler (.notUpdatable type changed))

/-- Fills a property of a model from the previous one, if only that has it. -/
def inherit (previous : Value) (model : Value) (key : String) : Except Fault Value := do
  if (← model.get key).truthy then return model
  else
    let value ← previous.get key
    if value.truthy then model.set key value else return model

/-- Sends the request that modifies an integration, if there is anything to modify. -/
def modifyStep (s : Settings) (previous : Value) : Step := fun progress => do
  let request ← lift (modifyRequest previous progress.model)
  if request.length = 1 then return progress
  else serviceCall "modify_integration" (fun _ => .ok request) (recover s) goOn progress

def update (s : Settings) (r : Request) : Handler Event := do
  let previous := r.previous.orElse (.map [])
  lift (requireUnchanged typeName createOnlyProperties (← model) previous)
  setModel (← lift (["IntegrationArn", "IntegrationName"].foldlM (inherit previous) (← model)))
  let previousTags ← lift (r.previousTags previous)
  let desiredTags ← lift (r.desiredTags (← model))
  chain (.progress (← model) .session)
    [executeOnce "modify_complete" (modifyStep s previous),
     stabilizeStep s,
     executeOnce "update_tags_complete" (tagStep s previousTags.all desiredTags.all),
     readStep s]

/-- Whether the integration of a model is gone. -/
def isDeleted (model : Value) : Handler Bool := do
  match ← attempt (describe model) with
  | .ok integration =>
    let _ ← lift (identifier model)
    let _ ← lift (integration.get "Status")
    return false
  | .error fault => if fault.isA "NotFoundError" then return true else throw fault

def delete (s : Settings) : Handler Event := do
  chain (.progress (← model) .session)
    [executeOnce "delete_complete"
       (serviceCall "delete_integration" identifyRequest (recover s)),
     stabilize isDeleted s.delete (recover s) typeName,
     fun _ => return .success .null]

/-- The models of the items of a list in a response, and the token of the next page. -/
def listed (key : String) (modelOf : Value → Except Fault Value) (response : Value) : Step :=
  fun _ => do
    let items ← lift (response.get key)
    let items ← lift (if items.truthy then items.iterate else .ok [])
    let models ← lift (items.mapM modelOf)
    return .successList (.list models) (← lift (response.get "Marker"))

def list (s : Settings) (r : Request) : Handler Event :=
  serviceCall "describe_integrations" (fun _ => .ok (listRequest r.nextToken)) (recover s)
    (listed "Integrations" modelOf) (.progress .null .session)

/-- The provider of integrations. -/
def provider (s : Settings) : Provider where
  name := "RDSIntegrationProvider"
  type := typeName
  contextKind := .integration
  act r := do
    lift r.client
    match r.action with
    | .create => create s r
    | .read => read s
    | .update => update s r
    | .delete => delete s
    | .list => list s r
  recover := recover s

end Provisioning.Integration
