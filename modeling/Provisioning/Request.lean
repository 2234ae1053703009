import Provisioning.Action
import Provisioning.Handler
import Provisioning.TagSet

/-!
# Requests

A request asks a handler for one action on one resource. It is read from the payload of an
invocation; parts that count as false stand for absent parts.
-/

set_option autoImplicit false

namespace Provisioning

/-- What a client of the service is made from. -/
structure ClientParams where
  region : Value := .null
  accessKeyId : Value := .null
  secretAccessKey : Value := .null
  sessionToken : Value := .null
  endpointUrl : Value := .null
  /-- The number of a configuration other than the default one. -/
  config : Option Nat := none

/-- The documents that a client is made from, by name. -/
def ClientParams.entries (p : ClientParams) : Entries String Value :=
  [("region_name", p.region), ("aws_access_key_id", p.accessKeyId),
   ("aws_secret_access_key", p.secretAccessKey), ("aws_session_token", p.sessionToken),
   ("endpoint_url", p.endpointUrl)]

/-- A request to a handler. -/
structure Request where
  action : Action
  desired : Value := .map []
  previous : Value := .null
  token : Value := .null
  stackId : Value := .null
  accountId : Value := .null
  region : Value := .null
  logicalId : Value := .null
  resourceType : Value := .null
  customContext : Value := .map []
  systemTags : Value := .map []
  previousSystemTags : Value := .map []
  stackTags : Value := .map []
  previousStackTags : Value := .map []
  nextToken : Value := .null
  clientParams : ClientParams := {}
  /-- Whether a client of the service can be had. -/
  client : Except Fault Unit := .ok ()

namespace Request

/-- The request in a payload. A payload without a token gets a fresh one. -/
def ofPayload (payload : Value) (freshToken : String) : Except Fault Request := do
  let data ← payload.require "requestData"
  let none := Value.map []
  let credentials := (← data.get "callerCredentials").orElse none
  let accessKeyId ← credentials.get "accessKeyId"
  let sessionToken ← credentials.get "sessionToken"
  let secretAccessKey ← credentials.get "secretAccessKey"
  let region ← payload.get "region"
  let token := ((← payload.get "clientRequestToken").orElse (← payload.get "bearerToken")).orElse
    (.text freshToken)
  let action ← Action.ofValue (← payload.require "action")
  return {
    action
    desired := (← data.get "resourceProperties").orElse none
    logicalId := ← data.get "logicalResourceId"
    resourceType := ← payload.require "resourceType"
    customContext := (← payload.get "callbackContext").orElse none
    systemTags := (← data.get "systemTags").orElse none
    previousSystemTags := (← data.get "previousSystemTags").orElse none
    stackTags := (← data.get "stackTags").orElse none
    previousStackTags := (← data.get "previousStackTags").orElse none
    nextToken := ← payload.get "nextToken"
    previous := (← data.get "previousResourceProperties").orElse .null
    token
    stackId := ← payload.get "stackId"
    accountId := ← payload.get "awsAccountId"
    region
    clientParams := { region, accessKeyId, secretAccessKey, sessionToken } }

/-- The tags that a model declares. -/
def modelTags (model : Value) : Except Fault Tags := do
  Tags.ofValue (← (model.orElse (.map [])).get "Tags")

/-- The tags that a request wants, for a model. -/
def desiredTags (r : Request) (model : Value) : Except Fault TagSources := do
  return { system := r.systemTags, stack := r.stackTags, resource := ← modelTags model }

/-- The tags before a request, for the previous model. -/
def previousTags (r : Request) (previous : Value) : Except Fault TagSources := do
  return { system := r.previousSystemTags, stack := r.previousStackTags
           resource := ← modelTags previous }

end Request

/-! ## Providers -/

/-- A provider handles the requests for one type of resource. -/
structure Provider where
  name : String
  type : String
  contextKind : ContextKind
  act : Request → Handler Event
  recover : Recovery

namespace Provider

/-- The record that a request starts on, with the context that it brings along. -/
def openSession (p : Provider) (r : Request) : Except Fault Session := do
  return { model := r.desired, context := ← Context.ofValue p.contextKind r.customContext }

/-- Runs the action of a request. A fault becomes an event on the requested model, unless it says
that there is no such action. -/
def serve (p : Provider) (r : Request) : Handler Event := do
  match ← Handler.attempt (p.act r) with
  | .ok event => return event
  | .error fault =>
    if fault.isA "NotImplementedError" then throw fault
    else Handler.lift (p.recover (.progress (← get).model .session) fault)

/-- Handles a request on a record; the event gets the context of the record. -/
def handle (p : Provider) (r : Request) (s : Session) : Program (Except Fault Event × Session) :=
  ((p.serve r).start s).bind fun (result, s') => .done (result.map (·.settle s'.context), s')

/-- The event for a fault without any rules: its description is the message. -/
def recoverByDefault : Recovery := fun progress fault =>
  .ok (.failed progress.model progress.context .internalFailure (.text fault.description))

end Provider

end Provisioning
