import Provisioning.Clients
import Provisioning.Integration.Provider
import Provisioning.ParameterGroup.Provider

/-!
# Running handlers to the end

The executor drives a provider the way the stack service does: it invokes the provider again with
the returned model and callback context until the operation has succeeded or failed. The number of
invocations is limited. Between two invocations it makes the pause that the event asks for; a pause
that is refused ends the run.
-/

set_option autoImplicit false

namespace Provisioning

/-- The providers, with settings. -/
def providers (s : Settings) : List Provider := [Integration.provider s, ParameterGroup.provider s]

/-- The provider of a type as a registry knows it: whatever goes wrong there, there is none. -/
def loadProvider (registry : Value → Except Fault Provider) (type : Value) :
    Except Fault Provider :=
  match registry type with
  | .ok provider => .ok provider
  | .error _ => .error (.noProvider type)

/-- The registry of the providers. -/
def registry (s : Settings) (type : Value) : Except Fault Provider :=
  match (providers s).find? fun p => Value.text p.type == type with
  | some provider => .ok provider
  | none => .error (.badValue "no provider")

/-- The payload of the next invocation: the context of an event, and its model if it has one. -/
def nextPayload (payload : Value) (event : Event) : Except Fault Value := do
  let context := (event.ownContext?.map Context.toValue).getD (.map [])
  let payload ← payload.set "callbackContext" context
  if event.model.isNull then return payload
  else
    let data ← (← payload.require "requestData").set "resourceProperties" event.model
    payload.set "requestData" data

/-- The resource of a payload in messages. -/
def payloadSubject (payload : Value) : Except Fault String := do
  let logicalId ← (← payload.require "requestData").get "logicalResourceId"
  let type ← payload.require "resourceType"
  return "resource " ++ logicalId.display ++ " (type " ++ type.display ++ ")"

/-- The fault of an event whose status is outside the contract. -/
def invalidStatus (status : String) (payload : Value) : Except Fault Fault := do
  return .badValue ("Invalid OperationStatus (" ++ status ++ ") returned for "
    ++ (← payloadSubject payload))

/-- The fault of a resource that is not finished after all invocations. -/
def outOfInvocations (invocations : Value) (payload : Value) : Except Fault Fault := do
  return .ofClass "TimeoutError" ("Resource handling for " ++ (← payloadSubject payload)
    ++ " did not finish after " ++ invocations.display ++ " invocations.")

/-- Fails with a fault, or with the one met on the way to it. -/
def failWith {α : Type} (fault : Except Fault Fault) : Except Fault α := do throw (← fault)

/-- The tokens that are drawn for the invocations of a payload without one, in order. -/
def Tokens : Type := Nat → String

namespace Tokens

/-- A text as the source that draws nothing else. -/
instance : Coe String Tokens := ⟨fun token _ => token⟩

/-- The token that is drawn next. -/
def first (tokens : Tokens) : String := tokens 0

/-- The tokens after that. -/
def rest (tokens : Tokens) : Tokens := fun n => tokens (n + 1)

end Tokens

namespace Executor

/-- Handles one payload. The client of the service is made when the handler needs it, and the
factory is handed on. -/
def execute (provider : Provider) (freshToken : String) (clients : ClientFactory)
    (payload : Value) : Program (Except Fault Event × ClientFactory) :=
  let opened := do
    let request ← Request.ofPayload payload freshToken
    return (request, ← provider.openSession request)
  match opened with
  | .error fault => .done (.error fault, clients)
  | .ok (request, session) =>
    let (client, clients) := match clients.getAttribute "rds" request.clientParams with
      | .ok (_, clients) => (.ok (), clients)
      | .error fault => (.error fault, clients)
    (provider.handle { request with client } session).bind fun (result, _) =>
      .done (result, clients)

/-- Invokes a provider up to `left` times. -/
def loop (provider : Provider) (tokens : Tokens) (invocations : Value) :
    (left : Nat) → ClientFactory → Value → Program (Except Fault Event × ClientFactory)
  | 0, clients, payload => .done (failWith (outOfInvocations invocations payload), clients)
  | left + 1, clients, payload =>
    (execute provider tokens.first clients payload).bind fun (result, clients) =>
      match result with
      | .error fault => .done (.error fault, clients)
      | .ok event =>
        match event.status with
        | .success | .failed => .done (.ok event, clients)
        | .invalid status => .done (failWith (invalidStatus status payload), clients)
        | .inProgress =>
          match nextPayload payload event with
          | .error fault => .done (.error fault, clients)
          | .ok payload =>
            .sleep event.delay fun
              | .error fault => .done (.error fault, clients)
              | .ok () => loop provider tokens.rest invocations left clients payload

/-- Drives the provider for a payload until the operation is over, with at most `invocations`
invocations. -/
def deploy (load : Value → Except Fault Provider) (tokens : Tokens) (invocations : Value)
    (clients : ClientFactory) (payload : Value) : Program (Except Fault Event × ClientFactory) :=
  let opened := do
    let provider ← load (← payload.require "resourceType")
    return (provider, (← invocations.toInteger).toNat)
  match opened with
  | .error fault => .done (.error fault, clients)
  | .ok (provider, left) => loop provider tokens invocations left clients payload

end Executor

end Provisioning
