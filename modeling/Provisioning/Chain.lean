import Provisioning.Handler

/-!
# Chains of steps

A handler is a chain of steps. A chain goes on as long as its events let it: the first event that
suspends or ends the operation is the event of the chain. A guarded step has a flag in the callback
context that keeps it from running again in a later invocation.
-/

set_option autoImplicit false

namespace Provisioning

open Handler

/-- Runs steps in order, up to the first event that does not let the next step run. -/
def chain (progress : Event) : List Step → Handler Event
  | [] => return progress
  | step :: rest => do
    match ← lift progress.outcome with
    | .proceed => chain (← step progress) rest
    | _ => return progress

/-- Whether a guarded step is complete after an event: it is not if the step failed or asks to be
tried again. -/
def Event.completes (e : Event) : Bool :=
  !(e.isFailed || (e.isInProgress && e.code.isSome))

/-- Sets a flag in the context of the last event, or, if that has none, in the context of the event
before it. -/
def markDone (flag : String) (progress result : Event) : Handler Event := do
  match result.context with
  | .none =>
    let _ ← setField progress.context flag (.bool true)
    return result
  | ref => return { result with context := ← setField ref flag (.bool true) }

/-- Guards a step by a flag: the step is skipped if the flag is set, and sets it on completion. -/
def executeOnce (flag : String) (step : Step) : Step := fun progress => do
  if (← field progress.context flag).truthy then
    return progress
  else
    let result ← step progress
    if result.completes then markDone flag progress result else return result

/-- The event after a call that needs no more than an answer. -/
def goOn : Value → Step := fun _ progress => return .progress progress.model progress.context

/-- One call to the service: its arguments are made from the model, a fault of the call becomes
an event, and a response is handed on. -/
def serviceCall (operation : String) (request : Value → Except Fault (Entries String Value))
    (recover : Recovery) (done : Value → Step := goOn) : Step := fun progress => do
  let arguments ← lift (request progress.model)
  match ← attempt (call operation arguments) with
  | .error fault => lift (recover progress fault)
  | .ok response => done response progress

/-- Looks up a resource by one call: the first item of a list in the response. The fault `missing`
says that there is none. -/
def lookUp (operation : String) (arguments : Entries String Value) (listField missingCode : String)
    (missing : Fault) : Handler Value := do
  match ← attempt (call operation arguments) with
  | .error fault => throw (if fault.serviceCode == .text missingCode then missing else fault)
  | .ok response =>
    let items ← lift (response.get listField)
    if items.truthy then lift items.first else throw missing

/-- What a probe finds; null if it finds nothing, or if there is no probing. -/
def lookFor (probe : Value → Handler Value) (probing : Bool) (model : Value) : Handler Value :=
  if probing then
    tryCatch (probe model) fun fault =>
      if fault.isA "NotFoundError" then pure .null else throw fault
  else pure .null

/-- Creates a resource unless a probe finds it. What the probe finds is merged into the model; only
if it finds nothing is `create` run. -/
def safeCreate (probe : Value → Handler Value) (create : Step) (probing : Bool) : Step :=
  fun progress => do
    let existing ← lookFor probe probing progress.model
    if existing.isNull then create progress
    else
      let model ← lift (progress.model.orElse (.map [])).spread
      let found ← lift existing.spread
      return .progress (.map (model.merge found)) progress.context

end Provisioning
