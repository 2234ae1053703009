import Provisioning.Backoff
import Provisioning.Handler

/-!
# Stabilization

An operation is finished when the resource is stable. A handler polls once in every invocation and
asks to be invoked again until the resource is stable or the time limit of its policy is over. The
time of the first poll is kept in the callback context.
-/

set_option autoImplicit false

namespace Provisioning

open Handler

/-- What the status of a resource says about the operation. -/
inductive StabilizationState
  | creatingValid
  | creatingInvalid
  | stabilized
  deriving DecidableEq, Repr

/-- The name of a state. -/
def StabilizationState.name : StabilizationState → String
  | .creatingValid => "CREATING_VALID"
  | .creatingInvalid => "CREATING_INVALID"
  | .stabilized => "STABILIZED"

/-- Which statuses a resource ends in, and which it passes through. -/
structure StatusPoller where
  stabilized : List Value
  valid : List Value
  resourceType : String

namespace StatusPoller

/-- The state for a status: stable, on the way, or anything else. -/
def classify (p : StatusPoller) (status : Value) : Except Fault StabilizationState := do
  status.checkKey
  return if p.stabilized.contains status then .stabilized
    else if p.valid.contains status then .creatingValid
    else .creatingInvalid

/-- Whether a resource with a status is stable; it is a fault if it never will be. -/
def isStabilized (p : StatusPoller) (identifier status : Value) : Except Fault Bool := do
  match ← p.classify status with
  | .stabilized => return true
  | .creatingValid => return false
  | .creatingInvalid =>
    throw (.handler (.notStabilized p.resourceType identifier
      ("status " ++ status.display ++ " cannot complete the operation")))

end StatusPoller

/-- The field of the callback context that holds the time of the first poll. -/
def startField : String := "stabilization_started_at"

/-- The time of the first poll that a context holds; null before it. -/
def stabilizationStart (context : Option Context) : Value :=
  ((context.bind (·.get? startField)).getD .null)

/-- The message of an operation that took longer than its policy allows. -/
def timeoutMessage (resourceType : String) (seconds : Int) : String :=
  "Resource of type '" ++ resourceType ++ "' did not stabilize within " ++ toString seconds
    ++ " seconds"

/-- Keeps the time of the first poll: a context that has one is left as it is. -/
def keepStart (startedAt : Value) (now : Number) (context : ContextRef) : Handler ContextRef :=
  if startedAt.isNull then setField context startField (.number now) else return context

/-- Polls once: the chain goes on if the resource is stable, and is suspended if it is not yet. -/
def poll (isStabilized : Value → Handler Bool) (backoff : Backoff) (recover : Recovery) : Step :=
  fun progress => do
    match ← attempt (isStabilized progress.model) with
    | .error fault => lift (recover progress fault)
    | .ok true => return .progress progress.model progress.context
    | .ok false =>
      let delay ← lift backoff.delay.whole
      return .defer progress.model progress.context (.int delay)

/-- Polls once, unless the time limit is over: then the operation fails. -/
def stabilize (isStabilized : Value → Handler Bool) (backoff : Backoff)
    (recover : Recovery) (resourceType : String) : Step := fun progress => do
  let startedAt := stabilizationStart (← contextOf progress.context)
  let now ← now
  let context ← keepStart startedAt now progress.context
  if ← lift (backoff.isExpired startedAt (.number now)) then
    let seconds ← lift backoff.timeout.whole
    return .failed progress.model context .notStabilized
      (.text (timeoutMessage resourceType seconds))
  else poll isStabilized backoff recover { progress with context }

end Provisioning
