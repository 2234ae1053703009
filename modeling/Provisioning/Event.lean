import Provisioning.Context
import Provisioning.ErrorRules

/-!
# Progress events

Every step of a handler ends in a progress event: the operation goes on, has succeeded or has
failed. An event in progress lets the next step run at once, unless it asks for a delay; then the
handler is invoked again after that delay.

During an invocation an event refers to the callback context of the invocation, which later steps
may still write to. Events that come from elsewhere may bring a context of their own.
-/

set_option autoImplicit false

namespace Provisioning

/-- The status of an operation. -/
inductive Status
  | inProgress
  | success
  | failed
  /-- A status outside the handler contract. -/
  | invalid (text : String)
  deriving DecidableEq, Repr

/-- How a chain of steps goes on after an event. -/
inductive Outcome
  | proceed
  | suspend
  | terminal
  deriving DecidableEq, Repr

/-- The name of an outcome. -/
def Outcome.name : Outcome → String
  | .proceed => "CONTINUE"
  | .suspend => "SUSPEND"
  | .terminal => "TERMINAL"

/-- The callback context that an event carries: none, that of the invocation, or one of its own. -/
inductive ContextRef
  | none
  | session
  | own (context : Context)

/-- A progress event. A null model or message stands for none. -/
structure Event where
  status : Status
  model : Value := .null
  models : Value := .null
  context : ContextRef := .none
  delay : Value := .int 0
  message : Value := .null
  code : Option ErrorCode := none
  nextToken : Value := .null

namespace Event

/-- An event that lets the next step run. -/
def progress (model : Value) (context : ContextRef) : Event :=
  { status := .inProgress, model, context }

/-- An event that asks for another invocation after a delay. -/
def defer (model : Value) (context : ContextRef) (delay : Value)
    (code : Option ErrorCode := .none) : Event :=
  { status := .inProgress, model, context, delay, code }

/-- An event that reports success. -/
def success (model : Value) (context : ContextRef := .none) : Event :=
  { status := .success, model, context }

/-- An event that reports a list of models and the token of the next page. -/
def successList (models nextToken : Value) : Event :=
  { status := .success, models, nextToken }

/-- The message of a failure without one of its own. -/
def defaultMessage (code : ErrorCode) : String :=
  "Handler failed with error code " ++ code.name

/-- An event that reports a failure; a message that counts as false is replaced. -/
def failed (model : Value) (context : ContextRef) (code : ErrorCode)
    (message : Value := .null) : Event :=
  { status := .failed, model, context, code := some code
    message := message.orElse (.text (defaultMessage code)) }

def isFailed (e : Event) : Bool := e.status = .failed

def isSuccess (e : Event) : Bool := e.status = .success

def isInProgress (e : Event) : Bool := e.status = .inProgress

/-- An event in progress suspends the chain exactly if it asks for a positive delay; it is a fault
if the delay is no number. -/
def outcome (e : Event) : Except Fault Outcome :=
  if e.status ≠ .inProgress then .ok .terminal
  else do return if ← e.delay.isPositive then .suspend else .proceed

/-- The event with the context of the invocation as its own, once the invocation is over. -/
def settle (e : Event) (context : Context) : Event :=
  match e.context with
  | .session => { e with context := .own context }
  | _ => e

/-- The context of a settled event. -/
def ownContext? (e : Event) : Option Context :=
  match e.context with
  | .own context => some context
  | _ => none

/-- The name of a status on the wire. -/
def statusName : Status → Except Fault String
  | .inProgress => .ok "IN_PROGRESS"
  | .success => .ok "SUCCESS"
  | .failed => .ok "FAILED"
  | .invalid _ => .error (.noAttribute "str" "name")

/-- The wire form of a settled event: what is null is left out. -/
def wire (e : Event) : Except Fault Value := do
  let status ← statusName e.status
  let fields : Entries String Value :=
    [("status", .text status), ("callbackDelaySeconds", e.delay),
     ("errorCode", (e.code.map (Value.text ·.name)).getD .null),
     ("message", e.message),
     ("resourceModel", e.model), ("resourceModels", e.models),
     ("callbackContext", (e.ownContext?.map Context.toValue).getD .null),
     ("nextToken", e.nextToken)]
  return .map (fields.filter fun field => !field.2.isNull)

/-- The event that reports a fault: the verdict of the rules decides, and without rules the
operation fails. -/
def ofFault (rules : Option RuleSet) (progress : Event) (fault : Fault) : Except Fault Event := do
  match rules with
  | none => return .failed progress.model progress.context .internalFailure fault.message
  | some rules =>
    match ← rules.classify fault with
    | .ignore => return .progress progress.model progress.context
    | .retry delay => return .defer progress.model progress.context delay (some .throttling)
    | .failWith code => return .failed progress.model progress.context code fault.message

end Event

/-- A way to turn a fault into an event. Doing so may meet a fault of its own. -/
abbrev Recovery := Event → Fault → Except Fault Event

end Provisioning
