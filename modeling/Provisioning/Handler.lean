import Provisioning.Event
import Provisioning.Program

/-!
# Handlers

A handler is a program that may also fail with a fault and that works on the record of its
invocation: the requested model and the callback context. What a handler wrote to the record stays
written when it fails.
-/

set_option autoImplicit false

namespace Provisioning

/-- The record of an invocation: the requested model and the callback context. -/
structure Session where
  model : Value
  context : Context

/-- A program that works on the record of an invocation and may fail. -/
abbrev Handler (α : Type) := ExceptT Fault (StateT Session Program) α

/-- A step of a handler: from the event so far to the next one. -/
abbrev Step := Event → Handler Event

namespace Handler

/-- The program that a handler is, started on a record. -/
def start {α : Type} (h : Handler α) (s : Session) : Program (Except Fault α × Session) := h s

/-- A handler that makes no request. -/
def ofProgram {α : Type} (p : Program α) : Handler α := fun s => p.bind fun a => .done (.ok a, s)

/-- A result that is known at once. -/
def lift {α : Type} (r : Except Fault α) : Handler α := fun s => .done (r, s)

/-- Runs a handler and hands on its fault as a result. -/
def attempt {α : Type} (h : Handler α) : Handler (Except Fault α) :=
  fun s => (h.start s).bind fun (r, s') => .done (.ok r, s')

/-- Calls the service, and fails if the service does. -/
def call (operation : String) (arguments : Entries String Value) : Handler Value := do
  lift (← ofProgram (.call ⟨operation, arguments⟩ .done))

/-- Calls the service for pages. -/
def pages (operation : String) (arguments : Entries String Value) : Handler (List Answer) :=
  ofProgram (.pages ⟨operation, arguments⟩ .done)

/-- Reads the clock. -/
def now : Handler Number := ofProgram (.clock .done)

/-- The requested model. -/
def model : Handler Value := return (← get).model

/-- Replaces the requested model. -/
def setModel (v : Value) : Handler Unit := modify fun s => { s with model := v }

/-- The context that a reference stands for. -/
def contextOf : ContextRef → Handler (Option Context)
  | .none => return none
  | .session => return some (← get).context
  | .own context => return some context

/-- The fault of reading a field without a context. -/
def noContext (field : String) : Fault := .noAttribute "NoneType" field

/-- Reads a field of the context that a reference stands for. -/
def field (ref : ContextRef) (name : String) : Handler Value := do
  match ← contextOf ref with
  | some context => lift (context.get name)
  | none => throw (noContext name)

/-- Writes a field of the context that a reference stands for; the reference to the changed
context is the result. -/
def setField (ref : ContextRef) (name : String) (v : Value) : Handler ContextRef := do
  match ref with
  | .none => throw (noContext name)
  | .session =>
    let context ← lift ((← get).context.set name v)
    modify fun s => { s with context }
    return .session
  | .own context => return .own (← lift (context.set name v))

end Handler

end Provisioning
