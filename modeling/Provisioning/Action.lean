import Provisioning.Text.Casing
import Provisioning.Value.Access

/-!
# Actions

The five actions of a resource handler. A request names an action by its name in any letter case,
or by the type of a stack change.
-/

set_option autoImplicit false

namespace Provisioning

/-- What a handler is asked to do with a resource. -/
inductive Action
  | create
  | read
  | update
  | delete
  | list
  deriving DecidableEq, Repr

namespace Action

/-- The name of an action. -/
def name : Action → String
  | create => "CREATE"
  | read => "READ"
  | update => "UPDATE"
  | delete => "DELETE"
  | list => "LIST"

/-- All actions. -/
def all : List Action := [create, read, update, delete, list]

/-- The types of a stack change and the actions that they ask for. -/
def changeTypes : List (String × Action) :=
  [("Add", create), ("Modify", update), ("Dynamic", update), ("Remove", delete)]

/-- The action of a text. -/
def ofText (s : String) : Except Fault Action :=
  match changeTypes.lookup s with
  | some action => .ok action
  | none =>
    let name := Text.upper s
    match all.find? (·.name == name) with
    | some action => .ok action
    | none => .error (.badValue (Text.quoted name ++ " is not a valid Action"))

/-- The action of a document. -/
def ofValue : Value → Except Fault Action
  | .text s => ofText s
  | v => .error (.noAttribute v.kind "upper")

end Action

end Provisioning
