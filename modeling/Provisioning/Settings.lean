import Provisioning.Backoff

/-!
# Settings of the handlers
-/

set_option autoImplicit false

namespace Provisioning

/-- What can be set for a handler: whether a create request looks for the resource first, the delay
of a retry in seconds, and the polling policies. -/
structure Settings where
  probing : Bool := true
  callbackDelay : Value := .int 6
  createUpdate : Backoff := { delay := .int 30, timeout := .int 28800 }
  delete : Backoff := { delay := .int 30, timeout := .int 1800 }

/-- The name that generated resource names begin with when the stack has none. -/
def defaultStackName : String := "rds"

end Provisioning
