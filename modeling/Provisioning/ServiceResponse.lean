import Provisioning.Value.Access

/-!
# Refusals in responses

The service refuses a call by a response that tells the error and, if the call was retried until no
attempt was left, the number of retries.
-/

set_option autoImplicit false

namespace Provisioning

/-- The number of retries in a response, which counts only if the response says that it was the last
one. -/
def reportedRetries (response : Value) : Except Fault (Option Value) := do
  if ← (Value.text "ResponseMetadata").occursIn response then
    let metadata ← response.require "ResponseMetadata"
    let exhausted ← metadata.get "MaxAttemptsReached"
    if exhausted.truthy then return (← metadata.entries).get? "RetryAttempts" else return none
  else return none

/-- The refusal in a response of the service; it is a fault if the response is not made of
mappings. -/
def ServiceError.ofResponse (response : Value) (operation : String) :
    Except Fault ServiceError := do
  let exhaustedRetries ← reportedRetries response
  let error ← (← response.getD "Error" (.map [])).entriesFor "get"
  return { code := error.get? "Code", message := error.get? "Message", operation, exhaustedRetries }

end Provisioning
