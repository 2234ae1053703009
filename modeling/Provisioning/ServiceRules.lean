import Provisioning.ErrorRules
import Provisioning.Tagging

/-!
# Rules for every resource

What becomes of the faults that every operation of the service can end in.
-/

set_option autoImplicit false

namespace Provisioning

/-- A handler fault fails with its own code. -/
def failWithOwnCode : ErrorStatus :=
  .conditional fun
    | .handler fault => .answer (.failWith fault.code)
    | _ => .answer (.settled defaultVerdict)

/-- The rules that the rule sets of all resources extend. -/
def serviceRules : RuleSet :=
  RuleSet.empty
    |>.withCodes (.failWith .serviceInternalError) ["ClientUnavailable", "InternalFailure"]
    |>.withCodes (.failWith .accessDenied) accessDeniedCodes
    |>.withCodes (.failWith .throttling) ["ThrottlingException", "Throttling"]
    |>.withCodes (.failWith .invalidRequest)
      ["InvalidParameterCombination", "InvalidParameterValue", "MissingParameter"]
    |>.withClasses (.failWith .invalidRequest) ["ParamValidationError"]
    |>.withClasses (.failWith .networkFailure) ["ConnectionError", "HTTPClientError"]
    |>.withClasses failWithOwnCode [HandlerFault.baseClass]

end Provisioning
