import Provisioning.ServiceRules

/-!
# Rules for parameter groups
-/

set_option autoImplicit false

namespace Provisioning.ParameterGroup

/-- The rules for parameter groups. -/
def rules : RuleSet :=
  serviceRules.extend
    |>.withCodes (.failWith .alreadyExists) ["DBParameterGroupAlreadyExists"]
    |>.withCodes (.failWith .notFound) ["DBParameterGroupNotFound"]
    |>.withCodes (.failWith .serviceLimitExceeded) ["DBParameterGroupQuotaExceeded"]
    |>.withCodes (.failWith .resourceConflict) ["InvalidDBParameterGroupState"]

end Provisioning.ParameterGroup
