/-!
# Version
-/

set_option autoImplicit false

namespace Provisioning

/-- The version of the handlers. -/
def version : String := "0.1.0"

end Provisioning
