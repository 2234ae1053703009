import Provisioning.ServiceRules

/-!
# Rules for integrations

Two conflicts pass on their own and are retried; the service reports them under codes that it also
uses for conflicts that stay, so the message decides.
-/

set_option autoImplicit false

namespace Provisioning.Integration

/-- The warehouse is busy with another operation; the same request succeeds later. -/
def conflictMessage : String :=
  "because another operation is in progress for the Amazon Redshift data warehouse specified by "
    ++ "the Amazon Resource Name (ARN). Try again after the current operation completes."

/-- The integration is on its way to a valid state; the same request succeeds there. -/
def invalidStateMessage : String :=
  "because it is not in a valid state. Wait until the integration is in a valid state and try "
    ++ "again."

/-- Retries if the message contains a text, and fails with a conflict otherwise. -/
def retryIfMessageContains (text : String) (delay : Value) : ErrorStatus :=
  .ifMessageContains text (.retry delay) (.failWith .resourceConflict)

/-- The rules for integrations, where a retry comes back after a delay. -/
def rules (delay : Value) : RuleSet :=
  serviceRules.extend
    |>.withCodes (.failWith .alreadyExists) ["IntegrationAlreadyExistsFault"]
    |>.withCodes (.failWith .notFound) ["IntegrationNotFoundFault"]
    |>.withCodes (.failWith .serviceLimitExceeded) ["IntegrationQuotaExceededFault"]
    |>.withCodes (.failWith .accessDenied) ["KMSKeyNotAccessibleFault"]
    |>.withCodes (retryIfMessageContains conflictMessage delay)
      ["IntegrationConflictOperationFault"]
    |>.withCodes (retryIfMessageContains invalidStateMessage delay)
      ["InvalidIntegrationStateFault"]

end Provisioning.Integration
