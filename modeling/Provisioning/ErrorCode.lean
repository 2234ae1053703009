/-!
# Error codes of the handler contract

The codes that a failed or throttled handler reports, in the order of the contract.
-/

set_option autoImplicit false

namespace Provisioning

/-- An error code of the handler contract. -/
inductive ErrorCode
  | notUpdatable
  | invalidRequest
  | accessDenied
  | invalidCredentials
  | alreadyExists
  | notFound
  | resourceConflict
  | throttling
  | serviceLimitExceeded
  | notStabilized
  | generalServiceException
  | serviceInternalError
  | networkFailure
  | internalFailure
  | invalidTypeConfiguration
  deriving DecidableEq, Repr

namespace ErrorCode

/-- The name of a code on the wire. -/
def name : ErrorCode → String
  | notUpdatable => "NotUpdatable"
  | invalidRequest => "InvalidRequest"
  | accessDenied => "AccessDenied"
  | invalidCredentials => "InvalidCredentials"
  | alreadyExists => "AlreadyExists"
  | notFound => "NotFound"
  | resourceConflict => "ResourceConflict"
  | throttling => "Throttling"
  | serviceLimitExceeded => "ServiceLimitExceeded"
  | notStabilized => "NotStabilized"
  | generalServiceException => "GeneralServiceException"
  | serviceInternalError => "ServiceInternalError"
  | networkFailure => "NetworkFailure"
  | internalFailure => "InternalFailure"
  | invalidTypeConfiguration => "InvalidTypeConfiguration"

/-- All codes in the order of the contract. -/
def all : List ErrorCode :=
  [notUpdatable, invalidRequest, accessDenied, invalidCredentials, alreadyExists, notFound,
   resourceConflict, throttling, serviceLimitExceeded, notStabilized, generalServiceException,
   serviceInternalError, networkFailure, internalFailure, invalidTypeConfiguration]

/-- The code of a name. -/
def ofName? (s : String) : Option ErrorCode := all.find? (·.name == s)

end ErrorCode

end Provisioning
