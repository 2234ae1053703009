import Provisioning.Settings
import Provisioning.Text.Casing

/-!
# Configuration

The configuration is read from variables of the environment. Words are compared without regard to
letter case and to blanks around them; what cannot be read stands for the default.
-/

set_option autoImplicit false

namespace Provisioning

/-- The variables of the environment by name. -/
abbrev Variables := Entries String String

/-- The words for true. -/
def trueWords : List String := ["1", "true", "True"]

/-- The words for false. -/
def falseWords : List String := ["0", "false", "False"]

/-- The words for the levels of the log. -/
def logLevelWords : List String := ["trace", "debug", "info", "warn", "error", "warning"]

/-- The word for the most detailed level of the log. -/
def traceWord : String := "trace"

namespace Variables

/-- The word in a variable: its text in lower case, without blanks around it. -/
def word (vars : Variables) (name : String) : String :=
  Text.strip (Text.lower ((vars.get? name).getD ""))

/-- The level of the log that a variable asks for. -/
def logLevel? (vars : Variables) (name : String) : Option String :=
  let w := vars.word name
  if logLevelWords.contains w then some w else none

/-- Whether a variable is true. -/
def isTrue (vars : Variables) (name : String) : Bool := trueWords.contains (vars.word name)

/-- Whether a variable is anything but false. -/
def isNotFalse (vars : Variables) (name : String) : Bool := !falseWords.contains (vars.word name)

/-- The integer in a variable, if it can be read. -/
def integer? (vars : Variables) (name : String) : Option Int :=
  readInteger? ((vars.get? name).getD "")

/-- The integer in a variable, or a default. -/
def integer (vars : Variables) (name : String) (fallback : Int) : Int :=
  (vars.integer? name).getD fallback

end Variables

/-- The configuration of the handlers. -/
structure Configuration where
  logLevel : Option String
  debug : Bool
  verboseErrors : Bool
  callbackDelay : Int
  stabilizationDelay : Int
  createUpdateTimeout : Int
  deleteTimeout : Int
  probing : Bool
  maxInvocations : Int
  maxAttempts : Int
  deriving Repr

namespace Configuration

/-- Whether the log is as detailed as it can be. -/
def isTracing (c : Configuration) : Bool := c.logLevel = some traceWord

/-- The configuration in the variables of the environment. -/
def ofVariables (vars : Variables) : Configuration where
  logLevel := vars.logLevel? "RDS_CFN_LOG"
  debug := vars.isTrue "DEBUG" || vars.logLevel? "RDS_CFN_LOG" == some traceWord
  verboseErrors := vars.isTrue "VERBOSE_ERRORS"
  callbackDelay := vars.integer "CALLBACK_DELAY_SECONDS" 6
  stabilizationDelay := vars.integer "STABILIZATION_DELAY_SECONDS" 30
  createUpdateTimeout := vars.integer "CREATE_UPDATE_TIMEOUT_SECONDS" (8 * 60 * 60)
  deleteTimeout := vars.integer "DELETE_TIMEOUT_SECONDS" (30 * 60)
  probing := vars.isNotFalse "PROBING_ENABLED"
  maxInvocations := vars.integer "MAX_HANDLER_INVOCATIONS" 1000
  maxAttempts := vars.integer "BOTO_MAX_ATTEMPTS" 4

/-- The settings of a handler under a configuration, unless a polling policy is refused. -/
def settings (c : Configuration) : Except (List (String × Backoff.FieldError)) Settings := do
  let policy := fun (timeout : Int) =>
    Backoff.ofFields (some (.int c.stabilizationDelay)) (some (.int timeout))
  return {
    probing := c.probing
    callbackDelay := .int c.callbackDelay
    createUpdate := ← policy c.createUpdateTimeout
    delete := ← policy c.deleteTimeout }

end Configuration

end Provisioning
