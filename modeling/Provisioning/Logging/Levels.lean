import Provisioning.Configuration

/-!
# Levels of the log

The level of the root logger comes from the configuration. Chatty loggers are kept quieter than the
others, unless everything is to be traced.
-/

set_option autoImplicit false

namespace Provisioning.Logging

/-- The levels by name. -/
def levelsByName : List (String × Int) :=
  [("CRITICAL", 50), ("FATAL", 50), ("ERROR", 40), ("WARN", 30), ("WARNING", 30), ("INFO", 20),
   ("DEBUG", 10), ("NOTSET", 0)]

/-- The level that a document is: a number, or a name. -/
def levelOf (v : Value) : Except Fault Int :=
  match v with
  | .text name =>
    match levelsByName.lookup name with
    | some level => .ok level
    | none => .error (.badValue ("Unknown level: " ++ Text.quoted name))
  | v => v.toInteger

/-- The levels of the words for them; tracing is debugging with more loggers. -/
def levelOfWord : List (String × Int) :=
  [("trace", 10), ("debug", 10), ("info", 20), ("warn", 30), ("warning", 30), ("error", 40)]

/-- The level that a configuration asks for. -/
def configuredLevel (c : Configuration) : Int :=
  match c.logLevel with
  | some word => (levelOfWord.lookup word).getD 20
  | none => if c.debug then 10 else 20

/-- The levels of single loggers. -/
def defaultLevels : Entries String Int :=
  [("boto3", 20), ("botocore", 40), ("urllib3", 30), ("plux", 30),
   ("rds_cfn.services.cloudformation.progress", 20)]

/-- The levels of the loggers that show more when everything is traced. -/
def traceLevels : Entries String Int :=
  [("botocore", 10), ("rds_cfn.services.cloudformation.progress", 10)]

/-- The levels that are set: that of the root logger and its output, and those of single loggers. -/
structure LogSetup where
  root : Int
  loggers : Entries String Int
  deriving Repr

/-- The levels for a level of the root logger. -/
def LogSetup.ofLevel (level : Int) : LogSetup :=
  { root := level, loggers := ("rds_cfn", level) :: defaultLevels }

/-- The levels that a configuration asks for. -/
def LogSetup.ofConfiguration (c : Configuration) : LogSetup :=
  let setup := ofLevel (configuredLevel c)
  if c.isTracing then { setup with loggers := setup.loggers.merge traceLevels } else setup

end Provisioning.Logging
