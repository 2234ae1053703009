import Provisioning.Logging.LoggerName
import Provisioning.Logging.Message
import Provisioning.Logging.Timestamp

/-!
# Lines of the log

A line has the time of the record, its level, the short name of its logger and its message. The
level is at the right end of five characters, the name at the left end of thirty.
-/

set_option autoImplicit false

namespace Provisioning.Logging

/-- The longest name of a logger, unless a filter says otherwise. -/
def maxNameLength : Int := 30

/-- The short names of levels. -/
def levelNames : List (Int × String) :=
  [(50, "FATAL"), (40, "ERROR"), (30, "WARN"), (20, "INFO"), (10, "DEBUG"), (0, "NOTSET")]

/-- The short name of a level; a level without a name is shown as it is. -/
def levelName (level : Value) : String :=
  match levelNames.find? fun e => Value.int e.1 == level with
  | some (_, name) => name
  | none => "Level " ++ level.display

/-- A record of the log. Times are in seconds since the start of 1970, with the milliseconds
apart. -/
structure Record where
  name : String
  level : Value
  message : String
  args : List Value
  created : Number
  msecs : Number

/-- A text at the left end of a width. -/
def padRight (width : Nat) (s : String) : String :=
  s ++ String.ofList (List.replicate (width - s.length) ' ')

/-- A text at the right end of a width. -/
def padLeft (width : Nat) (s : String) : String :=
  String.ofList (List.replicate (width - s.length) ' ') ++ s

/-- The length that a filter allows for names; zero stands for the default. -/
def allowedLength (maxLength : Option Int) : Int :=
  match maxLength with
  | some n => if n = 0 then maxNameLength else n
  | none => maxNameLength

/-- The short name of the logger of a record; it is a fault if the name has an empty segment that
would have to be shortened. -/
def Record.shortName (r : Record) (maxLength : Option Int) : Except Fault String :=
  match compress? r.name (allowedLength maxLength) with
  | some name => .ok name
  | none => .error (.ofClass "IndexError" "string index out of range")

/-- The line of a record. -/
def Record.line (r : Record) (maxLength : Option Int) : Except Fault String := do
  let name ← r.shortName maxLength
  let message ← formatMessage r.message r.args
  let time ← timestamp r.created
  let milliseconds ← r.msecs.whole
  return time ++ "." ++ zeroPaddedInt 3 milliseconds ++ " " ++ padLeft 5 (levelName r.level)
    ++ " --- " ++ padRight 30 name ++ " : " ++ message

end Provisioning.Logging
