import Provisioning.Value.Access

/-!
# Classification of faults

A rule set decides what becomes of a fault: fail with an error code, come back after a delay, or
ignore it. Rules are keyed by the code of the service, by error class, or by a predicate, and are
searched in this order. A rule set may extend another one; its own rules come first.

The answer of a rule may depend on the fault itself. Such an answer is resolved before it is used,
and again if it comes to another such answer, so a verdict never has a condition in it. A fault need
not have the shape that a rule expects of it, a code that can be looked up or a message that can be
searched; then there is no verdict but another fault.
-/

set_option autoImplicit false

namespace Provisioning

/-- What becomes of a fault. -/
inductive Verdict
  | failWith (code : ErrorCode)
  | retry (delay : Value)
  | ignore

mutual

/-- The answer of a rule: a verdict, or a way to find the answer once the fault is known. -/
inductive ErrorStatus
  | settled (verdict : Verdict)
  | conditional (resolver : Fault → Resolution)

/-- What a condition comes to: the answer that takes its place, which may be conditional again, or a
fault. -/
inductive Resolution
  | answer (status : ErrorStatus)
  | failure (fault : Fault)

end

instance : Inhabited ErrorStatus := ⟨.settled .ignore⟩

/-- What a reading of the fault comes to. -/
def Resolution.of : Except Fault ErrorStatus → Resolution
  | .ok status => .answer status
  | .error fault => .failure fault

namespace ErrorStatus

/-- Fail with a code. -/
abbrev failWith (code : ErrorCode) : ErrorStatus := .settled (.failWith code)

/-- Come back after a delay in seconds. -/
abbrev retry (delay : Value) : ErrorStatus := .settled (.retry delay)

/-- Go on as if nothing had happened. -/
abbrev ignore : ErrorStatus := .settled .ignore

end ErrorStatus

mutual

/-- The verdict on a fault: conditions are resolved until an answer is settled. -/
def ErrorStatus.resolve (fault : Fault) : ErrorStatus → Except Fault Verdict
  | .settled verdict => .ok verdict
  | .conditional resolver => (resolver fault).resolve fault

/-- The verdict that a condition comes to. -/
def Resolution.resolve (fault : Fault) : Resolution → Except Fault Verdict
  | .answer status => status.resolve fault
  | .failure met => .error met

end

/-- One of two answers, by whether the message of the fault contains a text. -/
def ErrorStatus.ifMessageContains (text : String) (present absent : ErrorStatus) : ErrorStatus :=
  .conditional fun fault => .of do
    if ← (Value.text text).occursIn fault.message then return present else return absent

/-- The verdict on a fault that no rule knows. -/
def defaultVerdict : Verdict := .failWith .internalFailure

/-- A caught error as rules see it: the code that it carries, its error classes from the most
specific one on, and what it tells predicates and conditions. An error of any class may carry a
code. -/
structure Caught where
  code : Value
  lineage : List String
  fault : Fault

/-- A fault as rules see it. -/
def Fault.caught (fault : Fault) : Caught :=
  { code := fault.serviceCode, lineage := fault.lineage, fault }

/-- The rules of one rule set, without those that it extends. -/
structure Rules where
  codes : Entries Value ErrorStatus := []
  classes : Entries String ErrorStatus := []
  predicates : List ((Fault → Except Fault Bool) × ErrorStatus) := []

/-- The answer of the first of some rules that knows a fault. -/
def firstAnswer {α : Type} (ask : α → Except Fault (Option ErrorStatus)) :
    List α → Except Fault (Option ErrorStatus)
  | [] => .ok none
  | rule :: rest => do
    match ← ask rule with
    | some status => return some status
    | none => firstAnswer ask rest

namespace Rules

/-- The rule for the code of an error. -/
def byCode (r : Rules) (error : Caught) : Except Fault (Option ErrorStatus) :=
  if error.code.isNull then .ok none
  else do
    error.code.checkKey
    return r.codes.get? error.code

/-- The rule for the most specific error class that has one. -/
def byClass (r : Rules) (error : Caught) : Except Fault (Option ErrorStatus) :=
  .ok (error.lineage.findSome? r.classes.get?)

/-- The first rule whose predicate holds. -/
def byPredicate (r : Rules) (error : Caught) : Except Fault (Option ErrorStatus) :=
  firstAnswer (fun (holds, status) => do return if ← holds error.fault then some status else none)
    r.predicates

/-- The first rule for an error: by code, by class, by predicate. -/
def find (r : Rules) (error : Caught) : Except Fault (Option ErrorStatus) :=
  firstAnswer (· r error) [byCode, byClass, byPredicate]

end Rules

/-- A rule set: its own rules, and those of the sets it extends, nearest first. -/
structure RuleSet where
  own : Rules := {}
  inherited : List Rules := []

namespace RuleSet

/-- The rule set without rules. -/
def empty : RuleSet := {}

/-- A rule set without rules of its own that extends another one. -/
def extend (base : RuleSet) : RuleSet := { inherited := base.own :: base.inherited }

/-- Adds rules for codes of any kind; the last rule for a code counts. -/
def withCodeValues (s : RuleSet) (status : ErrorStatus) (codes : List Value) : RuleSet :=
  { s with own := { s.own with codes := s.own.codes.merge (codes.map (·, status)) } }

/-- Adds rules for codes of the service. -/
def withCodes (s : RuleSet) (status : ErrorStatus) (codes : List String) : RuleSet :=
  s.withCodeValues status (codes.map .text)

/-- Adds rules for error classes; the last rule for a class counts. -/
def withClasses (s : RuleSet) (status : ErrorStatus) (classes : List String) : RuleSet :=
  { s with own := { s.own with classes := s.own.classes.merge (classes.map (·, status)) } }

/-- Adds a rule for the faults that satisfy a predicate; the first such rule counts. -/
def withPredicate (s : RuleSet) (status : ErrorStatus) (p : Fault → Except Fault Bool) : RuleSet :=
  { s with own := { s.own with predicates := s.own.predicates ++ [(p, status)] } }

/-- The levels of a rule set in the order in which they are searched. -/
def levels (s : RuleSet) : List Rules := s.own :: s.inherited

/-- The answer of the first rule for an error, if there is one. -/
def findCaught (s : RuleSet) (error : Caught) : Except Fault (Option ErrorStatus) :=
  firstAnswer (·.find error) s.levels

/-- The verdict on an error. -/
def classifyCaught (s : RuleSet) (error : Caught) : Except Fault Verdict := do
  match ← s.findCaught error with
  | some status => status.resolve error.fault
  | none => return defaultVerdict

/-- The answer of the first rule for a fault, if there is one. -/
def find (s : RuleSet) (fault : Fault) : Except Fault (Option ErrorStatus) :=
  s.findCaught fault.caught

/-- The verdict on a fault. -/
def classify (s : RuleSet) (fault : Fault) : Except Fault Verdict := s.classifyCaught fault.caught

end RuleSet

end Provisioning
