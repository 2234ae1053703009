import Provisioning.Integration.Model

/-!
# Models and requests of parameter groups

Pure mappings between the model of a parameter group and the requests and responses of the service,
and the form of single parameters in a request.
-/

set_option autoImplicit false

namespace Provisioning.ParameterGroup

open Integration (present listOrNull)

/-- The type name of a parameter group. -/
def typeName : String := "AWS::RDS::DBParameterGroup"

/-- The properties that cannot change once a parameter group is created. -/
def createOnlyProperties : List String := ["DBParameterGroupName", "Family", "Description"]

/-- The request that creates a parameter group with tags. -/
def createRequest (model : Value) (tags : TagSet) : Except Fault (Entries String Value) := do
  return present
    [("DBParameterGroupName", ← model.get "DBParameterGroupName"),
     ("DBParameterGroupFamily", ← model.get "Family"),
     ("Description", ← model.get "Description"),
     ("Tags", listOrNull tags.toSdkTags)]

/-- The request that looks up or deletes one parameter group. -/
def nameRequest (model : Value) : Except Fault (Entries String Value) := do
  return [("DBParameterGroupName", ← model.get "DBParameterGroupName")]

/-- The model of a parameter group in a response. -/
def modelOf (group : Value) : Except Fault Value := do
  return .map (present
    [("DBParameterGroupName", ← group.get "DBParameterGroupName"),
     ("Family", ← group.get "DBParameterGroupFamily"),
     ("Description", ← group.get "Description")])

/-! ## Parameters -/

/-- What the service reports about the parameters of a group, by name. -/
abbrev Reported := Entries Value Value

/-- How a change of a parameter is applied: at once if the parameter is dynamic, else on the next
reboot. -/
def applyMethod (name : Value) (current : Reported) : Except Fault String := do
  name.checkKey
  let parameter := ((current.get? name).getD .null).orElse (.map [])
  return if (← parameter.get "ApplyType") == .text "dynamic" then "immediate" else "pending-reboot"

/-- A parameter of a request that sets it. -/
def parameterToSet (current : Reported) (parameter : String × Value) : Except Fault Value := do
  return .map [("ParameterName", .text parameter.1),
    ("ParameterValue", .text parameter.2.display),
    ("ApplyMethod", .text (← applyMethod (.text parameter.1) current))]

/-- A parameter of a request that resets it. -/
def parameterToReset (current : Reported) (name : Value) : Except Fault Value := do
  return .map [("ParameterName", name), ("ApplyMethod", .text (← applyMethod name current))]

/-- The parameters of a request that sets them. -/
def parametersToSet (parameters : Entries String Value) (current : Reported) :
    Except Fault (List Value) := parameters.mapM (parameterToSet current)

/-- The parameters of a request that resets them. -/
def parametersToReset (names : List Value) (current : Reported) : Except Fault (List Value) :=
  names.mapM (parameterToReset current)

end Provisioning.ParameterGroup
