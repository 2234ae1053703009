import Provisioning.Json.Reader
import Provisioning.Value.Basic

/-!
# Documents in JSON

The members of a JSON object have no order, so an object stands for a mapping with its keys in
ascending order. The object with the one member `$map`, a list of pairs, stands for a mapping in any
other order, and the one with the one member `$dt` for a date.
-/

set_option autoImplicit false

namespace Provisioning

mutual

/-- The JSON value of a document. -/
def Value.toJson : Value → Json
  | .null => .null
  | .bool b => .bool b
  | .number n => .ofNumber n
  | .text s => .text s
  | .date d => .object [("$dt", .text d.iso)]
  | .list items => .list (itemsToJson items)
  | .map entries => .object (entriesToJson entries)

/-- The JSON values of the items of a list. -/
def itemsToJson : List Value → List Json
  | [] => []
  | v :: vs => v.toJson :: itemsToJson vs

/-- The members of the JSON object of a mapping. -/
def entriesToJson : List (String × Value) → List (String × Json)
  | [] => []
  | (k, v) :: rest => (k, v.toJson) :: entriesToJson rest

end

/-- The mapping of a list of pairs. -/
def mapOfPairs (pairs : List Value) : Value :=
  .map (Entries.ofList (pairs.filterMap fun
    | .list [.text k, v] => some (k, v)
    | _ => none))

/-- The mapping of the members of an object. -/
def mapOfMembers (members : List (String × Value)) : Value :=
  .map ((Entries.ofList members).foldr Value.insertByKey [])

/-- The document of the members of an object. -/
def documentOfMembers : List (String × Value) → Value
  | [("$map", .list pairs)] => mapOfPairs pairs
  | [("$dt", .text iso)] =>
    ((DateTime.ofIso? iso).map Value.date).getD (mapOfMembers [("$dt", .text iso)])
  | members => mapOfMembers members

namespace Json

mutual

/-- The document of a JSON value. -/
def toValue : Json → Value
  | .null => .null
  | .bool b => .bool b
  | .number literal => .number (numberOf literal)
  | .text s => .text s
  | .list items => .list (itemsToValues items)
  | .object members => documentOfMembers (membersToValues members)

/-- The documents of the items of a list. -/
def itemsToValues : List Json → List Value
  | [] => []
  | j :: js => j.toValue :: itemsToValues js

/-- The members of an object with documents. -/
def membersToValues : List (String × Json) → List (String × Value)
  | [] => []
  | (k, j) :: rest => (k, j.toValue) :: membersToValues rest

end

/-- A member as a document. -/
def value? (j : Json) (name : String) : Option Value := (j.member? name).map toValue

/-- A member as a document; `fallback` if it is absent. -/
def valueAt (j : Json) (name : String) (fallback : Value := .null) : Value :=
  (j.value? name).getD fallback

/-- A member as a text; `fallback` if it is absent or null. -/
def textAt (j : Json) (name : String) (fallback : String := "") : String :=
  ((j.given? name).map asText).getD fallback

/-- A member as a number; `fallback` if it is absent or null. -/
def numberAt (j : Json) (name : String) (fallback : Number := .int 0) : Number :=
  ((j.given? name).map asNumber).getD fallback

end Json

end Provisioning
