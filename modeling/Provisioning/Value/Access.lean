import Provisioning.Fault
import Provisioning.Text.Search

/-!
# Reading documents

Reading a part of a document fails when the document is of the wrong kind: a property is read from
mappings only, iteration takes lists, the keys of mappings and the characters of texts.
-/

set_option autoImplicit false

namespace Provisioning

/-- The integer part of a number, cut off toward zero; only finite numbers have one. -/
def Number.whole : Number → Except Fault Int
  | .int n => .ok n
  | .float .undefined => .error (.badValue "cannot convert float NaN to integer")
  | .float x =>
    match x.truncate? with
    | some n => .ok n
    | none => .error (.ofClass "OverflowError" "cannot convert float infinity to integer")

namespace Value

/-- The entries of a mapping, for a reader that calls `method` on it. -/
def entriesFor (method : String) : Value → Except Fault (Entries String Value)
  | .map entries => .ok entries
  | v => .error (.noAttribute v.kind method)

/-- The entries of a mapping. -/
def entries (v : Value) : Except Fault (Entries String Value) := v.entriesFor "items"

/-- A property of a mapping; null if it is absent. -/
def get (v : Value) (key : String) : Except Fault Value := do
  return ((← v.entriesFor "get").get? key).getD .null

/-- A property of a mapping; `fallback` if it is absent. -/
def getD (v : Value) (key : String) (fallback : Value) : Except Fault Value := do
  return ((← v.entriesFor "get").get? key).getD fallback

/-- A property of a mapping that has to be there. -/
def require (v : Value) (key : String) : Except Fault Value :=
  match v with
  | .map entries =>
    match Entries.get? entries key with
    | some x => .ok x
    | none => .error (.missingKey (some (.text key)))
  | .list _ => .error (.wrongType "list indices must be integers or slices, not str")
  | .text _ => .error (.wrongType "string indices must be integers, not 'str'")
  | v => .error (.wrongType ("'" ++ v.kind ++ "' object is not subscriptable"))

/-- The first item of a document that is not empty. -/
def first : Value → Except Fault Value
  | .list (v :: _) => .ok v
  | .list [] => .error (.ofClass "IndexError" "list index out of range")
  | .text s =>
    match s.toList with
    | c :: _ => .ok (.text (String.ofList [c]))
    | [] => .error (.ofClass "IndexError" "string index out of range")
  | .map _ => .error (.missingKey (some (.int 0)))
  | v => .error (.wrongType ("'" ++ v.kind ++ "' object is not subscriptable"))

/-- The items that iteration over a document goes through. -/
def iterate : Value → Except Fault (List Value)
  | .list items => .ok items
  | .map entries => .ok ((Entries.keys entries).map .text)
  | .text s => .ok (s.toList.map fun c => .text (String.ofList [c]))
  | v => .error (.wrongType ("'" ++ v.kind ++ "' object is not iterable"))

/-- Fails for a document that cannot be the key of a mapping. -/
def checkKey (v : Value) : Except Fault Unit :=
  if v.isKey then .ok () else .error (.wrongType ("unhashable type: '" ++ v.kind ++ "'"))

/-- Whether a document occurs in another one: as a key of a mapping, as an item of a list, or as a
part of a text. -/
def occursIn (v container : Value) : Except Fault Bool :=
  match container with
  | .map entries => do
    v.checkKey
    return entries.any fun e => v == .text e.1
  | .list items => .ok (items.any (v == ·))
  | .text s =>
    match v with
    | .text t => .ok (Text.contains s t)
    | v => .error (.wrongType ("'in <string>' requires string as left operand, not " ++ v.kind))
  | container =>
    .error (.wrongType ("argument of type '" ++ container.kind ++ "' is not iterable"))

/-- The entries of a mapping that is merged into another one. -/
def spread : Value → Except Fault (Entries String Value)
  | .map entries => .ok entries
  | v => .error (.wrongType ("'" ++ v.kind ++ "' object is not a mapping"))

/-- Whether a document is a positive number. -/
def isPositive (v : Value) : Except Fault Bool :=
  match v.number? with
  | some n => .ok ((Number.int 0).lt n)
  | none =>
    .error (.wrongType ("'>' not supported between instances of '" ++ v.kind ++ "' and 'int'"))

/-- The number that a document is. -/
def toNumber (v : Value) : Except Fault Number :=
  match v.number? with
  | some n => .ok n
  | none => .error (.wrongType ("must be real number, not " ++ v.kind))

/-- The integer that a document is; a floating-point number is none. -/
def toInteger (v : Value) : Except Fault Int :=
  match v.number? with
  | some (.int n) => .ok n
  | _ => .error (.wrongType ("'" ++ v.kind ++ "' object cannot be interpreted as an integer"))

/-- Writes a property of a mapping. -/
def set (v : Value) (key : String) (x : Value) : Except Fault Value :=
  match v with
  | .map entries => .ok (.map (Entries.insert entries key x))
  | v => .error (.wrongType ("'" ++ v.kind ++ "' object does not support item assignment"))

end Value

end Provisioning
