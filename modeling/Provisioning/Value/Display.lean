import Provisioning.Value.Basic
import Provisioning.Text.Quoted

/-!
# The text of a document

A text stands for itself at the top and is quoted inside lists and mappings. The three constants
are spelled with a capital letter.
-/

set_option autoImplicit false

namespace Provisioning.Value

mutual

/-- The text of a document as part of another one. -/
def inner : Value → String
  | .null => "None"
  | .bool b => if b then "True" else "False"
  | .number n => n.text
  | .text s => Text.quoted s
  | .date d => d.parts
  | .list items => "[" ++ String.intercalate ", " (innerItems items) ++ "]"
  | .map entries => "\x7b" ++ String.intercalate ", " (innerEntries entries) ++ "\x7d"

/-- The texts of the items of a list. -/
def innerItems : List Value → List String
  | [] => []
  | v :: vs => inner v :: innerItems vs

/-- The texts of entries: the quoted key, a colon, and the value. -/
def innerEntries : List (String × Value) → List String
  | [] => []
  | (k, v) :: rest => (Text.quoted k ++ ": " ++ inner v) :: innerEntries rest

end

/-- The text of a document. -/
def display : Value → String
  | .text s => s
  | .date d => d.text ' '
  | v => inner v

/-- What kind of document it is, in the words of messages. -/
def kind : Value → String
  | .null => "NoneType"
  | .bool _ => "bool"
  | .number (.int _) => "int"
  | .number (.float _) => "float"
  | .text _ => "str"
  | .date _ => "datetime.datetime"
  | .list _ => "list"
  | .map _ => "dict"

end Provisioning.Value
