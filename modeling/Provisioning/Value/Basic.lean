import Provisioning.DateTime
import Provisioning.Entries
import Provisioning.Number

/-!
# Documents

Resource models, service responses, request payloads and callback contexts are documents: null,
booleans, numbers, texts, dates, lists and mappings with text keys. Nothing checks their shape
before a handler reads them, so a document of any shape can stand at any place.

Two documents are the same (`==`) if their canonical forms are equal: numbers and booleans compare
by numeric value, dates by the instant that they are, mappings regardless of the order of their
keys. The exception to this is a number that is undefined: it is not even equal to itself
(`Number.le`), but it is the same as itself here, so that being the same is an equivalence. JSON has
no such number, and no property of a resource is declared to hold one.
-/

set_option autoImplicit false

namespace Provisioning

/-- A document. -/
inductive Value
  | null
  | bool (b : Bool)
  | number (n : Number)
  | text (s : String)
  | date (d : DateTime)
  | list (items : List Value)
  | map (entries : List (String × Value))
  deriving Inhabited

namespace Value

/-- An integer as a document. -/
@[match_pattern] abbrev int (n : Int) : Value := .number (.int n)

/-- A floating-point number as a document. -/
@[match_pattern] abbrev float (x : Binary64) : Value := .number (.float x)

mutual

/-- Equality of documents is decidable, by recursion on both. -/
def decEq : (a b : Value) → Decidable (a = b)
  | .null, .null => isTrue rfl
  | .bool x, .bool y => decidable_of_iff (x = y) (by simp)
  | .number x, .number y => decidable_of_iff (x = y) (by simp)
  | .text x, .text y => decidable_of_iff (x = y) (by simp)
  | .date x, .date y => decidable_of_iff (x = y) (by simp)
  | .list xs, .list ys =>
    match decItems xs ys with
    | isTrue h => isTrue (h ▸ rfl)
    | isFalse h => isFalse fun e => h (Value.list.inj e)
  | .map xs, .map ys =>
    match decEntries xs ys with
    | isTrue h => isTrue (h ▸ rfl)
    | isFalse h => isFalse fun e => h (Value.map.inj e)
  | .null, .bool _ | .null, .number _ | .null, .text _ | .null, .date _ | .null, .list _
  | .null, .map _ | .bool _, .null | .bool _, .number _ | .bool _, .text _ | .bool _, .date _
  | .bool _, .list _ | .bool _, .map _ | .number _, .null | .number _, .bool _
  | .number _, .text _ | .number _, .date _ | .number _, .list _ | .number _, .map _
  | .text _, .null | .text _, .bool _ | .text _, .number _ | .text _, .date _ | .text _, .list _
  | .text _, .map _ | .date _, .null | .date _, .bool _ | .date _, .number _ | .date _, .text _
  | .date _, .list _ | .date _, .map _ | .list _, .null | .list _, .bool _ | .list _, .number _
  | .list _, .text _ | .list _, .date _ | .list _, .map _ | .map _, .null | .map _, .bool _
  | .map _, .number _ | .map _, .text _ | .map _, .date _ | .map _, .list _ => isFalse (by simp)

/-- Equality of lists of documents. -/
def decItems : (xs ys : List Value) → Decidable (xs = ys)
  | [], [] => isTrue rfl
  | [], _ :: _ => isFalse (by simp)
  | _ :: _, [] => isFalse (by simp)
  | x :: xs, y :: ys =>
    match decEq x y, decItems xs ys with
    | isTrue h, isTrue h' => isTrue (h ▸ h' ▸ rfl)
    | isFalse h, _ => isFalse (by simp [h])
    | _, isFalse h => isFalse (by simp [h])

/-- Equality of entries. -/
def decEntries : (xs ys : List (String × Value)) → Decidable (xs = ys)
  | [], [] => isTrue rfl
  | [], _ :: _ => isFalse (by simp)
  | _ :: _, [] => isFalse (by simp)
  | (k, x) :: xs, (l, y) :: ys =>
    match instDecidableEqString k l, decEq x y, decEntries xs ys with
    | isTrue h, isTrue h', isTrue h'' => isTrue (h ▸ h' ▸ h'' ▸ rfl)
    | isFalse h, _, _ => isFalse (by simp [h])
    | _, isFalse h, _ => isFalse (by simp [h])
    | _, _, isFalse h => isFalse (by simp [h])

end

/-- Inserts an entry before the first entry with a greater or equal key. -/
def insertByKey (e : String × Value) : List (String × Value) → List (String × Value)
  | [] => [e]
  | f :: rest => if e.1 ≤ f.1 then e :: f :: rest else f :: insertByKey e rest

mutual

/-- The form that documents of the same meaning share: booleans and integral numbers as integers,
dates on one clock, mappings sorted by key. -/
def canonical : Value → Value
  | .null => .null
  | .bool b => .int (if b then 1 else 0)
  | .number n => .number n.canonical
  | .text s => .text s
  | .date d => .date d.canonical
  | .list items => .list (canonicalItems items)
  | .map entries => .map (canonicalEntries entries)

/-- The canonical forms of the items of a list. -/
def canonicalItems : List Value → List Value
  | [] => []
  | v :: vs => canonical v :: canonicalItems vs

/-- The canonical forms of entries, sorted by key. -/
def canonicalEntries : List (String × Value) → List (String × Value)
  | [] => []
  | (k, v) :: rest => insertByKey (k, canonical v) (canonicalEntries rest)

end

/-- Whether two documents mean the same. -/
def same (a b : Value) : Bool := (decEq a.canonical b.canonical).decide

instance : BEq Value := ⟨same⟩

theorem beq_iff (a b : Value) : (a == b) = true ↔ a.canonical = b.canonical :=
  @decide_eq_true_iff _ (decEq a.canonical b.canonical)

instance : EquivBEq Value where
  rfl := (beq_iff _ _).2 rfl
  symm h := (beq_iff _ _).2 ((beq_iff _ _).1 h).symm
  trans h h' := (beq_iff _ _).2 (((beq_iff _ _).1 h).trans ((beq_iff _ _).1 h'))

@[simp] theorem text_beq_text (s t : String) : (Value.text s == Value.text t) = (s == t) := by
  rw [Bool.eq_iff_iff, beq_iff]
  simp [canonical]

/-- Whether a document counts as true: everything does but null, false, zero and what is empty. -/
def truthy : Value → Bool
  | .null => false
  | .bool b => b
  | .number n => !n.isZero
  | .text s => !s.isEmpty
  | .date _ => true
  | .list items => !items.isEmpty
  | .map entries => !entries.isEmpty

/-- Whether a document is null. -/
def isNull : Value → Bool
  | .null => true
  | _ => false

/-- The document itself if it counts as true, else another one. -/
def orElse (v fallback : Value) : Value := if v.truthy then v else fallback

/-- The number that a document is, where booleans count as 0 and 1. -/
def number? : Value → Option Number
  | .number n => some n
  | .bool b => some (.int (if b then 1 else 0))
  | _ => none

/-- The text that a document is. -/
def text? : Value → Option String
  | .text s => some s
  | _ => none

/-- Whether a document can be the key of a mapping: lists and mappings cannot. -/
def isKey : Value → Bool
  | .list _ => false
  | .map _ => false
  | _ => true

end Value

end Provisioning
