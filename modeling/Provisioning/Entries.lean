/-!
# Ordered mappings

A mapping that keeps its keys in the order in which they were first written, as a list of entries.
Writing a key again replaces its value and keeps its place. Keys are compared with `==`, so keys
that are equal but not identical share one entry, which keeps the first of them.
-/

set_option autoImplicit false

namespace Provisioning

/-- The entries of an ordered mapping. -/
abbrev Entries (κ ν : Type) := List (κ × ν)

namespace Entries

variable {κ ν : Type} [BEq κ]

/-- The value of a key. -/
def get? (m : Entries κ ν) (k : κ) : Option ν := (m.find? fun entry => entry.1 == k).map (·.2)

/-- Whether a key is present. -/
def has (m : Entries κ ν) (k : κ) : Bool := m.any fun entry => entry.1 == k

/-- Writes a key: a known key keeps its place, a new one goes to the end. -/
def insert : (m : Entries κ ν) → κ → ν → Entries κ ν
  | [], k, v => [(k, v)]
  | (k', v') :: rest, k, v => if k' == k then (k', v) :: rest else (k', v') :: insert rest k v

/-- Writes all entries of a second mapping over a first one, in their order. -/
def merge (m above : Entries κ ν) : Entries κ ν := above.foldl (fun acc e => acc.insert e.1 e.2) m

/-- The mapping written by a list of entries, where the last value of a key wins. -/
def ofList (entries : List (κ × ν)) : Entries κ ν := merge [] entries

omit [BEq κ] in
/-- The keys in their order. -/
def keys (m : Entries κ ν) : List κ := m.map (·.1)

/-- No two entries have the same key. -/
def Distinct (m : Entries κ ν) : Prop := m.Pairwise fun a b => (a.1 == b.1) = false

/-- Whether two mappings have the same keys with the same values, in any order. -/
def agrees [BEq ν] (m n : Entries κ ν) : Bool :=
  m.length == n.length && m.all fun (k, v) => (n.get? k).any (v == ·)

end Entries

end Provisioning
