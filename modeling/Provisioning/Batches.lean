import Provisioning.Value.Access

/-!
# Batches

A list cut into consecutive batches of one size, of which only the last may be smaller.
-/

set_option autoImplicit false

namespace Provisioning

/-- Cuts a list into batches of `size` items; a size of zero counts as one. -/
def batches {α : Type} (size : Nat) : List α → List (List α)
  | [] => []
  | x :: xs => (x :: xs.take (size - 1)) :: batches size (xs.drop (size - 1))
termination_by items => items.length
decreasing_by simp only [List.length_drop, List.length_cons]; omega

/-- Cuts a list into batches of a size that a document gives: a number that is at least one. A size
that is no integer is never reached, so that there is one batch. -/
def batchesOf {α : Type} (size : Value) (items : List α) : Except Fault (List (List α)) :=
  match size.number? with
  | none =>
    .error (.wrongType ("'<' not supported between instances of '" ++ size.kind ++ "' and 'int'"))
  | some n =>
    if n.lt (.int 1) then .error (.badValue ("Invalid chunk size: " ++ size.display))
    else
      match n.canonical with
      | .int n => .ok (batches n.toNat items)
      | .float _ => .ok (if items.isEmpty then [] else [items])

/-- Joining the batches gives the list back. -/
theorem flatten_batches {α : Type} (size : Nat) (items : List α) :
    (batches size items).flatten = items := by
  fun_induction batches size items with
  | case1 => rfl
  | case2 x xs ih => simp [ih]

/-- No batch is larger than the size. -/
theorem length_le_of_mem_batches {α : Type} {size : Nat} (hsize : 0 < size) {items b : List α}
    (h : b ∈ batches size items) : b.length ≤ size := by
  fun_induction batches size items with
  | case1 => simp at h
  | case2 x xs ih =>
    rcases List.mem_cons.1 h with rfl | h
    · simp; omega
    · exact ih h

/-- No batch is empty. -/
theorem ne_nil_of_mem_batches {α : Type} {size : Nat} {items b : List α}
    (h : b ∈ batches size items) : b ≠ [] := by
  fun_induction batches size items with
  | case1 => simp at h
  | case2 x xs ih =>
    rcases List.mem_cons.1 h with rfl | h
    · simp
    · exact ih h

/-- Every batch but the last one is full. -/
theorem length_of_mem_dropLast_batches {α : Type} {size : Nat} (hsize : 0 < size)
    {items b : List α} (h : b ∈ (batches size items).dropLast) : b.length = size := by
  fun_induction batches size items with
  | case1 => simp at h
  | case2 x xs ih =>
    have hne : batches size (xs.drop (size - 1)) ≠ [] := by
      intro hnil
      simp [hnil] at h
    -- a batch that is followed by another one was not cut short by the end of the list
    have hmore : size - 1 < xs.length := Nat.lt_of_not_le fun hle => by
      rw [List.drop_eq_nil_of_le hle, batches] at hne
      exact hne rfl
    rw [List.dropLast_cons_of_ne_nil hne] at h
    rcases List.mem_cons.1 h with rfl | h
    · simp; omega
    · exact ih h

/-- Batches of images are images of batches. -/
theorem batches_map {α β : Type} (size : Nat) (f : α → β) (items : List α) :
    batches size (items.map f) = (batches size items).map (List.map f) := by
  fun_induction batches size items with
  | case1 => simp [batches]
  | case2 x xs ih => rw [List.map_cons, batches, ← List.map_drop, ih, ← List.map_take]; rfl

end Provisioning
