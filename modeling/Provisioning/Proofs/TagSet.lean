import Provisioning.Proofs.Entries
import Provisioning.TagSet

/-!
# Laws of tag sets

What the three sources of a tag set give to a key is a list in order of precedence
(`TagSet.given`); the flat view gives the first of these values (`get?_flat`), also after all
sources have been filtered in one way (`get?_flat_filtered`).
-/

set_option autoImplicit false

namespace Provisioning.TagSet

/-- Each source is a mapping: it has no key twice. -/
structure WellFormed (t : TagSet) : Prop where
  system : t.system.Distinct
  stack : t.stack.Distinct
  resource : t.resource.Distinct

/-- The values that the sources give to a key, in order of precedence. -/
def given (t : TagSet) (k : Value) : List Value :=
  [t.resource, t.stack, t.system].filterMap (·.get? k)

/-- The tags of every source that satisfy a condition. -/
def filtered (t : TagSet) (p : Value × Value → Bool) : TagSet :=
  { system := t.system.filter p, stack := t.stack.filter p, resource := t.resource.filter p }

theorem distinct_flat {t : TagSet} (h : t.system.Distinct) : t.flat.Distinct :=
  Entries.distinct_merge (Entries.distinct_merge h _) _

theorem WellFormed.filtered {t : TagSet} (h : t.WellFormed) (p : Value × Value → Bool) :
    (t.filtered p).WellFormed :=
  ⟨Entries.distinct_filter h.system p, Entries.distinct_filter h.stack p,
    Entries.distinct_filter h.resource p⟩

theorem mem_given {t : TagSet} {k v : Value} :
    v ∈ t.given k ↔ ∃ tags ∈ [t.resource, t.stack, t.system], tags.get? k = some v :=
  List.mem_filterMap

/-- A tag of a source is among what the sources give to its key. -/
theorem mem_given_of_mem {t : TagSet} (h : t.WellFormed) {tags : Tags}
    (ht : tags ∈ [t.resource, t.stack, t.system]) {e : Value × Value} (he : e ∈ tags) :
    e.2 ∈ t.given e.1 := by
  have hd : tags.Distinct := by
    simp only [List.mem_cons, List.not_mem_nil, or_false] at ht
    rcases ht with rfl | rfl | rfl
    · exact h.resource
    · exact h.stack
    · exact h.system
  exact mem_given.2 ⟨tags, ht, Entries.get?_of_mem hd he⟩

/-- The flat view gives a key the first of the values that the sources give to it. -/
theorem get?_flat {t : TagSet} (h : t.WellFormed) (k : Value) :
    t.flat.get? k = (t.given k).head? := by
  unfold flat given
  rw [Entries.get?_merge _ h.resource, Entries.get?_merge _ h.stack]
  cases hr : t.resource.get? k <;> cases hs : t.stack.get? k <;> cases hy : t.system.get? k <;>
    simp [hr, hs, hy]

theorem exists_flat_of_mem_given {t : TagSet} (h : t.WellFormed) {k v : Value}
    (hv : v ∈ t.given k) : ∃ w, t.flat.get? k = some w := by
  rw [get?_flat h]
  rcases hg : t.given k with _ | ⟨w, rest⟩
  · rw [hg] at hv; cases hv
  · exact ⟨w, rfl⟩

/-- Filtered sources give a key the values that pass the filter. -/
theorem given_filtered {t : TagSet} (h : t.WellFormed) {p : Value × Value → Bool}
    (hp : ∀ a b v, (a == b) = true → p (a, v) = p (b, v)) (k : Value) :
    (t.filtered p).given k = (t.given k).filter fun v => p (k, v) := by
  unfold given filtered
  rw [List.filter_filterMap]
  simp only [List.filterMap_cons, List.filterMap_nil, Entries.get?_filter h.resource hp,
    Entries.get?_filter h.stack hp, Entries.get?_filter h.system hp]

/-- The flat view of filtered sources gives a key the first value that passes the filter. -/
theorem get?_flat_filtered {t : TagSet} (h : t.WellFormed) {p : Value × Value → Bool}
    (hp : ∀ a b v, (a == b) = true → p (a, v) = p (b, v)) (k : Value) :
    (t.filtered p).flat.get? k = (t.given k).find? fun v => p (k, v) := by
  rw [get?_flat (h.filtered p), given_filtered h hp, List.head?_filter]

/-- A filter for keys may as well be applied to the flat view. -/
theorem flat_filtered {p : Value → Bool} (hp : ∀ a b, (a == b) = true → p a = p b) (t : TagSet) :
    (t.filtered fun e => p e.1).flat = t.flat.filter fun e => p e.1 := by
  simp only [flat, filtered, Entries.filter_merge hp]

/-- The flat view shows something if a source has something. -/
theorem flat_eq_nil_iff {t : TagSet} : t.flat = [] ↔ t.isEmpty = true := by
  simp only [flat, Entries.merge_eq_nil_iff, isEmpty, Bool.and_eq_true, List.isEmpty_iff]

theorem flat_of_isEmpty {t : TagSet} (ht : t.isEmpty = true) : t.flat = [] := flat_eq_nil_iff.2 ht

theorem isEmpty_filtered_iff {t : TagSet} {p : Value × Value → Bool} :
    (t.filtered p).isEmpty = true ↔
      ∀ tags ∈ [t.resource, t.stack, t.system], ∀ e ∈ tags, p e = false := by
  simp only [isEmpty, filtered, Bool.and_eq_true, List.isEmpty_iff, List.filter_eq_nil_iff,
    Bool.not_eq_true, List.forall_mem_cons, List.not_mem_nil, false_imp_iff, implies_true,
    and_true]
  exact ⟨fun ⟨⟨a, b⟩, c⟩ => ⟨c, b, a⟩, fun ⟨c, b, a⟩ => ⟨⟨a, b⟩, c⟩⟩

end Provisioning.TagSet
