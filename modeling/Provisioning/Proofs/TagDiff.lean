import Provisioning.Proofs.TagSet
import Provisioning.Tagging

/-!
# When a difference of tag sets is right

`TagSet.diff` compares every source of the desired tags with the flat view of the previous ones.
A value that the flat view of the desired tags hides behind a value of higher precedence
(`TagSet.Overridden`) is added all the same, if the previous tags do not have it; and it then stands
alone if the value in front of it is not added, because it was there before.

`agrees_applyDiff_iff`: applying the difference to the previous tags gives the desired ones exactly
if every key with a hidden value changes its flat value. In particular the difference of a tag set
and itself is empty exactly if the set hides no value, and then nothing is called.
-/

set_option autoImplicit false

namespace Provisioning.TagSet

open Entries (Matches)

/-- The tags of a resource after a difference has been applied to it: keys are removed first, then
tags are written over the rest. -/
def applyDiff (tags : Tags) (d : TagSet × TagSet) : Tags :=
  (tags.without d.1.flat.keys).merge d.2.flat

/-- A source gives the value `v` to the key `k`, but the flat view gives it another one. -/
def Overridden (t : TagSet) (k v : Value) : Prop :=
  v ∈ t.given k ∧ ∃ w, t.flat.get? k = some w ∧ (w == v) = false

/-- Whether the tags before have another value for a key, or none. -/
def differsFrom (before : Tags) (e : Value × Value) : Bool := !(before.get? e.1).any (· == e.2)

theorem diff_eq (previous desired : TagSet) :
    diff previous desired =
      (previous.filtered fun e => !desired.flat.has e.1,
        desired.filtered (differsFrom previous.flat)) := rfl

theorem differsFrom_congr (before : Tags) (a b v : Value) (h : (a == b) = true) :
    differsFrom before (a, v) = differsFrom before (b, v) := by
  simp only [differsFrom, Entries.get?_congr before h]

theorem not_has_congr (tags : Tags) (a b : Value) (h : (a == b) = true) :
    (!tags.has a) = !tags.has b := by
  rw [Entries.has_eq_isSome, Entries.has_eq_isSome, Entries.get?_congr tags h]

/-- A value is added exactly if it does not match the one before. -/
theorem differsFrom_iff {before : Tags} {k v : Value} :
    differsFrom before (k, v) = true ↔ ¬ Matches (before.get? k) (some v) := by
  rw [Entries.matches_some_iff]
  cases h : before.get? k <;> simp [differsFrom, h]

/-- If a value was there before, the others are added that are not equal to it. -/
theorem differsFrom_of_matches {before : Tags} {k w : Value}
    (h : Matches (before.get? k) (some w)) (v : Value) :
    differsFrom before (k, v) = !(w == v) := by
  obtain ⟨x, hx, hxw⟩ := Entries.matches_some_iff.1 h
  simp only [differsFrom, hx, Option.any_some, BEq.congr_left hxw]

/-- What a key has after the difference has been applied: the first desired value that differs
from before; else what it had, if the key is desired at all. -/
theorem get?_applyDiff {previous desired : TagSet} (hp : previous.WellFormed)
    (hd : desired.WellFormed) (k : Value) :
    (applyDiff previous.flat (diff previous desired)).get? k =
      ((desired.given k).find? fun v => differsFrom previous.flat (k, v)).or
        (if desired.flat.has k then previous.flat.get? k else none) := by
  unfold applyDiff
  rw [diff_eq, Entries.get?_merge _ (distinct_flat (hd.filtered _).system),
    get?_flat_filtered hd (differsFrom_congr _), Entries.get?_without,
    Entries.any_keys, Entries.has_eq_isSome,
    get?_flat_filtered hp fun a b _ h => not_has_congr _ a b h]
  congr 1
  rw [get?_flat hp]
  -- a key that is not desired is removed, whatever its value
  cases hk : desired.flat.has k <;> cases previous.given k <;> simp [hk]

/-- What a key has after the difference has been applied is right exactly if the key hides no value
or changes the one that it shows. -/
theorem matches_applyDiff_iff {previous desired : TagSet} (hp : previous.WellFormed)
    (hd : desired.WellFormed) (k : Value) :
    Matches ((applyDiff previous.flat (diff previous desired)).get? k) (desired.flat.get? k) ↔
      ∀ v, desired.Overridden k v → ¬ Matches (previous.flat.get? k) (desired.flat.get? k) := by
  rw [get?_applyDiff hp hd, Entries.has_eq_isSome]
  simp only [Overridden, get?_flat hd]
  rcases hg : desired.given k with _ | ⟨w, rest⟩
  · simp only [List.find?_nil, List.head?_nil, Option.isSome_none, Bool.false_eq_true, if_false,
      Option.or_none, List.not_mem_nil, false_and, false_imp_iff, implies_true, iff_true]
    exact .none
  · simp only [List.head?_cons, Option.isSome_some, if_true]
    by_cases hm : Matches (previous.flat.get? k) (some w)
    · -- the value that shows was there before, so it is not added again
      simp only [differsFrom_of_matches hm, List.find?_cons, BEq.rfl, Bool.not_true]
      cases hf : rest.find? fun v => !(w == v) with
      | none =>
        have hall : ∀ v ∈ w :: rest, (w == v) = true := by
          intro v hv
          rcases List.mem_cons.1 hv with rfl | hv
          · exact BEq.rfl
          · simpa using List.find?_eq_none.1 hf v hv
        rw [Option.none_or]
        refine ⟨fun _ v ⟨hv, u, hu, huv⟩ => ?_, fun _ => hm⟩
        cases hu
        rw [hall v hv] at huv
        cases huv
      | some v =>
        have hv : (w == v) = false := by simpa using List.find?_some hf
        rw [Option.some_or]
        refine ⟨fun h => ?_, fun h => ?_⟩
        · obtain ⟨u, hu, huw⟩ := Entries.matches_some_iff.1 h
          cases hu
          rw [BEq.symm huw] at hv
          cases hv
        · exact absurd hm (h v ⟨List.mem_cons_of_mem _ (List.mem_of_find?_eq_some hf), w, rfl, hv⟩)
    · -- the value that shows is new, so it is added
      rw [List.find?_cons, differsFrom_iff.2 hm, Option.some_or]
      exact ⟨fun _ _ _ => hm, fun _ => .some BEq.rfl⟩

/-- Nothing is to be removed to go from a tag set to itself. -/
theorem isEmpty_diff_self_left {t : TagSet} (ht : t.WellFormed) :
    (diff t t).1.isEmpty = true := by
  rw [diff_eq, isEmpty_filtered_iff]
  intro tags htags e he
  obtain ⟨w, hw⟩ := exists_flat_of_mem_given ht (mem_given_of_mem ht htags he)
  rw [Entries.has_eq_isSome, hw]
  rfl

/-- Nothing is to be added to go from a tag set to itself exactly if it hides no value. -/
theorem isEmpty_diff_self_right_iff {t : TagSet} (ht : t.WellFormed) :
    (diff t t).2.isEmpty = true ↔ ∀ k v, ¬ t.Overridden k v := by
  rw [diff_eq, isEmpty_filtered_iff]
  constructor
  · rintro h k v ⟨hv, w, hw, hne⟩
    obtain ⟨tags, htags, hk⟩ := mem_given.1 hv
    obtain ⟨a, ha, hak⟩ := Entries.mem_of_get?_eq_some hk
    have := h tags htags (a, v) ha
    rw [differsFrom, Entries.get?_congr _ hak, hw] at this
    simp [hne] at this
  · intro h tags htags e he
    have hmem := mem_given_of_mem ht htags he
    obtain ⟨w, hw⟩ := exists_flat_of_mem_given ht hmem
    cases hwe : w == e.2 with
    | true => simp [differsFrom, hw, hwe]
    | false => exact absurd ⟨hmem, w, hw, hwe⟩ (h e.1 e.2)

/-- Applying a difference gives the desired tags exactly if no key keeps its flat value while the
desired tags hide another value of it. A tag set without hidden values differs in nothing from
itself, and bringing a resource from it to itself calls nothing. -/
theorem agrees_applyDiff_iff {previous desired : TagSet} (hp : previous.WellFormed)
    (hd : desired.WellFormed) :
    ((applyDiff previous.flat (diff previous desired)).agrees desired.flat = true ↔
      ∀ k v, desired.Overridden k v →
        ¬ Matches (previous.flat.get? k) (desired.flat.get? k)) ∧
    ((diff desired desired).1.isEmpty = true ∧ (diff desired desired).2.isEmpty = true ↔
      ∀ k v, ¬ desired.Overridden k v) ∧
    ((∀ k v, ¬ desired.Overridden k v) → ∀ rules arnField fetchArn progress,
      updateTags desired desired rules arnField fetchArn progress = pure progress) := by
  have hself : (diff desired desired).1.isEmpty = true ∧ (diff desired desired).2.isEmpty = true ↔
      ∀ k v, ¬ desired.Overridden k v := by
    rw [isEmpty_diff_self_right_iff hd]
    exact and_iff_right (isEmpty_diff_self_left hd)
  refine ⟨?_, hself, fun h rules arnField fetchArn progress => ?_⟩
  · have hleft : (applyDiff previous.flat (diff previous desired)).Distinct :=
      Entries.distinct_merge (Entries.distinct_filter (distinct_flat hp.system) _) _
    rw [Entries.agrees_iff hleft (distinct_flat hd.system)]
    simp only [matches_applyDiff_iff hp hd]
  · obtain ⟨hremove, hadd⟩ := hself.2 h
    unfold updateTags
    simp [hremove, hadd]

/-- The stack and the resource give one key different values. -/
def twoTeams : TagSet :=
  { stack := [(.text "team", .text "data")], resource := [(.text "team", .text "web")] }

theorem wellFormed_twoTeams : twoTeams.WellFormed :=
  ⟨.nil, .cons (by simp) .nil, .cons (by simp) .nil⟩

/-- The key of `twoTeams` hides a value, since the difference to itself is not empty. -/
theorem overridden_twoTeams : twoTeams.WellFormed ∧ ∃ k v, twoTeams.Overridden k v := by
  refine ⟨wellFormed_twoTeams, Classical.byContradiction fun h => ?_⟩
  have hnone : ∀ k v, ¬ twoTeams.Overridden k v := fun k v hkv => h ⟨k, v, hkv⟩
  obtain ⟨-, hadd⟩ :=
    (agrees_applyDiff_iff wellFormed_twoTeams wellFormed_twoTeams).2.1.2 hnone
  revert hadd
  decide

/-- Neither does a difference always lead to the desired tags, nor is the difference of a tag set
and itself always empty. -/
theorem not_forall_agrees_applyDiff :
    (¬ ∀ previous desired : TagSet, previous.WellFormed → desired.WellFormed →
      (applyDiff previous.flat (diff previous desired)).agrees desired.flat = true) ∧
    ¬ ∀ t : TagSet, t.WellFormed → (diff t t).2.isEmpty = true := by
  refine ⟨fun h => ?_, fun h => ?_⟩
  · have := h _ _ wellFormed_twoTeams wellFormed_twoTeams
    revert this
    decide
  · have := h _ wellFormed_twoTeams
    revert this
    decide

end Provisioning.TagSet
