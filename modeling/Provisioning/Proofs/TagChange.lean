import Provisioning.Proofs.TagDiff

/-!
# Changing tags in parts

A difference of tag sets is applied by two requests, and either of them may be made again after it
has taken effect. This does no harm, because of two laws of `TagSet.applyDiff`: neither removing nor
adding the tags of a difference changes where applying all of it leads (`underway_without`,
`underway_merge`). So tags that are on the way (`TagSet.Underway`) stay on the way, whatever parts
are repeated, and they arrive with the next change that is made as a whole (`TagSet.Applied`).

`Applied.agrees`: if no key of the desired tags is in two sources, then what arrives are the desired
tags.
-/

set_option autoImplicit false

namespace Provisioning

namespace Entries

variable {ν : Type} [BEq ν] [EquivBEq ν] {a b c : Option ν}

theorem Matches.refl : (o : Option ν) → Matches o o
  | some _ => .some BEq.rfl
  | none => .none

theorem Matches.trans (h : Matches a b) (h' : Matches b c) : Matches a c := by
  cases h with
  | none => exact h'
  | some hab =>
    cases h' with
    | some hbc => exact .some (BEq.trans hab hbc)

end Entries

namespace TagSet

open Entries (Matches)

variable {d : TagSet × TagSet} {w w₁ w' : Tags}

/-! ## Parts of a difference -/

/-- What applying a difference gives to a key: what it adds, else what was there and is not
removed. -/
theorem get?_applyDiff_eq (hd : d.2.flat.Distinct) (w : Tags) (k : Value) :
    (applyDiff w d).get? k =
      (d.2.flat.get? k).or (if d.1.flat.has k then none else w.get? k) := by
  unfold applyDiff
  rw [Entries.get?_merge _ hd, Entries.get?_without, Entries.any_keys]

/-- Parts of a difference have been applied: applying all of it leads where it led before. -/
structure Underway (d : TagSet × TagSet) (w w' : Tags) : Prop where
  distinct : w'.Distinct
  leads : ∀ k, (applyDiff w' d).get? k = (applyDiff w d).get? k

/-- All of a difference has been applied. -/
structure Applied (d : TagSet × TagSet) (w w' : Tags) : Prop where
  distinct : w'.Distinct
  gives : ∀ k, w'.get? k = (applyDiff w d).get? k

theorem Underway.refl (hw : w.Distinct) : Underway d w w := ⟨hw, fun _ => rfl⟩

theorem Underway.trans (h : Underway d w w₁) (h' : Underway d w₁ w') : Underway d w w' :=
  ⟨h'.distinct, fun k => (h'.leads k).trans (h.leads k)⟩

theorem Underway.applied (h : Underway d w w₁) (h' : Applied d w₁ w') : Applied d w w' :=
  ⟨h'.distinct, fun k => (h'.gives k).trans (h.leads k)⟩

theorem underway_without (hw : w.Distinct) (hd : d.2.flat.Distinct) :
    Underway d w (w.without d.1.flat.keys) := by
  refine ⟨Entries.distinct_filter hw _, fun k => ?_⟩
  rw [get?_applyDiff_eq hd, get?_applyDiff_eq hd, Entries.get?_without, Entries.any_keys]
  split <;> rfl

theorem underway_merge (hw : w.Distinct) (hd : d.2.flat.Distinct) :
    Underway d w (w.merge d.2.flat) := by
  refine ⟨Entries.distinct_merge hw _, fun k => ?_⟩
  rw [get?_applyDiff_eq hd, get?_applyDiff_eq hd, Entries.get?_merge _ hd]
  cases d.2.flat.get? k with
  | some v => rfl
  | none => rfl

theorem applied_applyDiff (hw : w.Distinct) (d : TagSet × TagSet) : Applied d w (applyDiff w d) :=
  ⟨Entries.distinct_merge (Entries.distinct_filter hw _) _, fun _ => rfl⟩

/-- Where there is nothing to do, all of it has been done. -/
theorem applied_of_isEmpty (hw : w.Distinct) (hremove : d.1.isEmpty = true)
    (hadd : d.2.isEmpty = true) : Applied d w w := by
  have hsame : applyDiff w d = w := by
    unfold applyDiff
    rw [flat_of_isEmpty hremove, flat_of_isEmpty hadd]
    exact Entries.without_nil w
  exact ⟨hw, fun k => by rw [hsame]⟩

/-! ## Sources that have no key in common -/

/-- No key is in two of the three sources. -/
structure Apart (t : TagSet) : Prop where
  system : ∀ e ∈ t.system, t.stack.has e.1 = false ∧ t.resource.has e.1 = false
  stack : ∀ e ∈ t.stack, t.resource.has e.1 = false

theorem get?_eq_none_of_has {tags other : Tags} {k v : Value}
    (hother : ∀ e ∈ tags, other.has e.1 = false) (hv : tags.get? k = some v) :
    other.get? k = none := by
  obtain ⟨a, ha, hak⟩ := Entries.mem_of_get?_eq_some hv
  rw [← Entries.get?_congr other hak, Entries.get?_eq_none_iff]
  exact hother _ ha

/-- Then a key has at most one value. -/
theorem Apart.length_given_le {t : TagSet} (ht : t.Apart) (k : Value) :
    (t.given k).length ≤ 1 := by
  unfold given
  cases hy : t.system.get? k with
  | some v =>
    have hstack := get?_eq_none_of_has (fun e he => (ht.system e he).1) hy
    have hresource := get?_eq_none_of_has (fun e he => (ht.system e he).2) hy
    simp [hy, hstack, hresource]
  | none =>
    cases hs : t.stack.get? k with
    | some v => simp [hy, hs, get?_eq_none_of_has ht.stack hs]
    | none => cases hr : t.resource.get? k <;> simp [hy, hs, hr]

theorem Apart.not_overridden {t : TagSet} (ht : t.Apart) (hwf : t.WellFormed) (k v : Value) :
    ¬ t.Overridden k v := by
  rintro ⟨hv, u, hu, hne⟩
  obtain ⟨x, hx⟩ : ∃ x, t.given k = [x] := List.length_eq_one_iff.1
    (Nat.le_antisymm (ht.length_given_le k) (List.length_pos_of_mem hv))
  rw [get?_flat hwf, hx] at hu
  rw [hx] at hv
  obtain rfl := List.mem_singleton.1 hv
  cases hu
  simp at hne

/-- A difference that has been applied to the previous tags gives the desired ones, if no key of
these is in two sources. -/
theorem Applied.agrees {previous desired : TagSet} (hp : previous.WellFormed)
    (hd : desired.WellFormed) (hapart : desired.Apart) (hw : w.Distinct)
    (hstart : w.agrees previous.flat = true) (h : Applied (diff previous desired) w w') :
    w'.agrees desired.flat = true := by
  rw [Entries.agrees_iff hw (distinct_flat hp.system)] at hstart
  rw [Entries.agrees_iff h.distinct (distinct_flat hd.system)]
  intro k
  have hadded : (diff previous desired).2.flat.Distinct := distinct_flat (hd.filtered _).system
  -- the tags at the start give equal values to the keys that the difference leaves alone
  have hsame : Matches (w'.get? k) ((applyDiff previous.flat (diff previous desired)).get? k) := by
    rw [h.gives, get?_applyDiff_eq hadded, get?_applyDiff_eq hadded]
    cases (diff previous desired).2.flat.get? k with
    | some v => exact .refl _
    | none =>
      cases (diff previous desired).1.flat.has k with
      | true => exact .refl _
      | false => exact hstart k
  exact hsame.trans ((matches_applyDiff_iff hp hd k).2 fun v hv =>
    absurd hv (hapart.not_overridden hd k v))

end TagSet

end Provisioning
