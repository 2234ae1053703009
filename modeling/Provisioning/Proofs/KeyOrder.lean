import Provisioning.Proofs.Entries

/-!
# The order of keys

A mapping that is written entry by entry has its keys in the order in which they occur first
(`keys_merge`), and for each key the value that was written last (`get?_merge_last`). The keys that
occur first are what `List.eraseDups` keeps; its laws are stated for keys that are compared with
`==`, which need not be equality.
-/

set_option autoImplicit false

namespace Provisioning.Entries

variable {κ ν : Type} [BEq κ]

/-! ## First occurrences -/

/-- Induction along `List.eraseDups`: behind a key, the keys that are equal to it are left out. -/
theorem eraseDups_induction {motive : List κ → Prop} (nil : motive [])
    (cons : ∀ k keys, motive (keys.filter fun b => !b == k) → motive (k :: keys))
    (keys : List κ) : motive keys := by
  have hlength : ∀ n, ∀ keys : List κ, keys.length ≤ n → motive keys := by
    intro n
    induction n with
    | zero =>
      intro keys hn
      rw [List.length_eq_zero_iff.1 (Nat.le_zero.1 hn)]
      exact nil
    | succ n ih =>
      intro keys hn
      cases keys with
      | nil => exact nil
      | cons k keys =>
        have hrest : keys.length ≤ n := Nat.le_of_succ_le_succ hn
        exact cons k keys (ih _ (Nat.le_trans (List.length_filter_le _ keys) hrest))
  exact hlength _ keys (Nat.le_refl _)

theorem eraseDups_sublist (keys : List κ) : keys.eraseDups.Sublist keys := by
  induction keys using eraseDups_induction with
  | nil => exact List.Sublist.refl []
  | cons k keys ih =>
    have hrest : (keys.filter fun b => !b == k).Sublist keys := List.filter_sublist
    rw [List.eraseDups_cons]
    exact List.cons_sublist_cons.2 (ih.trans hrest)

section
variable [EquivBEq κ]

/-- No two of the first occurrences are equal. -/
theorem pairwise_eraseDups (keys : List κ) :
    keys.eraseDups.Pairwise fun a b => (a == b) = false := by
  induction keys using eraseDups_induction with
  | nil => exact .nil
  | cons k keys ih =>
    rw [List.eraseDups_cons, List.pairwise_cons]
    refine ⟨fun b hb => ?_, ih⟩
    have hne := (List.mem_filter.1 ((eraseDups_sublist _).subset hb)).2
    exact BEq.symm_false (by simpa using hne)

theorem any_eraseDups (keys : List κ) (k : κ) :
    keys.eraseDups.any (· == k) = keys.any (· == k) := by
  induction keys using eraseDups_induction with
  | nil => rfl
  | cons a keys ih =>
    rw [List.eraseDups_cons, List.any_cons, List.any_cons, ih, List.any_filter]
    cases hak : a == k with
    | true => rfl
    | false =>
      -- what equals the key that is looked up does not equal another one
      have hkeep : ∀ b, ((!b == a) && b == k) = (b == k) := fun b => by
        cases hbk : b == k with
        | false => rw [Bool.and_false]
        | true =>
          have hba : (b == a) = false := by
            rw [BEq.congr_left hbk]
            exact BEq.symm_false hak
          rw [hba]
          rfl
      simp only [hkeep]

theorem eraseDups_eq_self {keys : List κ} (h : keys.Pairwise fun a b => (a == b) = false) :
    keys.eraseDups = keys := by
  induction keys with
  | nil => rfl
  | cons k keys ih =>
    obtain ⟨hne, hrest⟩ := List.pairwise_cons.1 h
    have hkeep : keys.filter (fun b => !b == k) = keys :=
      List.filter_eq_self.2 fun b hb => by rw [BEq.symm_false (hne b hb)]; rfl
    rw [List.eraseDups_cons, hkeep, ih hrest]

/-- Keys of which none is dropped are all different. -/
theorem pairwise_of_length_eraseDups {keys : List κ}
    (h : keys.eraseDups.length = keys.length) :
    keys.Pairwise fun a b => (a == b) = false := by
  have hself : keys.eraseDups = keys := (eraseDups_sublist keys).eq_of_length h
  rw [← hself]
  exact pairwise_eraseDups keys

/-- A key that has occurred before is dropped. -/
theorem eraseDups_append_cons {front : List κ} {k : κ} (h : front.any (· == k) = true)
    (back : List κ) : (front ++ k :: back).eraseDups = (front ++ back).eraseDups := by
  induction front using eraseDups_induction generalizing back with
  | nil => cases h
  | cons a front ih =>
    rw [List.cons_append, List.cons_append, List.eraseDups_cons, List.eraseDups_cons,
      List.filter_append, List.filter_append, List.filter_cons]
    cases hka : k == a with
    | true => rfl
    | false =>
      have hfront : (front.filter fun b => !b == a).any (· == k) = true := by
        rw [List.any_cons, BEq.symm_false hka, Bool.false_or] at h
        obtain ⟨b, hb, hbk⟩ := List.any_eq_true.1 h
        have hba : (b == a) = false := by rw [BEq.congr_left hbk, hka]
        exact List.any_eq_true.2 ⟨b, List.mem_filter.2 ⟨hb, by rw [hba]; rfl⟩, hbk⟩
      exact congrArg _ (ih hfront _)

end

/-! ## Writing -/

omit [BEq κ] in
theorem keys_append (m n : Entries κ ν) : keys (m ++ n) = m.keys ++ n.keys := List.map_append

/-- Writing a new key puts its entry at the end. -/
theorem insert_of_not_has {m : Entries κ ν} {k : κ} (hk : m.has k = false) (v : ν) :
    m.insert k v = m ++ [(k, v)] := by
  induction m with
  | nil => rfl
  | cons e m ih =>
    obtain ⟨a, w⟩ := e
    obtain ⟨hak, hm⟩ := Bool.or_eq_false_iff.1 hk
    have hother : (a == k) = false := hak
    rw [insert, hother, ih hm]
    rfl

theorem merge_append (m front back : Entries κ ν) :
    m.merge (front ++ back) = (m.merge front).merge back := List.foldl_append

theorem distinct_iff_keys {m : Entries κ ν} :
    m.Distinct ↔ m.keys.Pairwise fun a b => (a == b) = false := by
  rw [Distinct, keys, List.pairwise_map]

/-- Entries whose keys are all different are written one behind the other. -/
theorem merge_eq_append {m above : Entries κ ν} (h : Distinct (m ++ above)) :
    m.merge above = m ++ above := by
  induction above generalizing m with
  | nil => exact (List.append_nil m).symm
  | cons e above ih =>
    have hk : m.has e.1 = false := by
      rw [has, List.any_eq_false]
      intro f hf
      have hne := (List.pairwise_append.1 h).2.2 f hf e (.head _)
      simpa using hne
    have hstep : m.merge (e :: above) = (m.insert e.1 e.2).merge above := rfl
    rw [hstep, insert_of_not_has hk, ih (by rwa [List.append_assoc]), List.append_assoc]
    rfl

theorem ofList_eq_self {m : Entries κ ν} (h : m.Distinct) : ofList m = m := merge_eq_append h

section
variable [EquivBEq κ]

/-- A merged mapping has the keys of both in the order in which they occur first. -/
theorem keys_merge {m : Entries κ ν} (hd : m.Distinct) (above : Entries κ ν) :
    (m.merge above).keys = (m.keys ++ above.keys).eraseDups := by
  induction above generalizing m with
  | nil =>
    rw [show keys ([] : Entries κ ν) = [] from rfl, List.append_nil,
      eraseDups_eq_self (distinct_iff_keys.1 hd)]
    rfl
  | cons e above ih =>
    have hstep : m.merge (e :: above) = (m.insert e.1 e.2).merge above := rfl
    have hkeys : keys (e :: above) = e.1 :: keys above := rfl
    rw [hstep, ih (distinct_insert hd e.1 e.2), hkeys]
    cases hk : m.has e.1 with
    | true =>
      rw [keys_insert_of_has hk, eraseDups_append_cons (by rwa [← has_eq_any_keys])]
    | false =>
      rw [insert_of_not_has hk, keys_append, List.append_assoc]
      rfl

/-- A merged mapping gives a key the value that was written last. -/
theorem get?_merge_last (m above : Entries κ ν) (k : κ) :
    (m.merge above).get? k = (get? above.reverse k).or (m.get? k) := by
  induction above generalizing m with
  | nil => rfl
  | cons e above ih =>
    obtain ⟨a, v⟩ := e
    have hstep : m.merge ((a, v) :: above) = (m.insert a v).merge above := rfl
    rw [hstep, ih, get?_insert, List.reverse_cons, get?_append, get?_cons, get?_nil,
      Option.or_assoc]
    cases a == k <;> simp

end

end Provisioning.Entries
