import Provisioning.Entries

/-!
# Laws of ordered mappings

An ordered mapping is read through `Entries.get?`: what a write, a merge, a filter and the removal
of keys do to a look-up (`get?_insert`, `get?_merge`, `get?_filter`, `get?_without`). Keys are
compared with `==`, which need not be equality, so a mapping is well-formed if no two of its keys
are equal in this sense (`Entries.Distinct`); writing keeps that (`distinct_merge`).

`agrees_iff`: two mappings agree exactly if every look-up gives equal values in both.
-/

set_option autoImplicit false

namespace Provisioning.Entries

variable {κ ν : Type} [BEq κ]

/-- The entries whose key is none of the given ones. -/
def without (m : Entries κ ν) (keys : List κ) : Entries κ ν :=
  m.filter fun e => !keys.any (e.1 == ·)

/-- Two look-ups give equal values, or both give none. -/
def Matches [BEq ν] : Option ν → Option ν → Prop := Option.Rel fun a b => (a == b) = true

/-! ## Single look-ups -/

@[simp] theorem get?_nil (k : κ) : get? ([] : Entries κ ν) k = none := rfl

@[simp] theorem get?_cons (a : κ) (v : ν) (m : Entries κ ν) (k : κ) :
    get? ((a, v) :: m) k = if a == k then some v else get? m k := by
  unfold get?
  rw [List.find?_cons]
  cases h : a == k <;> simp

@[simp] theorem has_cons (a : κ) (v : ν) (m : Entries κ ν) (k : κ) :
    has ((a, v) :: m) k = ((a == k) || has m k) := rfl

theorem has_eq_isSome (m : Entries κ ν) (k : κ) : m.has k = (m.get? k).isSome := by
  induction m with
  | nil => rfl
  | cons e m ih =>
    obtain ⟨a, v⟩ := e
    rw [has_cons, get?_cons, ih]
    cases a == k <;> simp

theorem get?_eq_none_iff {m : Entries κ ν} {k : κ} : m.get? k = none ↔ m.has k = false := by
  rw [has_eq_isSome]
  cases m.get? k <;> simp

theorem mem_of_get?_eq_some {m : Entries κ ν} {k : κ} {v : ν} (h : m.get? k = some v) :
    ∃ a, (a, v) ∈ m ∧ (a == k) = true := by
  induction m with
  | nil => simp at h
  | cons e m ih =>
    obtain ⟨a, w⟩ := e
    rw [get?_cons] at h
    cases ha : a == k with
    | true =>
      simp only [ha, if_true, Option.some.injEq] at h
      exact ⟨a, by simp [h], ha⟩
    | false =>
      obtain ⟨b, hb, hk⟩ := ih (by simpa [ha] using h)
      exact ⟨b, List.mem_cons_of_mem _ hb, hk⟩

theorem get?_append (m n : Entries κ ν) (k : κ) :
    get? (m ++ n) k = (m.get? k).or (n.get? k) := by
  induction m with
  | nil => rfl
  | cons e m ih =>
    obtain ⟨a, v⟩ := e
    rw [List.cons_append, get?_cons, get?_cons, ih]
    cases a == k <;> simp

/-! ## Distinct keys -/

instance (m : Entries κ ν) : Decidable m.Distinct :=
  inferInstanceAs (Decidable (List.Pairwise (fun a b => (a.1 == b.1) = false) m))

theorem distinct_nil : Distinct ([] : Entries κ ν) := List.Pairwise.nil

/-- Writing an entry changes no other value, and adds no other key. -/
theorem mem_insert {m : Entries κ ν} {k : κ} {v : ν} {e : κ × ν} (h : e ∈ m.insert k v) :
    e ∈ m ∨ e.2 = v ∧ (e.1 = k ∨ ∃ w, (e.1, w) ∈ m) := by
  induction m with
  | nil =>
    obtain rfl := List.mem_singleton.1 h
    exact .inr ⟨rfl, .inl rfl⟩
  | cons f m ih =>
    obtain ⟨a, w⟩ := f
    unfold insert at h
    split at h <;> rcases List.mem_cons.1 h with rfl | h
    · exact .inr ⟨rfl, .inr ⟨w, List.mem_cons_self⟩⟩
    · exact .inl (List.mem_cons_of_mem _ h)
    · exact .inl List.mem_cons_self
    · rcases ih h with hm | ⟨hv, hk | ⟨u, hu⟩⟩
      · exact .inl (List.mem_cons_of_mem _ hm)
      · exact .inr ⟨hv, .inl hk⟩
      · exact .inr ⟨hv, .inr ⟨u, List.mem_cons_of_mem _ hu⟩⟩

theorem mem_merge_value {m : Entries κ ν} {keys : List κ} {v : ν} {e : κ × ν}
    (h : e ∈ m.merge (keys.map (·, v))) : e ∈ m ∨ e.2 = v := by
  induction keys generalizing m with
  | nil => exact .inl h
  | cons k keys ih =>
    have hinsert : e ∈ m.insert k v ∨ e.2 = v := ih h
    rcases hinsert with h | h
    · exact (mem_insert h).imp_right And.left
    · exact .inr h

theorem distinct_insert {m : Entries κ ν} (hd : m.Distinct) (k : κ) (v : ν) :
    (m.insert k v).Distinct := by
  induction m with
  | nil => simp [insert, Distinct]
  | cons e m ih =>
    obtain ⟨a, w⟩ := e
    obtain ⟨hne, hd⟩ := List.pairwise_cons.1 hd
    unfold insert
    split
    · exact List.pairwise_cons.2 ⟨hne, hd⟩
    · rename_i hak
      refine List.pairwise_cons.2 ⟨fun f hf => ?_, ih hd⟩
      rcases mem_insert hf with hf | ⟨-, hk | ⟨u, hu⟩⟩
      · exact hne f hf
      · simpa [hk] using hak
      · exact hne (f.1, u) hu

theorem distinct_merge {m : Entries κ ν} (hd : m.Distinct) (above : Entries κ ν) :
    (m.merge above).Distinct := by
  induction above generalizing m with
  | nil => exact hd
  | cons e above ih => exact ih (distinct_insert hd e.1 e.2)

theorem distinct_filter {m : Entries κ ν} (hd : m.Distinct) (p : κ × ν → Bool) :
    Distinct (m.filter p) := List.Pairwise.filter p hd

theorem has_eq_any_keys (m : Entries κ ν) (k : κ) : m.has k = m.keys.any (· == k) := by
  simp only [has, keys, List.any_map, Function.comp_def]

/-- Writing a known key keeps the keys. -/
theorem keys_insert_of_has {m : Entries κ ν} {k : κ} (hk : m.has k = true) (v : ν) :
    (m.insert k v).keys = m.keys := by
  induction m with
  | nil => simp [has] at hk
  | cons e m ih =>
    obtain ⟨a, w⟩ := e
    unfold insert
    cases hak : a == k with
    | true => rfl
    | false =>
      have := ih (by simpa [has_cons, hak] using hk)
      simpa [keys] using this

section
variable [EquivBEq κ]

/-! ## Equal keys -/

/-- A key that is equal to none of a mapping is not found in it. -/
theorem get?_eq_none_of_ne {m : Entries κ ν} {a k : κ} (hne : ∀ e ∈ m, (a == e.1) = false)
    (hak : (a == k) = true) : m.get? k = none := by
  cases hk : m.get? k with
  | none => rfl
  | some w =>
    obtain ⟨b, hb, hbk⟩ := mem_of_get?_eq_some hk
    exact absurd (BEq.trans hak (BEq.symm hbk)) (by simp [hne _ hb])

theorem get?_congr (m : Entries κ ν) {k l : κ} (h : (k == l) = true) : m.get? k = m.get? l := by
  unfold get?
  simp only [BEq.congr_right h]

theorem get?_of_mem {m : Entries κ ν} (hd : m.Distinct) {k : κ} {v : ν} (h : (k, v) ∈ m) :
    m.get? k = some v := by
  induction m with
  | nil => simp at h
  | cons e m ih =>
    obtain ⟨a, w⟩ := e
    obtain ⟨hne, hd⟩ := List.pairwise_cons.1 hd
    rw [get?_cons]
    rcases List.mem_cons.1 h with he | hm
    · cases he; simp
    · simp [show (a == k) = false from hne _ hm, ih hd hm]

/-- A mapping with distinct keys is read back from its keys. -/
theorem map_get?_keys {m : Entries κ ν} (hd : m.Distinct) {fields : Entries κ ν}
    (hkeys : m.keys = fields.keys) :
    fields.map (fun e => (e.1, (m.get? e.1).getD e.2)) = m := by
  have hlen : fields.length = m.length := by
    simpa [keys] using (congrArg List.length hkeys).symm
  refine List.ext_getElem (by rw [List.length_map, hlen]) fun n h₁ h₂ => ?_
  have hn : n < fields.length := by simpa using h₁
  have hkey : m[n].1 = fields[n].1 := by
    have := congrArg (·[n]?) hkeys
    simpa [keys, hn, h₂] using this
  have hget : m.get? m[n].1 = some m[n].2 := get?_of_mem hd (List.getElem_mem h₂)
  rw [List.getElem_map, ← hkey, hget]
  rfl

/-! ## Writing -/

theorem get?_insert (m : Entries κ ν) (k l : κ) (v : ν) :
    (m.insert k v).get? l = if k == l then some v else m.get? l := by
  induction m with
  | nil => simp [insert]
  | cons e m ih =>
    obtain ⟨a, w⟩ := e
    cases hak : a == k with
    | true =>
      simp only [insert, hak, if_true, get?_cons]
      rw [BEq.congr_left hak]
      cases k == l <;> simp
    | false =>
      simp only [insert, hak, Bool.false_eq_true, if_false, get?_cons, ih]
      cases hal : a == l <;> cases hkl : k == l <;> simp
      -- both keys cannot be the one that is looked up
      exact absurd (BEq.trans hal (BEq.symm hkl)) (by simp [hak])

theorem get?_insert_self (m : Entries κ ν) (k : κ) (v : ν) : (m.insert k v).get? k = some v := by
  rw [get?_insert, BEq.rfl, if_pos rfl]

/-- A merged mapping gives what the upper one gives, and else what the lower one gives. -/
theorem get?_merge (m : Entries κ ν) {above : Entries κ ν} (hd : above.Distinct) (k : κ) :
    (m.merge above).get? k = (above.get? k).or (m.get? k) := by
  induction above generalizing m with
  | nil => rfl
  | cons e above ih =>
    obtain ⟨a, v⟩ := e
    obtain ⟨hne, hd⟩ := List.pairwise_cons.1 hd
    show ((m.insert a v).merge above).get? k = _
    rw [ih _ hd, get?_insert, get?_cons]
    cases hak : a == k with
    | false => simp
    | true => simp [get?_eq_none_of_ne hne hak]

/-- Merging one value for some keys gives these keys the value. -/
theorem get?_merge_map (m : Entries κ ν) (keys : List κ) (v : ν) (k : κ) :
    (m.merge (keys.map (·, v))).get? k = if keys.any (· == k) then some v else m.get? k := by
  induction keys generalizing m with
  | nil => rfl
  | cons a keys ih =>
    show ((m.insert a v).merge (keys.map (·, v))).get? k = _
    rw [ih, get?_insert, List.any_cons]
    cases a == k <;> simp

theorem has_insert (m : Entries κ ν) (k l : κ) (v : ν) :
    (m.insert k v).has l = ((k == l) || m.has l) := by
  rw [has_eq_isSome, has_eq_isSome, get?_insert]
  cases k == l <;> simp

theorem has_merge (m above : Entries κ ν) (k : κ) :
    (m.merge above).has k = (m.has k || above.has k) := by
  induction above generalizing m with
  | nil => exact (Bool.or_false _).symm
  | cons e above ih =>
    obtain ⟨a, v⟩ := e
    show ((m.insert a v).merge above).has k = _
    rw [ih, has_insert, has_cons, Bool.or_assoc, Bool.or_left_comm]

/-! ## Filtering -/

/-- A filter that does not tell equal keys apart filters what is looked up. -/
theorem get?_filter {m : Entries κ ν} (hd : m.Distinct) {p : κ × ν → Bool}
    (hp : ∀ a b v, (a == b) = true → p (a, v) = p (b, v)) (k : κ) :
    get? (m.filter p) k = (m.get? k).filter fun v => p (k, v) := by
  induction m with
  | nil => rfl
  | cons e m ih =>
    obtain ⟨a, v⟩ := e
    obtain ⟨hne, hd'⟩ := List.pairwise_cons.1 hd
    rw [List.filter_cons, get?_cons]
    cases hak : a == k with
    | true =>
      have hm := get?_eq_none_of_ne hne hak
      rw [hp a k v hak]
      cases hpk : p (k, v) <;> simp [hak, hpk, ih hd', hm, Option.filter]
    | false => cases hpa : p (a, v) <;> simp [hak, ih hd']

omit [EquivBEq κ] in
/-- A filter of keys keeps the values of those that pass. -/
theorem get?_filter_keys {p : κ → Bool} (hp : ∀ a b, (a == b) = true → p a = p b)
    (m : Entries κ ν) (k : κ) :
    get? (m.filter fun e => p e.1) k = if p k then m.get? k else none := by
  induction m with
  | nil => simp
  | cons e m ih =>
    obtain ⟨a, v⟩ := e
    rw [List.filter_cons, get?_cons]
    cases hak : a == k with
    | true => cases hpk : p k <;> simp [hp a k hak, hpk, hak, ih]
    | false => cases hpa : p a <;> simp [hak, ih]

omit [EquivBEq κ] in
/-- A filter for keys may be applied before an entry is written. -/
theorem filter_insert {p : κ → Bool} (hp : ∀ a b, (a == b) = true → p a = p b)
    (m : Entries κ ν) (k : κ) (v : ν) :
    (m.insert k v).filter (fun e => p e.1) =
      if p k then insert (m.filter fun e => p e.1) k v else m.filter fun e => p e.1 := by
  induction m with
  | nil => cases hk : p k <;> simp [insert, hk]
  | cons e m ih =>
    obtain ⟨a, w⟩ := e
    cases hak : a == k with
    | true =>
      have hpa := hp a k hak
      cases hk : p k <;> simp [insert, hak, hpa, hk]
    | false => cases ha : p a <;> cases hk : p k <;> simp_all [insert]

omit [EquivBEq κ] in
theorem filter_merge {p : κ → Bool} (hp : ∀ a b, (a == b) = true → p a = p b)
    (m above : Entries κ ν) :
    (m.merge above).filter (fun e => p e.1) =
      merge (m.filter fun e => p e.1) (above.filter fun e => p e.1) := by
  induction above generalizing m with
  | nil => rfl
  | cons e above ih =>
    have hmerge : m.merge (e :: above) = (m.insert e.1 e.2).merge above := rfl
    rw [hmerge, ih, filter_insert hp, List.filter_cons]
    cases hk : p e.1 <;> simp [merge]

omit [EquivBEq κ] in
theorem insert_ne_nil (m : Entries κ ν) (k : κ) (v : ν) : m.insert k v ≠ [] := by
  cases m with
  | nil => simp [insert]
  | cons e m =>
    rw [insert]
    split <;> simp

omit [EquivBEq κ] in
theorem merge_eq_nil_iff {m above : Entries κ ν} : m.merge above = [] ↔ m = [] ∧ above = [] := by
  constructor
  · intro h
    induction above generalizing m with
    | nil => exact ⟨h, rfl⟩
    | cons e above ih => exact absurd (ih h).1 (insert_ne_nil m e.1 e.2)
  · rintro ⟨rfl, rfl⟩
    rfl

theorem get?_without (m : Entries κ ν) (keys : List κ) (k : κ) :
    (m.without keys).get? k = if keys.any (k == ·) then none else m.get? k := by
  unfold without
  rw [get?_filter_keys (p := fun a => !keys.any (a == ·))
    fun a b h => by simp only [BEq.congr_left h]]
  cases keys.any (k == ·) <;> rfl

omit [EquivBEq κ] in
theorem without_nil (m : Entries κ ν) : m.without [] = m := List.filter_eq_self.2 fun _ _ => rfl

omit [EquivBEq κ] in
theorem any_keys [PartialEquivBEq κ] (m : Entries κ ν) (k : κ) :
    (m.keys.any (k == ·)) = m.has k := by
  simp only [keys, has, List.any_map, Function.comp_def, BEq.comm (a := k)]

/-- Removing a key that is there makes a mapping one entry shorter. -/
theorem length_without {m : Entries κ ν} (hd : m.Distinct) {k : κ} (hk : m.has k = true) :
    (m.without [k]).length + 1 = m.length := by
  induction m with
  | nil => simp [has] at hk
  | cons e m ih =>
    obtain ⟨a, v⟩ := e
    obtain ⟨hne, hd⟩ := List.pairwise_cons.1 hd
    rw [has_cons] at hk
    cases hak : a == k with
    | true =>
      have hrest : m.filter (fun e => !(e.1 == k)) = m := by
        refine List.filter_eq_self.2 fun f hf => ?_
        have hkf : (k == f.1) = false := (BEq.congr_left hak).symm.trans (hne f hf)
        simp [BEq.symm_false hkf]
      simp [without, hak, hrest]
    | false =>
      have := ih hd (by simpa [hak] using hk)
      simp only [without, List.any_cons, List.any_nil, Bool.or_false] at this ⊢
      simp [hak, this]

/-! ## Agreement -/

theorem get?_cons_self (a : κ) (v : ν) (m : Entries κ ν) : get? ((a, v) :: m) a = some v := by
  rw [get?_cons, BEq.rfl, if_pos rfl]

variable [BEq ν]

theorem matches_some_iff {o : Option ν} {w : ν} :
    Matches o (some w) ↔ ∃ v, o = some v ∧ (v == w) = true :=
  ⟨fun h => by cases h with | some h => exact ⟨_, rfl, h⟩, by rintro ⟨v, rfl, h⟩; exact .some h⟩

theorem not_matches_some_none {v : ν} : ¬ Matches (some v) none := fun h => by cases h

theorem matches_cons_iff {m n : Entries κ ν} {a : κ} {v w : ν} (hm : m.has a = false)
    (ha : n.get? a = some w) :
    (∀ k, Matches (get? ((a, v) :: m) k) (n.get? k)) ↔
      (v == w) = true ∧ ∀ k, Matches (m.get? k) ((n.without [a]).get? k) := by
  have hat : ∀ k, (k == a) = true → Matches (m.get? k) ((n.without [a]).get? k) := by
    intro k hk
    rw [get?_without, get?_congr m hk, get?_eq_none_iff.2 hm]
    simp only [List.any_cons, List.any_nil, hk, Bool.or_false, if_true]
    exact .none
  have hoff : ∀ k, (k == a) = false → Matches (get? ((a, v) :: m) k) (n.get? k) =
      Matches (m.get? k) ((n.without [a]).get? k) := by
    intro k hk
    rw [get?_without, get?_cons]
    simp [hk, BEq.symm_false hk]
  constructor
  · intro h
    refine ⟨?_, fun k => ?_⟩
    · have hav := h a
      rw [get?_cons_self, ha] at hav
      obtain ⟨u, hu, huw⟩ := matches_some_iff.1 hav
      cases hu
      exact huw
    · cases hk : k == a with
      | true => exact hat k hk
      | false => rw [← hoff k hk]; exact h k
  · rintro ⟨hvw, h⟩ k
    cases hk : k == a with
    | true =>
      rw [get?_congr n hk, ha, get?_cons]
      simp only [BEq.symm hk, if_true]
      exact .some hvw
    | false => rw [hoff k hk]; exact h k

/-- Two mappings agree exactly if every look-up gives equal values in both. -/
theorem agrees_iff {m n : Entries κ ν} (hm : m.Distinct) (hn : n.Distinct) :
    m.agrees n = true ↔ ∀ k, Matches (m.get? k) (n.get? k) := by
  induction m generalizing n with
  | nil =>
    constructor
    · intro h k
      obtain rfl : n = [] := List.length_eq_zero_iff.1 (by
        simpa [agrees, Eq.comm (a := 0)] using h)
      exact .none
    · intro h
      cases n with
      | nil => rfl
      | cons e n =>
        obtain ⟨a, v⟩ := e
        have hcons := h a
        rw [get?_cons_self] at hcons
        cases hcons
  | cons e m ih =>
    obtain ⟨a, v⟩ := e
    obtain ⟨hne, hm⟩ := List.pairwise_cons.1 hm
    have hma : has m a = false := get?_eq_none_iff.1 (get?_eq_none_of_ne hne BEq.rfl)
    cases ha : n.get? a with
    | none =>
      constructor
      · intro h
        simp [agrees, ha] at h
      · intro h
        have hcons := h a
        rw [ha, get?_cons_self] at hcons
        exact absurd hcons not_matches_some_none
    | some w =>
      have hlen := length_without hn (k := a) (by rw [has_eq_isSome, ha]; rfl)
      have hrest : (m.all fun x => (n.get? x.1).any (x.2 == ·)) =
          m.all fun x => ((n.without [a]).get? x.1).any (x.2 == ·) := by
        rw [Bool.eq_iff_iff, List.all_eq_true, List.all_eq_true]
        refine forall₂_congr fun x hx => ?_
        rw [get?_without]
        simp [BEq.symm_false (hne x hx)]
      rw [matches_cons_iff hma ha, ← ih hm (n := n.without [a]) (distinct_filter hn _)]
      unfold agrees
      simp only [List.length_cons, List.all_cons, ha, Option.any_some, Bool.and_eq_true,
        beq_iff_eq, ← hlen, Nat.add_right_cancel_iff, hrest]
      exact and_left_comm

end

end Provisioning.Entries
