import Provisioning.Stabilization
import Provisioning.Proofs.Entries
import Provisioning.Proofs.Reading

/-!
# How callback contexts change

A context that a handler may leave behind extends the one that it found (`Context.Extends`): it has
the same kind and the same declared fields, what is set stays set, and the time of the first poll
stays what it is. Its declared fields survive the way to the next invocation (`ofValue_toValue`).
-/

set_option autoImplicit false

namespace Provisioning

namespace Context

variable {c c' : Context} {field flag : String} {v : Value}

/-! ## Writing -/

theorem get?_put_self (c : Context) (field : String) (v : Value) :
    (c.put field v).get? field = some v := by
  unfold put
  split
  · simp [get?, Entries.get?_insert]
  · rename_i h
    have hnone : c.declared.get? field = none := Entries.get?_eq_none_iff.2 (by simpa using h)
    simp [get?, Entries.get?_insert, hnone]

theorem get?_put_of_ne (c : Context) {other : String} (h : other ≠ field) (v : Value) :
    (c.put field v).get? other = c.get? other := by
  unfold put
  split <;> simp [get?, Entries.get?_insert, h.symm]

theorem set_eq_put (h : c.set field v = .ok c') : c' = c.put field v := by
  unfold set at h
  split at h
  · cases h
  · cases h; rfl

theorem isUnset_of_truthy (h : v.truthy = true) : isUnset v = false := by
  cases v with
  | null => cases h
  | bool b => rw [show b = true from h]; rfl
  | _ => rfl

/-- Setting a field to what does not count as unset is never refused. -/
theorem set_of_not_isUnset (h : isUnset v = false) : c.set field v = .ok (c.put field v) := by
  simp [set, unsets, h]

theorem kind_put (c : Context) (field : String) (v : Value) : (c.put field v).kind = c.kind := by
  unfold put; split <;> rfl

theorem keys_put (c : Context) (field : String) (v : Value) :
    (c.put field v).declared.keys = c.declared.keys := by
  unfold put
  split
  · rename_i h; exact Entries.keys_insert_of_has h v
  · rfl

theorem get_put_self (c : Context) (field : String) (v : Value) :
    (c.put field v).get field = .ok v := by
  rw [get, get?_put_self]

theorem get_put_of_ne (c : Context) {other : String} (h : other ≠ field) (v : Value) :
    (c.put field v).get other = c.get other := by
  rw [get, get, get?_put_of_ne c h v, kind_put]

/-! ## Extension -/

/-- The flags of guarded steps. -/
def flags : List String :=
  ["create_complete", "add_tags_complete", "modify_complete", "update_tags_complete",
   "delete_complete", "parameters_applied"]

/-- A flag is set. -/
def Marked (c : Context) (flag : String) : Prop := ∃ v, c.get? flag = some v ∧ v.truthy = true

/-- A field is set. -/
def Sets (c : Context) (field : String) : Prop := ∃ v, c.get? field = some v ∧ isUnset v = false

/-- What a handler may make of a context. -/
structure Extends (c c' : Context) : Prop where
  kind : c'.kind = c.kind
  keys : c'.declared.keys = c.declared.keys
  flags : ∀ flag ∈ flags, c'.get? flag = c.get? flag ∨ c'.get? flag = some (.bool true)
  grows : ∀ field, c.Sets field → c'.Sets field
  start : ∀ v, c.get? startField = some v → v.isNull = false → c'.get? startField = some v

theorem Extends.refl (c : Context) : c.Extends c :=
  ⟨rfl, rfl, fun _ _ => .inl rfl, fun _ h => h, fun _ h _ => h⟩

theorem Extends.trans {c₁ c₂ c₃ : Context} (h : c₁.Extends c₂) (h' : c₂.Extends c₃) :
    c₁.Extends c₃ where
  kind := h'.kind.trans h.kind
  keys := h'.keys.trans h.keys
  flags flag hf := by
    rcases h'.flags flag hf with h₂ | h₂
    · rw [h₂]; exact h.flags flag hf
    · exact .inr h₂
  grows field hs := h'.grows field (h.grows field hs)
  start v hv hnull := h'.start v (h.start v hv hnull) hnull

/-- A write that is not refused does not unset a field. -/
theorem sets_of_set (h : c.set field v = .ok c') (hs : c.Sets field) : c'.Sets field := by
  obtain ⟨u, hu, hset⟩ := hs
  obtain rfl := set_eq_put h
  refine ⟨v, get?_put_self c field v, ?_⟩
  unfold set at h
  split at h
  · cases h
  · rename_i hunsets
    simpa [unsets, hu, hset] using hunsets

/-- A write extends a context if it writes nothing but true to a flag, and the time of the first
poll only before it is there. -/
theorem Extends.of_set (h : c.set field v = .ok c') (hv : field ∈ Context.flags → v = .bool true)
    (hstart : field = startField → ∀ u, c.get? startField = some u → u.isNull = true) :
    c.Extends c' := by
  have hput := set_eq_put h
  have hother : ∀ other, other ≠ field → c'.get? other = c.get? other := fun other hne => by
    rw [hput, get?_put_of_ne c hne v]
  refine ⟨by rw [hput, kind_put], by rw [hput, keys_put], fun flag hf => ?_, fun other hs => ?_,
    fun u hu hnull => ?_⟩
  · by_cases hne : flag = field
    · subst hne
      exact .inr (by rw [hput, get?_put_self, hv hf])
    · exact .inl (hother flag hne)
  · by_cases hne : other = field
    · subst hne
      exact sets_of_set h hs
    · obtain ⟨u, hu, hset⟩ := hs
      exact ⟨u, (hother other hne).trans hu, hset⟩
  · by_cases hne : startField = field
    · rw [hstart hne.symm u hu] at hnull
      cases hnull
    · exact (hother startField hne).trans hu

theorem Extends.marked (h : c.Extends c') (hf : flag ∈ Context.flags) (hm : c.Marked flag) :
    c'.Marked flag := by
  obtain ⟨v, hv, ht⟩ := hm
  rcases h.flags flag hf with h' | h'
  · exact ⟨v, h'.trans hv, ht⟩
  · exact ⟨.bool true, h', rfl⟩

theorem marked_put (c : Context) (flag : String) : (c.put flag (.bool true)).Marked flag :=
  ⟨.bool true, get?_put_self c flag _, rfl⟩

theorem marked_iff : c.Marked flag ↔ ∃ v, c.get flag = .ok v ∧ v.truthy = true := by
  unfold Marked get
  cases c.get? flag <;> simp

theorem marked_put_of_ne (c : Context) {field flag : String} (h : flag ≠ field) (v : Value) :
    (c.put field v).Marked flag ↔ c.Marked flag := by
  simp only [Marked, get?_put_of_ne c h v]

/-! ## The way to the next invocation -/

theorem distinct_of_keys {m n : Entries String Value} (h : m.keys = n.keys) (hn : n.Distinct) :
    m.Distinct := by
  have hiff : ∀ l : Entries String Value,
      l.Distinct ↔ l.keys.Pairwise fun a b => (a == b) = false := by
    intro l
    rw [Entries.keys, List.pairwise_map, Entries.Distinct]
  rw [hiff] at hn ⊢
  rwa [h]

/-- The declared fields of a context survive the way to the next invocation. -/
theorem ofValue_toValue (h : c.declared.keys = c.kind.fields.keys) :
    ofValue c.kind c.toValue = .ok c.travelled := by
  have hd : c.declared.Distinct := distinct_of_keys h c.kind.distinct
  have hread := Entries.map_get?_keys hd h
  unfold ofValue toValue
  cases htruthy : (Value.map c.declared).truthy with
  | true =>
    simp [Value.entries, Value.entriesFor, hread, travelled, bind, pure, Except.bind, Except.pure]
  | false =>
    have hnil : c.declared = [] := by simpa [Value.truthy] using htruthy
    rw [hnil] at hread
    have hfields : c.kind.fields = [] := List.map_eq_nil_iff.1 hread
    simp [initial, travelled, hnil, hfields, pure, Except.pure]

theorem get?_travelled (h : c.declared.has field = true) :
    c.travelled.get? field = c.get? field := by
  rw [Entries.has_eq_isSome] at h
  obtain ⟨v, hv⟩ := Option.isSome_iff_exists.1 h
  simp [travelled, get?, hv]

end Context

/-- A context has the declared fields of a kind. -/
def ContextKind.Declares (kind : ContextKind) (c : Context) : Prop :=
  c.kind = kind ∧ c.declared.keys = kind.fields.keys

namespace ContextKind

variable {kind : ContextKind} {c : Context}

theorem declares_of_ofValue {v : Value} (hc : Context.ofValue kind v = .ok c) :
    kind.Declares c := by
  unfold Context.ofValue at hc
  split at hc
  · obtain ⟨given, -, hc⟩ := bind_eq_ok.1 hc
    cases hc
    refine ⟨rfl, ?_⟩
    simp only [Entries.keys, List.map_map]
    rfl
  · cases hc
    exact ⟨rfl, rfl⟩

theorem Declares.ofValue_toValue (hc : kind.Declares c) :
    Context.ofValue kind c.toValue = .ok c.travelled := by
  obtain ⟨rfl, hkeys⟩ := hc
  exact Context.ofValue_toValue hkeys

/-- A declared field survives the way to the next invocation. -/
theorem Declares.get?_travelled (hc : kind.Declares c) {field : String}
    (hf : kind.fields.has field = true) : c.travelled.get? field = c.get? field := by
  rw [Context.get?_travelled]
  rw [Entries.has_eq_any_keys, hc.2, ← Entries.has_eq_any_keys]
  exact hf

end ContextKind

end Provisioning
