import Provisioning.Context

/-!
# Laws of reading documents

What reading a part of a document gives, and what it says if the document does not have the shape
for it: such a fault is no refusal of the service, so it carries no code of the service.
-/

set_option autoImplicit false

namespace Provisioning

section
variable {α β : Type}

theorem bind_eq_ok {x : Except Fault α} {f : α → Except Fault β} {b : β} :
    (x >>= f) = .ok b ↔ ∃ a, x = .ok a ∧ f a = .ok b := by
  cases x <;> simp [bind, Except.bind]

theorem bind_eq_error {x : Except Fault α} {f : α → Except Fault β} {e : Fault} :
    (x >>= f) = .error e ↔ x = .error e ∨ ∃ a, x = .ok a ∧ f a = .error e := by
  cases x <;> simp [bind, Except.bind]

theorem pure_eq_ok {a b : α} : (pure a : Except Fault α) = .ok b ↔ a = b := by
  simp [pure, Except.pure]

/-- Reading all items without a fault gives what each of them gives. -/
theorem map_eq_of_mapM {f : α → Except Fault β} {items : List α} {out : List β}
    (h : items.mapM f = .ok out) : items.map f = out.map .ok := by
  induction items generalizing out with
  | nil =>
    obtain rfl := pure_eq_ok.1 h
    rfl
  | cons a items ih =>
    rw [List.mapM_cons] at h
    obtain ⟨b, hb, h⟩ := bind_eq_ok.1 h
    obtain ⟨rest, hrest, h⟩ := bind_eq_ok.1 h
    obtain rfl := pure_eq_ok.1 h
    rw [List.map_cons, List.map_cons, hb, ih hrest]

theorem exists_of_mem_mapM {f : α → Except Fault β} {items : List α} {out : List β}
    (h : items.mapM f = .ok out) {b : β} (hb : b ∈ out) : ∃ a ∈ items, f a = .ok b := by
  have hmem : Except.ok b ∈ items.map f := by
    rw [map_eq_of_mapM h]
    exact List.mem_map_of_mem hb
  exact List.mem_map.1 hmem

theorem exists_mem_of_mapM {f : α → Except Fault β} {items : List α} {out : List β}
    (h : items.mapM f = .ok out) {a : α} (ha : a ∈ items) : ∃ b ∈ out, f a = .ok b := by
  have hmem : f a ∈ out.map .ok := by
    rw [← map_eq_of_mapM h]
    exact List.mem_map_of_mem ha
  obtain ⟨b, hb, he⟩ := List.mem_map.1 hmem
  exact ⟨b, hb, he.symm⟩

theorem ne_nil_of_mapM {f : α → Except Fault β} {items : List α} {out : List β}
    (h : items.mapM f = .ok out) (hne : items ≠ []) : out ≠ [] := by
  rintro rfl
  exact hne (List.map_eq_nil_iff.1 (map_eq_of_mapM h))

/-- A filter that meets no fault has asked all items, and keeps those for which the answer is
yes. -/
theorem filterM_eq_ok {p : α → Except Fault Bool} {items out : List α}
    (h : items.filterM p = .ok out) :
    (∀ a ∈ items, ∃ b, p a = .ok b) ∧ ∀ a, a ∈ out ↔ a ∈ items ∧ p a = .ok true := by
  have haux : ∀ {items kept out : List α}, items.filterAuxM p kept = .ok out →
      (∀ a ∈ items, ∃ b, p a = .ok b) ∧
        ∀ a, a ∈ out ↔ a ∈ kept ∨ a ∈ items ∧ p a = .ok true := by
    intro items
    induction items with
    | nil =>
      intro kept out h
      obtain rfl := pure_eq_ok.1 h
      simp
    | cons x items ih =>
      intro kept out h
      obtain ⟨b, hb, h⟩ := bind_eq_ok.1 h
      obtain ⟨hasked, hmem⟩ := ih h
      refine ⟨List.forall_mem_cons.2 ⟨⟨b, hb⟩, hasked⟩, fun a => ?_⟩
      rw [hmem]
      by_cases hax : a = x
      · subst hax
        cases b <;> simp [hb]
      · cases b <;> simp [hax]
  obtain ⟨kept, hkept, h⟩ := bind_eq_ok.1 h
  obtain rfl := pure_eq_ok.1 h
  simpa using haux hkept

/-- A filter whose question is answered for all items filters by the answers. -/
theorem filterM_of_forall_ok {p : α → Except Fault Bool} {q : α → Bool} {items : List α}
    (h : ∀ a ∈ items, p a = .ok (q a)) : items.filterM p = .ok (items.filter q) := by
  have haux : ∀ kept, items.filterAuxM p kept = .ok ((items.filter q).reverse ++ kept) := by
    induction items with
    | nil => exact fun _ => rfl
    | cons a items ih =>
      intro kept
      obtain ⟨ha, hrest⟩ := List.forall_mem_cons.1 h
      have hstep : (a :: items).filterAuxM p kept =
          (p a >>= fun b => items.filterAuxM p (cond b (a :: kept) kept)) := rfl
      rw [hstep, ha, List.filter_cons]
      cases hq : q a with
      | true => exact (ih hrest (a :: kept)).trans (by simp)
      | false => exact (ih hrest kept).trans (by simp)
  have hfilter : items.filterM p = (items.filterAuxM p [] >>= fun kept => .ok kept.reverse) := rfl
  rw [hfilter, haux]
  simp [bind, Except.bind]

/-- Reading items that can all be read. -/
theorem mapM_of_forall_ok {f : α → Except Fault β} {g : α → β} {items : List α}
    (h : ∀ a ∈ items, f a = .ok (g a)) : items.mapM f = .ok (items.map g) := by
  induction items with
  | nil => rfl
  | cons a items ih =>
    obtain ⟨ha, hrest⟩ := List.forall_mem_cons.1 h
    rw [List.mapM_cons, ha, ih hrest]
    rfl

end

namespace Value

variable {v x : Value} {key : String}

theorem beq_text_iff {t : String} : (v == .text t) = true ↔ v = .text t := by
  rw [beq_iff]
  cases v <;> simp [canonical]

theorem entriesFor_eq_ok {method : String} {entries : Entries String Value} :
    v.entriesFor method = .ok entries ↔ v = .map entries := by
  cases v <;> simp [entriesFor]

theorem get_eq_ok :
    v.get key = .ok x ↔ ∃ entries : Entries String Value, v = .map entries ∧
      (entries.get? key).getD .null = x := by
  simp only [get, bind_eq_ok, entriesFor_eq_ok, pure_eq_ok]

theorem set_eq_ok {w : Value} :
    v.set key x = .ok w ↔ ∃ entries : Entries String Value, v = .map entries ∧
      w = .map (entries.insert key x) := by
  cases v <;> simp [set, Eq.comm]

theorem orElse_map (entries : Entries String Value) :
    (Value.map entries).orElse (.map []) = .map entries := by
  cases entries <;> rfl

theorem truthy_text {t : String} (h : t ≠ "") : (text t).truthy = true := by
  simpa [truthy] using h

theorem orElse_text {t : String} (h : t ≠ "") : (text t).orElse v = .text t := by
  rw [orElse, if_pos (truthy_text h)]

theorem get?_of_get {entries : Entries String Value} {key : String} {v : Value}
    (h : (Value.map entries).get key = .ok v) (hv : v.isNull = false) :
    entries.get? key = some v := by
  obtain ⟨_, he, h⟩ := get_eq_ok.1 h
  cases he
  cases hget : entries.get? key with
  | none => rw [hget] at h; subst h; cases hv
  | some u => rw [hget] at h; rw [← h]; rfl

theorem not_isNull_of_get (h : v.get key = .ok x) : v.isNull = false := by
  obtain ⟨entries, rfl, -⟩ := get_eq_ok.1 h
  rfl

end Value

/-! ## Faults of shape -/

/-- A fault is a refusal of the service. -/
def Fault.isRefusal : Fault → Bool
  | .service _ => true
  | _ => false

/-- Only a refusal carries a code of the service. -/
theorem Fault.serviceCode_eq_null {f : Fault} (hf : f.isRefusal = false) :
    f.serviceCode = .null := by
  cases f with
  | service error => cases hf
  | _ => rfl

/-- The message of a handler fault that says something. -/
theorem Fault.message_handler {fault : HandlerFault} (h : fault.text ≠ "") :
    (Fault.handler fault).message = .text fault.text := by
  have hempty : fault.text.isEmpty = false := by simpa using h
  have hmessage : (Fault.handler fault).message =
      .text (if fault.text.isEmpty then (handler fault).className else fault.text) := rfl
  rw [hmessage, hempty, if_neg Bool.false_ne_true]

/-- What is read may be missing or of the wrong kind, but no such fault is a refusal of the
service, so it carries no code. -/
def Codeless {α : Type} (x : Except Fault α) : Prop := ∀ f, x = .error f → f.isRefusal = false

namespace Codeless

variable {α β : Type}

theorem ok (a : α) : Codeless (.ok a : Except Fault α) := fun _ h => by cases h

theorem error {f : Fault} (hf : f.isRefusal = false) : Codeless (.error f : Except Fault α) :=
  fun _ h => by cases h; exact hf

theorem bind {x : Except Fault α} {f : α → Except Fault β} (hx : Codeless x)
    (hf : ∀ a, Codeless (f a)) : Codeless (x >>= f) := fun e h => by
  rcases bind_eq_error.1 h with h | ⟨a, -, h⟩
  · exact hx e h
  · exact hf a e h

theorem ite {p : Prop} [Decidable p] {x y : Except Fault α} (hx : Codeless x) (hy : Codeless y) :
    Codeless (if p then x else y) := by
  split
  · exact hx
  · exact hy

theorem mapM {f : α → Except Fault β} (hf : ∀ a, Codeless (f a)) (items : List α) :
    Codeless (items.mapM f) := by
  induction items with
  | nil => exact .ok _
  | cons a items ih =>
    rw [List.mapM_cons]
    exact (hf a).bind fun _ => ih.bind fun _ => .ok _

theorem foldlM {f : β → α → Except Fault β} (hf : ∀ b a, Codeless (f b a)) (items : List α)
    (b : β) : Codeless (items.foldlM f b) := by
  induction items generalizing b with
  | nil => exact .ok _
  | cons a items ih =>
    rw [List.foldlM_cons]
    exact (hf b a).bind ih

theorem filterAuxM {p : α → Except Fault Bool} (hp : ∀ a, Codeless (p a)) (items kept : List α) :
    Codeless (items.filterAuxM p kept) := by
  induction items generalizing kept with
  | nil => exact .ok _
  | cons a items ih => exact (hp a).bind fun _ => ih _

theorem filterM {p : α → Except Fault Bool} (hp : ∀ a, Codeless (p a)) (items : List α) :
    Codeless (items.filterM p) := (filterAuxM hp items []).bind fun _ => .ok _

end Codeless

namespace Value

variable (v x : Value) (key : String)

theorem codeless_entriesFor (method : String) : Codeless (v.entriesFor method) := by
  unfold entriesFor
  split
  · exact .ok _
  · exact .error rfl

theorem codeless_get : Codeless (v.get key) := (codeless_entriesFor v _).bind fun _ => .ok _

theorem codeless_getD (fallback : Value) : Codeless (v.getD key fallback) :=
  (codeless_entriesFor v _).bind fun _ => .ok _

theorem codeless_iterate : Codeless v.iterate := by
  unfold iterate
  split
  · exact .ok _
  · exact .ok _
  · exact .ok _
  · exact .error rfl

theorem codeless_require : Codeless (v.require key) := by
  unfold require
  split
  · split
    · exact .ok _
    · exact .error rfl
  all_goals exact .error rfl

theorem codeless_set : Codeless (v.set key x) := by
  unfold set
  split
  · exact .ok _
  · exact .error rfl

theorem codeless_first : Codeless v.first := by
  unfold first
  split
  · exact .ok _
  · exact .error rfl
  · split
    · exact .ok _
    · exact .error rfl
  · exact .error rfl
  · exact .error rfl

theorem codeless_spread : Codeless v.spread := by
  unfold spread
  split
  · exact .ok _
  · exact .error rfl

theorem codeless_checkKey : Codeless v.checkKey := by
  unfold checkKey
  split
  · exact .ok _
  · exact .error rfl

theorem codeless_occursIn : Codeless (x.occursIn v) := by
  unfold occursIn
  split
  · exact (codeless_checkKey x).bind fun _ => .ok _
  · exact .ok _
  · split
    · exact .ok _
    · exact .error rfl
  · exact .error rfl

theorem codeless_isPositive : Codeless v.isPositive := by
  unfold isPositive
  split
  · exact .ok _
  · exact .error rfl

variable {v x key}

/-- A document of the wrong shape does not mean that a resource is missing. -/
theorem not_isA_of_first {f : Fault} (hf : v.first = .error f) :
    f.isA "NotFoundError" = false := by
  unfold Value.first at hf
  split at hf
  · cases hf
  · cases hf; rfl
  · split at hf
    · cases hf
    · cases hf; rfl
  · cases hf; rfl
  · cases hf; rfl

theorem not_isA_of_entriesFor {method : String} {f : Fault} (hf : v.entriesFor method = .error f) :
    f.isA "NotFoundError" = false := by
  unfold entriesFor at hf
  split at hf
  · cases hf
  · cases hf; rfl

theorem not_isA_of_get {f : Fault} (hf : v.get key = .error f) :
    f.isA "NotFoundError" = false := by
  rcases bind_eq_error.1 hf with hf | ⟨entries, -, hf⟩
  · exact not_isA_of_entriesFor hf
  · cases hf

end Value

theorem Number.codeless_whole (n : Number) : Codeless n.whole := by
  unfold whole
  split
  · exact .ok _
  · exact .error rfl
  · split
    · exact .ok _
    · exact .error rfl

namespace Context

variable (c : Context) (field : String)

theorem codeless_get : Codeless (c.get field) := by
  unfold get
  split
  · exact .ok _
  · exact .error rfl

theorem codeless_set (v : Value) : Codeless (c.set field v) := by
  unfold set
  split
  · exact .error rfl
  · exact .ok _

theorem not_isA_of_set {c : Context} {field : String} {v : Value} {f : Fault}
    (hf : c.set field v = .error f) : f.isA "NotFoundError" = false := by
  unfold set at hf
  split at hf
  · cases hf; rfl
  · cases hf

end Context

end Provisioning
