import Provisioning.Handler
import Provisioning.Proofs.History

/-!
# What handlers do

`x.Yields s h r s'` means that the handler `x`, started on the record `s`, can run through the
history `h` to the result `r` and leave the record `s'` behind. There is one inversion lemma for
each way to build a handler, so that what a handler can do follows from what its parts can do.
-/

set_option autoImplicit false

namespace Provisioning.Handler

variable {α β : Type} {s s' : Session} {h : History}

/-- A handler can run through a history to a result and leave a record behind. -/
def Yields (x : Handler α) (s : Session) (h : History) (r : Except Fault α) (s' : Session) : Prop :=
  (x.start s).Runs h (r, s')

/-! ## Started on a record -/

theorem start_bind (x : Handler α) (f : α → Handler β) (s : Session) :
    (x >>= f).start s = (x.start s).bind fun p => (ExceptT.bindCont f p.1) p.2 := rfl

theorem start_attempt (x : Handler α) (s : Session) :
    (attempt x).start s = (x.start s).bind fun p => .done (.ok p.1, p.2) := rfl

theorem start_bind_of_done {x : Handler α} {f : α → Handler β} {a : α}
    (h : x.start s = .done (.ok a, s')) : (x >>= f).start s = (f a).start s' := by
  rw [start_bind, h]
  rfl

theorem start_model_bind (f : Value → Handler β) (s : Session) :
    (model >>= f).start s = (f s.model).start s := rfl

theorem start_lift_bind {f : α → Handler β} (x : Except Fault α) (s : Session) :
    (lift x >>= f).start s =
      match x with
      | .ok a => (f a).start s
      | .error fault => .done (.error fault, s) := by
  cases x <;> rfl

/-- A handler behind a check. -/
theorem start_check (c : Prop) [Decidable c] (fault : Fault) (x : Handler β) (s : Session) :
    (lift (if c then .ok () else .error fault) >>= fun _ => x).start s =
      if c then x.start s else .done (.error fault, s) := by
  split <;> rfl

/-! ## Results -/

@[simp] theorem yields_pure {a : α} {r : Except Fault α} :
    (pure a : Handler α).Yields s h r s' ↔ h = [] ∧ r = .ok a ∧ s' = s := by
  unfold Yields start
  rw [show (pure a : Handler α) s = .done (.ok a, s) from rfl, Program.runs_done_iff, Prod.mk.injEq]

@[simp] theorem yields_lift {a r : Except Fault α} :
    (lift a).Yields s h r s' ↔ h = [] ∧ r = a ∧ s' = s := by
  unfold Yields start
  rw [show lift a s = .done (a, s) from rfl, Program.runs_done_iff, Prod.mk.injEq]

@[simp] theorem yields_throw {f : Fault} {r : Except Fault α} :
    (throw f : Handler α).Yields s h r s' ↔ h = [] ∧ r = .error f ∧ s' = s := by
  unfold Yields start
  rw [show (throw f : Handler α) s = .done (.error f, s) from rfl, Program.runs_done_iff,
    Prod.mk.injEq]

/-! ## One handler after another -/

theorem yields_bind {x : Handler α} {f : α → Handler β} {r : Except Fault β} :
    (x >>= f).Yields s h r s' ↔
      (∃ e, x.Yields s h (.error e) s' ∧ r = .error e) ∨
      ∃ h₁ a s₁ h₂, x.Yields s h₁ (.ok a) s₁ ∧ (f a).Yields s₁ h₂ r s' ∧ h = h₁ ++ h₂ := by
  unfold Yields
  rw [start_bind, Program.runs_bind_iff]
  constructor
  · rintro ⟨h₁, ⟨a | e, s₁⟩, h₂, hx, hf, rfl⟩
    · obtain ⟨rfl, he⟩ := Program.runs_done_iff.1 hf
      obtain ⟨rfl, rfl⟩ := Prod.mk.inj he
      rw [List.append_nil]
      exact .inl ⟨_, hx, rfl⟩
    · exact .inr ⟨h₁, _, s₁, h₂, hx, hf, rfl⟩
  · rintro (⟨e, hx, rfl⟩ | ⟨h₁, a, s₁, h₂, hx, hf, rfl⟩)
    · exact ⟨h, _, [], hx, .done _, (List.append_nil h).symm⟩
    · exact ⟨h₁, _, h₂, hx, hf, rfl⟩

/-- A handler with a result does not end in a fault on the way to it. -/
theorem yields_bind_ok {x : Handler α} {f : α → Handler β} {b : β} :
    (x >>= f).Yields s h (.ok b) s' ↔
      ∃ h₁ a s₁ h₂, x.Yields s h₁ (.ok a) s₁ ∧ (f a).Yields s₁ h₂ (.ok b) s' ∧ h = h₁ ++ h₂ := by
  rw [yields_bind]
  simp

theorem yields_lift_bind {a : Except Fault α} {f : α → Handler β} {r : Except Fault β} :
    (lift a >>= f).Yields s h r s' ↔
      (∃ e, a = .error e ∧ h = [] ∧ r = .error e ∧ s' = s) ∨
      ∃ v, a = .ok v ∧ (f v).Yields s h r s' := by
  rw [yields_bind]
  constructor
  · rintro (⟨e, hx, rfl⟩ | ⟨h₁, v, s₁, h₂, hx, hf, rfl⟩)
    · obtain ⟨rfl, ha, rfl⟩ := yields_lift.1 hx
      exact .inl ⟨e, ha.symm, rfl, rfl, rfl⟩
    · obtain ⟨rfl, ha, rfl⟩ := yields_lift.1 hx
      exact .inr ⟨v, ha.symm, hf⟩
  · rintro (⟨e, rfl, rfl, rfl, rfl⟩ | ⟨v, rfl, hf⟩)
    · exact .inl ⟨e, yields_lift.2 ⟨rfl, rfl, rfl⟩, rfl⟩
    · exact .inr ⟨[], v, s, h, yields_lift.2 ⟨rfl, rfl, rfl⟩, hf, rfl⟩

/-- What is known is handed on. -/
theorem lift_ok_bind (a : α) (f : α → Handler β) : (lift (.ok a) >>= f) = f a := rfl

theorem yields_lift_bind_ok {a : Except Fault α} {f : α → Handler β} {b : β} :
    (lift a >>= f).Yields s h (.ok b) s' ↔ ∃ v, a = .ok v ∧ (f v).Yields s h (.ok b) s' := by
  rw [yields_lift_bind]
  simp

/-- If a loop does not fail, it has run its body for every item. -/
theorem exists_of_yields_forM {items : List α} {f : α → Handler PUnit} {u : PUnit}
    (hy : (items.forM f).Yields s h (.ok u) s') {a : α} (ha : a ∈ items) :
    ∃ s₁ h₁ s₂, (f a).Yields s₁ h₁ (.ok ⟨⟩) s₂ ∧ ∀ x ∈ h₁, x ∈ h := by
  induction items generalizing s h with
  | nil => cases ha
  | cons b items ih =>
    obtain ⟨h₁, _, s₁, h₂, hfirst, hrest, rfl⟩ := yields_bind_ok.1 hy
    rcases List.mem_cons.1 ha with rfl | ha
    · exact ⟨s, h₁, s₁, hfirst, fun _ hx => List.mem_append_left h₂ hx⟩
    · obtain ⟨s₂, h₃, s₃, hbody, hmem⟩ := ih hrest ha
      exact ⟨s₂, h₃, s₃, hbody, fun x hx => List.mem_append_right h₁ (hmem x hx)⟩

/-- A handler that makes no request and does not fail hands its result on. -/
theorem yields_bind_of_silent {x : Handler α} {f : α → Handler β} {a : α} {s₁ : Session}
    {r : Except Fault β}
    (hx : ∀ h₁ r₁ s₂, x.Yields s h₁ r₁ s₂ ↔ h₁ = [] ∧ r₁ = .ok a ∧ s₂ = s₁) :
    (x >>= f).Yields s h r s' ↔ (f a).Yields s₁ h r s' := by
  rw [yields_bind]
  constructor
  · rintro (⟨e, hfault, -⟩ | ⟨h₁, b, s₂, h₂, hresult, hf, rfl⟩)
    · cases ((hx _ _ _).1 hfault).2.1
    · obtain ⟨rfl, hb, rfl⟩ := (hx _ _ _).1 hresult
      cases hb
      exact hf
  · exact fun hf => .inr ⟨[], a, s₁, h, (hx _ _ _).2 ⟨rfl, rfl, rfl⟩, hf, rfl⟩

theorem yields_pure_bind {a : α} {f : α → Handler β} {r : Except Fault β} :
    (pure a >>= f).Yields s h r s' ↔ (f a).Yields s h r s' := by
  rw [pure_bind]

/-- The fault of a handler is handed on as its result. -/
theorem yields_attempt {x : Handler α} {r : Except Fault (Except Fault α)} :
    x.attempt.Yields s h r s' ↔ ∃ a, x.Yields s h a s' ∧ r = .ok a := by
  unfold Yields
  rw [start_attempt, Program.runs_bind_iff]
  constructor
  · rintro ⟨h₁, ⟨a, s₁⟩, h₂, hx, hd, rfl⟩
    obtain ⟨rfl, he⟩ := Program.runs_done_iff.1 hd
    obtain ⟨rfl, rfl⟩ := Prod.mk.inj he
    rw [List.append_nil]
    exact ⟨a, hx, rfl⟩
  · rintro ⟨a, hx, rfl⟩
    exact ⟨h, (a, s'), [], hx, .done _, (List.append_nil h).symm⟩

theorem yields_attempt_bind {x : Handler α} {f : Except Fault α → Handler β}
    {r : Except Fault β} :
    (x.attempt >>= f).Yields s h r s' ↔
      ∃ h₁ a s₁ h₂, x.Yields s h₁ a s₁ ∧ (f a).Yields s₁ h₂ r s' ∧ h = h₁ ++ h₂ := by
  rw [yields_bind]
  constructor
  · rintro (⟨e, hx, rfl⟩ | ⟨h₁, a, s₁, h₂, hx, hf, rfl⟩)
    · obtain ⟨a, -, ha⟩ := yields_attempt.1 hx
      cases ha
    · obtain ⟨a, hx, ha⟩ := yields_attempt.1 hx
      cases ha
      exact ⟨h₁, _, s₁, h₂, hx, hf, rfl⟩
  · rintro ⟨h₁, a, s₁, h₂, hx, hf, rfl⟩
    exact .inr ⟨h₁, a, s₁, h₂, yields_attempt.2 ⟨a, hx, rfl⟩, hf, rfl⟩

/-- A fault is caught, and what catches it goes on from the record that was left. -/
theorem yields_tryCatch {x : Handler α} {f : Fault → Handler α} {r : Except Fault α} :
    (tryCatch x f).Yields s h r s' ↔
      (∃ a, x.Yields s h (.ok a) s' ∧ r = .ok a) ∨
      ∃ h₁ e s₁ h₂, x.Yields s h₁ (.error e) s₁ ∧ (f e).Yields s₁ h₂ r s' ∧ h = h₁ ++ h₂ := by
  unfold Yields start
  have hcatch : (tryCatch x f : Handler α) s = (x s).bind fun
      | (.ok a, s₁) => .done (.ok a, s₁)
      | (.error e, s₁) => f e s₁ := by
    refine congrArg (x s).bind (funext fun p => ?_)
    rcases p with ⟨e | a, s₁⟩ <;> rfl
  rw [hcatch, Program.runs_bind_iff]
  constructor
  · rintro ⟨h₁, ⟨e | a, s₁⟩, h₂, hx, hf, rfl⟩
    · exact .inr ⟨h₁, e, s₁, h₂, hx, hf, rfl⟩
    · obtain ⟨rfl, he⟩ := Program.runs_done_iff.1 hf
      obtain ⟨rfl, rfl⟩ := Prod.mk.inj he
      rw [List.append_nil]
      exact .inl ⟨a, hx, rfl⟩
  · rintro (⟨a, hx, rfl⟩ | ⟨h₁, e, s₁, h₂, hx, hf, rfl⟩)
    · exact ⟨h, (.ok a, s'), [], hx, .done _, (List.append_nil h).symm⟩
    · exact ⟨h₁, (.error e, s₁), h₂, hx, hf, rfl⟩

/-! ## Requests -/

theorem yields_ofProgram {p : Program α} {r : Except Fault α} :
    (ofProgram p).Yields s h r s' ↔ ∃ a, p.Runs h a ∧ r = .ok a ∧ s' = s := by
  unfold Yields start
  rw [show ofProgram p s = p.bind fun a => .done (.ok a, s) from rfl, Program.runs_bind_iff]
  constructor
  · rintro ⟨h₁, a, h₂, hp, hd, rfl⟩
    obtain ⟨rfl, he⟩ := Program.runs_done_iff.1 hd
    obtain ⟨rfl, rfl⟩ := Prod.mk.inj he
    rw [List.append_nil]
    exact ⟨a, hp, rfl, rfl⟩
  · rintro ⟨a, hp, rfl, rfl⟩
    exact ⟨h, a, [], hp, .done _, (List.append_nil h).symm⟩

/-- The answer to a call is the result of the call. -/
@[simp] theorem yields_call {operation : String} {arguments : Entries String Value} {r : Answer} :
    (call operation arguments).Yields s h r s' ↔
      h = [.called ⟨operation, arguments⟩ r] ∧ s' = s := by
  unfold call
  rw [yields_bind]
  constructor
  · rintro (⟨e, hx, rfl⟩ | ⟨h₁, answer, s₁, h₂, hx, hl, rfl⟩)
    · obtain ⟨a, -, ha, -⟩ := yields_ofProgram.1 hx
      cases ha
    · obtain ⟨a, hp, ha, rfl⟩ := yields_ofProgram.1 hx
      cases ha
      obtain ⟨rfl, rfl, rfl⟩ := yields_lift.1 hl
      cases hp with
      | call hp => cases hp; exact ⟨rfl, rfl⟩
  · rintro ⟨rfl, rfl⟩
    exact .inr ⟨_, r, s', [], yields_ofProgram.2 ⟨r, .call (.done r), rfl, rfl⟩,
      yields_lift.2 ⟨rfl, rfl, rfl⟩, rfl⟩

@[simp] theorem yields_pages {operation : String} {arguments : Entries String Value}
    {r : Except Fault (List Answer)} :
    (pages operation arguments).Yields s h r s' ↔
      ∃ answers, h = [.paged ⟨operation, arguments⟩ answers] ∧ r = .ok answers ∧ s' = s := by
  unfold pages
  rw [yields_ofProgram]
  constructor
  · rintro ⟨answers, hp, rfl, rfl⟩
    cases hp with
    | pages hp => cases hp; exact ⟨answers, rfl, rfl, rfl⟩
  · rintro ⟨answers, rfl, rfl, rfl⟩
    exact ⟨answers, .pages (.done answers), rfl, rfl⟩

@[simp] theorem yields_now {r : Except Fault Number} :
    now.Yields s h r s' ↔ ∃ t, h = [.clock t] ∧ r = .ok t ∧ s' = s := by
  unfold now
  rw [yields_ofProgram]
  constructor
  · rintro ⟨t, hp, rfl, rfl⟩
    cases hp with
    | clock hp => cases hp; exact ⟨t, rfl, rfl, rfl⟩
  · rintro ⟨t, rfl, rfl, rfl⟩
    exact ⟨t, .clock (.done t), rfl, rfl⟩

theorem yields_now_bind {f : Number → Handler β} {r : Except Fault β} :
    (now >>= f).Yields s h r s' ↔ ∃ t h', h = .clock t :: h' ∧ (f t).Yields s h' r s' := by
  rw [yields_bind]
  constructor
  · rintro (⟨e, hx, rfl⟩ | ⟨h₁, a, s₁, h₂, hx, hf, rfl⟩)
    · obtain ⟨t, -, ha, -⟩ := yields_now.1 hx
      cases ha
    · obtain ⟨t, rfl, ha, rfl⟩ := yields_now.1 hx
      cases ha
      exact ⟨a, h₂, rfl, hf⟩
  · rintro ⟨t, h', rfl, hf⟩
    exact .inr ⟨[.clock t], t, s, h', yields_now.2 ⟨t, rfl, rfl, rfl⟩, hf, rfl⟩

/-! ## The record -/

@[simp] theorem yields_get {r : Except Fault Session} :
    (get : Handler Session).Yields s h r s' ↔ h = [] ∧ r = .ok s ∧ s' = s := by
  unfold Yields start
  rw [show (get : Handler Session) s = .done (.ok s, s) from rfl, Program.runs_done_iff,
    Prod.mk.injEq]

@[simp] theorem yields_modify {f : Session → Session} {r : Except Fault PUnit} :
    (modify f : Handler PUnit).Yields s h r s' ↔ h = [] ∧ r = .ok .unit ∧ s' = f s := by
  unfold Yields start
  rw [show (modify f : Handler PUnit) s = .done (.ok .unit, f s) from rfl,
    Program.runs_done_iff, Prod.mk.injEq]

theorem yields_get_bind {f : Session → Handler β} {r : Except Fault β} :
    (get >>= f).Yields s h r s' ↔ (f s).Yields s h r s' := by
  rw [yields_bind]
  constructor
  · rintro (⟨e, hx, rfl⟩ | ⟨h₁, a, s₁, h₂, hx, hf, rfl⟩)
    · obtain ⟨-, ha, -⟩ := yields_get.1 hx
      cases ha
    · obtain ⟨rfl, ha, rfl⟩ := yields_get.1 hx
      cases ha
      exact hf
  · exact fun hf => .inr ⟨[], s, s, h, yields_get.2 ⟨rfl, rfl, rfl⟩, hf, rfl⟩

@[simp] theorem yields_model {r : Except Fault Value} :
    model.Yields s h r s' ↔ h = [] ∧ r = .ok s.model ∧ s' = s := by
  unfold model
  rw [yields_get_bind, yields_pure]

@[simp] theorem yields_setModel {v : Value} {r : Except Fault Unit} :
    (setModel v).Yields s h r s' ↔ h = [] ∧ r = .ok () ∧ s' = { s with model := v } :=
  yields_modify

theorem yields_model_bind {f : Value → Handler β} {r : Except Fault β} :
    (model >>= f).Yields s h r s' ↔ (f s.model).Yields s h r s' := by
  unfold model
  rw [bind_assoc, yields_get_bind, yields_pure_bind]

theorem yields_setModel_bind {v : Value} {f : Unit → Handler β} {r : Except Fault β} :
    (setModel v >>= f).Yields s h r s' ↔ (f ()).Yields { s with model := v } h r s' := by
  rw [yields_bind]
  constructor
  · rintro (⟨e, hx, rfl⟩ | ⟨h₁, a, s₁, h₂, hx, hf, rfl⟩)
    · cases (yields_setModel.1 hx).2.1
    · obtain ⟨rfl, -, rfl⟩ := yields_setModel.1 hx
      exact hf
  · exact fun hf => .inr ⟨[], (), _, h, yields_setModel.2 ⟨rfl, rfl, rfl⟩, hf, rfl⟩

/-! ## The context of the invocation -/

@[simp] theorem yields_contextOf_session {r : Except Fault (Option Context)} :
    (contextOf .session).Yields s h r s' ↔ h = [] ∧ r = .ok (some s.context) ∧ s' = s := by
  unfold contextOf
  rw [yields_get_bind, yields_pure]

@[simp] theorem yields_field_session {name : String} {r : Except Fault Value} :
    (field .session name).Yields s h r s' ↔ h = [] ∧ r = s.context.get name ∧ s' = s := by
  unfold field contextOf
  rw [bind_assoc, yields_get_bind, yields_pure_bind, yields_lift]

theorem yields_field_session_bind {name : String} {f : Value → Handler β} {r : Except Fault β} :
    (field .session name >>= f).Yields s h r s' ↔
      (∃ e, s.context.get name = .error e ∧ h = [] ∧ r = .error e ∧ s' = s) ∨
      ∃ v, s.context.get name = .ok v ∧ (f v).Yields s h r s' := by
  rw [yields_bind]
  constructor
  · rintro (⟨e, hx, rfl⟩ | ⟨h₁, v, s₁, h₂, hx, hf, rfl⟩)
    · obtain ⟨rfl, hv, rfl⟩ := yields_field_session.1 hx
      exact .inl ⟨e, hv.symm, rfl, rfl, rfl⟩
    · obtain ⟨rfl, hv, rfl⟩ := yields_field_session.1 hx
      exact .inr ⟨v, hv.symm, hf⟩
  · rintro (⟨e, he, rfl, rfl, rfl⟩ | ⟨v, hv, hf⟩)
    · exact .inl ⟨e, yields_field_session.2 ⟨rfl, he.symm, rfl⟩, rfl⟩
    · exact .inr ⟨[], v, s, h, yields_field_session.2 ⟨rfl, hv.symm, rfl⟩, hf, rfl⟩

/-- A field that the context has is read. -/
theorem yields_field_session_bind_of_get {name : String} {v : Value} {f : Value → Handler β}
    {r : Except Fault β} (hv : s.context.get name = .ok v) :
    (field .session name >>= f).Yields s h r s' ↔ (f v).Yields s h r s' := by
  rw [yields_field_session_bind, hv]
  simp

theorem yields_contextOf_session_bind {f : Option Context → Handler β} {r : Except Fault β} :
    (contextOf .session >>= f).Yields s h r s' ↔ (f (some s.context)).Yields s h r s' := by
  unfold contextOf
  rw [bind_assoc, yields_get_bind, yields_pure_bind]

/-- Writing a field of the context of the invocation either is refused or changes the record. -/
theorem yields_setField_session {name : String} {v : Value} {r : Except Fault ContextRef} :
    (setField .session name v).Yields s h r s' ↔
      h = [] ∧ ((∃ f, s.context.set name v = .error f ∧ r = .error f ∧ s' = s) ∨
        ∃ c, s.context.set name v = .ok c ∧ r = .ok .session ∧ s' = { s with context := c }) := by
  unfold setField
  rw [yields_get_bind, yields_lift_bind]
  constructor
  · rintro (⟨e, he, rfl, rfl, rfl⟩ | ⟨c, hc, hm⟩)
    · exact ⟨rfl, .inl ⟨e, he, rfl, rfl⟩⟩
    · rw [yields_bind] at hm
      rcases hm with ⟨e, hm, rfl⟩ | ⟨h₁, a, s₁, h₂, hm, hp, rfl⟩
      · obtain ⟨-, ha, -⟩ := yields_modify.1 hm
        cases ha
      · obtain ⟨rfl, -, rfl⟩ := yields_modify.1 hm
        obtain ⟨rfl, rfl, rfl⟩ := yields_pure.1 hp
        exact ⟨rfl, .inr ⟨c, hc, rfl, rfl⟩⟩
  · rintro ⟨rfl, ⟨f, hf, rfl, rfl⟩ | ⟨c, hc, rfl, rfl⟩⟩
    · exact .inl ⟨f, hf, rfl, rfl, rfl⟩
    · refine .inr ⟨c, hc, ?_⟩
      rw [yields_bind]
      exact .inr ⟨[], .unit, _, [], yields_modify.2 ⟨rfl, rfl, rfl⟩,
        yields_pure.2 ⟨rfl, rfl, rfl⟩, rfl⟩

/-! ## What handlers return -/

section
variable {P : α → Prop} {Q : β → Prop}

/-- Every result of a handler has a property. -/
def Returns (P : α → Prop) (x : Handler α) : Prop :=
  ∀ ⦃s : Session⦄ ⦃h : History⦄ ⦃a : α⦄ ⦃s' : Session⦄, x.Yields s h (.ok a) s' → P a

namespace Returns

theorem pure {a : α} (ha : P a) : (pure a : Handler α).Returns P := fun _ _ _ _ hy => by
  obtain ⟨-, h, -⟩ := yields_pure.1 hy
  cases h
  exact ha

theorem lift {r : Except Fault α} (hr : ∀ a, r = .ok a → P a) : (lift r).Returns P :=
  fun _ _ a _ hy => hr a (yields_lift.1 hy).2.1.symm

theorem throw (f : Fault) : (throw f : Handler α).Returns P := fun _ _ _ _ hy => by
  obtain ⟨-, h, -⟩ := yields_throw.1 hy
  cases h

/-- The results of the first handler may be used for those of the second one. -/
theorem bind_of {x : Handler α} {f : α → Handler β} (hx : x.Returns P)
    (hf : ∀ a, P a → (f a).Returns Q) : (x >>= f).Returns Q := fun _ _ _ _ hy => by
  obtain ⟨h₁, a, s₁, h₂, hx', hf', -⟩ := yields_bind_ok.1 hy
  exact hf a (hx hx') hf'

theorem bind {x : Handler α} {f : α → Handler β} (hf : ∀ a, (f a).Returns Q) :
    (x >>= f).Returns Q :=
  bind_of (fun _ _ _ _ _ => trivial) fun a (_ : True) => hf a

theorem setField_session (name : String) (v : Value) :
    (setField .session name v).Returns (· = .session) := fun _ _ _ _ hy => by
  obtain ⟨-, ⟨f, -, h, -⟩ | ⟨c, -, h, -⟩⟩ := yields_setField_session.1 hy
  · cases h
  · exact Except.ok.inj h

end Returns

/-- Every fault of a handler has a property. -/
def Raises (F : Fault → Prop) (x : Handler α) : Prop :=
  ∀ ⦃s : Session⦄ ⦃h : History⦄ ⦃f : Fault⦄ ⦃s' : Session⦄, x.Yields s h (.error f) s' → F f

namespace Raises

variable {F : Fault → Prop}

theorem pure (a : α) : (pure a : Handler α).Raises F := fun _ _ _ _ hy => by
  cases (yields_pure.1 hy).2.1

theorem lift {r : Except Fault α} (hr : ∀ f, r = .error f → F f) : (lift r).Raises F :=
  fun _ _ f _ hy => hr f (yields_lift.1 hy).2.1.symm

theorem throw {f : Fault} (hf : F f) : (throw f : Handler α).Raises F := fun _ _ _ _ hy => by
  cases (yields_throw.1 hy).2.1
  exact hf

theorem get : (get : Handler Session).Raises F := fun _ _ _ _ hy => by
  cases (yields_get.1 hy).2.1

theorem modify (g : Session → Session) : (modify g : Handler PUnit).Raises F :=
  fun _ _ _ _ hy => by cases (yields_modify.1 hy).2.1

theorem bind {x : Handler α} {f : α → Handler β} (hx : x.Raises F) (hf : ∀ a, (f a).Raises F) :
    (x >>= f).Raises F := fun _ _ _ _ hy => by
  rcases yields_bind.1 hy with ⟨e, hx', he⟩ | ⟨h₁, a, s₁, h₂, -, hf', -⟩
  · cases he
    exact hx hx'
  · exact hf a hf'

end Raises

end

end Provisioning.Handler
