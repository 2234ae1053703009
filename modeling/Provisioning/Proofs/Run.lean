import Provisioning.Proofs.Context
import Provisioning.Proofs.Handler
import Provisioning.Proofs.Reading
import Provisioning.Request

/-!
# Runs of providers

A run invokes a provider again with the model and the callback context of every event in progress
(`Provider.Run`). It may stop after any invocation, and it has one history for each.

An invocation leaves a session behind, and the next one starts on what is left of it: a context with
all declared fields keeps them (`openSession_resume`).
-/

set_option autoImplicit false

namespace Provisioning

open Handler

/-- The request of the next invocation: the context of an event, and its model if it has one. -/
def Request.resume (r : Request) (e : Event) : Request :=
  { r with
    desired := if e.model.isNull then r.desired else e.model
    customContext := (e.ownContext?.map Context.toValue).getD (.map []) }

namespace Provider

variable {p : Provider} {r : Request} {s s' : Session} {h : History}

/-- An invocation for a request runs through a history to a result. -/
def Invokes (p : Provider) (r : Request) (h : History) (result : Except Fault Event) : Prop :=
  ∃ s s', p.openSession r = .ok s ∧ (p.handle r s).Runs h (result, s')

/-- A run invokes a provider again with the model and the context of every event in progress. -/
inductive Run (p : Provider) : Request → List History → Except Fault Event → Prop
  | last {r : Request} {h : History} {result : Except Fault Event} :
      p.Invokes r h result → Run p r [h] result
  | again {r : Request} {h : History} {e : Event} {hs : List History}
      {result : Except Fault Event} :
      p.Invokes r h (.ok e) → e.status = .inProgress → Run p (r.resume e) hs result →
      Run p r (h :: hs) result

/-- The requests of the invocations of a run: the one that it starts with, and the next one of every
invocation in progress. -/
inductive Reaches (p : Provider) (r : Request) : Request → Prop
  | start : Reaches p r r
  | again {r' : Request} {h : History} {e : Event} : Reaches p r r' → p.Invokes r' h (.ok e) →
      e.status = .inProgress → Reaches p r (r'.resume e)

/-! ## One invocation -/

/-- An invocation handles a request by its action, and settles the event. -/
theorem handle_runs_iff {result : Except Fault Event} :
    (p.handle r s).Runs h (result, s') ↔
      ∃ res, (p.serve r).Yields s h res s' ∧ result = res.map (·.settle s'.context) := by
  unfold handle
  rw [Program.runs_bind_iff]
  constructor
  · rintro ⟨h₁, ⟨res, s₁⟩, h₂, hserve, hdone, rfl⟩
    obtain ⟨rfl, he⟩ := Program.runs_done_iff.1 hdone
    obtain ⟨rfl, rfl⟩ := Prod.mk.inj he
    rw [List.append_nil]
    exact ⟨res, hserve, rfl⟩
  · rintro ⟨res, hserve, rfl⟩
    exact ⟨h, (res, s'), [], hserve, .done _, (List.append_nil h).symm⟩

/-- The event of an invocation is the settled one of serving its request. -/
theorem exists_served {e : Event} (hy : (p.handle r s).Runs h (.ok e, s')) :
    ∃ e', (p.serve r).Yields s h (.ok e') s' ∧ e = e'.settle s'.context := by
  obtain ⟨served, hserve, hsettle⟩ := handle_runs_iff.1 hy
  cases served with
  | error f => cases hsettle
  | ok e' => exact ⟨e', hserve, Except.ok.inj hsettle⟩

/-- A fault of an action becomes an event, or says that there is no such action. -/
theorem serve_cases {res : Except Fault Event} (hy : (p.serve r).Yields s h res s') :
    (∃ e, (p.act r).Yields s h (.ok e) s' ∧ res = .ok e) ∨
      ∃ f, (p.act r).Yields s h (.error f) s' ∧
        (res = .error f ∨ res = p.recover (.progress s'.model .session) f) := by
  obtain ⟨h₁, a, s₁, h₂, hact, hrest, rfl⟩ := yields_attempt_bind.1 hy
  cases a with
  | ok e =>
    obtain ⟨rfl, rfl, rfl⟩ := yields_pure.1 hrest
    rw [List.append_nil]
    exact .inl ⟨e, hact, rfl⟩
  | error f =>
    dsimp only at hrest
    split at hrest
    · obtain ⟨rfl, rfl, rfl⟩ := yields_throw.1 hrest
      rw [List.append_nil]
      exact .inr ⟨f, hact, .inl rfl⟩
    · obtain ⟨rfl, rfl, rfl⟩ := yields_lift.1 (yields_get_bind.1 hrest)
      rw [List.append_nil]
      exact .inr ⟨f, hact, .inr rfl⟩

/-- Serving a request makes the requests of its action. -/
theorem exists_acted {res : Except Fault Event} (hy : (p.serve r).Yields s h res s') :
    ∃ res', (p.act r).Yields s h res' s' := by
  rcases serve_cases hy with ⟨e, hact, -⟩ | ⟨f, hact, -⟩
  · exact ⟨_, hact⟩
  · exact ⟨_, hact⟩

/-- An invocation ends in a fault if it is asked for an action that is not there, or if there is no
event for a fault. -/
theorem serve_error {f : Fault} (hy : (p.serve r).Yields s h (.error f) s') :
    f.isA "NotImplementedError" = true ∨ ∃ e f', p.recover e f' = .error f := by
  obtain ⟨h₁, a, s₁, h₂, -, hrest, rfl⟩ := yields_attempt_bind.1 hy
  cases a with
  | ok e =>
    obtain ⟨-, he, -⟩ := yields_pure.1 hrest
    cases he
  | error f' =>
    dsimp only at hrest
    split at hrest
    · obtain ⟨-, he, -⟩ := yields_throw.1 hrest
      cases he
      exact .inl ‹_›
    · obtain ⟨-, he, -⟩ := yields_lift.1 (yields_get_bind.1 hrest)
      exact .inr ⟨_, f', he.symm⟩

/-- An action that fails before it asks for anything makes an invocation that asks for nothing. -/
theorem handle_of_fault {f : Fault} (hf : (p.act r).start s = .done (.error f, s')) :
    p.handle r s = .done (Except.map (·.settle s'.context)
      (if f.isA "NotImplementedError" then .error f
        else p.recover (.progress s'.model .session) f), s') := by
  have hattempt : (attempt (p.act r)).start s = .done (.ok (.error f), s') := by
    rw [start_attempt, hf]
    rfl
  rw [handle, serve, start_bind_of_done hattempt]
  cases hclass : f.isA "NotImplementedError" with
  | true =>
    simp only [hclass, if_true]
    rfl
  | false =>
    simp only [hclass, Bool.false_eq_true, if_false]
    rfl

/-- What an invocation does depends on how the action runs and on what becomes of a fault. -/
theorem handle_congr {q : Provider} (hact : (p.act r).start s = (q.act r).start s)
    (hrecover : p.recover = q.recover) : p.handle r s = q.handle r s := by
  have hserve : (p.serve r).start s = (q.serve r).start s := by
    simp only [serve, start_bind, start_attempt, hact, hrecover]
  rw [handle, handle, hserve]

/-! ## The record of an invocation -/

/-- A context has the declared fields of the kind of a provider. -/
def Declares (p : Provider) (c : Context) : Prop := p.contextKind.Declares c

theorem declares_of_ofValue {v : Value} {c : Context}
    (hc : Context.ofValue p.contextKind v = .ok c) : p.Declares c :=
  ContextKind.declares_of_ofValue hc

theorem openSession_eq_ok :
    p.openSession r = .ok s ↔
      s.model = r.desired ∧ Context.ofValue p.contextKind r.customContext = .ok s.context := by
  unfold openSession
  rw [bind_eq_ok]
  constructor
  · rintro ⟨c, hc, h⟩
    cases h
    exact ⟨rfl, hc⟩
  · rintro ⟨hm, hc⟩
    refine ⟨s.context, hc, ?_⟩
    rw [← hm]
    rfl

theorem Declares.extends {c c' : Context} (hc : p.Declares c) (he : c.Extends c') :
    p.Declares c' := ⟨he.kind.trans hc.1, he.keys.trans hc.2⟩

/-- A declared field survives the way to the next invocation. -/
theorem Declares.get_travelled {c : Context} (hc : p.Declares c) {field : String}
    (hf : p.contextKind.fields.has field = true) : c.travelled.get field = c.get field := by
  unfold Context.get
  rw [ContextKind.Declares.get?_travelled hc hf]
  rfl

/-- The next invocation starts on the declared fields of the context that the last one left. -/
theorem openSession_resume {e : Event} {c : Context} (hc : p.Declares c)
    (he : e.context = .own c) :
    p.openSession (r.resume e) = .ok
      { model := if e.model.isNull then r.desired else e.model, context := c.travelled } := by
  rw [openSession_eq_ok]
  refine ⟨rfl, ?_⟩
  simp only [Request.resume, Event.ownContext?, he, Option.map_some, Option.getD_some]
  exact ContextKind.Declares.ofValue_toValue hc

end Provider

end Provisioning
