import Provisioning.Proofs.Integration.Footprint
import Provisioning.Proofs.Run

/-!
# From one invocation to the next

An action of the provider of integrations is over, succeeds, or asks for another invocation
(`Over`, `Awaits`). The event of the invocation reports this (`Reported`), and the next invocation
starts with the model and with the declared fields of the context that this one has left
(`Carried`).
-/

set_option autoImplicit false

namespace Provisioning.Integration

open Handler

variable {s : Settings} {r : Request} {e : Event} {sess sess' : Session} {h : History}
  {res : Except Fault Event}

/-- An invocation has failed, or it fails for a fault without a code of the service. -/
def Over : Except Fault Event → Prop
  | .ok e => e.status = .failed
  | .error f => f.serviceCode = .null

/-- An invocation asks for another one on a model. -/
def Awaits (m : Value) (sess : Session) : Except Fault Event → Prop
  | .ok e => e.status = .inProgress ∧ e.context = .session ∧ e.model = m
  | .error _ => sess.model = m

/-- Two contexts have the same declared fields. -/
def Carried (c c' : Context) : Prop :=
  ∀ field, ContextKind.integration.fields.has field = true → c'.get field = c.get field

theorem Carried.marked {c c' : Context} (hc : Carried c c') {flag : String}
    (hf : ContextKind.integration.fields.has flag = true) : c'.Marked flag ↔ c.Marked flag := by
  rw [Context.marked_iff, Context.marked_iff, hc flag hf]

/-- How the event of an invocation reports the end of its action: a failure as one, success as it
is, and what asks for another invocation with the model and the context for that. -/
structure Reported (s : Settings) (r : Request) (sess : Session) (res : Except Fault Event)
    (sess' : Session) (e : Event) : Prop where
  ended : Over res → e.status = .failed
  awaits : ∀ m, Awaits m sess' res → e.status ≠ .success
  event : ∀ e', res = .ok e' → e.status = e'.status ∧ e.model = e'.model
  resume : ∀ m, Awaits m sess' res → e.status = .inProgress → ∃ next,
    (provider s).openSession (r.resume e) = .ok next ∧
      next.model = (if m.isNull then sess.model else m) ∧ Carried sess'.context next.context

/-- What serving a request reports is in progress only for an action that asks for it, with the
model and the context of the next invocation. -/
theorem serve_cases (hy : ((provider s).serve r).Yields sess h (.ok e) sess') :
    ∃ res, ((provider s).act r).Yields sess h res sess' ∧ (Over res → e.status = .failed) ∧
      (∀ m, Awaits m sess' res → e.status = .failed ∨
        e.status = .inProgress ∧ e.model = m ∧ e.context = .session) ∧
      ∀ e', res = .ok e' → e = e' := by
  rcases Provider.serve_cases hy with ⟨_, hact, hr⟩ | ⟨f, hact, hr | hr⟩
  · cases hr
    exact ⟨_, hact, id, fun m ⟨hstatus, hcontext, hm⟩ => .inr ⟨hstatus, hm, hcontext⟩,
      fun e' he' => by cases he'; rfl⟩
  · cases hr
  · refine ⟨_, hact, fun hcode => ?_, fun m hm => ?_, fun e' he' => by cases he'⟩
    · rcases recover_cases hr.symm with ⟨code, rfl⟩ | ⟨-, hnull⟩
      · rfl
      · rw [show f.serviceCode = .null from hcode] at hnull
        cases hnull
    · rcases recover_cases hr.symm with ⟨code, rfl⟩ | ⟨rfl, -⟩
      · exact .inl rfl
      · exact .inr ⟨rfl, hm, rfl⟩

/-- What is reported as in progress is for an action that asks for another invocation. -/
theorem serve_awaits (hy : ((provider s).serve r).Yields sess h (.ok e) sess') :
    ∃ res, ((provider s).act r).Yields sess h res sess' ∧
      (e.status = .inProgress → ¬ Over res ∧ Awaits e.model sess' res) := by
  obtain ⟨res, hact, hover, hawaits, hevent⟩ := serve_cases hy
  refine ⟨res, hact, fun hs => ⟨fun h => ?_, ?_⟩⟩
  · rw [hover h] at hs
    cases hs
  · cases res with
    | ok e' =>
      obtain rfl := hevent e' rfl
      exact ⟨hs, (returns_act hact).session hs, rfl⟩
    | error f =>
      rcases hawaits sess'.model rfl with hstatus | ⟨-, hm, -⟩
      · rw [hstatus] at hs
        cases hs
      · exact hm.symm

/-- An invocation runs an action, and its event in progress is for an action that asks for another
invocation. -/
theorem handle_awaits {result : Except Fault Event}
    (hrun : ((provider s).handle r sess).Runs h (result, sess')) :
    ∃ res, ((provider s).act r).Yields sess h res sess' ∧
      ∀ e, result = .ok e → e.status = .inProgress → ¬ Over res ∧ Awaits e.model sess' res := by
  cases result with
  | error f =>
    obtain ⟨served, hserve, -⟩ := Provider.handle_runs_iff.1 hrun
    obtain ⟨res, hact⟩ := Provider.exists_acted hserve
    exact ⟨res, hact, nofun⟩
  | ok e =>
    obtain ⟨e', hserve, rfl⟩ := Provider.exists_served hrun
    obtain ⟨res, hact, hawaits⟩ := serve_awaits hserve
    refine ⟨res, hact, fun e he hs => ?_⟩
    cases he
    rw [Event.settle_status] at hs
    rw [Event.settle_model]
    exact hawaits hs

theorem invokes_cases (hopen : (provider s).openSession r = .ok sess)
    (hinv : (provider s).Invokes r h (.ok e)) :
    ∃ res sess', ((provider s).act r).Yields sess h res sess' ∧ Reported s r sess res sess' e := by
  obtain ⟨_, sess', hopen', hy⟩ := hinv
  cases hopen.symm.trans hopen'
  obtain ⟨e₁, hserve, rfl⟩ := Provider.exists_served hy
  obtain ⟨res, hact, hover, hawaits, hevent⟩ := serve_cases hserve
  refine ⟨res, sess', hact, ⟨fun h => ?_, fun m hm hs => ?_, fun e' he' => ?_,
    fun m hm hs => ?_⟩⟩
  · rw [Event.settle_status]
    exact hover h
  · rw [Event.settle_status] at hs
    rcases hawaits m hm with hstatus | ⟨hstatus, -⟩ <;> rw [hs] at hstatus <;> cases hstatus
  · cases hevent e' he'
    exact ⟨Event.settle_status _ _, Event.settle_model _ _⟩
  · rw [Event.settle_status] at hs
    rcases hawaits m hm with hstatus | ⟨-, rfl, hcontext⟩
    · rw [hs] at hstatus
      cases hstatus
    obtain ⟨hmodel, hof⟩ := Provider.openSession_eq_ok.1 hopen
    have hdeclares : (provider s).Declares sess'.context :=
      (Provider.declares_of_ofValue hof).extends (within_act hact).2
    refine ⟨_, Provider.openSession_resume hdeclares (Event.settle_context hcontext _), ?_,
      fun field hf => hdeclares.get_travelled hf⟩
    rw [hmodel, Event.settle_model]

/-- An event in progress is that of an action which asks for another invocation. -/
theorem Reported.exists_awaits (hr : Reported s r sess res sess' e)
    (hact : ((provider s).act r).Yields sess h res sess') (hs : e.status = .inProgress) :
    ∃ m, Awaits m sess' res := by
  cases res with
  | error f => exact ⟨sess'.model, rfl⟩
  | ok e' =>
    have hstatus := (hr.event e' rfl).1.symm.trans hs
    exact ⟨e'.model, hstatus, (returns_act hact).session hstatus, rfl⟩

end Provisioning.Integration
