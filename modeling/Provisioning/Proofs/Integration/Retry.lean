import Provisioning.Configuration
import Provisioning.Proofs.Integration.Steps
import Provisioning.Proofs.Number
import Provisioning.Proofs.Run
import Provisioning.Proofs.Trace
import Provisioning.Script

/-!
# When a retry ends an invocation

A conflict that passes on its own is reported by an event that asks for a retry. The chain looks at
the delay of that event only: it stops there exactly if the delay is positive, and otherwise goes on
as if the refused request had been granted (`stopsAtRetries_iff`). The delay comes from the
environment, where it may be any integer.
-/

set_option autoImplicit false

namespace Provisioning.Integration

open Handler

/-- A start whose step was refused in a way that passes on its own, and returned the event for
that. -/
def Refused (delay : Int) (st : Start) : Prop :=
  ∃ request f wait progress, .called request (.error f) ∈ st.history ∧
    (rules (.int delay)).classify f = .ok (.retry wait) ∧
    st.result = Event.ofFault (some (rules (.int delay))) progress f

/-- In every chain a retry ends the invocation: no later step is started, and the event of the
invocation is the one that asks for the retry. -/
def StopsAtRetries (delay : Int) : Prop :=
  ∀ ⦃links : List Link⦄ ⦃p p' : Point⦄ ⦃h : History⦄ ⦃starts : List Start⦄
    ⦃r : Except Fault Event⦄, Link.Run links p h starts r p' →
    ∀ ⦃before later : List Start⦄ ⦃st : Start⦄, starts = before ++ st :: later →
      Refused delay st → later = [] ∧ ∃ e, st.result = .ok e ∧ r = .ok e ∧
        e.status = .inProgress ∧ e.code = some .throttling

/-- In every chain a retry is passed over: the step of the next link is started if it has no
guard. -/
def PassesRetries (delay : Int) : Prop :=
  ∀ ⦃links rest : List Link⦄ ⦃l : Link⦄ ⦃p p' : Point⦄ ⦃h : History⦄ ⦃starts : List Start⦄
    ⦃r : Except Fault Event⦄, Link.Run links p h starts r p' →
    ∀ ⦃before later : List Start⦄ ⦃st : Start⦄, starts = before ++ st :: later →
      Refused delay st → links = st.passed ++ st.link :: l :: rest → l.flag = none →
      ∃ next more, later = next :: more ∧ next.link = l

variable {delay : Int}

/-- The event of a refused start asks for a retry after the delay. -/
theorem Refused.result {st : Start} (hst : Refused delay st) :
    ∃ progress : Event, st.result =
      .ok (.defer progress.model progress.context (.int delay) (some .throttling)) := by
  obtain ⟨request, f, wait, progress, -, hclassify, hresult⟩ := hst
  rcases classify_cases hclassify with ⟨code, hcode⟩ | ⟨hwait, -⟩
  · cases hcode
  · cases hwait
    refine ⟨progress, ?_⟩
    rw [hresult, Event.ofFault]
    simp only [hclassify]
    rfl

/-- An event that asks for a retry suspends the chain exactly if its delay is positive. -/
theorem outcome_retry (model : Value) (context : ContextRef) (delay : Int) :
    (Event.defer model context (.int delay) (some .throttling)).outcome =
      .ok (if 0 < delay then .suspend else .proceed) := by
  have hpositive := Value.isPositive_int delay
  unfold Event.outcome Event.defer
  rw [if_neg (by simp)]
  simp only [hpositive]
  by_cases h : 0 < delay <;> simp [h, bind, pure, Except.bind, Except.pure]

/-- Where a chain is after a retry, and how it goes on. -/
theorem Refused.rest {links : List Link} {p p' : Point} {h : History} {starts : List Start}
    {r : Except Fault Event} (ht : Trace [] p links h starts r p') {before later : List Start}
    {st : Start} (hst : starts = before ++ st :: later) (hrefused : Refused delay st) :
    ∃ e rest h₂, st.result = .ok e ∧ e.status = .inProgress ∧ e.code = some .throttling ∧
      st.left.event = e ∧ e.outcome = .ok (if 0 < delay then .suspend else .proceed) ∧
      links = st.passed ++ st.link :: rest ∧
      Trace (st.passed ++ [st.link]) st.left rest h₂ later r p' := by
  obtain ⟨progress, hresult⟩ := hrefused.result
  obtain ⟨s, rest, h₂, hleft, hlinks, ht⟩ := ht.rest hst hresult
  refine ⟨_, rest, h₂, hresult, rfl, rfl, ?_, outcome_retry _ _ _, hlinks, ht⟩
  rw [hleft]
  exact Point.event_after _ _ rfl

theorem stopsAtRetries_of_pos (h : 0 < delay) : StopsAtRetries delay := by
  intro links p p' hist starts r hrun before later st hst hrefused
  obtain ⟨e, rest, h₂, hresult, hprogress, hcode, hevent, houtcome, -, ht⟩ :=
    hrefused.rest hrun.trace hst
  rw [if_pos h, ← hevent] at houtcome
  obtain ⟨hlater, hr⟩ := ht.of_outcome houtcome (by decide)
  exact ⟨hlater, e, hresult, hevent ▸ hr, hprogress, hcode⟩

theorem passesRetries_of_nonpos (h : ¬ 0 < delay) : PassesRetries delay := by
  intro links rest l p p' hist starts r hrun before later st hst hrefused hlinks hl
  obtain ⟨e, rest', h₂, -, -, -, hevent, houtcome, hlinks', ht⟩ := hrefused.rest hrun.trace hst
  rw [hlinks] at hlinks'
  obtain ⟨-, hlinks'⟩ := List.cons.inj (List.append_cancel_left hlinks')
  rw [if_neg h, ← hevent] at houtcome
  rw [← hlinks'] at ht
  exact ht.of_unguarded houtcome hl

/-- The service refuses to modify an integration. -/
def modifyRefusal (message : String) : Fault :=
  .service { code := some (.text "InvalidIntegrationStateFault")
             message := some (.text message), operation := "ModifyIntegration" }

/-- A refusal passes on its own if the integration is on its way to a valid state. -/
theorem classify_modifyRefusal (delay : Value) :
    (rules delay).classify (modifyRefusal invalidStateMessage) = .ok (.retry delay) := by
  have htruthy : (Value.text invalidStateMessage).truthy = true := by decide +kernel
  have hmessage : (modifyRefusal invalidStateMessage).message = .text invalidStateMessage := by
    simp only [Fault.message, modifyRefusal, Value.orElse, htruthy, if_true]
  have hfind (message : String) : (rules delay).find (modifyRefusal message) =
      .ok (some (retryIfMessageContains invalidStateMessage delay)) := rfl
  have hcontains :
      (Value.text invalidStateMessage).occursIn (.text invalidStateMessage) = .ok true := by
    simp only [Value.occursIn, Text.contains_self]
  refine bind_eq_ok.2 ⟨_, hfind invalidStateMessage, ?_⟩
  change (retryIfMessageContains invalidStateMessage delay).resolve _ = _
  rw [retryIfMessageContains, ErrorStatus.resolve_ifMessageContains]
  exact bind_eq_ok.2 ⟨true, hmessage ▸ hcontains, rfl⟩

/-- A request without arguments to modify an integration. -/
def modifyLink (delay : Int) : Link where
  flag := none
  step := serviceCall "modify_integration" (fun _ => .ok [])
    (Event.ofFault (some (rules (.int delay))))

/-- A step that ends the operation. -/
def finishLink : Link := ⟨none, fun e => return .success e.model e.context⟩

theorem not_stopsAtRetries (h : ¬ 0 < delay) : ¬ StopsAtRetries delay := by
  intro hstops
  let p : Point :=
    { event := .progress .null .session
      session := { model := .null, context := .initial .integration } }
  let retry : Event := .defer .null .session (.int delay) (some .throttling)
  let fault := modifyRefusal invalidStateMessage
  let refusal : History := [.called ⟨"modify_integration", []⟩ (.error fault)]
  have hretry : Event.ofFault (some (rules (.int delay))) p.event fault = .ok retry := by
    simp only [fault, Event.ofFault, classify_modifyRefusal]
    rfl
  have hcall : ((modifyLink delay).step p.event).Yields p.session refusal (.ok retry) p.session :=
    yields_lift_bind.2 (.inr ⟨[], rfl, yields_attempt_bind.2
      ⟨refusal, .error fault, p.session, [], yields_call.2 ⟨rfl, rfl⟩,
        yields_lift.2 ⟨rfl, hretry.symm, rfl⟩, rfl⟩⟩)
  have hgoes : (p.after (modifyLink delay) retry p.session).event.outcome = .ok .proceed := by
    rw [Point.outcome_after, outcome_retry, if_neg h]
  have ht : Trace [] p [modifyLink delay, finishLink] _ _ _ _ :=
    .returned ⟨rfl, fun _ hl => by cases hl⟩ hcall
      (.returned ⟨hgoes, fun _ hl => by cases hl⟩ (yields_pure.2 ⟨rfl, rfl, rfl⟩)
        (.ended (.inl rfl)))
  have hrefused : Refused delay
      ⟨[], modifyLink delay, p, refusal, .ok retry, p.after (modifyLink delay) retry p.session⟩ :=
    ⟨_, _, _, p.event, List.mem_singleton_self _, classify_modifyRefusal _, hretry.symm⟩
  obtain ⟨hlater, -⟩ := hstops (Link.run_of_trace ht rfl) (List.nil_append _).symm hrefused
  cases hlater

/-- A retry ends the invocation exactly if its delay is positive, and is passed over otherwise. -/
theorem stopsAtRetries_iff (delay : Int) :
    (StopsAtRetries delay ↔ 0 < delay) ∧ (¬ 0 < delay → PassesRetries delay) :=
  ⟨⟨fun h => Classical.byContradiction fun hnot => not_stopsAtRetries hnot h,
    stopsAtRetries_of_pos⟩, passesRetries_of_nonpos⟩

/-- A request to give an integration another filter. -/
def filterUpdate : Request where
  action := .update
  desired := .map [("IntegrationArn", .text "arn:orders"), ("DataFilter", .text "include: sales.*")]
  previous := .map [("IntegrationArn", .text "arn:orders"), ("DataFilter", .text "include: *.*")]

/-- The record of the integration as it was. -/
def unfiltered : Answer :=
  .ok (.map [("Integrations", .list [.map [("IntegrationArn", .text "arn:orders"),
    ("Status", .text "active"), ("DataFilter", .text "include: *.*")]])])

/-- A service that refuses the change and holds the integration as it was. -/
def unchangedService : Script where
  replies :=
    [("modify_integration", [.answer (.error (modifyRefusal invalidStateMessage))]),
     ("describe_integrations", [.answer unfiltered])]

/-- The change is refused, and the integration is polled and read. -/
def unchangedRun : History :=
  [.called ⟨"modify_integration", [("IntegrationIdentifier", .text "arn:orders"),
      ("DataFilter", .text "include: sales.*")]⟩ (.error (modifyRefusal invalidStateMessage)),
    .clock (.int 0), lookup (.text "arn:orders") unfiltered,
    lookup (.text "arn:orders") unfiltered]

/-- The environment admits delays that no retry ends an invocation with. Under one of them an update
reports success although the service refused it. -/
theorem not_forall_stopsAtRetries :
    (¬ ∀ vars : Variables, StopsAtRetries (Configuration.ofVariables vars).callbackDelay) ∧
    ∃ e, (provider { callbackDelay := .int 0 }).Run filterUpdate [unchangedRun] (.ok e) ∧
      e.status = .success ∧ ¬ unchangedRun.Returned "modify_integration" ∧
      e.model.get "DataFilter" = .ok (.text "include: *.*") := by
  refine ⟨fun hall => ?_, ?_⟩
  · let vars : Variables := [("CALLBACK_DELAY_SECONDS", "0")]
    have hdelay : (Configuration.ofVariables vars).callbackDelay = 0 := by decide +kernel
    have hstops := hall vars
    rw [hdelay] at hstops
    exact not_stopsAtRetries (Int.lt_irrefl 0) hstops
  · have hrefused : ¬ unchangedRun.Returned "modify_integration" := by
      simp [History.Returned, unchangedRun, Exchange.returns, lookup, unfiltered]
    have hrun : (provider { callbackDelay := .int 0 }).Run filterUpdate [_] _ :=
      .last ⟨⟨filterUpdate.desired, .initial .integration⟩, _, rfl,
        Program.runs_history Script.environment _ unchangedService⟩
    exact ⟨_, hrun, rfl, hrefused, rfl⟩

end Provisioning.Integration
