import Provisioning.ParameterGroup.Provider
import Provisioning.Proofs.ErrorRules
import Provisioning.Proofs.Keeping

/-!
# Operations on parameter groups are never suspended

No rule for parameter groups asks for a retry, also not where missing permissions to tag are
ignored, and no step asks for a delay (`Event.Prompt`). So an invocation goes through the whole
chain, whose last step succeeds or fails (`ParameterGroup.ends_act`).
-/

set_option autoImplicit false

namespace Provisioning

open Handler Event

/-! ## Rules that do not retry -/

/-- Whatever the fault, the verdict is not to come back. -/
def ErrorStatus.Final (status : ErrorStatus) : Prop :=
  ∀ fault verdict, status.resolve fault = .ok verdict → ∀ delay, verdict ≠ .retry delay

theorem ErrorStatus.Fails.final {status : ErrorStatus} (h : status.Fails) : status.Final := by
  intro fault verdict hv delay
  obtain ⟨code, rfl⟩ := h fault verdict hv
  exact Verdict.noConfusion

theorem final_ignore : ErrorStatus.Final .ignore := by
  intro fault verdict hv delay
  cases hv
  exact Verdict.noConfusion

theorem RuleSet.Answers.final {rules : RuleSet}
    (h : rules.Answers ErrorStatus.Final ErrorStatus.Final) {fault : Fault} {verdict : Verdict}
    (hv : rules.classify fault = .ok verdict) (delay : Value) : verdict ≠ .retry delay := by
  rcases h.classifyCaught hv with rfl | ⟨status, hv, hstatus | ⟨hstatus, -⟩⟩
  · exact Verdict.noConfusion
  · exact hstatus fault verdict hv delay
  · exact hstatus fault verdict hv delay

/-! ## Events without a delay -/

namespace Event

variable {e : Event}

/-- An event in progress asks for no delay. -/
def Prompt (e : Event) : Prop := e.status = .inProgress ∧ e.delay = .int 0

theorem prompt_progress (model : Value) (context : ContextRef) : (progress model context).Prompt :=
  ⟨rfl, rfl⟩

theorem lasting_prompt : Lasting Prompt := ⟨fun _ => prompt_progress _ _, id⟩

/-- An event without a delay lets the next step run, or ends the operation. -/
theorem Ending.outcome_cases (he : e.Ending Prompt) {o : Outcome} (ho : e.outcome = .ok o) :
    o = .proceed ∨ e.Over := by
  rcases he with hover | ⟨hs, hdelay⟩
  · exact .inr hover
  · rw [outcome, if_neg (by simpa using hs), hdelay] at ho
    exact .inl (Except.ok.inj ho).symm

/-- Rules that do not retry lead to events without a delay. -/
theorem recovers_prompt {rules : RuleSet} (h : rules.Answers ErrorStatus.Final ErrorStatus.Final) :
    Recovers Prompt (ofFault (some rules)) := by
  intro e e' f _ he
  obtain ⟨verdict, hv, he⟩ := bind_eq_ok.1 he
  cases verdict with
  | failWith code => cases he; exact .inl (over_failed _ _ _ _)
  | retry delay => exact absurd rfl (h.final hv delay)
  | ignore => cases he; exact .inr (prompt_progress _ _)

end Event

/-- A chain without delays ends the operation if its last step does. -/
theorem returns_chain_ended (steps : List Step) {last : Step} {e : Event}
    (hsteps : ∀ step ∈ steps, Step.Keeps Prompt step)
    (hlast : ∀ e, (last e).Returns Over) (he : e.Ending Prompt) :
    (chain e (steps ++ [last])).Returns Over := by
  induction steps generalizing e with
  | nil =>
    refine .bind_of (P := (e.outcome = .ok ·)) (.lift fun _ h => h) fun o ho => ?_
    cases o with
    | proceed => exact .bind_of (hlast e) fun e' he' => .pure he'
    | suspend => exact .pure ((he.outcome_cases ho).resolve_left Outcome.noConfusion)
    | terminal => exact .pure ((he.outcome_cases ho).resolve_left Outcome.noConfusion)
  | cons step steps ih =>
    refine .bind_of (P := (e.outcome = .ok ·)) (.lift fun _ h => h) fun o ho => ?_
    cases o with
    | proceed =>
      have hkeeps := hsteps step List.mem_cons_self e (he.of_inProgress (outcome_eq_proceed ho).1)
      exact .bind_of hkeeps fun e' he' => ih (fun s h => hsteps s (List.mem_cons_of_mem _ h)) he'
    | suspend => exact .pure ((he.outcome_cases ho).resolve_left Outcome.noConfusion)
    | terminal => exact .pure ((he.outcome_cases ho).resolve_left Outcome.noConfusion)

namespace ParameterGroup

variable {s : Settings} {r : Request} {e e' : Event} {f : Fault}

/-! ## Steps -/

theorem final_rules : rules.Answers ErrorStatus.Final ErrorStatus.Final :=
  answers_rules (fun code => (fails_failWith code).final) (fun code => (fails_failWith code).final)
    fails_failWithOwnCode.final

/-- A fault ends the operation. -/
theorem recover_ends (h : recover e f = .ok e') : e'.Over := by
  obtain ⟨code, rfl⟩ := recover_cases h
  exact over_failed _ _ _ _

theorem recovers_recover : Recovers Prompt recover := recovers_prompt final_rules

theorem recovers_bestEffortRules (previous desired : TagSet) :
    Recovers Prompt (ofFault (bestEffortRules (some rules) previous desired)) := by
  unfold bestEffortRules
  split
  · exact recovers_prompt (final_rules.extend.withCodes final_ignore _)
  · exact recovers_recover

theorem keeps_created (response : Value) : (created response).Keeps Prompt := fun _ _ =>
  .bind fun _ => .bind fun _ => .bind fun _ => .pure (.inr (prompt_progress _ _))

theorem keeps_createStep (tags : TagSources) : (createStep s tags).Keeps Prompt := by
  have hcreate : ∀ tags, (createCall tags).Keeps Prompt := fun tags =>
    keeps_serviceCall recovers_recover keeps_created
  refine fun e he => .bind fun existing => ?_
  split
  · refine .bind fun all => .bind_of (hcreate all e he) fun result hresult => ?_
    split
    · exact hcreate _ e he
    · exact .pure hresult
  · exact .bind fun _ => .bind fun _ => .pure (.inr (prompt_progress _ _))

theorem keeps_fetchArn : Step.Keeps Prompt fetchArn := by
  refine fun e he => .bind fun answer => ?_
  split
  · exact .lift fun _ h => recovers_recover he h
  · exact .bind fun _ => .bind fun _ => .pure (.inr he)

theorem keeps_tagStep (previous desired : Except Fault TagSet) :
    (tagStep previous desired).Keeps Prompt := fun e he =>
  .bind fun previous => .bind fun desired =>
    keeps_updateTags (recovers_bestEffortRules previous desired) _ _ _ keeps_fetchArn e he

theorem keeps_parameterStep (previous desired : Value) :
    (parameterStep previous desired).Keeps Prompt := by
  intro e he
  unfold parameterStep
  split
  · exact .pure (.inr he)
  · refine .bind fun name => .bind fun answer => ?_
    split
    · exact .lift fun _ h => recovers_recover he h
    · exact .pure (.inr he)

theorem ends_readStep (e : Event) : (readStep e).Returns Over := by
  refine .bind fun answer => ?_
  split
  · exact .lift fun _ h => recover_ends h
  · exact .bind fun _ => .bind fun _ => .bind fun _ => .bind fun _ => .bind fun _ =>
      .pure (over_success _ _)

/-! ## Actions -/

theorem ends_create : (create s r).Returns Over := by
  refine .bind fun _ => .bind fun tags => .bind fun _ => .bind fun m =>
    returns_chain_ended [_, _, _] (List.forall_mem_cons.2 ⟨?_,
      List.forall_mem_cons.2 ⟨?_, List.forall_mem_cons.2 ⟨?_, by simp⟩⟩⟩) ends_readStep
      (.inr (prompt_progress _ _))
  · exact keeps_executeOnce lasting_prompt _ (keeps_createStep tags)
  · exact keeps_executeOnce lasting_prompt _ (keeps_tagStep _ _)
  · exact keeps_executeOnce lasting_prompt _ fun e he => .bind fun _ => keeps_parameterStep _ _ e he

theorem ends_update : (update r).Returns Over := by
  refine .bind fun _ => .bind fun _ => .bind fun _ => .bind fun m => .bind fun _ => .bind fun _ =>
    .bind fun _ => returns_chain_ended [_, _] (List.forall_mem_cons.2 ⟨?_,
      List.forall_mem_cons.2 ⟨?_, by simp⟩⟩) ends_readStep (.inr (prompt_progress _ _))
  · exact keeps_executeOnce lasting_prompt _ fun e he => .bind fun _ => .bind fun _ =>
      keeps_parameterStep _ _ e he
  · exact keeps_executeOnce lasting_prompt _ (keeps_tagStep _ _)

theorem ends_delete : delete.Returns Over :=
  .bind fun m => returns_chain_ended [_]
    (List.forall_mem_cons.2
      ⟨keeps_serviceCall recovers_recover (keeps_goOn lasting_prompt), by simp⟩)
    (fun _ => .pure (over_success _ _)) (.inr (prompt_progress _ _))

theorem ends_list : (list r).Returns Over := by
  refine .bind fun arguments => .bind fun answer => ?_
  cases answer with
  | error f => exact .lift fun _ h => recover_ends h
  | ok v =>
    exact .bind fun _ => .bind fun _ => .bind fun _ => .bind fun _ => .pure (.inl rfl)

/-- Every invocation for a parameter group ends the operation. -/
theorem ends_act : ((provider s).act r).Returns Over := by
  refine .bind fun _ => ?_
  cases r.action with
  | create => exact ends_create
  | read => exact .bind fun m => ends_readStep _
  | update => exact ends_update
  | delete => exact ends_delete
  | list => exact ends_list

end ParameterGroup

end Provisioning
