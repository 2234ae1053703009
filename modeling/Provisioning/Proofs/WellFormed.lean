import Provisioning.Executor
import Provisioning.Script
import Provisioning.Proofs.Run
import Provisioning.Proofs.Wording

/-!
# Every event is well formed

Whatever a request asks for and whatever the service answers, as long as it refuses in words, an
invocation ends in a well-formed event, or says that there is no such action
(`Provider.handle_wellFormed`). Every step is formed, so that a chain of them delivers a well-formed
event or a fault in words, and there is a well-formed event for such a fault.
-/

set_option autoImplicit false

namespace Provisioning

open Handler

/-! ## Integrations -/

namespace Integration

variable {s : Settings} {r : Request}

theorem formed_recover : Recovery.Formed (recover s) := Event.formed_ofFault codeless_recover

theorem worded_describe (model : Value) : (describe model).Worded :=
  (Delivers.read (codeless_identifier _)).bind fun _ _ =>
    (Delivers.read (codeless_identifyRequest _)).bind fun _ _ => worded_lookUp rfl

theorem formed_readStep : (readStep s).Formed := by
  refine fun e _ => (worded_describe _).attempt.bind fun answer hanswer => ?_
  cases answer with
  | error f => exact .lift (formed_recover e f hanswer)
  | ok v => exact (Delivers.read (codeless_modelOf _)).bind fun _ _ => .pure .success

theorem formed_nameStep : (nameStep r).Formed := by
  refine fun e he => (Delivers.read (Value.codeless_get _ _)).bind fun name _ =>
    (Delivers.read (codeless_lacksName _)).bind fun lacks _ => ?_
  split
  · exact (Delivers.read (names.codeless_newIdentifierFor _ _ _)).bind fun name _ =>
      (Delivers.read (Value.codeless_set _ _ _)).bind fun model _ =>
        (Delivers.setModel _).bind fun _ _ => .pure (he.withModel _)
  · exact .pure he

theorem formed_created (response : Value) : (created s response).Formed := fun _ _ =>
  (Delivers.read (Value.codeless_get _ _)).bind fun _ _ =>
    (Delivers.of_raises (raises_setField _ _ _)).bind fun _ _ =>
      (Delivers.read (Value.codeless_set _ _ _)).bind fun _ _ => .pure (.defer (.inl rfl))

theorem formed_createTagged (tags : TagSources) : (createTagged s tags).Formed := fun e he =>
  (Delivers.read tags.codeless_all).bind fun all _ => formed_createWithTaggingFallback
    (fun tags => formed_serviceCall (codeless_createRequest tags) formed_recover formed_created)
    all e he

theorem worded_probe (model : Value) : (probe model).Worded :=
  (worded_describe model).bind fun _ _ => .read (codeless_modelOf _)

theorem formed_rememberArn : Step.Formed rememberArn := by
  refine fun e he => (Delivers.of_raises (raises_field _ _)).bind fun known _ => ?_
  split
  · refine (Delivers.read (Value.codeless_get _ _)).bind fun arn _ => ?_
    split
    · exact (Delivers.of_raises (raises_setField _ _ _)).bind fun ref _ =>
        .pure (he.withContext ref)
    · exact .pure he
  · exact .pure he

theorem formed_createStep (tags : TagSources) : (createStep s tags).Formed := fun e he =>
  (formed_safeCreate worded_probe (formed_createTagged tags) e he).bind formed_rememberArn

theorem formed_fetchArn : (fetchArn s).Formed := by
  refine formed_serviceCall codeless_identifyRequest formed_recover fun response e _ =>
    (Delivers.read (codeless_firstModelOf _)).bind fun integration _ => ?_
  split
  · exact (Delivers.read (codeless_identifier _)).bind fun _ _ => .pure .failed
  · exact (Delivers.read (Value.codeless_require _ _)).bind fun _ _ =>
      (Delivers.of_raises (raises_setField _ _ _)).bind fun _ _ => .pure .progress

theorem formed_tagStep {previous desired : Except Fault TagSet} (hprevious : Codeless previous)
    (hdesired : Codeless desired) : (tagStep s previous desired).Formed := fun e he =>
  (Delivers.read hprevious).bind fun _ _ => (Delivers.read hdesired).bind fun _ _ =>
    formed_updateTags formed_recover _ _ _ formed_fetchArn e he

theorem worded_isActive (model : Value) : (isActive model).Worded := by
  refine (Delivers.read (codeless_identifier _)).bind fun id _ =>
    (worded_describe _).bind fun integration _ =>
      (Delivers.read (Value.codeless_get _ _)).bind fun status _ => .read ?_
  refine Codeless.bind ((Value.codeless_checkKey _).bind fun _ => .ok _) fun state => ?_
  cases state with
  | creatingInvalid => exact .error rfl
  | _ => exact .ok _

theorem formed_stabilizeStep : (stabilizeStep s).Formed :=
  formed_stabilize worded_isActive formed_recover

theorem formed_modifyStep (previous : Value) : (modifyStep s previous).Formed := by
  refine fun e he => (Delivers.read (codeless_modifyRequest _ _)).bind fun request _ => ?_
  split
  · exact .pure he
  · exact formed_serviceCall (fun _ => .ok _) formed_recover formed_goOn e he

theorem worded_isDeleted (model : Value) : (isDeleted model).Worded := by
  refine (worded_describe _).attempt.bind fun answer hanswer => ?_
  cases answer with
  | ok integration =>
    exact (Delivers.read (codeless_identifier _)).bind fun _ _ =>
      (Delivers.read (Value.codeless_get _ _)).bind fun _ _ => .pure trivial
  | error f =>
    dsimp only
    split
    · exact .pure trivial
    · exact .throw hanswer

theorem formed_listed {modelOf : Value → Except Fault Value} (hmodel : ∀ v, Codeless (modelOf v))
    (key : String) (response : Value) : (listed key modelOf response).Formed := fun _ _ =>
  (Delivers.read (Value.codeless_get _ _)).bind fun _ _ =>
    (Delivers.read (.ite (Value.codeless_iterate _) (.ok _))).bind fun items _ =>
      (Delivers.read (.mapM hmodel items)).bind fun _ _ =>
        (Delivers.read (Value.codeless_get _ _)).bind fun _ _ => .pure .successList

theorem delivers_create : (create s r).Delivers Event.WellFormed :=
  Delivers.model.bind fun m _ =>
    (Delivers.read (r.codeless_desiredTags m)).bind fun tags _ => Delivers.model.bind fun _ _ =>
      delivers_chain (List.forall_mem_cons.2 ⟨formed_nameStep,
        List.forall_mem_cons.2 ⟨formed_executeOnce _ (formed_createStep tags),
        List.forall_mem_cons.2 ⟨formed_executeOnce _
          (formed_tagStep (.ok _) tags.codeless_withoutSystem),
        List.forall_mem_cons.2 ⟨formed_stabilizeStep,
        List.forall_mem_cons.2 ⟨formed_readStep, by simp⟩⟩⟩⟩⟩) .progress

theorem delivers_update : (update s r).Delivers Event.WellFormed :=
  Delivers.model.bind fun _ _ =>
    (Delivers.read (codeless_requireUnchanged _ _ _ _)).bind fun _ _ =>
    Delivers.model.bind fun m _ => (Delivers.read (.foldlM (codeless_inherit _) _ m)).bind
      fun _ _ => (Delivers.setModel _).bind fun _ _ =>
    (Delivers.read (r.codeless_previousTags _)).bind fun previousTags _ =>
    Delivers.model.bind fun _ _ => (Delivers.read (r.codeless_desiredTags _)).bind
      fun desiredTags _ => Delivers.model.bind fun _ _ =>
        delivers_chain (List.forall_mem_cons.2 ⟨formed_executeOnce _ (formed_modifyStep _),
          List.forall_mem_cons.2 ⟨formed_stabilizeStep,
          List.forall_mem_cons.2 ⟨formed_executeOnce _
            (formed_tagStep previousTags.codeless_all desiredTags.codeless_all),
          List.forall_mem_cons.2 ⟨formed_readStep, by simp⟩⟩⟩⟩) .progress

theorem delivers_delete : (delete s).Delivers Event.WellFormed :=
  Delivers.model.bind fun _ _ => delivers_chain
    (List.forall_mem_cons.2 ⟨formed_executeOnce _
        (formed_serviceCall codeless_identifyRequest formed_recover formed_goOn),
      List.forall_mem_cons.2 ⟨formed_stabilize worded_isDeleted formed_recover,
      List.forall_mem_cons.2 ⟨fun _ _ => .pure .success, by simp⟩⟩⟩) .progress

/-- An action delivers a well-formed event, if the fault of having no client is one in words. -/
theorem delivers_act (hclient : ∀ f, r.client = .error f → f.textual = true) :
    ((provider s).act r).Delivers Event.WellFormed := by
  refine Delivers.bind (P := fun _ => True) (.lift ?_) fun _ _ => ?_
  · cases hr : r.client with
    | ok => trivial
    | error f => exact hclient f hr
  · cases r.action with
    | create => exact delivers_create
    | read => exact Delivers.model.bind fun m _ => formed_readStep _ .progress
    | update => exact delivers_update
    | delete => exact delivers_delete
    | list =>
      exact formed_serviceCall (fun _ => .ok _) formed_recover (formed_listed codeless_modelOf _) _
        .progress

end Integration

/-! ## Parameter groups -/

namespace ParameterGroup

open Integration (codeless_requireUnchanged codeless_inherit formed_listed)

variable {s : Settings} {r : Request}

/-! ### What is read -/

theorem answers_codeless : rules.Answers ErrorStatus.Codeless ErrorStatus.Codeless :=
  answers_rules codeless_failWith codeless_failWith codeless_failWithOwnCode

theorem codeless_recover (e : Event) (f : Fault) : Codeless (recover e f) :=
  Event.codeless_ofFault (answers_codeless.codeless_classify plain_rules) e f

theorem codeless_bestEffortRules (previous desired : TagSet) (e : Event) (f : Fault) :
    Codeless (Event.ofFault (bestEffortRules (some rules) previous desired) e f) := by
  unfold bestEffortRules
  split
  · have hignore : ErrorStatus.Codeless .ignore := fun _ => .ok _
    exact Event.codeless_ofFault ((answers_codeless.extend.withCodes hignore _).codeless_classify
      (plain_rules.extend.withCodes _ _)) e f
  · exact codeless_recover e f

theorem codeless_createRequest (tags : TagSet) (v : Value) : Codeless (createRequest v tags) :=
  (Value.codeless_get _ _).bind fun _ => (Value.codeless_get _ _).bind fun _ =>
    (Value.codeless_get _ _).bind fun _ => .ok _

theorem codeless_nameRequest (v : Value) : Codeless (nameRequest v) :=
  (Value.codeless_get _ _).bind fun _ => .ok _

theorem codeless_modelOf (v : Value) : Codeless (modelOf v) :=
  (Value.codeless_get _ _).bind fun _ => (Value.codeless_get _ _).bind fun _ =>
    (Value.codeless_get _ _).bind fun _ => .ok _

theorem codeless_applyMethod (name : Value) (current : Reported) :
    Codeless (applyMethod name current) :=
  (Value.codeless_checkKey _).bind fun _ => (Value.codeless_get _ _).bind fun _ => .ok _

theorem codeless_parametersToReset (names : List Value) (current : Reported) :
    Codeless (parametersToReset names current) :=
  .mapM (fun _ => (codeless_applyMethod _ _).bind fun _ => .ok _) names

theorem codeless_parametersToSet (parameters : Entries String Value) (current : Reported) :
    Codeless (parametersToSet parameters current) :=
  .mapM (fun _ => (codeless_applyMethod _ _).bind fun _ => .ok _) parameters

theorem codeless_differs (current : Reported) (name : String) (value : Value) :
    Codeless (differs current name value) := (Value.codeless_get _ _).bind fun _ => .ok _

theorem codeless_toReset (previous desired : Value) : Codeless (toReset previous desired) :=
  (Value.codeless_iterate _).bind fun names =>
    .filterM (fun _ => (Value.codeless_occursIn _ _).bind fun _ => .ok _) names

theorem codeless_toModify (desired : Value) (current : Reported) :
    Codeless (toModify desired current) :=
  (Value.codeless_entriesFor _ _).bind fun entries =>
    .filterM (fun _ => codeless_differs _ _ _) entries

theorem codeless_validate (desired : Value) (current : Reported) :
    Codeless (validate desired current) := by
  have hjoin : ∀ names : List Value, Codeless (joinNames names) := fun names => by
    refine Codeless.bind (.mapM (fun item => ?_) _) fun _ => .ok _
    split
    · exact .ok _
    · exact .error rfl
  refine (Value.codeless_iterate _).bind fun names => Codeless.bind
    (.filterM (fun name => (Value.codeless_checkKey name).bind fun _ => .ok _) names)
      fun unknown => ?_
  split
  · refine (Value.codeless_entriesFor _ _).bind fun entries =>
      Codeless.bind (.filterM (fun _ => ?_) entries) fun readOnly => .ite (.ok _) (.error rfl)
    exact ((Value.codeless_getD _ _ _).bind fun _ => .ok _).bind fun _ =>
      .ite (.ok _) (codeless_differs _ _ _)
  · exact (hjoin unknown).bind fun _ => .error rfl

theorem codeless_parametersOf (model : Value) : Codeless (parametersOf model) :=
  (Value.codeless_get _ _).bind fun _ => .ok _

/-! ### Steps -/

theorem formed_recover : Recovery.Formed recover := Event.formed_ofFault codeless_recover

theorem worded_describe (model : Value) : (describe model).Worded :=
  (Delivers.read (Value.codeless_get _ _)).bind fun _ _ =>
    (Delivers.read (codeless_nameRequest _)).bind fun _ _ => worded_lookUp rfl

theorem formed_readStep : Step.Formed readStep := by
  have hdescribe : ∀ model, (describeWithTags model).Worded := fun model =>
    (worded_describe model).bind fun _ _ => (Delivers.read (Value.codeless_require _ _)).bind
      fun _ _ => (Delivers.call _ _).bind fun _ _ => .pure trivial
  refine fun e _ => (hdescribe _).attempt.bind fun answer hanswer => ?_
  cases answer with
  | error f => exact .lift (formed_recover e f hanswer)
  | ok found =>
    exact (Delivers.read (codeless_modelOf _)).bind fun _ _ =>
      (Delivers.read (Value.codeless_get _ _)).bind fun _ _ =>
        (Delivers.read (.ite (.ok _) (Value.codeless_set _ _ _))).bind fun _ _ =>
          (Delivers.read (Value.codeless_get _ _)).bind fun _ _ =>
            (Delivers.read (Value.codeless_set _ _ _)).bind fun _ _ => .pure .success

/-- A fault in words is all that can be wrong with the pages of parameters. -/
theorem worded_fetchParameters (groupName : Value) : (fetchParameters groupName).Worded := by
  have hpage : ∀ current response, Codeless (addPage current (.ok response)) :=
    fun current response => (Value.codeless_get _ _).bind fun parameters =>
      .ite ((Value.codeless_iterate _).bind fun items => .foldlM (fun current parameter =>
        (Value.codeless_require _ _).bind fun name => (Value.codeless_checkKey name).bind
          fun _ => .ok _) items current) (.ok _)
  refine (Delivers.pages _ _).bind fun answers hanswers => .lift ?_
  generalize ([] : Reported) = current
  induction answers generalizing current with
  | nil => trivial
  | cons answer answers ih =>
    rw [List.foldlM_cons]
    cases answer with
    | error f =>
      have hf : Sound (fun _ => True) (.error f : Answer) := hanswers _ List.mem_cons_self
      exact hf
    | ok response =>
      have hsound := (hpage current response).sound_of fun _ _ => trivial
      cases hadded : addPage current (.ok response) with
      | error f => rwa [hadded] at hsound
      | ok next => exact ih (fun a ha => hanswers a (List.mem_cons_of_mem _ ha)) next

theorem worded_changeParameters (groupName previous desired : Value) :
    (changeParameters groupName previous desired).Worded := by
  have hchange : ∀ operation parameters, Codeless parameters →
      (changeCall operation groupName parameters).Worded := fun _ _ hparameters =>
    (Delivers.read hparameters).bind fun _ _ => (Delivers.call _ _).bind fun _ _ => .pure trivial
  exact (worded_fetchParameters _).bind fun current _ =>
    (Delivers.read (codeless_validate _ _)).bind fun _ _ =>
      (Delivers.read (codeless_toReset _ _)).bind fun reset _ =>
        (Delivers.read (codeless_toModify _ _)).bind fun modify _ =>
          (Delivers.forM fun _ => hchange _ _ (codeless_parametersToReset _ _)).bind fun _ _ =>
            .forM fun _ => hchange _ _ (codeless_parametersToSet _ _)

theorem formed_parameterStep (previous desired : Value) :
    (parameterStep previous desired).Formed := by
  intro e he
  unfold parameterStep
  split
  · exact .pure he
  · refine (Delivers.read (Value.codeless_require _ _)).bind fun name _ =>
      (worded_changeParameters _ _ _).attempt.bind fun answer hanswer => ?_
    split
    · exact .lift (formed_recover _ _ hanswer)
    · exact .pure he

theorem formed_fetchArn : Step.Formed fetchArn := by
  refine fun e he => (worded_describe _).attempt.bind fun answer hanswer => ?_
  cases answer with
  | error f => exact .lift (formed_recover _ _ hanswer)
  | ok group =>
    exact (Delivers.read (Value.codeless_require _ _)).bind fun _ _ =>
      (Delivers.of_raises (raises_setField _ _ _)).bind fun ref _ => .pure (he.withContext ref)

theorem formed_tagStep {previous desired : Except Fault TagSet} (hprevious : Codeless previous)
    (hdesired : Codeless desired) : (tagStep previous desired).Formed := fun e he =>
  (Delivers.read hprevious).bind fun previous _ => (Delivers.read hdesired).bind fun desired _ =>
    formed_updateTags (Event.formed_ofFault (codeless_bestEffortRules previous desired)) _ _ _
      formed_fetchArn e he

theorem worded_fillName : (fillName r).Worded := by
  refine Delivers.model.bind fun m _ => (Delivers.read (Value.codeless_get _ _)).bind fun name _ =>
    (Delivers.read (codeless_lacksName _)).bind fun lacks _ => ?_
  split
  · exact (Delivers.read (names.codeless_newIdentifierFor _ _ _)).bind fun _ _ =>
      Delivers.model.bind fun _ _ => (Delivers.read (Value.codeless_set _ _ _)).bind fun _ _ =>
        .setModel _
  · exact .pure trivial

theorem formed_created (response : Value) : (created response).Formed := fun _ _ =>
  (Delivers.read (Value.codeless_require _ _)).bind fun _ _ =>
    (Delivers.read (Value.codeless_require _ _)).bind fun _ _ =>
      (Delivers.of_raises (raises_setField _ _ _)).bind fun _ _ => .pure .progress

theorem worded_probe (context : ContextRef) (model : Value) : (probe context model).Worded := by
  refine (worded_describe model).bind fun group _ =>
    (Delivers.read (Value.codeless_get _ _)).bind fun arn _ =>
      Delivers.bind (P := fun _ => True) ?_ fun _ _ => .read (codeless_modelOf _)
  unfold keepArn
  split
  · exact (Delivers.of_raises (raises_setField _ _ _)).bind fun _ _ => .pure trivial
  · exact .pure trivial

theorem formed_createStep (tags : TagSources) : (createStep s tags).Formed := fun e he =>
  formed_safeCreate (worded_probe _) (fun e he => (Delivers.read tags.codeless_all).bind
    fun all _ => formed_createWithTaggingFallback (fun tags => formed_serviceCall
      (codeless_createRequest tags) formed_recover formed_created) all e he) e he

/-! ### Actions -/

theorem delivers_create : (create s r).Delivers Event.WellFormed :=
  Delivers.model.bind fun m _ =>
    (Delivers.read (r.codeless_desiredTags m)).bind fun tags _ =>
    worded_fillName.bind fun _ _ => Delivers.model.bind fun _ _ =>
      delivers_chain (List.forall_mem_cons.2 ⟨formed_executeOnce _ (formed_createStep tags),
        List.forall_mem_cons.2 ⟨formed_executeOnce _
          (formed_tagStep (.ok _) tags.codeless_withoutSystem),
        List.forall_mem_cons.2 ⟨formed_executeOnce _ fun e he =>
          (Delivers.read (codeless_parametersOf _)).bind fun _ _ => formed_parameterStep _ _ e he,
        List.forall_mem_cons.2 ⟨formed_readStep, by simp⟩⟩⟩⟩) .progress

theorem delivers_update : (update r).Delivers Event.WellFormed :=
  Delivers.model.bind fun _ _ => (Delivers.read (codeless_inherit _ _ _)).bind fun _ _ =>
    (Delivers.setModel _).bind fun _ _ => Delivers.model.bind fun _ _ =>
    (Delivers.read (codeless_requireUnchanged _ _ _ _)).bind fun _ _ =>
    (Delivers.read (r.codeless_previousTags _)).bind fun previousTags _ =>
    (Delivers.read (r.codeless_desiredTags _)).bind fun desiredTags _ =>
      delivers_chain (List.forall_mem_cons.2 ⟨formed_executeOnce _ fun e he =>
          (Delivers.read (codeless_parametersOf _)).bind fun _ _ =>
            (Delivers.read (codeless_parametersOf _)).bind fun _ _ => formed_parameterStep _ _ e he,
        List.forall_mem_cons.2 ⟨formed_executeOnce _
          (formed_tagStep previousTags.codeless_all desiredTags.codeless_all),
        List.forall_mem_cons.2 ⟨formed_readStep, by simp⟩⟩⟩) .progress

theorem delivers_delete : delete.Delivers Event.WellFormed :=
  Delivers.model.bind fun _ _ => delivers_chain
    (List.forall_mem_cons.2 ⟨formed_serviceCall codeless_nameRequest formed_recover formed_goOn,
      List.forall_mem_cons.2 ⟨fun _ _ => .pure .success, by simp⟩⟩) .progress

/-- An action delivers a well-formed event, if the fault of having no client is one in words. -/
theorem delivers_act (hclient : ∀ f, r.client = .error f → f.textual = true) :
    ((provider s).act r).Delivers Event.WellFormed := by
  refine Delivers.bind (P := fun _ => True) (.lift ?_) fun _ _ => ?_
  · cases hr : r.client with
    | ok => trivial
    | error f => exact hclient f hr
  · cases r.action with
    | create => exact delivers_create
    | read => exact Delivers.model.bind fun m _ => formed_readStep _ .progress
    | update => exact delivers_update
    | delete => exact delivers_delete
    | list =>
      exact formed_serviceCall (fun _ => .ok _) formed_recover (formed_listed codeless_modelOf _) _
        .progress

end ParameterGroup

/-! ## Invocations -/

namespace Provider

variable {p : Provider} {r : Request} {s s' : Session} {h : History}

/-- How an invocation may end: in a well-formed event, or in saying that there is no such action. -/
def Handled : Except Fault Event → Prop
  | .ok e => e.WellFormed
  | .error f => f.isA "NotImplementedError" = true

/-- The actions of a provider deliver well-formed events, and it has such an event for every fault
in words. -/
structure Formed (p : Provider) : Prop where
  act : ∀ r, (∀ f, r.client = .error f → f.textual = true) → (p.act r).Delivers Event.WellFormed
  recover : Recovery.Formed p.recover
  recovers : ∀ e f, f.textual = true → ∀ f', p.recover e f ≠ .error f'

theorem formed_of_mem {settings : Settings} (hp : p ∈ providers settings) : p.Formed := by
  simp only [providers, List.mem_cons, List.not_mem_nil, or_false] at hp
  rcases hp with rfl | rfl
  · refine ⟨fun _ => Integration.delivers_act, Integration.formed_recover, fun e f hf f' h => ?_⟩
    rcases bind_eq_error.1 h with h | ⟨verdict, -, h⟩
    · exact Integration.classify_ne_error _ hf f' h
    · cases verdict <;> cases h
  · refine ⟨fun _ => ParameterGroup.delivers_act, ParameterGroup.formed_recover,
      fun e f hf f' h => ?_⟩
    rcases bind_eq_error.1 h with h | ⟨verdict, -, h⟩
    · exact ParameterGroup.classify_ne_error (Fault.isKey_serviceCode hf) f' h
    · cases verdict <;> cases h

/-- A fault of the action is either handed on, or there is an event for it. -/
theorem Formed.serve (hp : p.Formed) (hclient : ∀ f, r.client = .error f → f.textual = true)
    {result : Except Fault Event} (hy : (p.serve r).Yields s h result s')
    (hh : ∀ e ∈ h, e.textual = true) : Handled result := by
  obtain ⟨h₁, a, s₁, h₂, hact, hrest, rfl⟩ := yields_attempt_bind.1 hy
  have hsound := hp.act r hclient hact fun e he => hh e (List.mem_append_left _ he)
  cases a with
  | ok e =>
    obtain ⟨-, rfl, -⟩ := yields_pure.1 hrest
    exact hsound
  | error f =>
    dsimp only at hrest
    split at hrest
    · obtain ⟨-, rfl, -⟩ := yields_throw.1 hrest
      assumption
    · obtain ⟨-, rfl, -⟩ := yields_lift.1 (yields_get_bind.1 hrest)
      have hformed := hp.recover (.progress s₁.model .session) f hsound
      cases hr : p.recover (.progress s₁.model .session) f with
      | error f' => exact absurd hr (hp.recovers _ f hsound f')
      | ok e => rwa [hr] at hformed

/-- A mapping can be read as the context of any kind. -/
theorem exists_openSession {entries : Entries String Value} (hc : r.customContext = .map entries) :
    ∃ s, p.openSession r = .ok s := by
  unfold openSession Context.ofValue
  rw [hc]
  split <;> exact ⟨_, rfl⟩

/-- Whatever a request asks for and whatever the service answers in words, an invocation of either
provider starts, and ends in a well-formed event or in saying that there is no such action. -/
theorem handle_wellFormed {settings : Settings} (hp : p ∈ providers settings)
    {entries : Entries String Value} (hcontext : r.customContext = .map entries)
    (hclient : ∀ f, r.client = .error f → f.textual = true) :
    ∃ s, p.openSession r = .ok s ∧ ∀ {σ : Type} (env : Program.Environment σ) (w : σ),
      (∀ e ∈ (p.handle r s).history env w, e.textual = true) →
        Handled ((p.handle r s).run env w).1.1 := by
  obtain ⟨s, hs⟩ := exists_openSession (p := p) hcontext
  refine ⟨s, hs, fun env w htextual => ?_⟩
  obtain ⟨result, hserve, hresult⟩ :=
    handle_runs_iff.1 (Program.runs_history env (p.handle r s) w)
  have hhandled := (formed_of_mem hp).serve hclient hserve htextual
  rw [hresult]
  cases result with
  | ok e => exact Event.WellFormed.settle hhandled _
  | error f => exact hhandled

/-- A request for an integration that may be there already. -/
def ledger : Request := { action := .create, desired := .map [("IntegrationName", .text "ledger")] }

/-- A service that refuses to look the integration up for now. -/
def ledgerService : Script :=
  { replies := [("describe_integrations", [.answer (.error (.service
      { code := some (.text "InvalidIntegrationStateFault")
        message := some (.text Integration.invalidStateMessage)
        operation := "DescribeIntegrations" }))])] }

/-- The refused look-up becomes an event that is throttled. -/
theorem handle_wellFormed_ledger :
    Integration.provider {} ∈ providers {} ∧ ledger.customContext = .map [] ∧
      (∀ f, ledger.client = .error f → f.textual = true) ∧
      ∃ s, (Integration.provider {}).openSession ledger = .ok s ∧
        (∀ e ∈ ((Integration.provider {}).handle ledger s).history Script.environment
          ledgerService, e.textual = true) ∧
        Handled (((Integration.provider {}).handle ledger s).run Script.environment
          ledgerService).1.1 ∧
        ∃ e, (((Integration.provider {}).handle ledger s).run Script.environment
          ledgerService).1.1 = .ok e ∧ e.status = .inProgress ∧ e.code = some .throttling := by
  have hp : Integration.provider {} ∈ providers {} := List.mem_cons_self
  have hclient : ∀ f, ledger.client = .error f → f.textual = true := nofun
  obtain ⟨s, hs, hhandled⟩ := handle_wellFormed hp (rfl : ledger.customContext = .map []) hclient
  obtain rfl : s = ⟨ledger.desired, .initial .integration⟩ := Except.ok.inj hs.symm
  have htextual : ∀ e ∈ ((Integration.provider {}).handle ledger
      ⟨ledger.desired, .initial .integration⟩).history Script.environment ledgerService,
      e.textual = true := by decide +kernel
  exact ⟨hp, rfl, hclient, _, hs, htextual, hhandled Script.environment ledgerService htextual, _,
    rfl, by decide +kernel, by decide +kernel⟩

end Provider

end Provisioning
