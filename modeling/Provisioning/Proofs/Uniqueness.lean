import Provisioning.Proofs.Attempts
import Provisioning.Proofs.Keeping
import Provisioning.Proofs.Integration.Model
import Provisioning.Proofs.Integration.Steps
import Provisioning.Proofs.ParameterGroup.Ending
import Provisioning.Proofs.ParameterGroup.Steps

/-!
# A create request creates at most one resource

Both providers create with care (`Provider.Careful`), provided they look for a resource before they
create it. So whatever attempts are made to serve a create request, and wherever they are cut off,
they create at most one resource, and none if there was one of its name before
(`Provider.Attempts.creates_at_most_one`).
-/

set_option autoImplicit false

namespace Provisioning

open Handler History

/-! ## Names in create requests -/

theorem get?_present {entries : Entries String Value} (hd : entries.Distinct) (key : String) :
    ((Integration.present entries).get? key).getD .null = (entries.get? key).getD .null := by
  rw [Integration.lookup_present hd]
  cases entries.get? key with
  | none => rfl
  | some v => cases v <;> rfl

/-! ## Integrations -/

namespace Integration

variable {s : Settings} {r : Request} {name : Value} {e : Event} {sess sess' : Session}
  {h : History} {res : Except Fault Event}

/-- How integrations are created and looked up. -/
def catalog (s : Settings) : Catalog where
  createOp := "create_integration"
  naming := naming
  lookupOp := "describe_integrations"
  lookupField := "IntegrationIdentifier"
  listField := "Integrations"
  missingCode := "IntegrationNotFoundFault"
  rules := rules s.callbackDelay

theorem named_createRequest {m : Value} {tags : TagSet} {arguments : Entries String Value}
    (hname : m.get "IntegrationName" = .ok name) (hr : createRequest m tags = .ok arguments) :
    (catalog s).named ⟨"create_integration", arguments⟩ = name := by
  obtain ⟨source, -, hr⟩ := bind_eq_ok.1 hr
  obtain ⟨target, -, hr⟩ := bind_eq_ok.1 hr
  obtain ⟨name', hname', hr⟩ := bind_eq_ok.1 hr
  obtain ⟨key, -, hr⟩ := bind_eq_ok.1 hr
  obtain ⟨encryption, -, hr⟩ := bind_eq_ok.1 hr
  obtain ⟨description, -, hr⟩ := bind_eq_ok.1 hr
  obtain ⟨filter, -, hr⟩ := bind_eq_ok.1 hr
  rw [hname] at hname'
  cases hname'
  rw [← pure_eq_ok.1 hr]
  exact get?_present (by simp [Entries.Distinct]) "IntegrationName"

/-- A candidate is looked up by its name. -/
theorem identifier_of_name {m id : Value} (hname : m.get "IntegrationName" = .ok name)
    (hun : ∀ v, m.get "IntegrationArn" = .ok v → v.truthy = false)
    (hid : identifier m = .ok id) : id = name := by
  obtain ⟨arn, harn, hid⟩ := bind_eq_ok.1 hid
  obtain ⟨name', hname', hid⟩ := bind_eq_ok.1 hid
  rw [hname] at hname'
  cases hname'
  rw [← pure_eq_ok.1 hid, Value.orElse, if_neg (by simp [hun arn harn])]

theorem not_isA_of_modelOf {v : Value} {f : Fault} (hf : modelOf v = .error f) :
    f.isA "NotFoundError" = false := by
  rcases bind_eq_error.1 hf with hf | ⟨entries, hentries, hf⟩
  · exact Value.not_isA_of_entriesFor hf
  · rcases bind_eq_error.1 hf with hf | ⟨createTime, -, hf⟩
    · exact Value.not_isA_of_get hf
    · cases hf

theorem probes_probe {m : Value} (hname : m.get "IntegrationName" = .ok name)
    (hun : ∀ v, m.get "IntegrationArn" = .ok v → v.truthy = false) :
    (catalog s).Probes name (probe m) where
  avoids _ _ _ _ hy := by
    have hwithin : (probe m).Within ["describe_integrations"] := within_probe (by decide) m
    exact hwithin.avoids (by simp [catalog]) hy
  finds _ _ v _ hy := by
    obtain ⟨id, response, record, entries, -, -, -, -, rfl⟩ := (probe_cases hy).2 v rfl
    rfl
  misses sess h f sess' hy hmissing := by
    rcases yields_bind.1 hy with ⟨f', hdescribe, hf⟩ | ⟨h₁, record, s₁, h₂, -, hlift, -⟩
    · cases hf
      obtain ⟨-, ⟨f', hid, -, hf⟩ | ⟨id, answer, hid, rfl, hf⟩⟩ := describe_cases hdescribe
      · cases hf
        rw [not_isA_of_identifier hid] at hmissing
        cases hmissing
      · -- without an ARN the look-up asks for the name, which is the one of the candidate
        obtain rfl := identifier_of_name hname hun hid
        exact ⟨answer, rfl, reportsMissing_of_found hf.symm hmissing⟩
    · rw [not_isA_of_modelOf (yields_lift.1 hlift).2.1.symm] at hmissing
      cases hmissing

/-! ## The creating step -/

theorem createTagged_adds {tags : TagSources} (hname : e.model.get "IntegrationName" = .ok name)
    (hy : (createTagged s tags e).Yields sess h res sess') : (catalog s).AddsOne name h := by
  rcases yields_lift_bind.1 hy with ⟨f, -, rfl, rfl, rfl⟩ | ⟨all, -, hy⟩
  · exact Catalog.spares_nil.addsOne
  · refine Catalog.createWithTaggingFallback_adds (fun tags sess h res sess' hy => ?_) hy
    exact Catalog.serviceCall_requested (c := catalog s)
      (fun _ => named_createRequest (s := s) hname) within_created
      (fun _ _ => .bind fun _ => .bind fun _ => .bind fun _ => .pure rfl) hy

theorem createStep_adds (hprobing : s.probing = true) {tags : TagSources}
    (hname : e.model.get "IntegrationName" = .ok name)
    (hun : ∀ v, e.model.get "IntegrationArn" = .ok v → v.truthy = false)
    (hy : (createStep s tags e).Yields sess h res sess') : (catalog s).AddsNew name h := by
  have hsafe : ∀ {sess h res sess'},
      (safeCreate probe (createTagged s tags) s.probing e).Yields sess h res sess' →
        (catalog s).AddsNew name h := by
    intro sess h res sess' hy
    rw [hprobing] at hy
    have hops : (catalog s).lookupOp ≠ (catalog s).createOp := by simp [catalog]
    exact Catalog.safeCreate_adds (c := catalog s) hops (probes_probe hname hun)
      (fun _ _ _ _ hy => createTagged_adds hname hy) hy
  rcases yields_bind.1 hy with ⟨f, hcreate, -⟩ | ⟨h₁, e₁, s₁, h₂, hcreate, hremember, rfl⟩
  · exact hsafe hcreate
  · have hlater : Avoids (catalog s).createOp h₂ :=
      (within_rememberArn e₁).avoids List.not_mem_nil hremember
    exact (hsafe hcreate).append (Catalog.spares_of_avoids hlater).addsNew

/-- An event in progress that does not complete the creation keeps the model. -/
theorem createStep_keeps (tags : TagSources) (e : Event) : (createStep s tags e).Returns
    (Event.Ending fun e' => e'.completes = true ∨ e'.model = e.model) := by
  have hcreate : ∀ tags, (createCall s tags e).Returns
      (Event.Ending fun e' => e'.completes = true ∨ e'.model = e.model) := by
    refine fun tags => .bind fun arguments => .bind fun answer => ?_
    cases answer with
    | error f => exact .lift fun _ h => .inr (.inr (Event.model_of_ofFault h))
    | ok v => exact .bind fun _ => .bind fun _ => .bind fun _ => .pure (.inr (.inl rfl))
  refine .bind_of (P := Event.Ending fun e' => e'.completes = true ∨ e'.model = e.model) ?_
    fun e₁ he₁ => .bind fun known => ?_
  · refine .bind fun existing => ?_
    split
    · refine .bind fun all => .bind_of (hcreate all) fun result hresult => ?_
      split
      · exact hcreate _
      · exact .pure hresult
    · exact .bind fun _ => .bind fun _ => .pure (.inr (.inl rfl))
  · split
    · refine .bind fun arn => ?_
      split
      · exact .bind fun _ => .pure he₁
      · exact .pure he₁
    · exact .pure he₁

/-! ## One invocation -/

theorem within_finalSteps (tags : TagSources) (e : Event) :
    (chain e (finalSteps s tags)).Within ("describe_integrations" :: tagOperations) := by
  have htags : ∀ op ∈ tagOperations, op ∈ "describe_integrations" :: tagOperations :=
    fun _ => List.mem_cons_of_mem _
  exact within_chain (forall_mem_finalSteps
    (within_executeOnce _ (within_tagStep htags List.mem_cons_self _ _))
    (within_stabilize (within_isActive List.mem_cons_self)) (within_readStep List.mem_cons_self)) e

theorem codeless_finalSteps (tags : TagSources) (e : Event) :
    (chain e (finalSteps s tags)).Raises (·.isRefusal = false) :=
  raises_chain (forall_mem_finalSteps
    (codeless_executeOnce _ (codeless_tagStep (.ok _) tags.codeless_withoutSystem))
    codeless_stabilizeStep codeless_readStep) e

theorem keeps_finalSteps {m : Value} (tags : TagSources) (he : e.Ending (Event.About m)) :
    (chain e (finalSteps s tags)).Returns (Event.Ending (Event.About m)) :=
  returns_chain_ending (forall_mem_finalSteps
    (keeps_executeOnce (Event.lasting_about m) _ (keeps_tagStep _ _)) keeps_stabilizeStep
    keeps_readStep) he

theorem act_adds (hprobing : s.probing = true) (ha : r.action = .create)
    (hc : naming.Candidate r name sess.model) (hy : ((provider s).act r).Yields sess h res sess') :
    (catalog s).AddsNew name h := by
  rcases act_create_cases ha hy with ⟨f, -, rfl, rfl, rfl⟩ | ⟨tags, named, -, -, hm, hchain⟩
  · exact Catalog.spares_nil.addsNew
  · obtain ⟨hnamed, hname⟩ := hc.fill hm (by decide)
    have hops : (catalog s).createOp ∉ "describe_integrations" :: tagOperations := by
      simp [catalog, tagOperations]
    refine Catalog.chain_adds rfl (fun _ _ _ _ hy => ?_) (within_finalSteps tags) hops hchain
    exact Catalog.executeOnce_adds rfl (staysInSession_createStep tags) (fun _ _ _ _ hy =>
      createStep_adds hprobing hname hnamed.unidentified hy) hy

/-- After the creating step the creation is complete, or an event in progress keeps the model. -/
theorem executeOnce_createStep_keeps {tags : TagSources} {m : Value} {e' : Event}
    (hy : (executeOnce "create_complete" (createStep s tags) (.progress m .session)).Yields sess h
      (.ok e') sess') :
    sess'.context.Marked "create_complete" ∨ e'.Ending (Event.About m) := by
  generalize hr : (Except.ok e' : Except Fault Event) = result at hy
  cases executeOnce_cases rfl (staysInSession_createStep tags) hy with
  | unreadable => cases hr
  | skipped hm => exact .inl hm
  | incomplete _ hrun hincomplete =>
    subst hr
    refine .inr ((createStep_keeps tags _ hrun).imp id fun h => h.resolve_left fun hcomplete => ?_)
    rw [hincomplete e' rfl] at hcomplete
    cases hcomplete
  | complete => exact .inl (Context.marked_put _ _)

/-- What an invocation for a candidate leaves for the next one: the creation is complete, or the
model is a candidate. -/
theorem act_keeps (ha : r.action = .create) (hc : naming.Candidate r name sess.model)
    (hy : ((provider s).act r).Yields sess h res sess') :
    (∀ e, res = .ok e → e.status = .inProgress →
        sess'.context.Marked "create_complete" ∨ naming.Candidate r name e.model) ∧
      ∀ f, res = .error f → f.serviceCode = .null ∨ naming.Candidate r name sess'.model := by
  rcases act_create_cases ha hy with ⟨f, -, rfl, rfl, rfl⟩ | ⟨tags, named, -, -, hm, hchain⟩
  · exact ⟨nofun, fun _ _ => .inr hc⟩
  obtain ⟨hnamed, -⟩ := hc.fill hm (by decide)
  rcases chain_of_proceed rfl hchain with ⟨f, hcreate, rfl⟩ | ⟨h₁, e₁, s₁, h₂, hcreate, hrest, rfl⟩
  · refine ⟨nofun, fun f' hf => ?_⟩
    cases hf
    exact (executeOnce_createStep_error hcreate).imp_right fun (hsame : sess' = named) =>
      hsame ▸ hnamed
  · refine ⟨?_, ?_⟩
    · -- the last steps neither unset the flag nor replace the model of an event in progress
      rintro e rfl hs
      rcases executeOnce_createStep_keeps hcreate with hmarked | hkept
      · exact .inl ((within_finalSteps tags e₁ hrest).2.marked (by decide) hmarked)
      · have hmodel : e.model = named.model := (keeps_finalSteps tags hkept hrest).of_inProgress hs
        exact .inr (hmodel ▸ hnamed)
    · rintro f rfl
      exact .inl (Fault.serviceCode_eq_null (codeless_finalSteps tags e₁ hrest))

theorem careful (hprobing : s.probing = true) : (provider s).Careful (catalog s) where
  guards := Provider.guards_integration (by decide : "create_integration" ∈ guardedOperations)
  adds ha hc hy := act_adds hprobing ha hc hy
  keeps {r name sess h e sess'} ha hc hy hs := by
    rcases Provider.serve_cases hy with ⟨e', hact, he⟩ | ⟨f, hact, he | he⟩
    · cases he
      exact (act_keeps ha hc hact).1 e rfl hs
    · cases he
    · rcases recover_cases he.symm with ⟨code, rfl⟩ | ⟨rfl, hnull⟩
      · cases hs
      · refine .inr (((act_keeps ha hc hact).2 f rfl).resolve_left fun hcode => ?_)
        rw [hcode] at hnull
        cases hnull

end Integration

/-! ## Parameter groups -/

namespace ParameterGroup

variable {s : Settings} {r : Request} {name : Value} {e : Event} {sess sess' : Session}
  {h : History} {res : Except Fault Event}

/-- How parameter groups are created and looked up. -/
def catalog : Catalog where
  createOp := "create_db_parameter_group"
  naming := naming
  lookupOp := "describe_db_parameter_groups"
  lookupField := "DBParameterGroupName"
  listField := "DBParameterGroups"
  missingCode := "DBParameterGroupNotFound"
  rules := rules

theorem named_createRequest {m : Value} {tags : TagSet} {arguments : Entries String Value}
    (hname : m.get "DBParameterGroupName" = .ok name) (hr : createRequest m tags = .ok arguments) :
    catalog.named ⟨"create_db_parameter_group", arguments⟩ = name := by
  obtain ⟨name', hname', hr⟩ := bind_eq_ok.1 hr
  obtain ⟨family, -, hr⟩ := bind_eq_ok.1 hr
  obtain ⟨description, -, hr⟩ := bind_eq_ok.1 hr
  rw [hname] at hname'
  cases hname'
  rw [← pure_eq_ok.1 hr]
  exact get?_present (by simp [Entries.Distinct]) "DBParameterGroupName"

/-- A look-up says that there is no parameter group only if it has asked for the name. -/
theorem describe_missing {m : Value} {f : Fault} (hname : m.get "DBParameterGroupName" = .ok name)
    (hy : (describe m).Yields sess h (.error f) sess') (hmissing : f.isA "NotFoundError" = true) :
    ∃ answer, h = [catalog.lookup name answer] ∧
      ListsNothing catalog.listField catalog.missingCode answer := by
  have hrequest : nameRequest m = .ok [("DBParameterGroupName", name)] := by
    rw [nameRequest, hname]
    rfl
  unfold describe at hy
  rw [hname, hrequest] at hy
  rcases yields_lift_bind.1 hy with ⟨f, hf, -⟩ | ⟨id, hid, hy⟩
  · cases hf
  cases hid
  rcases yields_lift_bind.1 hy with ⟨f, hf, -⟩ | ⟨arguments, harguments, hy⟩
  · cases hf
  cases harguments
  obtain ⟨-, answer, rfl, hf⟩ := lookUp_cases hy
  exact ⟨answer, rfl, listsNothing_of_firstListed hf.symm hmissing⟩

/-- Keeping the ARN in the context does not say that anything is missing. -/
theorem keepArn_error {arn : Value} {f : Fault}
    (hy : (keepArn .session arn).Yields sess h (.error f) sess') :
    f.isA "NotFoundError" = false := by
  unfold keepArn at hy
  split at hy
  · rcases yields_bind.1 hy with ⟨f', hset, hf⟩ | ⟨h₁, ref, s₁, h₂, -, hrest, -⟩
    · cases hf
      obtain ⟨-, ⟨f', hset, hf, -⟩ | ⟨c, -, hf, -⟩⟩ := yields_setField_session.1 hset
      · cases hf
        exact Context.not_isA_of_set hset
      · cases hf
    · cases (yields_pure.1 hrest).2.1
  · cases (yields_pure.1 hy).2.1

theorem not_isA_of_modelOf {v : Value} {f : Fault} (hf : modelOf v = .error f) :
    f.isA "NotFoundError" = false := by
  rcases bind_eq_error.1 hf with hf | ⟨name, -, hf⟩
  · exact Value.not_isA_of_get hf
  · rcases bind_eq_error.1 hf with hf | ⟨family, -, hf⟩
    · exact Value.not_isA_of_get hf
    · rcases bind_eq_error.1 hf with hf | ⟨description, -, hf⟩
      · exact Value.not_isA_of_get hf
      · cases hf

theorem probes_probe {m : Value} (hname : m.get "DBParameterGroupName" = .ok name) :
    catalog.Probes name (probe .session m) where
  avoids _ _ _ _ hy := by
    have hwithin : (probe .session m).Within ["describe_db_parameter_groups"] :=
      within_probe (by decide) .session m
    exact hwithin.avoids (by decide) hy
  finds := .bind fun group => .bind fun arn => .bind fun _ => .lift fun v hv => by
    obtain ⟨name, -, hv⟩ := bind_eq_ok.1 hv
    obtain ⟨family, -, hv⟩ := bind_eq_ok.1 hv
    obtain ⟨description, -, hv⟩ := bind_eq_ok.1 hv
    rw [← pure_eq_ok.1 hv]
    rfl
  misses sess h f sess' hy hmissing := by
    rcases yields_bind.1 hy with ⟨f', hdescribe, hf⟩ | ⟨h₁, group, s₁, h₂, -, hrest, -⟩
    · cases hf
      exact describe_missing hname hdescribe hmissing
    have hnot : f.isA "NotFoundError" = false := by
      rcases yields_lift_bind.1 hrest with ⟨f', hf, -, hr, -⟩ | ⟨arn, -, hrest⟩
      · cases hr
        exact Value.not_isA_of_get hf
      · rcases yields_bind.1 hrest with ⟨f', hkeep, hf⟩ | ⟨h₃, _, s₂, h₄, -, hlift, -⟩
        · cases hf
          exact keepArn_error hkeep
        · exact not_isA_of_modelOf (yields_lift.1 hlift).2.1.symm
    rw [hnot] at hmissing
    cases hmissing

theorem createStep_adds (hprobing : s.probing = true) {tags : TagSources}
    (he : e.context = .session) (hname : e.model.get "DBParameterGroupName" = .ok name)
    (hy : (createStep s tags e).Yields sess h res sess') : catalog.AddsNew name h := by
  have hops : catalog.lookupOp ≠ catalog.createOp := by decide
  unfold createStep at hy
  rw [hprobing, he] at hy
  refine Catalog.safeCreate_adds hops (probes_probe hname) (fun sess h res sess' hy => ?_) hy
  rcases yields_lift_bind.1 hy with ⟨f, -, rfl, rfl, rfl⟩ | ⟨all, -, hy⟩
  · exact Catalog.spares_nil.addsOne
  · refine Catalog.createWithTaggingFallback_adds (fun tags sess h res sess' hy => ?_) hy
    exact Catalog.serviceCall_requested (c := catalog) (fun _ => named_createRequest hname)
      within_created (fun _ _ => .bind fun _ => .bind fun _ => .bind fun _ => .pure rfl) hy

/-- The operations of the steps that follow the creating one. -/
def laterOperations : List String := parameterOperations ++ tagOperations ++ readOperations

theorem act_adds (hprobing : s.probing = true) (ha : r.action = .create)
    (hc : naming.Candidate r name sess.model) (hy : ((provider s).act r).Yields sess h res sess') :
    catalog.AddsNew name h := by
  rcases yields_lift_bind.1 hy with ⟨f, -, rfl, rfl, rfl⟩ | ⟨-, -, hy⟩
  · exact Catalog.spares_nil.addsNew
  rw [ha] at hy
  dsimp only at hy
  unfold create at hy
  rw [yields_model_bind] at hy
  rcases yields_lift_bind.1 hy with ⟨f, -, rfl, rfl, rfl⟩ | ⟨tags, -, hy⟩
  · exact Catalog.spares_nil.addsNew
  rcases yields_bind.1 hy with ⟨f, hfill, rfl⟩ | ⟨h₁, _, s₁, h₂, hfill, hrest, rfl⟩
  · rw [(fillName_cases hfill).1]
    exact Catalog.spares_nil.addsNew
  obtain ⟨rfl, ⟨f, hf⟩ | ⟨m, hm, -, rfl⟩⟩ := fillName_cases hfill
  · cases hf
  obtain ⟨-, hname⟩ := hc.fill hm (by decide)
  rw [yields_model_bind] at hrest
  have hlater : ∀ e, (chain e
      [executeOnce "add_tags_complete" (tagStep (.ok .empty) tags.withoutSystem),
        executeOnce "parameters_applied" fun progress => do
          parameterStep (.map []) (← lift (parametersOf m)) progress,
        readStep]).Within laterOperations := by
    refine within_chain (List.forall_mem_cons.2 ⟨?_, List.forall_mem_cons.2 ⟨?_,
      List.forall_mem_cons.2 ⟨?_, by simp⟩⟩⟩)
    · exact within_executeOnce _ (within_tagStep (by simp +contextual [laterOperations])
        (by simp [laterOperations, readOperations]) _ _)
    · exact within_executeOnce _ fun e => (Within.lift _).bind fun _ =>
        within_parameterStep (by simp +contextual [laterOperations]) _ _ e
    · exact within_readStep (by simp +contextual [laterOperations])
  refine Catalog.chain_adds rfl (fun _ _ _ _ hy => ?_) hlater (by decide) hrest
  exact Catalog.executeOnce_adds rfl (staysInSession_createStep tags)
    (fun _ _ _ _ hy => createStep_adds hprobing rfl hname hy) hy

/-- No invocation for a parameter group asks for another one. -/
theorem careful (hprobing : s.probing = true) : (provider s).Careful catalog where
  guards := Provider.guards_parameterGroup (by decide)
  adds ha hc hy := act_adds hprobing ha hc hy
  keeps _ _ hy hs := by
    rcases Provider.serve_cases hy with ⟨e', hact, he⟩ | ⟨f, -, he | he⟩
    · cases he
      exact absurd hs (ends_act hact).ne_inProgress
    · cases he
    · exact absurd hs (recover_ends he.symm).ne_inProgress

end ParameterGroup

/-! ## All attempts -/

/-- The providers, with how their resources are created and looked up. -/
def catalogs (s : Settings) : List (Provider × Catalog) :=
  [(Integration.provider s, Integration.catalog s),
    (ParameterGroup.provider s, ParameterGroup.catalog)]

namespace Provider

variable {s : Settings} {p : Provider} {c : Catalog}

theorem careful_of_mem (hp : (p, c) ∈ catalogs s) (hprobing : s.probing = true) : p.Careful c := by
  simp only [catalogs, List.mem_cons, Prod.mk.injEq, List.not_mem_nil, or_false] at hp
  rcases hp with ⟨rfl, rfl⟩ | ⟨rfl, rfl⟩
  · exact Integration.careful hprobing
  · exact ParameterGroup.careful hprobing

/-- At every moment of the attempts to serve a create request for a model without an ARN, what is
stored is as it was before the first attempt, or it is the resource that the request names in
addition, of which there was none before. -/
theorem Attempts.creates_at_most_one (hp : (p, c) ∈ catalogs s) (hprobing : s.probing = true)
    {r : Request} (ha : r.action = .create)
    (harn : ∀ v, r.desired.get "IntegrationArn" = .ok v → v.truthy = false)
    {known : List Request} {h : History} (hattempts : p.Attempts r known h) {w w' : List Value}
    (hw : c.Serves w h w') :
    w' = w ∨ ∃ name, c.naming.nameOf r r.desired = .ok name ∧ name ∉ w ∧ w' = name :: w := by
  have hadds : ∀ name, (∀ v, c.naming.nameOf r r.desired = .ok v → v = name) →
      w' = w ∨ name ∉ w ∧ w' = name :: w := by
    intro name hname
    have hready : p.Ready c name r := by
      refine ⟨ha, fun sess hopen => .inr ?_⟩
      rw [(openSession_eq_ok.1 hopen).1]
      exact ⟨hname, harn⟩
    exact (hattempts.adds (careful_of_mem hp hprobing) hready).2.served hw
  cases hname : c.naming.nameOf r r.desired with
  | ok name =>
    exact (hadds name fun v hv => by rw [hname] at hv; exact (Except.ok.inj hv).symm).imp_right
      fun ⟨hnew, hw⟩ => ⟨name, rfl, hnew, hw⟩
  | error f =>
    -- without a name nothing is stored: it would have any two names
    have hany : ∀ name v, c.naming.nameOf r r.desired = .ok v → v = name := by simp [hname]
    rcases hadds .null (hany _) with hsame | ⟨-, hnull⟩
    · exact .inl hsame
    · rcases hadds (.bool true) (hany _) with hsame | ⟨-, htrue⟩
      · exact .inl hsame
      · rw [hnull] at htrue
        cases htrue

/-- A call that gets no answer. -/
def lostCall : Fault := .transport (.readTimeout "https://rds")

/-- A service that gives no answer to the request that creates the integration. -/
def silentService : Script :=
  { replies := [("create_integration", [.answer (.error lostCall)])] }

/-- The service later on: it reports the integration. -/
def reportingService : Script :=
  { replies := [("describe_integrations",
      [.answer (.ok (.map [("Integrations", .list [ordersIntegration])]))])] }

/-- The look-up that finds the integration. -/
def ordersLookup (id : String) : Exchange :=
  Integration.lookup (.text id) (.ok (.map [("Integrations", .list [ordersIntegration])]))

/-- The request that creates the integration. -/
def ordersCall : Call :=
  { operation := "create_integration"
    arguments := [("SourceArn", .text "arn:source"), ("TargetArn", .text "arn:target"),
      ("IntegrationName", .text "orders")] }

/-- The first attempt is cut off when the request to create the integration gets no answer. -/
def lostAttempt : History :=
  [Integration.lookup (.text "orders") (.ok (.map [])), .called ordersCall (.error lostCall)]

/-- The second attempt finds the integration. -/
def findingAttempt : History :=
  [ordersLookup "orders", .clock (.int 0), ordersLookup "arn:orders", ordersLookup "arn:orders"]

theorem attempts_orders :
    (Integration.provider {}).Attempts orders [orders] (lostAttempt ++ findingAttempt) := by
  have hlost : (Integration.provider {}).Invokes orders (lostAttempt ++ []) _ :=
    ⟨⟨orders.desired, .initial .integration⟩, _, rfl,
      Program.runs_history Script.environment _ silentService⟩
  have hfinding : (Integration.provider {}).Invokes orders (findingAttempt ++ []) _ :=
    ⟨⟨orders.desired, .initial .integration⟩, _, rfl,
      Program.runs_history Script.environment _ reportingService⟩
  have hcut : (Integration.provider {}).Attempts orders [orders] ([] ++ lostAttempt) :=
    .cut .none List.mem_cons_self hlost
  exact .cut hcut List.mem_cons_self hfinding

/-- The request that got no answer has taken effect. -/
theorem serves_orders :
    (Integration.catalog {}).Serves [] (lostAttempt ++ findingAttempt) [.text "orders"] := by
  have hlookup : ∀ id, (Integration.catalog {}).Answers [.text "orders"] (ordersLookup id)
      [.text "orders"] := by
    refine fun id => .other rfl fun id' answer hx hnothing => ?_
    cases hx
    rcases hnothing with ⟨f, hf, -⟩ | ⟨response, items, hok, hitems, hempty⟩
    · cases hf
    · cases hok
      cases hitems
      cases hempty
  have hlost : ¬ (Integration.catalog {}).Denies lostCall := by
    have hverdict : (Integration.catalog {}).rules.classify lostCall =
      .ok (.failWith .networkFailure) := rfl
    rw [Catalog.Denies, hverdict]
    simp
  exact .cons (.other rfl fun _ _ _ _ => List.not_mem_nil) (.cons (.lost rfl hlost)
    (.cons (hlookup _) (.cons (.other rfl fun _ _ hx => nomatch hx) (.cons (hlookup _)
      (.cons (hlookup _) .nil)))))

/-- Two attempts, of which the first one stores the integration and the second one finds it. -/
theorem creates_at_most_one_orders :
    (Integration.provider {}).Attempts orders [orders] (lostAttempt ++ findingAttempt) ∧
      (Integration.catalog {}).Serves [] (lostAttempt ++ findingAttempt) [.text "orders"] ∧
      ([Value.text "orders"] = [] ∨ ∃ name,
        (Integration.catalog {}).naming.nameOf orders orders.desired = .ok name ∧
          name ∉ ([] : List Value) ∧ [Value.text "orders"] = [name]) := by
  have hmem : (Integration.provider {}, Integration.catalog {}) ∈ catalogs {} := List.mem_cons_self
  have hprobing : ({} : Settings).probing = true := rfl
  have harn : ∀ v, orders.desired.get "IntegrationArn" = .ok v → v.truthy = false := by
    intro v hv
    cases hv
    rfl
  exact ⟨attempts_orders, serves_orders,
    Attempts.creates_at_most_one hmem hprobing rfl harn attempts_orders serves_orders⟩

end Provider

end Provisioning
