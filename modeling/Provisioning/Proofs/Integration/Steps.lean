import Provisioning.Proofs.Chain
import Provisioning.Proofs.Integration.Footprint
import Provisioning.Proofs.Naming
import Provisioning.Proofs.Raising

/-!
# What the steps of the provider of integrations can do

A look-up is one call, and what it finds is a function of the answer (`found`). From this follows
what the polls and the reading of an integration can do, and the probe before it is created. A
create request names the integration and then runs the steps of a creation (`act_create_cases`), and
an update request completes the model and then runs the steps of an update (`update_cases`).
-/

set_option autoImplicit false

namespace Provisioning.Integration

open Handler

variable {s : Settings} {r : Request} {e : Event} {sess sess' : Session} {h : History}
  {res : Except Fault Event} {model : Value}

/-- A response reports an integration as the first one. -/
def ReportsFirst (response integration : Value) : Prop :=
  ∃ integrations, response.get "Integrations" = .ok integrations ∧
    integrations.truthy = true ∧ integrations.first = .ok integration

/-- An answer reports that there is no integration: it is a fault that says so, or no integration
is in the response. -/
def ReportsMissing (answer : Answer) : Prop :=
  (∃ f, answer = .error f ∧
    ((f.serviceCode == .text "IntegrationNotFoundFault") = true ∨
      f.isA "NotFoundError" = true)) ∨
  ∃ response integrations, answer = .ok response ∧
    response.get "Integrations" = .ok integrations ∧ integrations.truthy = false

/-- What a look-up finds in an answer. -/
def found (id : Value) : Answer → Except Fault Value :=
  firstListed "Integrations" "IntegrationNotFoundFault" (.handler (.notFound typeName id))

/-- The call that looks up an integration. -/
def lookup (id : Value) (answer : Answer) : Exchange :=
  .called ⟨"describe_integrations", [("IntegrationIdentifier", id)]⟩ answer

theorem found_eq_ok {id integration : Value} {answer : Answer} :
    found id answer = .ok integration ↔
      ∃ response, answer = .ok response ∧ ReportsFirst response integration := by
  cases answer with
  | error f => simp [found, firstListed]
  | ok response =>
    simp only [found, firstListed, bind_eq_ok, ReportsFirst, Except.ok.injEq, exists_eq_left']
    refine exists_congr fun integrations => and_congr_right fun _ => ?_
    cases integrations.truthy <;> simp

/-- A look-up says that there is no integration only if the answer reports so. -/
theorem reportsMissing_of_found {id : Value} {answer : Answer} {f : Fault}
    (hf : found id answer = .error f) (hmissing : f.isA "NotFoundError" = true) :
    ReportsMissing answer := listsNothing_of_firstListed hf hmissing

/-- A model that cannot be identified is no missing integration. -/
theorem not_isA_of_identifier {m : Value} {f : Fault} (hf : identifier m = .error f) :
    f.isA "NotFoundError" = false := by
  rcases bind_eq_error.1 hf with hf | ⟨arn, -, hf⟩
  · exact Value.not_isA_of_get hf
  · rcases bind_eq_error.1 hf with hf | ⟨name, -, hf⟩
    · exact Value.not_isA_of_get hf
    · cases hf

/-- A look-up is one call, unless the model cannot be identified. -/
theorem describe_cases {r : Except Fault Value} (hy : (describe model).Yields sess h r sess') :
    sess' = sess ∧
      ((∃ f, identifier model = .error f ∧ h = [] ∧ r = .error f) ∨
        ∃ id answer, identifier model = .ok id ∧ h = [lookup id answer] ∧
          r = found id answer) := by
  unfold describe at hy
  rcases yields_lift_bind.1 hy with ⟨f, hf, rfl, rfl, rfl⟩ | ⟨id, hid, hy⟩
  · exact ⟨rfl, .inl ⟨f, hf, rfl, rfl⟩⟩
  · have hrequest : identifyRequest model = .ok [("IntegrationIdentifier", id)] := by
      unfold identifyRequest
      rw [hid]
      rfl
    rw [hrequest] at hy
    rcases yields_lift_bind.1 hy with ⟨f, hf, -⟩ | ⟨arguments, harguments, hy⟩
    · cases hf
    · cases harguments
      obtain ⟨rfl, answer, rfl, rfl⟩ := lookUp_cases hy
      exact ⟨rfl, .inr ⟨id, answer, hid, rfl, rfl⟩⟩

/-- A look-up that finds an integration is one call with a response. -/
theorem describe_ok {integration : Value}
    (hy : (describe model).Yields sess h (.ok integration) sess') :
    sess' = sess ∧ ∃ id response, identifier model = .ok id ∧ h = [lookup id (.ok response)] ∧
      ReportsFirst response integration := by
  obtain ⟨rfl, ⟨f, -, -, hr⟩ | ⟨id, answer, hid, rfl, hr⟩⟩ := describe_cases hy
  · cases hr
  · obtain ⟨response, rfl, hfirst⟩ := found_eq_ok.1 hr.symm
    exact ⟨rfl, id, response, hid, rfl, hfirst⟩

/-- The first model in a response is that of the first integration, if there is one. -/
theorem firstModelOf_cases {response : Value} (hm : firstModelOf response = .ok model) :
    model = .null ∨ ∃ record, ReportsFirst response record ∧ modelOf record = .ok model := by
  obtain ⟨integrations, hlist, hm⟩ := bind_eq_ok.1 hm
  split at hm
  · rename_i htruthy
    obtain ⟨record, hfirst, hm⟩ := bind_eq_ok.1 hm
    exact .inr ⟨record, ⟨integrations, hlist, htruthy, hfirst⟩, hm⟩
  · exact .inl (pure_eq_ok.1 hm).symm

/-! ## Reading -/

/-- Reading reports the model of what a look-up finds, or turns its fault into an event. -/
theorem readStep_cases {r : Except Fault Event} (hy : (readStep s e).Yields sess h r sess') :
    sess' = sess ∧
      ((∃ f, (describe e.model).Yields sess h (.error f) sess ∧ r = recover s e f) ∨
        ∃ integration, (describe e.model).Yields sess h (.ok integration) sess ∧
          r = (modelOf integration).map .success) := by
  unfold readStep at hy
  obtain ⟨h₁, answer, s₁, h₂, hdescribe, hrest, rfl⟩ := yields_attempt_bind.1 hy
  obtain ⟨rfl, -⟩ := describe_cases hdescribe
  cases answer with
  | error f =>
    obtain ⟨rfl, rfl, rfl⟩ := yields_lift.1 hrest
    rw [List.append_nil]
    exact ⟨rfl, .inl ⟨f, hdescribe, rfl⟩⟩
  | ok integration =>
    rcases yields_lift_bind.1 hrest with ⟨f, hf, rfl, rfl, rfl⟩ | ⟨m, hm, hrest⟩
    · rw [List.append_nil]
      exact ⟨rfl, .inr ⟨integration, hdescribe, by rw [hf]; rfl⟩⟩
    · obtain ⟨rfl, rfl, rfl⟩ := yields_pure.1 hrest
      rw [List.append_nil]
      exact ⟨rfl, .inr ⟨integration, hdescribe, by rw [hm]; rfl⟩⟩

/-! ## Polling -/

/-- An integration is active exactly if a look-up reports it with this status. -/
theorem isActive_true (hy : (isActive model).Yields sess h (.ok true) sess') :
    sess' = sess ∧ ∃ id response integration, h = [lookup id (.ok response)] ∧
      ReportsFirst response integration ∧ integration.get "Status" = .ok (.text "active") := by
  unfold isActive at hy
  rcases yields_lift_bind.1 hy with ⟨f, -, -, hf, -⟩ | ⟨id, -, hy⟩
  · cases hf
  obtain ⟨h₁, integration, s₁, h₂, hdescribe, hrest, rfl⟩ := yields_bind_ok.1 hy
  obtain ⟨rfl, id', response, -, rfl, hfirst⟩ := describe_ok hdescribe
  rcases yields_lift_bind.1 hrest with ⟨f, -, -, hf, -⟩ | ⟨status, hstatus, hrest⟩
  · cases hf
  obtain ⟨rfl, hstable, rfl⟩ := yields_lift.1 hrest
  rw [List.append_nil]
  refine ⟨rfl, id', response, integration, rfl, hfirst, ?_⟩
  have hactive : status = .text "active" := by
    obtain ⟨state, hstate, hresult⟩ := bind_eq_ok.1 hstable.symm
    cases state with
    | stabilized =>
      obtain ⟨-, -, hclass⟩ := bind_eq_ok.1 hstate
      have hclass := pure_eq_ok.1 hclass
      split at hclass
      · rename_i hcontains
        simp only [poller, List.contains_cons, List.contains_nil, Bool.or_false] at hcontains
        exact Value.beq_text_iff.1 hcontains
      · split at hclass <;> cases hclass
    | creatingValid => cases hresult
    | creatingInvalid => cases hresult
  rw [hstatus, hactive]

theorem isActive_session {m : Value} {active : Except Fault Bool}
    (hy : (isActive m).Yields sess h active sess') : sess' = sess := by
  rcases yields_lift_bind.1 hy with ⟨f, -, -, -, rfl⟩ | ⟨id, -, hy⟩
  · rfl
  rcases yields_bind.1 hy with ⟨f, hdescribe, -⟩ | ⟨h₁, integration, s₁, h₂, hdescribe, hrest, -⟩
  · exact (describe_cases hdescribe).1
  obtain ⟨rfl, -⟩ := describe_cases hdescribe
  rcases yields_lift_bind.1 hrest with ⟨f, -, -, -, rfl⟩ | ⟨status, -, hrest⟩
  · rfl
  · exact (yields_lift.1 hrest).2.2

/-- Polling writes nothing but the time of the first poll. -/
theorem stabilizeStep_writes (he : e.context = .session)
    (hy : (stabilizeStep s e).Yields sess h res sess') : sess.Writes startField sess' := by
  cases stabilize_cases he hy with
  | faulted hwrites => exact hwrites
  | timedOut hwrites => exact hwrites
  | polled hwrites hpoll =>
    cases hpoll with
    | faulted hactive => exact isActive_session hactive ▸ hwrites
    | stable hactive => exact isActive_session hactive ▸ hwrites
    | pending hactive => exact isActive_session hactive ▸ hwrites

/-- An integration counts as deleted only if a look-up reports that there is none. -/
theorem isDeleted_true (hy : (isDeleted model).Yields sess h (.ok true) sess') :
    sess' = sess ∧ ∃ id answer, h = [lookup id answer] ∧ ReportsMissing answer := by
  unfold isDeleted at hy
  obtain ⟨h₁, answer, s₁, h₂, hdescribe, hrest, rfl⟩ := yields_attempt_bind.1 hy
  obtain ⟨rfl, hcases⟩ := describe_cases hdescribe
  cases answer with
  | ok integration =>
    rcases yields_lift_bind.1 hrest with ⟨f, -, -, hf, -⟩ | ⟨id, -, hrest⟩
    · cases hf
    · rcases yields_lift_bind.1 hrest with ⟨f, -, -, hf, -⟩ | ⟨status, -, hrest⟩
      · cases hf
      · cases (yields_pure.1 hrest).2.1
  | error f =>
    dsimp only at hrest
    split at hrest
    · rename_i hmissing
      obtain ⟨rfl, -, rfl⟩ := yields_pure.1 hrest
      rw [List.append_nil]
      refine ⟨rfl, ?_⟩
      rcases hcases with ⟨f', hid, rfl, hf⟩ | ⟨id, answer, -, rfl, hf⟩
      · cases hf
        rw [not_isA_of_identifier hid] at hmissing
        cases hmissing
      · exact ⟨id, answer, rfl, reportsMissing_of_found hf.symm hmissing⟩
    · cases (yields_throw.1 hrest).2.1

/-! ## Creating -/

/-- How integrations are named. -/
def naming : Naming := ⟨"IntegrationName", names⟩

/-- Naming the resource completes the model and changes nothing else. -/
theorem nameStep_cases (hmodel : e.model = sess.model)
    (hy : (nameStep r e).Yields sess h res sess') :
    h = [] ∧ ((∃ f, res = .error f ∧ sess' = sess) ∨
      ∃ m, naming.Fills r sess.model m ∧ res = .ok { e with model := m } ∧
        sess' = { sess with model := m }) := by
  unfold nameStep at hy
  rw [hmodel] at hy
  rcases yields_lift_bind.1 hy with ⟨f, -, rfl, rfl, rfl⟩ | ⟨given, hgiven, hy⟩
  · exact ⟨rfl, .inl ⟨f, rfl, rfl⟩⟩
  rcases yields_lift_bind.1 hy with ⟨f, -, rfl, rfl, rfl⟩ | ⟨lacks, hlacks, hy⟩
  · exact ⟨rfl, .inl ⟨f, rfl, rfl⟩⟩
  cases lacks with
  | true =>
    rcases yields_lift_bind.1 hy with ⟨f, -, rfl, rfl, rfl⟩ | ⟨name, hname, hy⟩
    · exact ⟨rfl, .inl ⟨f, rfl, rfl⟩⟩
    rcases yields_lift_bind.1 hy with ⟨f, -, rfl, rfl, rfl⟩ | ⟨m, hm, hy⟩
    · exact ⟨rfl, .inl ⟨f, rfl, rfl⟩⟩
    rw [yields_setModel_bind] at hy
    obtain ⟨rfl, rfl, rfl⟩ := yields_pure.1 hy
    exact ⟨rfl, .inr ⟨m, .generated hgiven hlacks hname hm, rfl, rfl⟩⟩
  | false =>
    obtain ⟨rfl, rfl, rfl⟩ := yields_pure.1 hy
    exact ⟨rfl, .inr ⟨sess'.model, .given hgiven hlacks, by rw [← hmodel], rfl⟩⟩

/-- A probe is a look-up, and what it finds is the model of the record that was found. -/
theorem probe_cases {m : Value} {found : Except Fault Value}
    (hy : (probe m).Yields sess h found sess') :
    sess' = sess ∧ ∀ v, found = .ok v → ∃ id response record entries, identifier m = .ok id ∧
      h = [lookup id (.ok response)] ∧ ReportsFirst response record ∧
      modelOf record = .ok (.map entries) ∧ v = .map entries := by
  rcases yields_bind.1 hy with ⟨f, hdescribe, rfl⟩ | ⟨h₁, record, s₁, h₂, hdescribe, hlift, rfl⟩
  · exact ⟨(describe_cases hdescribe).1, fun v hv => by cases hv⟩
  · obtain ⟨rfl, rfl, rfl⟩ := yields_lift.1 hlift
    obtain ⟨rfl, id, response, hid, rfl, hfirst⟩ := describe_ok hdescribe
    refine ⟨rfl, fun v hv => ?_⟩
    obtain ⟨entries, -, hm⟩ := bind_eq_ok.1 hv
    obtain ⟨createTime, -, hm⟩ := bind_eq_ok.1 hm
    cases pure_eq_ok.1 hm
    exact ⟨id, response, record, _, hid, rfl, hfirst, hv, rfl⟩

/-- In a history the service refuses to create an integration for now. -/
def Postponed (s : Settings) (h : History) : Prop :=
  ∃ arguments f, .called ⟨"create_integration", arguments⟩ (.error f) ∈ h ∧
    (rules s.callbackDelay).classify f = .ok (.retry s.callbackDelay)

theorem Postponed.of_mem {h' : History} (hp : Postponed s h) (hmem : ∀ x ∈ h, x ∈ h') :
    Postponed s h' := by
  obtain ⟨arguments, f, hcalled, hretry⟩ := hp
  exact ⟨arguments, f, hmem _ hcalled, hretry⟩

/-- What a request to create an integration can do: it ends in a fault, it fails, it is to be tried
again, or it is answered with an ARN that the model and the context keep. -/
inductive CreateCallRun (s : Settings) (e : Event) (sess : Session) :
    History → Except Fault Event → Session → Prop
  | faulted {h : History} {f : Fault} {sess' : Session} : CreateCallRun s e sess h (.error f) sess'
  | failed {h : History} {e' : Event} : e'.status = .failed → e'.context = .session →
      CreateCallRun s e sess h (.ok e') sess
  | retried {h : History} : Postponed s h → CreateCallRun s e sess h
      (.ok (.defer e.model .session s.callbackDelay (some .throttling))) sess
  | answered {h : History} {arguments : Entries String Value} {response arn m : Value}
      {c : Context} : response.get "IntegrationArn" = .ok arn →
      sess.context.set "integration_arn" arn = .ok c → e.model.set "IntegrationArn" arn = .ok m →
      CreateCallRun s e sess (h ++ [.called ⟨"create_integration", arguments⟩ (.ok response)])
        (.ok (.defer m .session s.callbackDelay)) { sess with context := c }

theorem CreateCallRun.after (hr : CreateCallRun s e sess h res sess') (h₁ : History) :
    CreateCallRun s e sess (h₁ ++ h) res sess' := by
  cases hr with
  | faulted => exact .faulted
  | failed hstatus hcontext => exact .failed hstatus hcontext
  | retried hp => exact .retried (hp.of_mem fun _ => List.mem_append_right h₁)
  | answered harn hset hm =>
    rw [← List.append_assoc]
    exact .answered harn hset hm

theorem createCall_cases {tags : TagSet} (he : e.context = .session)
    (hy : (createCall s tags e).Yields sess h res sess') :
    CreateCallRun s e sess h res sess' := by
  cases serviceCall_cases hy with
  | unmade => exact .faulted
  | refused =>
    cases hr : recover s e _ with
    | error f => exact .faulted
    | ok e' =>
      rcases recover_cases hr with ⟨code, rfl⟩ | ⟨rfl, -⟩
      · exact .failed rfl he
      · rw [he]
        exact .retried ⟨_, _, List.mem_cons_self, classify_of_recover hr nofun⟩
  | @answered arguments response h' _ _ _ hdone =>
    rw [created, he] at hdone
    rcases yields_lift_bind.1 hdone with ⟨f, -, -, rfl, -⟩ | ⟨arn, harn, hkeep⟩
    · exact .faulted
    rcases yields_bind.1 hkeep with ⟨f, -, rfl⟩ | ⟨h₁, ref, s₁, h₂, hset, hlast, rfl⟩
    · exact .faulted
    obtain ⟨rfl, ⟨f, -, href, -⟩ | ⟨c, hc, href, rfl⟩⟩ := yields_setField_session.1 hset
    · cases href
    cases href
    rcases yields_lift_bind.1 hlast with ⟨f, -, -, rfl, -⟩ | ⟨m, hm, hlast⟩
    · exact .faulted
    obtain ⟨rfl, rfl, rfl⟩ := yields_pure.1 hlast
    exact CreateCallRun.answered (h := []) harn hc hm

theorem createTagged_cases {tags : TagSources} (he : e.context = .session)
    (hy : (createTagged s tags e).Yields sess h res sess') :
    CreateCallRun s e sess h res sess' := by
  rcases yields_lift_bind.1 hy with ⟨f, -, rfl, rfl, rfl⟩ | ⟨all, -, hy⟩
  · exact .faulted
  rcases createWithTaggingFallback_cases hy with
    hy | ⟨h₁, e₁, s₁, h₂, hfirst, ⟨hdenied, -⟩, hy, rfl⟩
  · exact createCall_cases he hy
  · -- a request that is denied has changed nothing
    generalize hr : (Except.ok e₁ : Except Fault Event) = result at hfirst
    cases createCall_cases he hfirst with
    | faulted => cases hr
    | failed => exact (createCall_cases he hy).after h₁
    | retried => cases hr; cases hdenied
    | answered => cases hr; cases hdenied

/-- What creating unless a look-up finds an integration can do: the look-up or the request ends in a
fault, the request decides, or what was found is merged over the model. -/
inductive SafeCreateRun (s : Settings) (e : Event) (sess : Session) :
    History → Except Fault Event → Session → Prop
  | faulted {h : History} {f : Fault} {sess' : Session} : f.serviceCode = .null ∨ sess' = sess →
      SafeCreateRun s e sess h (.error f) sess'
  | requested {h : History} {e' : Event} {sess' : Session} :
      CreateCallRun s e sess h (.ok e') sess' → SafeCreateRun s e sess h (.ok e') sess'
  | adopted {id response record : Value} {found entries : Entries String Value} :
      identifier e.model = .ok id → ReportsFirst response record →
      modelOf record = .ok (.map found) →
      SafeCreateRun s e sess [lookup id (.ok response)]
        (.ok (.progress (.map (entries.merge found)) e.context)) sess

theorem safeCreate_cases {tags : TagSources} (he : e.context = .session)
    (hy : (safeCreate probe (createTagged s tags) s.probing e).Yields sess h res sess') :
    SafeCreateRun s e sess h res sess' := by
  have hrequest : ∀ {h₁ h₂ : History} {s₁ : Session}, s₁ = sess → h = h₁ ++ h₂ →
      (createTagged s tags e).Yields s₁ h₂ res sess' → SafeCreateRun s e sess h res sess' := by
    rintro h₁ h₂ s₁ rfl rfl hcreate
    cases res with
    | error f =>
      exact .faulted (.inl (Fault.serviceCode_eq_null (codeless_createTagged tags e hcreate)))
    | ok e' => exact .requested ((createTagged_cases he hcreate).after h₁)
  rcases yields_bind.1 hy with ⟨f, hlook, rfl⟩ | ⟨h₁, v, s₁, h₂, hlook, hrest, rfl⟩
  · generalize hr : (Except.error f : Except Fault Value) = result at hlook
    cases lookFor_cases hlook with
    | faulted _ hprobe => exact .faulted (.inr (probe_cases hprobe).1)
    | _ => cases hr
  · generalize hr : (Except.ok v : Except Fault Value) = result at hlook
    cases lookFor_cases hlook with
    | faulted => cases hr
    | found _ hprobe =>
      cases hr
      obtain ⟨rfl, hfound⟩ := probe_cases hprobe
      obtain ⟨id, response, record, found, hid, rfl, hfirst, hm, rfl⟩ := hfound v rfl
      rcases yields_lift_bind.1 hrest with ⟨f, hf, -, rfl, rfl⟩ | ⟨entries, -, hrest⟩
      · exact .faulted (.inl (Fault.serviceCode_eq_null (Value.codeless_spread _ _ hf)))
      rcases yields_lift_bind.1 hrest with ⟨f, hf, -⟩ | ⟨above, habove, hrest⟩
      · cases hf
      cases habove
      obtain ⟨rfl, rfl, rfl⟩ := yields_pure.1 hrest
      rw [List.append_nil]
      exact .adopted hid hfirst hm
    | missing _ hprobe =>
      cases hr
      exact hrequest (probe_cases hprobe).1 rfl hrest
    | unprobed =>
      cases hr
      exact hrequest rfl rfl hrest

/-- A fault of creating has no code of the service, or comes from the first look-up. -/
theorem createStep_error {tags : TagSources} {f : Fault}
    (hy : (createStep s tags e).Yields sess h (.error f) sess') :
    f.serviceCode = .null ∨ sess' = sess := by
  rcases yields_bind.1 hy with ⟨f', hsafe, hf⟩ | ⟨h₁, e₁, s₁, h₂, -, hremember, -⟩
  · cases hf
    rcases yields_bind.1 hsafe with ⟨f', hlook, hf⟩ | ⟨h₁, v, s₁, h₂, -, hrest, -⟩
    · cases hf
      generalize hr : (Except.error f : Except Fault Value) = result at hlook
      cases lookFor_cases hlook with
      | faulted _ hprobe => exact .inr (probe_cases hprobe).1
      | _ => cases hr
    · split at hrest
      · exact .inl (Fault.serviceCode_eq_null (codeless_createTagged tags e hrest))
      · rcases yields_lift_bind.1 hrest with ⟨f', hf, -, hr, -⟩ | ⟨entries, -, hrest⟩
        · cases hr
          exact .inl (Fault.serviceCode_eq_null (Value.codeless_spread _ _ hf))
        · rcases yields_lift_bind.1 hrest with ⟨f', hf, -, hr, -⟩ | ⟨found, -, hrest⟩
          · cases hr
            exact .inl (Fault.serviceCode_eq_null (Value.codeless_spread _ _ hf))
          · cases (yields_pure.1 hrest).2.1
  · exact .inl (Fault.serviceCode_eq_null (codeless_rememberArn _ hremember))

theorem executeOnce_createStep_error {tags : TagSources} {m : Value} {f : Fault}
    (hy : (executeOnce "create_complete" (createStep s tags) (.progress m .session)).Yields sess h
      (.error f) sess') : f.serviceCode = .null ∨ sess' = sess := by
  generalize hr : (Except.error f : Except Fault Event) = result at hy
  cases executeOnce_cases rfl (staysInSession_createStep tags) hy with
  | unreadable hread =>
    cases hr
    exact .inl (Fault.serviceCode_eq_null (Context.codeless_get _ _ _ hread))
  | skipped => cases hr
  | complete => cases hr
  | incomplete _ hstep =>
    subst hr
    exact createStep_error hstep

/-- The last steps of a creation: bringing the tags up to date, polling and reading. -/
def finalSteps (s : Settings) (tags : TagSources) : List Step :=
  [executeOnce "add_tags_complete" (tagStep s (.ok .empty) tags.withoutSystem), stabilizeStep s,
   readStep s]

/-- What holds of the three steps holds of each of the last steps. -/
theorem forall_mem_finalSteps {P : Step → Prop} {tags : TagSources}
    (htags : P (executeOnce "add_tags_complete" (tagStep s (.ok .empty) tags.withoutSystem)))
    (hstabilize : P (stabilizeStep s)) (hread : P (readStep s)) :
    ∀ step ∈ finalSteps s tags, P step :=
  List.forall_mem_cons.2 ⟨htags, List.forall_mem_cons.2 ⟨hstabilize,
    List.forall_mem_cons.2 ⟨hread, List.forall_mem_nil _⟩⟩⟩

/-- A create request fails before it changes anything, since there is no client or a part of the
request has no shape for it, or names the integration and runs the steps of a creation. -/
theorem act_create_cases (haction : r.action = .create)
    (hy : ((provider s).act r).Yields sess h res sess') :
    (∃ f, (r.client = .error f ∨ f.isRefusal = false) ∧ res = .error f ∧ h = [] ∧ sess' = sess) ∨
      ∃ tags named, r.desiredTags sess.model = .ok tags ∧ named.context = sess.context ∧
        naming.Fills r sess.model named.model ∧
        (chain (.progress named.model .session)
          (executeOnce "create_complete" (createStep s tags) :: finalSteps s tags)).Yields
          named h res sess' := by
  rcases yields_lift_bind.1 hy with ⟨f, hf, rfl, rfl, rfl⟩ | ⟨-, -, hy⟩
  · exact .inl ⟨f, .inl hf, rfl, rfl, rfl⟩
  rw [haction] at hy
  dsimp only at hy
  unfold create at hy
  rw [yields_model_bind] at hy
  rcases yields_lift_bind.1 hy with ⟨f, hf, rfl, rfl, rfl⟩ | ⟨tags, htags, hy⟩
  · exact .inl ⟨f, .inr (r.codeless_desiredTags _ f hf), rfl, rfl, rfl⟩
  rw [yields_model_bind] at hy
  rcases chain_of_proceed (by rfl) hy with ⟨f, hname, rfl⟩ | ⟨h₁, e₁, s₁, h₂, hname, hchain, rfl⟩
  · have hcodeless := codeless_nameStep _ hname
    obtain ⟨rfl, ⟨-, -, rfl⟩ | ⟨m, -, hr, -⟩⟩ := nameStep_cases (by rfl) hname
    · exact .inl ⟨f, .inr hcodeless, rfl, rfl, rfl⟩
    · cases hr
  · obtain ⟨rfl, ⟨f, hr, -⟩ | ⟨m, hm, hr, rfl⟩⟩ := nameStep_cases (by rfl) hname
    · cases hr
    · cases hr
      exact .inr ⟨tags, { sess with model := m }, htags, rfl, hm, hchain⟩

/-! ## Updating -/

/-- The flag of the step that brings the tags up to date. -/
def tagsFlag : String := "update_tags_complete"

/-- The steps of an update. -/
def updateSteps (s : Settings) (r : Request) (previousTags desiredTags : TagSources) : List Step :=
  [executeOnce "modify_complete" (modifyStep s (r.previous.orElse (.map []))), stabilizeStep s,
   executeOnce tagsFlag (tagStep s previousTags.all desiredTags.all), readStep s]

/-- What holds of the four steps holds of each step of an update. -/
theorem forall_mem_updateSteps {P : Step → Prop} {previousTags desiredTags : TagSources}
    (hmodify : P (executeOnce "modify_complete" (modifyStep s (r.previous.orElse (.map [])))))
    (hstabilize : P (stabilizeStep s))
    (htags : P (executeOnce tagsFlag (tagStep s previousTags.all desiredTags.all)))
    (hread : P (readStep s)) : ∀ step ∈ updateSteps s r previousTags desiredTags, P step :=
  List.forall_mem_cons.2 ⟨hmodify, List.forall_mem_cons.2 ⟨hstabilize,
    List.forall_mem_cons.2 ⟨htags, List.forall_mem_cons.2 ⟨hread, List.forall_mem_nil _⟩⟩⟩⟩

/-- Filling a property from the previous model changes no other one. -/
theorem sameBut_inherit {before m m' : Value} {key : String} (h : inherit before m key = .ok m') :
    SameBut key m m' := by
  obtain ⟨own, hown, h⟩ := bind_eq_ok.1 h
  split at h
  · obtain rfl := pure_eq_ok.1 h
    exact sameBut_self hown
  obtain ⟨value, -, h⟩ := bind_eq_ok.1 h
  split at h
  · exact sameBut_of_set h
  · obtain rfl := pure_eq_ok.1 h
    exact sameBut_self hown

/-- A property that is filled from the previous model is no tag. -/
theorem desiredTags_inherit {before m m' : Value} {key : String} (hkey : "Tags" ≠ key)
    (h : inherit before m key = .ok m') : r.desiredTags m' = r.desiredTags m :=
  (sameBut_inherit h).desiredTags hkey r

/-- An update fails before it asks for anything, or runs its steps on a model for which the request
wants the same tags. -/
theorem update_cases (hy : (update s r).Yields sess h res sess') :
    (∃ f, res = .error f ∧ h = [] ∧ sess'.context = sess.context ∧
      r.desiredTags sess'.model = r.desiredTags sess.model) ∨
    ∃ previousTags desiredTags m, r.desiredTags m = r.desiredTags sess.model ∧
      r.previousTags (r.previous.orElse (.map [])) = .ok previousTags ∧
      r.desiredTags m = .ok desiredTags ∧
      (chain (.progress m .session) (updateSteps s r previousTags desiredTags)).Yields
        { sess with model := m } h res sess' := by
  unfold update at hy
  dsimp only at hy
  rw [yields_model_bind] at hy
  rcases yields_lift_bind.1 hy with ⟨f, -, rfl, rfl, rfl⟩ | ⟨-, -, hy⟩
  · exact .inl ⟨f, rfl, rfl, rfl, rfl⟩
  rw [yields_model_bind] at hy
  rcases yields_lift_bind.1 hy with ⟨f, -, rfl, rfl, rfl⟩ | ⟨m, hm, hy⟩
  · exact .inl ⟨f, rfl, rfl, rfl, rfl⟩
  have hsame : r.desiredTags m = r.desiredTags sess.model := by
    obtain ⟨m₁, hm₁, hm⟩ := bind_eq_ok.1 hm
    obtain ⟨m₂, hm₂, hm⟩ := bind_eq_ok.1 hm
    rw [← pure_eq_ok.1 hm, desiredTags_inherit (by decide) hm₂, desiredTags_inherit (by decide) hm₁]
  rw [yields_setModel_bind] at hy
  rcases yields_lift_bind.1 hy with ⟨f, -, rfl, rfl, rfl⟩ | ⟨previousTags, hprevious, hy⟩
  · exact .inl ⟨f, rfl, rfl, rfl, hsame⟩
  rw [yields_model_bind] at hy
  rcases yields_lift_bind.1 hy with ⟨f, -, rfl, rfl, rfl⟩ | ⟨desiredTags, hdesired, hy⟩
  · exact .inl ⟨f, rfl, rfl, rfl, hsame⟩
  rw [yields_model_bind] at hy
  exact .inr ⟨previousTags, desiredTags, m, hsame, hprevious, hdesired, hy⟩

end Provisioning.Integration
