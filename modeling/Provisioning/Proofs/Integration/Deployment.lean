import Provisioning.Configuration
import Provisioning.Proofs.Deployment
import Provisioning.Proofs.Integration.Identity
import Provisioning.Proofs.Integration.RequestedTags

/-!
# Deployments of an integration

A deployment that creates an integration is about one integration from its first turn on, whichever
tokens its turns have: its events in progress and its requests to create an integration have one
name, and the ARN in the context stays as it is once it is known (`deploys_steady`). The name does
not depend on the delay of a retry, but the ARN does: a retry without a positive delay goes on as if
the integration had been created, which may find one of the same name, and the next turn creates
another one.
-/

set_option autoImplicit false

namespace Provisioning.Integration

open Handler Executor
open History (Requests)

variable {s : Settings} {r : Request} {e : Event} {sess sess' : Session} {name : Value}
  {clients : ClientFactory} {payload : Value} {turns : List Turn} {t : Turn}

theorem provider_mem (s : Settings) : provider s ∈ providers s := List.mem_cons_self

/-- A turn runs an action, and its event in progress is for an action that asks for another turn. -/
theorem act_of_handles (ht : t.Handles (provider s) r sess sess') :
    Codeless r.client ∧ ∃ res, ((provider s).act r).Yields sess t.history res sess' ∧
      ∀ e, t.InProgress e → ¬ Over res ∧ Awaits e.model sess' res := by
  obtain ⟨_, client, -, hclient, rfl⟩ := ht.requests
  obtain ⟨res, hact, hawaits⟩ := handle_awaits ht.runs
  exact ⟨hclient, res, hact, fun e he => hawaits e he.1 he.2⟩

theorem marked_next {next : Session} (ht : t.Handles (provider s) r sess sess')
    (hr : Resumes sess sess' e next) (hm : sess'.context.Marked "create_complete") :
    next.context.Marked "create_complete" := by
  have hdeclared : ContextKind.integration.fields.has "create_complete" = true := by decide
  rw [Context.marked_iff, ht.get_next (provider_mem s) hr hdeclared, ← Context.marked_iff]
  exact hm

theorem unidentified_next {next : Session} (hr : Resumes sess sess' e next)
    (hsess : Unidentified sess.model) (he : Unidentified e.model) : Unidentified next.model := by
  rw [hr.model]
  split
  · exact hsess
  · unfold Value.orElse
    split
    · exact he
    · intro v hv
      cases hv
      rfl

/-! ## Whole deployments -/

/-- The events in progress and the requests to create an integration are for a name. -/
def ForName (name : Value) (turns : List Turn) : Prop :=
  ∀ t ∈ turns, (∀ e, t.InProgress e → e.model.get "IntegrationName" = .ok name) ∧
    Requests (Creates name) t.history

/-- The ARN in the context of the events in progress never changes once it is set. -/
def KeepsArn (turns : List Turn) : Prop :=
  turns.Pairwise fun t later => ∀ e e', t.InProgress e → later.InProgress e' →
    isUnset (e.carried "integration_arn") = false →
    e'.carried "integration_arn" = e.carried "integration_arn"

/-- A record of a creation for a name, where look-ups by this name find nothing else. -/
structure Concerns (name : Value) (turns : List Turn) (r : Request) (sess : Session) : Prop where
  creates : r.action = .create
  stage : sess.context.Marked "create_complete" ∨ Unidentified sess.model
  named : ∀ v, naming.nameOf r sess.model = .ok v → v = name ∧ ∀ t ∈ turns, FindsOnly name t.history

theorem Concerns.act (hc : Concerns name turns r sess) (hmem : t ∈ turns)
    (ht : t.Handles (provider s) r sess sess') :
    Requests (Creates name) t.history ∧ ∀ e, t.InProgress e →
      naming.nameOf r sess.model = .ok name ∧ Named name e.model ∧
      (sess'.context.Marked "create_complete" ∨ Unidentified e.model) := by
  obtain ⟨hclient, res, hact, hends⟩ := act_of_handles ht
  obtain ⟨hrequests, hnamed⟩ := act_named hc.creates hclient
    (fun v hv => ⟨(hc.named v hv).1, (hc.named v hv).2 t hmem⟩) hc.stage hact
  refine ⟨hrequests, fun e he => ?_⟩
  obtain ⟨hover, hawaits⟩ := hends e he
  obtain ⟨hname, hnext⟩ := hnamed.resolve_left hover
  exact ⟨hname, hnext _ hawaits⟩

/-- All turns of a deployment that creates are for the integration that its first request names. -/
theorem deploys_named (hd : Deploys (provider s) clients payload turns)
    (hfirst : ∀ t r sess sess', turns.head? = some t → t.Handles (provider s) r sess sess' →
      Concerns name turns r sess) : ForName name turns := by
  refine hd.forall_turns (provider_mem s) (I := Concerns name turns)
    (fun t f hf hh => ⟨fun e he => ?_, ?_⟩) (fun t hmem r sess sess' ht hc => ?_)
    (fun t hmem r sess sess' e r' next ht he hc haction hresumes => ?_) hfirst
  · rw [he.1] at hf
    cases hf
  · rw [hh]
    exact History.requests_nil
  · obtain ⟨hrequests, hnamed⟩ := hc.act hmem ht
    exact ⟨fun e he => (hnamed e he).2.1.get, hrequests⟩
  · obtain ⟨hname, hn, hstage⟩ := (hc.act hmem ht).2 e he
    have hmodel := hresumes.model_eq hn.get
    refine ⟨haction.trans hc.creates, hstage.imp (marked_next ht hresumes) fun hun => hmodel ▸ hun,
      fun v hv => ?_⟩
    rw [hmodel, show naming.nameOf r' e.model = .ok name from
      Naming.nameOf_of_given hn.get hn.solid] at hv
    cases hv
    exact ⟨rfl, (hc.named name hname).2⟩

/-- A record of a creation that knows an ARN only if the creation is complete. -/
structure LearnsLate (r : Request) (sess : Session) : Prop where
  creates : r.action = .create
  stage : sess.context.Marked "create_complete" ∨
    Unidentified sess.model ∧ Unknown sess.context

/-- A record of a complete creation knows the ARN that was known when an earlier turn was left. -/
structure Inherits (left : Session) (r : Request) (sess : Session) : Prop where
  creates : r.action = .create
  known : ∀ arn, arn.isNull = false → left.context.get "integration_arn" = .ok arn →
    sess.context.Marked "create_complete" ∧ sess.context.get "integration_arn" = .ok arn

theorem LearnsLate.next {next : Session} {r' : Request} (hdefers : Defers s t.history)
    (hl : LearnsLate r sess)
    (ht : t.Handles (provider s) r sess sess') (he : t.InProgress e)
    (haction : r'.action = r.action) (hresumes : Resumes sess sess' e next) :
    LearnsLate r' next ∧ Inherits sess' r' next := by
  obtain ⟨hclient, res, hact, hends⟩ := act_of_handles ht
  obtain ⟨hover, hawaits⟩ := hends e he
  have hnext := ht.get_next (provider_mem s) hresumes
    (by decide : ContextKind.integration.fields.has "integration_arn" = true)
  have hstage : sess'.context.Marked "create_complete" ∨
      Unidentified next.model ∧ Unknown sess'.context := by
    rcases hl.stage with hmarked | ⟨hun, hunknown⟩
    · exact .inl ((within_act hact).2.marked (by decide) hmarked)
    · exact ((act_learnsArn hdefers hl.creates hclient hact hun hunknown).resolve_left hover _
        hawaits).imp_right (And.imp_left (unidentified_next hresumes hun))
  rcases hstage with hmarked | ⟨hun, v, hv, hnull⟩
  · have hmarked := marked_next ht hresumes hmarked
    exact ⟨⟨haction.trans hl.creates, .inl hmarked⟩, haction.trans hl.creates,
      fun arn _ harn => ⟨hmarked, hnext.trans harn⟩⟩
  · refine ⟨⟨haction.trans hl.creates, .inr ⟨hun, v, hnext.trans hv, hnull⟩⟩,
      haction.trans hl.creates, fun arn hsome harn => ?_⟩
    rw [hv] at harn
    cases harn
    rw [hnull] at hsome
    cases hsome

theorem Inherits.act {left : Session} (hi : Inherits left r sess)
    (ht : t.Handles (provider s) r sess sess') {arn : Value} (hsome : arn.isNull = false)
    (harn : left.context.get "integration_arn" = .ok arn) :
    sess'.context.Marked "create_complete" ∧ sess'.context.get "integration_arn" = .ok arn := by
  obtain ⟨hmarked, hknown⟩ := hi.known arn hsome harn
  obtain ⟨hclient, res, hact, -⟩ := act_of_handles ht
  exact ⟨(within_act hact).2.marked (by decide) hmarked,
    act_keepsArn hi.creates hact hmarked hknown hsome⟩

theorem deploys_keepArn (hdefers : ∀ t ∈ turns, Defers s t.history)
    (hd : Deploys (provider s) clients payload turns)
    (hfirst : ∀ t r sess sess', turns.head? = some t → t.Handles (provider s) r sess sess' →
      LearnsLate r sess) : KeepsArn turns := by
  have hp := provider_mem s
  have hdeclared : ContextKind.integration.fields.has "integration_arn" = true := by decide
  refine hd.pairwise hp (I := LearnsLate) (J := Inherits) (fun t later f hf e e' _ he' => ?_)
    (fun t r sess sess' later r₁ sess₁ sess₂ ht _ hlater hi e e' he he' hset => ?_)
    (fun t hmem r sess sess' e r' next ht he haction hresumes => ⟨fun hl =>
      hl.next (hdefers t hmem) ht he haction hresumes, fun left hi => ⟨haction.trans hi.creates,
      fun arn hsome harn => ?_⟩⟩) hfirst
  · rw [he'.1] at hf
    cases hf
  · have hkept := (hi.act hlater (Context.not_isNull_of_not_isUnset hset)
      (ht.get_eq_carried hp he hdeclared)).2
    exact Except.ok.inj ((hlater.get_eq_carried hp he' hdeclared).symm.trans hkept)
  · obtain ⟨hmarked, hknown⟩ := hi.act ht hsome harn
    exact ⟨marked_next ht hresumes hmarked, (ht.get_next hp hresumes hdeclared).trans hknown⟩

/-- A deployment begins to create an integration without an ARN: this is the request of its first
turn. -/
structure Begins (payload : Value) (turns : List Turn) (r : Request) : Prop where
  asked : ∃ t, turns.head? = some t ∧ Request.ofPayload payload t.token = .ok r
  creates : r.action = .create
  fresh : Context.ofValue .integration r.customContext = .ok (.initial .integration)
  unidentified : Unidentified r.desired

/-- The first turn handles the request with the record of a deployment that begins. -/
theorem Begins.handles (hb : Begins payload turns r)
    (hd : Deploys (provider s) clients payload turns) {r' : Request}
    (hhead : turns.head? = some t) (ht : t.Handles (provider s) r' sess sess') :
    (∃ client, r' = { r with client }) ∧ sess = ⟨r.desired, .initial .integration⟩ := by
  obtain ⟨_, hsame, hasked⟩ := hb.asked
  cases hhead.symm.trans hsame
  obtain ⟨asked, client, hasked', -, rfl⟩ := ht.requests
  rw [hd.payload_of_head? hhead] at hasked'
  cases hasked.symm.trans hasked'
  obtain ⟨hmodel, hcontext⟩ := Provider.openSession_eq_ok.1 ht.opens
  refine ⟨⟨client, rfl⟩, ?_⟩
  obtain ⟨model, context⟩ := sess
  obtain rfl : model = r.desired := hmodel
  exact congrArg _ (Except.ok.inj (hcontext.symm.trans hb.fresh))

/-- What a deployment carries from one event in progress to the next only grows. If it begins to
create an integration, and look-ups by its name find no other one, then it has one name all the
time. Its ARN never changes either, unless the creation is refused for now and a retry asks for no
positive delay. -/
theorem deploys_steady (s : Settings) (clients : ClientFactory) (payload : Value)
    (turns : List Turn) :
    (∀ p ∈ providers s, Deploys p clients payload turns → Remembers turns) ∧
    ∀ r, Deploys (provider s) clients payload turns → Begins payload turns r →
      (∀ name, naming.nameOf r r.desired = .ok name → ∀ t ∈ turns, FindsOnly name t.history) →
      (∃ name, ForName name turns) ∧
      ((∀ t ∈ turns, Defers s t.history) → KeepsArn turns) := by
  refine ⟨fun p hp hd => hd.remembers hp, fun r hd hb hfinds => ?_⟩
  have hnamed : ∀ name, (∀ v, naming.nameOf r r.desired = .ok v → v = name) →
      ForName name turns := by
    refine fun name hname => deploys_named hd fun t r' sess sess' hhead ht => ?_
    obtain ⟨⟨client, rfl⟩, rfl⟩ := hb.handles hd hhead ht
    refine ⟨hb.creates, .inr hb.unidentified, fun v hv => ?_⟩
    obtain rfl := hname v hv
    exact ⟨rfl, hfinds v hv⟩
  refine ⟨?_, fun hdefers => deploys_keepArn hdefers hd fun t r' sess sess' hhead ht => ?_⟩
  · cases hname : naming.nameOf r r.desired with
    | ok name => exact ⟨name, hnamed name fun v hv => by rw [hname] at hv; cases hv; rfl⟩
    | error f => exact ⟨.null, hnamed .null fun v hv => by rw [hname] at hv; cases hv⟩
  · obtain ⟨⟨client, rfl⟩, rfl⟩ := hb.handles hd hhead ht
    exact ⟨hb.creates, .inr ⟨hb.unidentified, .null, rfl, rfl⟩⟩

/-- A payload that asks for an integration, without a token. -/
def integrationPayload (properties : Entries String Value) : Value :=
  .map [("action", .text "CREATE"), ("resourceType", .text typeName),
    ("requestData", .map [("logicalResourceId", .text "Orders"),
      ("resourceProperties", .map properties)])]

/-- The record of an integration that is being created. -/
def creatingRecord (name arn : String) : Value :=
  .map [("IntegrationName", .text name), ("IntegrationArn", .text arn),
    ("Status", .text "creating")]

/-- The response to a look-up that finds an integration. -/
def creatingResponse (name arn : String) : Value :=
  .map [("Integrations", .list [creatingRecord name arn])]

theorem reportsFirst_creatingResponse (name arn : String) :
    ReportsFirst (creatingResponse name arn) (creatingRecord name arn) := ⟨_, rfl, rfl, rfl⟩

theorem hasName_creatingRecord (name arn : String) :
    HasName (creatingRecord name arn) (.text name) :=
  ⟨⟨_, rfl, by unfold Entries.Distinct; simp⟩, rfl⟩

/-- A factory that has not made a client yet. -/
def freshClients : ClientFactory := { config := {} }

/-- A payload for an integration without a name. -/
def unnamedPayload : Value :=
  integrationPayload [("SourceArn", .text "arn:source"), ("TargetArn", .text "arn:target")]

/-- The name of the integration in the first turn, where the token is `first`. -/
def firstName : String := "rds-orders-e0996a37"

/-- A service that refuses to create the integration and does so nevertheless. -/
def lateService : Program.Environment Bool where
  call c created :=
    if c.operation = "create_integration" then (.error passingConflict, true)
    else (.ok (if created then creatingResponse firstName "arn:orders" else .map []), created)
  pages _ created := ([], created)
  clock created := (.int 0, created)
  sleep _ created := (.ok (), created)

/-- Three turns with three tokens. -/
def unnamedTurns : List Turn :=
  deployment lateService (provider {}) ["first", "second", "third"] freshClients unnamedPayload
    false

theorem findsOnly_unnamedTurns {t : Turn} (ht : t ∈ unnamedTurns) :
    FindsOnly (.text firstName) t.history := by
  intro response record hmem hfirst
  obtain ⟨created, hanswer⟩ := answered_of_mem_deployment ht hmem
  obtain rfl := Except.ok.inj hanswer
  cases created with
  | false =>
    obtain ⟨_, hget, htruthy, -⟩ := hfirst
    cases hget
    cases htruthy
  | true =>
    obtain rfl := hfirst.unique (reportsFirst_creatingResponse _ _)
    exact hasName_creatingRecord _ _

set_option maxRecDepth 100000 in
/-- The turns are for the integration that the first one has named, although they have different
tokens. -/
theorem deploys_steady_unnamedTurns :
    unnamedTurns.length = 3 ∧ Deploys (provider {}) freshClients unnamedPayload unnamedTurns ∧
    Remembers unnamedTurns ∧ (∃ name, ForName name unnamedTurns) ∧ KeepsArn unnamedTurns := by
  have hd : Deploys (provider {}) freshClients unnamedPayload unnamedTurns :=
    deploys_deployment lateService _ _ _ _ _
  have hlength : unnamedTurns.length = 3 := by decide +kernel
  obtain ⟨r, hasked, haction, hfresh, harn, hname⟩ : ∃ r,
      Request.ofPayload unnamedPayload "first" = .ok r ∧ r.action = .create ∧
      Context.ofValue .integration r.customContext = .ok (.initial .integration) ∧
      r.desired.get "IntegrationArn" = .ok .null ∧
      naming.nameOf r r.desired = .ok (.text firstName) := by
    with_unfolding_all
      exact ⟨_, rfl, rfl, rfl, rfl, rfl⟩
  obtain ⟨hremembers, hsteady⟩ := deploys_steady {} freshClients unnamedPayload unnamedTurns
  obtain ⟨hnames, harns⟩ := hsteady r hd
    ⟨⟨_, rfl, hasked⟩, haction, hfresh, fun v hv => by rw [harn] at hv; cases hv; rfl⟩
    (fun name h t ht => by rw [hname] at h; cases h; exact findsOnly_unnamedTurns ht)
  exact ⟨hlength, hd, hremembers _ (provider_mem {}) hd, hnames, harns fun _ _ _ => rfl⟩

/-- Each look-up by a name finds an integration that has this name and an ARN. -/
def AlwaysFinds (name : Value) (h : History) : Prop :=
  ∀ answer, lookup name answer ∈ h → ∃ response record arn, answer = .ok response ∧
    ReportsFirst response record ∧ HasName record name ∧
    record.get "IntegrationArn" = .ok (.text arn) ∧ arn ≠ ""

/-- Variables that turn probing off and let retries be immediate. -/
def eagerVariables : Variables := [("CALLBACK_DELAY_SECONDS", "0"), ("PROBING_ENABLED", "false")]

/-- Settings for these variables. -/
def eagerSettings : Settings := { probing := false, callbackDelay := .int 0 }

/-- A payload for an integration with a tag. -/
def taggedPayload : Value :=
  integrationPayload [("IntegrationName", .text "orders"), ("SourceArn", .text "arn:source"),
    ("TargetArn", .text "arn:target"), ("Tags", tagList [(.text "team", .text "data")])]

/-- A service that holds an integration and refuses to create it, and that replaces it by another
one when it is asked again. The state is whether it has replaced it, and whether it has refused. -/
def replacingService : Program.Environment (Bool × Bool) where
  call c state :=
    let (replaced, refused) := state
    if c.operation = "create_integration" then
      if refused then (.ok (.map [("IntegrationArn", .text "arn:second")]), (true, true))
      else (.error passingConflict, (replaced, true))
    else
      (.ok (creatingResponse "orders" (if replaced then "arn:second" else "arn:orders")), state)
  pages _ state := ([], state)
  clock state := (.int 0, state)
  sleep _ state := (.ok (), state)

/-- Two turns of a deployment with this service. -/
def replacingTurns : List Turn :=
  deployment replacingService (provider eagerSettings) ["first", "second"] freshClients
    taggedPayload (false, false)

theorem alwaysFinds_replacingTurns (ht : t ∈ replacingTurns) :
    AlwaysFinds (.text "orders") t.history := by
  intro answer hmem
  obtain ⟨⟨replaced, refused⟩, rfl⟩ := answered_of_mem_deployment ht hmem
  exact ⟨_, _, _, rfl, reportsFirst_creatingResponse _ _, hasName_creatingRecord _ _, rfl,
    by cases replaced <;> decide⟩

/-- Both turns end in an event in progress, with the ARNs of two integrations. -/
theorem arns_replacingTurns : ∃ t later e e', replacingTurns = [t, later] ∧ t.InProgress e ∧
    later.InProgress e' ∧ isUnset (e.carried "integration_arn") = false ∧
    e'.carried "integration_arn" ≠ e.carried "integration_arn" := by
  have hturns : replacingTurns.map (·.inProgress?.map fun e =>
      (isUnset (e.carried "integration_arn"), (e.carried "integration_arn").display)) =
      [some (false, "arn:orders"), some (false, "arn:second")] := by
    decide +kernel
  obtain ⟨t, rest, hsplit, ht, hrest⟩ := List.map_eq_cons_iff.1 hturns
  obtain ⟨later, last, rfl, hlater, hlast⟩ := List.map_eq_cons_iff.1 hrest
  obtain rfl := List.map_eq_nil_iff.1 hlast
  obtain ⟨e, he, hshown⟩ := Option.map_eq_some_iff.1 ht
  obtain ⟨e', he', hshown'⟩ := Option.map_eq_some_iff.1 hlater
  obtain ⟨hset, harn⟩ := Prod.mk.inj hshown
  obtain ⟨-, harn'⟩ := Prod.mk.inj hshown'
  refine ⟨t, later, e, e', hsplit, Turn.inProgress?_eq_some.1 he, Turn.inProgress?_eq_some.1 he',
    hset, fun hsame => ?_⟩
  rw [hsame, harn] at harn'
  exact absurd harn' (by decide)

/-- The variables admit settings under which the ARN of a deployment changes. -/
theorem not_forall_keepsArn :
    ¬ ∀ (vars : Variables) (s : Settings) (clients : ClientFactory) (payload : Value)
      (turns : List Turn) (r : Request) (name : Value),
      s.probing = (Configuration.ofVariables vars).probing →
      s.callbackDelay = .int (Configuration.ofVariables vars).callbackDelay →
      Deploys (provider s) clients payload turns → Begins payload turns r →
      naming.nameOf r r.desired = .ok name → (∀ t ∈ turns, AlwaysFinds name t.history) →
      KeepsArn turns := by
  intro hall
  have hprobing : false = (Configuration.ofVariables eagerVariables).probing := by decide +kernel
  have hdelay : 0 = (Configuration.ofVariables eagerVariables).callbackDelay := by decide +kernel
  have hkept := hall eagerVariables eagerSettings freshClients taggedPayload replacingTurns _ _
    hprobing (congrArg Value.int hdelay) (deploys_deployment replacingService _ _ _ _ _)
    ⟨⟨_, rfl, rfl⟩, rfl, rfl, fun v hv => by cases hv; rfl⟩ rfl
    fun t ht => alwaysFinds_replacingTurns ht
  obtain ⟨t, later, e, e', hturns, he, he', hset, hchanged⟩ := arns_replacingTurns
  rw [hturns] at hkept
  exact hchanged (List.rel_of_pairwise_cons hkept List.mem_cons_self e e' he he' hset)

end Provisioning.Integration
