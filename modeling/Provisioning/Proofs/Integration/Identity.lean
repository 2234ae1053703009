import Provisioning.Proofs.Asking
import Provisioning.Proofs.Integration.Creation
import Provisioning.Proofs.Remote
import Provisioning.Proofs.Uniqueness

/-!
# The identity of an integration

An action that creates an integration is about one integration. What it hands on to the next
invocation has the name that the request has given or that was generated for it: it is the model
with this name, or one that a look-up by this name has found (`act_named`). The ARN gets into the
context when the creation completes, or later if it was not known then, and nothing replaces it
after that (`act_learnsArn`, `act_keepsArn`). For this a creation that is refused for now has to
stop the action, so the delay of a retry has to be positive (`Defers`).
-/

set_option autoImplicit false

namespace Provisioning.Integration

open Handler
open History (Requests)

variable {s : Settings} {r : Request} {e : Event} {sess sess' : Session} {h : History}
  {res : Except Fault Event} {name m : Value}

/-! ## Names -/

/-- A model has a name that is not blank. -/
structure Named (name m : Value) : Prop where
  get : m.get "IntegrationName" = .ok name
  solid : lacksName name = .ok false

/-- A model has no ARN. -/
def Unidentified (m : Value) : Prop := ∀ v, m.get "IntegrationArn" = .ok v → v.truthy = false

/-- A record is that of an integration with a name. -/
structure HasName (record name : Value) : Prop where
  document : ∃ entries : Entries String Value, record = .map entries ∧ entries.Distinct
  named : record.get "IntegrationName" = .ok name

/-- What look-ups by a name have found has this name. -/
def FindsOnly (name : Value) (h : History) : Prop :=
  ∀ response record, lookup name (.ok response) ∈ h → ReportsFirst response record →
    HasName record name

/-- A request to create an integration is for a name. -/
def Creates (name : Value) (c : Call) : Prop :=
  c.operation = "create_integration" → c.arguments.get? "IntegrationName" = some name

theorem Named.not_isNull (hn : Named name m) : name.isNull = false := by
  cases name with
  | null => exact absurd hn.solid (by simp [lacksName])
  | _ => rfl

theorem unidentified_of_fills {m' : Value} (hf : naming.Fills r m m') (hun : Unidentified m) :
    Unidentified m' := by
  intro v hv
  obtain ⟨u, hu, hu'⟩ := hf.sameBut "IntegrationArn" (by decide)
  rw [hv] at hu'
  cases hu'
  exact hun v hu

/-- What a look-up by a name has found has this name when it is merged over a model. -/
theorem HasName.merged {record : Value} {entries found : Entries String Value}
    (hr : HasName record name) (hn : Named name m) (hm : modelOf record = .ok (.map found)) :
    Named name (.map (entries.merge found)) := by
  obtain ⟨⟨fields, rfl, hdistinct⟩, hnamed⟩ := hr
  obtain ⟨_, hsame, hget⟩ := modelOf_get? (by decide) hnamed hn.not_isNull hm
  cases hsame
  exact ⟨get_merge (distinct_of_modelOf hdistinct hm) hget, hn.solid⟩

/-! ## Requests to create an integration -/

theorem creates_of_ne {c : Call} (hc : c.operation ≠ "create_integration") : Creates name c :=
  fun h => absurd h hc

theorem asks_createCall (hn : Named name e.model) (tags : TagSet) :
    (createCall s tags e).Asks (Creates name) := by
  refine .lift_bind fun arguments harguments => (Asks.call fun _ => ?_).attempt.bind
    fun answer => ?_
  · have hnamed : (arguments.get? "IntegrationName").getD .null = name :=
      named_createRequest (s := s) hn.get harguments
    cases hget : arguments.get? "IntegrationName" with
    | none =>
      rw [hget] at hnamed
      have hnull := hn.not_isNull
      rw [← hnamed] at hnull
      cases hnull
    | some v =>
      rw [hget] at hnamed
      exact congrArg some hnamed
  · cases answer with
    | error f => exact .idle (.lift _)
    | ok v => exact .idle (within_created v e)

/-- Every request that creates is for the name of the model. -/
theorem asks_createStep (hn : Named name e.model) (tags : TagSources) :
    (createStep s tags e).Asks (Creates name) := by
  have hlook : (lookFor probe s.probing e.model).Within ["describe_integrations"] :=
    within_lookFor (within_probe List.mem_cons_self) _
  refine Asks.bind (Asks.bind (hlook.asks fun c hc => ?_) fun existing => ?_)
    fun e' => .idle (within_rememberArn e')
  · exact creates_of_ne (by rw [List.mem_singleton.1 hc]; decide)
  · split
    · refine .lift_bind fun all _ => (asks_createCall hn _).bind fun result => ?_
      split
      · exact asks_createCall hn _
      · exact .idle (.pure _)
    · exact .idle ((Within.lift _).bind fun _ => (Within.lift _).bind fun _ => .pure _)

/-! ## The creating step -/

/-- How the creating step can end in an event in progress: the request is to be tried again, an
integration has been created, or a look-up has found one. -/
inductive CreateStepRun (s : Settings) (e : Event) (sess : Session) :
    History → Event → Session → Prop
  | retried {h : History} {sess' : Session} : Postponed s h →
      (Unidentified e.model → sess' = sess) →
      CreateStepRun s e sess h (.defer e.model .session s.callbackDelay (some .throttling)) sess'
  | created {h : History} {m : Value} {sess' : Session} : SameBut "IntegrationArn" e.model m →
      CreateStepRun s e sess h (.defer m .session s.callbackDelay) sess'
  | adopted {h : History} {id response record : Value} {found entries : Entries String Value}
      {sess' : Session} : identifier e.model = .ok id → lookup id (.ok response) ∈ h →
      ReportsFirst response record → modelOf record = .ok (.map found) →
      CreateStepRun s e sess h (.progress (.map (entries.merge found)) e.context) sess'

theorem createStep_cases {tags : TagSources} {e' : Event} (he : e.context = .session)
    (hy : (createStep s tags e).Yields sess h (.ok e') sess') (hs : e'.status = .inProgress) :
    CreateStepRun s e sess h e' sess' := by
  obtain ⟨h₁, e₁, s₁, h₂, hsafe, hremember, rfl⟩ := yields_bind_ok.1 hy
  generalize hr : (Except.ok e₁ : Except Fault Event) = result at hsafe
  cases safeCreate_cases he hsafe with
  | faulted => cases hr
  | requested hcall =>
    cases hr
    cases hcall with
    | failed hstatus hcontext =>
      obtain ⟨-, rfl, -⟩ := rememberArn_ok hcontext hremember
      rw [hstatus] at hs
      cases hs
    | retried hp =>
      have hlater : Postponed s (h₁ ++ h₂) := hp.of_mem fun _ => List.mem_append_left h₂
      obtain ⟨-, rfl, -, -, ⟨rfl, -⟩ | ⟨-, arn, harn, htruthy, -⟩⟩ := rememberArn_ok rfl hremember
      · exact .retried hlater fun _ => rfl
      · refine .retried hlater fun hun => ?_
        rw [hun arn harn] at htruthy
        cases htruthy
    | answered _ _ hm =>
      obtain ⟨-, rfl, -⟩ := rememberArn_ok rfl hremember
      exact .created (sameBut_of_set hm)
  | adopted hid hfirst hm =>
    cases hr
    obtain ⟨-, rfl, -⟩ := rememberArn_ok (e := .progress _ e.context) he hremember
    exact .adopted hid (List.mem_append_left _ List.mem_cons_self) hfirst hm

/-- An event in progress of the creating step is about a model of the same name: the requested one,
or one that a look-up by this name has found. -/
theorem createStep_named {tags : TagSources} {e' : Event} (he : e.context = .session)
    (hn : Named name e.model) (hun : Unidentified e.model) (hfinds : FindsOnly name h)
    (hy : (createStep s tags e).Yields sess h (.ok e') sess') (hs : e'.status = .inProgress) :
    Named name e'.model := by
  cases createStep_cases he hy hs with
  | retried => exact hn
  | created hsame => exact ⟨hsame.get (by decide) hn.get, hn.solid⟩
  | adopted hid hmem hfirst hm =>
    obtain rfl := identifier_of_name hn.get hun hid
    exact (hfinds _ _ hmem hfirst).merged hn hm

theorem executeOnce_createStep_named {tags : TagSources} {e' : Event} (hn : Named name m)
    (hun : Unidentified m) (hfinds : FindsOnly name h)
    (hy : (executeOnce "create_complete" (createStep s tags) (.progress m .session)).Yields sess h
      (.ok e') sess') (hs : e'.status = .inProgress) : Named name e'.model := by
  generalize hr : (Except.ok e' : Except Fault Event) = result at hy
  cases executeOnce_cases rfl (staysInSession_createStep tags) hy with
  | unreadable => cases hr
  | skipped =>
    cases hr
    exact hn
  | incomplete _ hrun =>
    subst hr
    exact createStep_named (e := .progress m .session) rfl hn hun hfinds hrun hs
  | complete _ hrun =>
    cases hr
    exact createStep_named (e := .progress m .session) rfl hn hun hfinds hrun hs

/-- A context does not know an ARN. -/
def Unknown (c : Context) : Prop := ∃ v, c.get "integration_arn" = .ok v ∧ v.isNull = true

/-- Where the service refuses to create an integration for now, a retry suspends the chain. -/
def Defers (s : Settings) (h : History) : Prop :=
  Postponed s h → s.callbackDelay.isPositive = .ok true

/-- An event in progress of the creating step completes the creation, or it suspends the chain and
nothing has been written. -/
theorem createStep_suspends {tags : TagSources} {e' : Event} (hdefers : Defers s h)
    (he : e.context = .session) (hun : Unidentified e.model)
    (hy : (createStep s tags e).Yields sess h (.ok e') sess') (hs : e'.status = .inProgress)
    (hincomplete : e'.completes = false) :
    e'.outcome = .ok .suspend ∧ sess' = sess := by
  cases createStep_cases he hy hs with
  | retried hp hkept => exact ⟨Event.outcome_defer (hdefers hp), hkept hun⟩
  | created => cases hincomplete
  | adopted => cases hincomplete

theorem executeOnce_createStep_suspends {tags : TagSources} {e' : Event} (hdefers : Defers s h)
    (hun : Unidentified m)
    (hy : (executeOnce "create_complete" (createStep s tags) (.progress m .session)).Yields sess h
      (.ok e') sess') (hs : e'.status = .inProgress) :
    sess'.context.Marked "create_complete" ∨ e'.outcome = .ok .suspend ∧ sess' = sess := by
  generalize hr : (Except.ok e' : Except Fault Event) = result at hy
  cases executeOnce_cases rfl (staysInSession_createStep tags) hy with
  | unreadable => cases hr
  | skipped hm => exact .inl hm
  | incomplete _ hrun hincomplete =>
    subst hr
    exact .inr (createStep_suspends (e := .progress m .session) hdefers rfl hun hrun hs
      (hincomplete e' rfl))
  | complete => exact .inl (Context.marked_put _ _)

/-! ## One turn -/

/-- The last steps keep an ARN that the context knows. -/
theorem finalSteps_keepArn {tags : TagSources} {known : Value} (hnull : known.isNull = false)
    (hknown : sess.context.get "integration_arn" = .ok known) (he : e.InSession)
    (hy : (chain e (finalSteps s tags)).Yields sess h res sess') :
    sess'.context.get "integration_arn" = .ok known := by
  refine chain_keeps (I := fun s => s.context.get "integration_arn" = .ok known)
    (forall_mem_finalSteps ⟨staysInSession_executeOnce _ (staysInSession_tagStep _ _), ?_⟩
      ⟨staysInSession_stabilizeStep, ?_⟩ ⟨staysInSession_readStep, ?_⟩) he hy hknown
  · intro e sess h res sess' hc hy hknown
    have hwrites := executeOnce_writes hc (staysInSession_tagStep _ _)
      (fun _ _ _ hstep => (tagStep_cases hc hknown hnull hstep).1) hy
    rwa [hwrites.others _ (by decide)]
  · intro e sess h res sess' hc hy hknown
    rwa [(stabilizeStep_writes hc hy).others _ (by decide)]
  · intro e sess h res sess' _ hy hknown
    rwa [(readStep_cases hy).1]

theorem asks_finalSteps {tags : TagSources} (e : Event) :
    (chain e (finalSteps s tags)).Asks (Creates name) :=
  (within_finalSteps tags e).asks fun c hc => creates_of_ne fun h => by
    rw [h] at hc
    exact absurd hc (by decide)

/-- The last steps report a model that the step before them has reported, unless they end the
operation. -/
theorem finalSteps_awaits {tags : TagSources}
    (hy : (chain e (finalSteps s tags)).Yields sess h res sess') :
    Over res ∨ ∀ m, Awaits m sess' res → e.status = .inProgress ∧ e.model = m := by
  cases res with
  | error f => exact .inl (Fault.serviceCode_eq_null (codeless_finalSteps tags e hy))
  | ok e' =>
    refine .inr fun m ⟨hs, _, hm⟩ => ?_
    have hkept : e'.model = e.model := (keeps_finalSteps tags (.inr rfl) hy).of_inProgress hs
    refine ⟨Decidable.byContradiction fun hstatus => ?_, hkept.symm.trans hm⟩
    obtain ⟨-, hr, -⟩ := chain_of_outcome (o := .terminal) (by simp [Event.outcome, hstatus])
      (by decide) hy
    cases hr
    exact hstatus hs

/-- An action that creates asks for the integration that the request names, and what it hands on has
this name, and has no ARN before the creation is complete. -/
theorem act_named (ha : r.action = .create) (hclient : Codeless r.client)
    (hname : ∀ v, naming.nameOf r sess.model = .ok v → v = name ∧ FindsOnly name h)
    (hstart : sess.context.Marked "create_complete" ∨ Unidentified sess.model)
    (hy : ((provider s).act r).Yields sess h res sess') :
    Requests (Creates name) h ∧ (Over res ∨ naming.nameOf r sess.model = .ok name ∧
      ∀ m, Awaits m sess' res →
        Named name m ∧ (sess'.context.Marked "create_complete" ∨ Unidentified m)) := by
  rcases act_create_cases ha hy with ⟨f, hf, rfl, rfl, rfl⟩ | ⟨tags, named, -, hcontext, hm, hchain⟩
  · exact ⟨History.requests_nil, .inl (Fault.serviceCode_eq_null (hf.elim (hclient f) id))⟩
  obtain ⟨v, hv, hget, hsolid⟩ := hm.exists_name
  obtain ⟨rfl, hfinds⟩ := hname v hv
  have hn : Named v named.model := ⟨hget, hsolid⟩
  have hrest : ∀ {e₁ s₁ h₂}, (chain e₁ (finalSteps s tags)).Yields s₁ h₂ res sess' →
      (e₁.status = .inProgress → Named v e₁.model ∧
        (s₁.context.Marked "create_complete" ∨ Unidentified e₁.model)) →
      Over res ∨ naming.nameOf r sess.model = .ok v ∧ ∀ m, Awaits m sess' res →
        Named v m ∧ (sess'.context.Marked "create_complete" ∨ Unidentified m) := by
    refine fun hy hready => (finalSteps_awaits hy).imp_right fun hends => ⟨hv, fun m hm => ?_⟩
    obtain ⟨hs, rfl⟩ := hends m hm
    obtain ⟨hnamed, hstage⟩ := hready hs
    exact ⟨hnamed, hstage.imp_left ((within_finalSteps tags _ hy).2.marked (by decide))⟩
  rcases hstart with hmarked | hun
  · rw [← hcontext] at hmarked
    have hfinal := chain_of_marked hmarked hchain
    exact ⟨asks_finalSteps _ hfinal, hrest hfinal fun _ => ⟨hn, .inl hmarked⟩⟩
  have hun := unidentified_of_fills hm hun
  have hasks := asks_executeOnce (C := Creates v) "create_complete"
    (asks_createStep (s := s) (e := .progress named.model .session) hn tags)
  rcases chain_of_proceed rfl hchain with ⟨f, hcreate, rfl⟩ | ⟨h₁, e₁, s₁, h₂, hcreate, hfinal, rfl⟩
  · refine ⟨hasks hcreate, (executeOnce_createStep_error hcreate).imp_right ?_⟩
    rintro rfl
    exact ⟨hv, fun m hm => by subst hm; exact ⟨hn, .inr hun⟩⟩
  · refine ⟨(hasks hcreate).append (asks_finalSteps _ hfinal), hrest hfinal fun hs => ⟨?_, ?_⟩⟩
    · have hfirst : FindsOnly v h₁ := fun response record hmem =>
        hfinds response record (List.mem_append_left _ hmem)
      exact executeOnce_createStep_named hn hun hfirst hcreate hs
    · refine (executeOnce_createStep_keeps hcreate).imp_right fun hkept => ?_
      rw [show e₁.model = named.model from hkept.of_inProgress hs]
      exact hun

/-- An ARN that is known when the creation is complete stays known. -/
theorem act_keepsArn (ha : r.action = .create)
    (hy : ((provider s).act r).Yields sess h res sess')
    (hmarked : sess.context.Marked "create_complete") {known : Value}
    (hknown : sess.context.get "integration_arn" = .ok known) (hnull : known.isNull = false) :
    sess'.context.get "integration_arn" = .ok known := by
  rcases act_create_cases ha hy with ⟨f, -, -, -, rfl⟩ | ⟨tags, named, -, hcontext, -, hchain⟩
  · exact hknown
  · rw [← hcontext] at hmarked hknown
    exact finalSteps_keepArn hnull hknown (.inl rfl) (chain_of_marked hmarked hchain)

/-- Before the creation is complete no ARN is known. -/
theorem act_learnsArn (hdefers : Defers s h) (ha : r.action = .create)
    (hclient : Codeless r.client) (hy : ((provider s).act r).Yields sess h res sess')
    (hun : Unidentified sess.model) (hunknown : Unknown sess.context) :
    Over res ∨ ∀ m, Awaits m sess' res →
      sess'.context.Marked "create_complete" ∨ Unidentified m ∧ Unknown sess'.context := by
  rcases act_create_cases ha hy with ⟨f, hf, rfl, -, -⟩ | ⟨tags, named, -, hcontext, hm, hchain⟩
  · exact .inl (Fault.serviceCode_eq_null (hf.elim (hclient f) id))
  rw [← hcontext] at hunknown
  have hun := unidentified_of_fills hm hun
  rcases chain_of_proceed rfl hchain with ⟨f, hcreate, rfl⟩ | ⟨h₁, e₁, s₁, h₂, hcreate, hfinal, rfl⟩
  · refine (executeOnce_createStep_error hcreate).imp_right ?_
    rintro rfl m rfl
    exact .inr ⟨hun, hunknown⟩
  · refine (finalSteps_awaits hfinal).imp_right fun hends m hm => ?_
    obtain ⟨hs, rfl⟩ := hends m hm
    have hkeeps : s₁.context.Marked "create_complete" → sess'.context.Marked "create_complete" :=
      (within_finalSteps tags _ hfinal).2.marked (by decide)
    have hfirst : Defers s h₁ := fun hp =>
      hdefers (hp.of_mem fun _ => List.mem_append_left h₂)
    rcases executeOnce_createStep_suspends hfirst hun hcreate hs with hmarked | ⟨hsuspend, rfl⟩
    · exact .inl (hkeeps hmarked)
    refine (executeOnce_createStep_keeps hcreate).imp hkeeps fun hkept => ⟨?_, ?_⟩
    · rw [show e₁.model = s₁.model from hkept.of_inProgress hs]
      exact hun
    · obtain ⟨-, -, rfl⟩ := chain_of_outcome hsuspend (by decide) hfinal
      exact hunknown

end Provisioning.Integration
