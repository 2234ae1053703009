import Provisioning.Proofs.Integration.Steps
import Provisioning.Proofs.Number
import Provisioning.Proofs.Run
import Provisioning.Script

/-!
# Success is never reported early

A chain that ends in success has passed all its steps but the last one: each of them ended in an
event in progress without an error code (`Passed`), because an event with an error code suspends or
ends a chain if delays are at least one second (`Settings.Patient`). Polling is one of these steps,
and it lets the next one run only if the resource is stable (`stabilize_proceeds`).

`success_not_early`: a create or an update request that succeeds has seen the integration active,
and reports the model of the integration that it looked up last; a delete request that succeeds has
ended with a look-up that reports no integration, after the delete request was answered.
-/

set_option autoImplicit false

namespace Provisioning

open Handler

/-! ## Passing steps -/

namespace Event

variable {e : Event}

/-- An event that does not end the operation in success, and that has no error code if it lets the
next step run. -/
structure Interim (e : Event) : Prop where
  session : e.context = .session
  unfinished : e.status ≠ .success
  clean : e.outcome = .ok .proceed → e.code = none

theorem Interim.of_clean (hc : e.context = .session) (hs : e.status ≠ .success)
    (hcode : e.code = none) : e.Interim := ⟨hc, hs, fun _ => hcode⟩

theorem Interim.failed (model : Value) (code : ErrorCode) (message : Value) :
    (failed model .session code message).Interim :=
  ⟨rfl, by simp [Event.failed], fun h => by cases (outcome_eq_proceed h).1⟩

end Event

/-- Steps that have been passed, one after another: each ended in an event in progress without an
error code, on which the next one ran. -/
inductive Passed : List Step → Event → Session → History → Event → Session → Prop
  | nil {e : Event} {s : Session} : Passed [] e s [] e s
  | cons {step : Step} {rest : List Step} {e e₁ e' : Event} {s s₁ s' : Session}
      {h h' : History} : (step e).Yields s h (.ok e₁) s₁ → e₁.status = .inProgress →
      e₁.code = none → Passed rest e₁ s₁ h' e' s' → Passed (step :: rest) e s (h ++ h') e' s'

/-- From an event in progress without an error code, a step returns interim events. -/
def Step.Interim (step : Step) : Prop :=
  ∀ e : Event, e.context = .session → e.status = .inProgress → e.code = none →
    (step e).Returns Event.Interim

section
variable {e e' : Event} {s s' : Session} {h : History}

/-- A chain that ends in success runs the next step. -/
theorem chain_cons_success {step : Step} {rest : List Step} (he : e.status ≠ .success)
    (hy : (chain e (step :: rest)).Yields s h (.ok e') s') (hs : e'.status = .success) :
    e.outcome = .ok .proceed ∧ ∃ h₁ e₁ s₁ h₂, (step e).Yields s h₁ (.ok e₁) s₁ ∧
      (chain e₁ rest).Yields s₁ h₂ (.ok e') s' ∧ h = h₁ ++ h₂ := by
  rcases chain_cons_cases hy with ⟨-, -, -, ⟨f, -, hr⟩ | hr⟩ | ⟨ho, ⟨f, -, hr⟩ | hrest⟩
  · cases hr
  · cases hr
    exact absurd hs he
  · cases hr
  · exact ⟨ho, hrest⟩

/-- A chain that ends in success passes all interim steps before the last ones. -/
theorem chain_passes {steps rest : List Step} (hrest : rest ≠ [])
    (hsteps : ∀ step ∈ steps, Step.Interim step) (he : e.Interim)
    (hy : (chain e (steps ++ rest)).Yields s h (.ok e') s') (hs : e'.status = .success) :
    ∃ h₁ e₁ s₁ h₂, Passed steps e s h₁ e₁ s₁ ∧ e₁.Interim ∧
      (chain e₁ rest).Yields s₁ h₂ (.ok e') s' ∧ h = h₁ ++ h₂ := by
  induction steps generalizing e s h with
  | nil => exact ⟨[], e, s, h, .nil, he, hy, rfl⟩
  | cons step steps ih =>
    obtain ⟨ho, h₁, e₁, s₁, h₂, hstep, hchain, rfl⟩ := chain_cons_success he.unfinished hy hs
    have hstatus := (Event.outcome_eq_proceed ho).1
    have he₁ : e₁.Interim :=
      hsteps step List.mem_cons_self e he.session hstatus (he.clean ho) hstep
    obtain ⟨h₃, e₂, s₂, h₄, hpassed, he₂, hlast, rfl⟩ :=
      ih (fun step hm => hsteps step (List.mem_cons_of_mem _ hm)) he₁ hchain
    -- the next step ran on the event, so it is one in progress without an error code
    have ho₁ : e₁.outcome = .ok .proceed := by
      cases steps with
      | nil =>
        cases rest with
        | nil => exact absurd rfl hrest
        | cons step' rest => exact (chain_cons_success he₁.unfinished hchain hs).1
      | cons step' steps => exact (chain_cons_success he₁.unfinished hchain hs).1
    exact ⟨h₁ ++ h₃, e₂, s₂, h₄,
      .cons hstep (Event.outcome_eq_proceed ho₁).1 (he₁.clean ho₁) hpassed, he₂, hlast,
      by rw [List.append_assoc]⟩

/-- Polling lets the next step run only if the resource is stable. -/
theorem stabilize_proceeds {isStabilized : Value → Handler Bool} {backoff : Backoff}
    {recover : Recovery} {resourceType : String}
    (hdelay : (Number.int 1).le backoff.delay = true)
    (hrecover : ∀ f e', recover e f = .ok e' → e'.outcome ≠ .ok .proceed)
    (he : e.context = .session)
    (hy : (stabilize isStabilized backoff recover resourceType e).Yields s h (.ok e') s')
    (ho : e'.outcome = .ok .proceed) :
    ∃ now s₁ h', h = .clock now :: h' ∧ (isStabilized e.model).Yields s₁ h' (.ok true) s' ∧
      e' = .progress e.model .session := by
  generalize hr : (Except.ok e' : Except Fault Event) = r at hy
  cases stabilize_cases he hy with
  | faulted => cases hr
  | timedOut =>
    cases hr
    cases (Event.outcome_eq_proceed ho).1
  | polled _ hpoll =>
    cases hpoll with
    | faulted => exact absurd ho (hrecover _ _ hr.symm)
    | stable hstable =>
      cases hr
      rw [he]
      exact ⟨_, _, _, rfl, hstable, rfl⟩
    | pending =>
      cases hd : backoff.delay.whole with
      | error f => rw [hd] at hr; cases hr
      | ok d =>
        rw [hd] at hr
        cases hr
        have hpos : (Value.int d).isPositive = .ok true :=
          Value.isPositive_of_one_le rfl (Number.one_le_int (Number.one_le_whole hdelay hd))
        rw [Event.outcome_defer hpos] at ho
        cases ho

end

/-- A guarded interim step is interim. -/
theorem interim_executeOnce {flag : String} {step : Step} (hstays : step.StaysInSession)
    (hstep : step.Interim) : (executeOnce flag step).Interim := by
  intro e he hs hcode sess h e' sess' hy
  generalize hr : (Except.ok e' : Except Fault Event) = r at hy
  cases executeOnce_cases he hstays hy with
  | unreadable _ => cases hr
  | skipped _ =>
    cases hr
    exact .of_clean he (by simp [hs]) hcode
  | incomplete _ hrun _ =>
    cases hr
    exact hstep e he hs hcode hrun
  | complete _ hrun _ =>
    cases hr
    exact hstep e he hs hcode hrun

namespace Integration

/-- Delays are at least one second. -/
structure Patient (s : Settings) : Prop where
  callback : ∃ n, s.callbackDelay.number? = some n ∧ (Number.int 1).le n = true
  createUpdate : (Number.int 1).le s.createUpdate.delay = true
  delete : (Number.int 1).le s.delete.delay = true

variable {s : Settings} {r : Request} {e e' : Event} {f : Fault}

theorem Patient.isPositive (hs : Patient s) : s.callbackDelay.isPositive = .ok true := by
  obtain ⟨n, hn, hle⟩ := hs.callback
  exact Value.isPositive_of_one_le hn hle

variable (hdelay : s.callbackDelay.isPositive = .ok true)

include hdelay in
/-- After a fault the next step does not run. -/
theorem outcome_of_recover (h : recover s e f = .ok e') : e'.outcome ≠ .ok .proceed := by
  rcases recover_cases h with ⟨code, rfl⟩ | ⟨rfl, -⟩
  · intro ho
    cases (Event.outcome_eq_proceed ho).1
  · rw [Event.outcome_defer hdelay]
    simp

include hdelay in
theorem interim_of_recover (he : e.context = .session) (h : recover s e f = .ok e') :
    e'.Interim := by
  refine ⟨(context_of_recover h).trans he, ?_, fun ho => absurd ho (outcome_of_recover hdelay h)⟩
  rcases recover_cases h with ⟨code, rfl⟩ | ⟨rfl, -⟩ <;> simp [Event.failed, Event.defer]

/-! ## The steps -/

theorem interim_nameStep : (nameStep r).Interim := by
  intro e he hs hcode
  refine .bind fun name => .bind fun lacks => ?_
  split
  · exact .bind fun _ => .bind fun _ => .bind fun _ => .pure (.of_clean he (by simp [hs]) hcode)
  · exact .pure (.of_clean he (by simp [hs]) hcode)

include hdelay in
theorem interim_serviceCall {operation : String}
    {request : Value → Except Fault (Entries String Value)} {done : Value → Step}
    (hdone : ∀ v, (done v).Interim) :
    (serviceCall operation request (recover s) done).Interim := by
  intro e he hst hcode
  refine .bind fun arguments => .bind fun answer => ?_
  cases answer with
  | error f => exact .lift fun e' h => interim_of_recover hdelay he h
  | ok v => exact hdone v e he hst hcode

theorem interim_goOn (v : Value) : (goOn v).Interim := fun _ he _ _ =>
  .pure (.of_clean he (by simp [Event.progress]) rfl)

theorem interim_created (v : Value) : (created s v).Interim := by
  intro e he _ _
  refine .bind fun arn => ?_
  rw [he]
  exact .bind_of (.setField_session _ _) fun ref href => .bind fun m =>
    .pure (.of_clean href (by simp [Event.defer]) rfl)

include hdelay in
theorem interim_createTagged (tags : TagSources) : (createTagged s tags).Interim := by
  intro e he hst hcode
  have hcall : ∀ tags, (createCall s tags e).Returns Event.Interim := fun tags =>
    interim_serviceCall hdelay interim_created e he hst hcode
  refine .bind fun tags => .bind_of (hcall tags) fun result hresult => ?_
  split
  · exact hcall _
  · exact .pure hresult

theorem returns_interim_rememberArn (he : e.Interim) : (rememberArn e).Returns Event.Interim := by
  unfold rememberArn
  rw [he.session]
  refine .bind fun known => ?_
  split
  · refine .bind fun arn => ?_
    split
    · exact .bind_of (.setField_session _ _) fun ref href =>
        .pure ⟨href, he.unfinished, he.clean⟩
    · exact .pure he
  · exact .pure he

include hdelay in
theorem interim_createStep (tags : TagSources) : (createStep s tags).Interim := by
  intro e he hst hcode
  refine .bind_of (.bind fun existing => ?_) fun result => returns_interim_rememberArn
  split
  · exact interim_createTagged hdelay tags e he hst hcode
  · exact .bind fun _ => .bind fun _ => .pure (.of_clean he (by simp [Event.progress]) rfl)

include hdelay in
theorem interim_fetchArn : (fetchArn s).Interim := by
  refine interim_serviceCall hdelay fun response e he _ _ => ?_
  refine .bind fun integration => ?_
  rw [he]
  split
  · exact .bind fun _ => .pure (.failed _ _ _)
  · exact .bind fun arn => .bind_of (.setField_session _ _) fun ref href =>
      .pure (.of_clean href (by simp [Event.progress]) rfl)

include hdelay in
theorem interim_changeTags (toRemove toAdd : TagSet) (arnField : String) :
    (changeTags toRemove toAdd (some (rules s.callbackDelay)) arnField).Interim := by
  intro e he hst hcode
  refine .bind fun arn => .bind fun answer => ?_
  split
  · exact .lift fun e' h => interim_of_recover hdelay he h
  · exact .pure (.of_clean he (by simp [hst]) hcode)

theorem returns_interim_chain {step : Step} (hstep : step.Interim) (he : e.Interim) :
    (chain e [step]).Returns Event.Interim := by
  refine Returns.bind_of (P := (e.outcome = .ok ·)) (.lift fun _ h => h) fun o ho => ?_
  cases o with
  | proceed =>
    exact .bind_of (hstep e he.session (Event.outcome_eq_proceed ho).1 (he.clean ho))
      fun e' he' => .pure he'
  | suspend => exact .pure he
  | terminal => exact .pure he

include hdelay in
theorem interim_tagStep (previous desired : Except Fault TagSet) :
    (tagStep s previous desired).Interim := by
  intro e he hst hcode
  refine .bind fun previous => .bind fun desired => ?_
  have hchange := interim_changeTags hdelay (TagSet.diff previous desired).1
    (TagSet.diff previous desired).2 "integration_arn"
  unfold updateTags
  dsimp only
  split
  · exact .pure (.of_clean he (by simp [hst]) hcode)
  · refine .bind fun arn => ?_
    split
    · exact .bind_of (interim_fetchArn hdelay e he hst hcode) fun e' =>
        returns_interim_chain hchange
    · exact hchange e he hst hcode

include hdelay in
theorem interim_modifyStep (previous : Value) : (modifyStep s previous).Interim := by
  intro e he hst hcode
  refine .bind fun request => ?_
  split
  · exact .pure (.of_clean he (by simp [hst]) hcode)
  · exact interim_serviceCall hdelay interim_goOn e he hst hcode

include hdelay in
theorem interim_stabilize {isStabilized : Value → Handler Bool} {backoff : Backoff} :
    (stabilize isStabilized backoff (recover s) typeName).Interim := by
  intro e he hst hcode sess h e' sess' hy
  generalize hr : (Except.ok e' : Except Fault Event) = r at hy
  cases stabilize_cases he hy with
  | faulted => cases hr
  | timedOut =>
    cases hr
    exact .failed _ _ _
  | polled _ hpoll =>
    cases hpoll with
    | faulted => exact interim_of_recover hdelay he hr.symm
    | stable =>
      cases hr
      exact .of_clean he (by simp [Event.progress]) rfl
    | pending =>
      cases hd : backoff.delay.whole with
      | error f => rw [hd] at hr; cases hr
      | ok d =>
        rw [hd] at hr
        cases hr
        exact .of_clean he (by simp [Event.defer]) rfl

/-! ## Success -/

/-- The steps of an action before it polls. -/
inductive BeforePoll (s : Settings) (r : Request) (model : Value) : List Step → Prop
  | create {tags : TagSources} : r.action = .create → r.desiredTags model = .ok tags →
      BeforePoll s r model
        [nameStep r, executeOnce "create_complete" (createStep s tags),
         executeOnce "add_tags_complete" (tagStep s (.ok .empty) tags.withoutSystem)]
  | update : r.action = .update →
      BeforePoll s r model
        [executeOnce "modify_complete" (modifyStep s (r.previous.orElse (.map [])))]

/-- An invocation has passed all steps before the poll, has polled an integration that is active,
and has ended with a look-up of an integration with a model. -/
inductive SeenActive (s : Settings) (r : Request) (sess : Session) : History → Value → Prop
  | intro {steps : List Step} {model : Value} {e : Event} {s₁ : Session} {h₁ h₂ : History}
      {now : Number} {id polled integration id' last integration' model' : Value} :
      BeforePoll s r sess.model steps →
      Passed steps (.progress model .session) { sess with model } h₁ e s₁ →
      ReportsFirst polled integration → integration.get "Status" = .ok (.text "active") →
      ReportsFirst last integration' → modelOf integration' = .ok model' →
      SeenActive s r sess
        (h₁ ++ [.clock now, lookup id (.ok polled)] ++ h₂ ++ [lookup id' (.ok last)]) model'

/-- An invocation has ended with a look-up that reports no integration, and the request to delete
it has been answered before, in the same invocation or as the context says. -/
inductive SeenGone (sess : Session) : History → Prop
  | intro {h : History} {id : Value} {answer : Answer} : ReportsMissing answer →
      (sess.context.Marked "delete_complete" ∨ History.Returned "delete_integration" h) →
      SeenGone sess (h ++ [lookup id answer])

variable {sess sess' : Session} {h : History}

/-- Polling for an active integration ends with a look-up that reports one. -/
theorem stabilizeStep_proceeds (hs : Patient s) (he : e.context = .session)
    (hy : (stabilizeStep s e).Yields sess h (.ok e') sess') (ho : e'.outcome = .ok .proceed) :
    ∃ now id polled integration, h = [.clock now, lookup id (.ok polled)] ∧
      ReportsFirst polled integration ∧ integration.get "Status" = .ok (.text "active") := by
  obtain ⟨now, s₁, h', rfl, hactive, -⟩ := stabilize_proceeds hs.createUpdate
    (fun f e' hf => outcome_of_recover hs.isPositive hf) he hy ho
  obtain ⟨-, id, polled, integration, rfl, hfirst, hstatus⟩ := isActive_true hactive
  exact ⟨now, id, polled, integration, rfl, hfirst, hstatus⟩

include hdelay in
/-- Reading that ends a chain in success is a look-up of the integration that is reported. -/
theorem chain_readStep_success (he : e.Interim)
    (hy : (chain e [readStep s]).Yields sess h (.ok e') sess') (hsuccess : e'.status = .success) :
    e.outcome = .ok .proceed ∧ ∃ id last integration, h = [lookup id (.ok last)] ∧
      ReportsFirst last integration ∧ modelOf integration = .ok e'.model := by
  obtain ⟨ho, h₁, e₁, s₁, h₂, hread, hend, rfl⟩ := chain_cons_success he.unfinished hy hsuccess
  obtain ⟨rfl, he₁, -⟩ := yields_pure.1 hend
  cases he₁
  refine ⟨ho, ?_⟩
  obtain ⟨-, ⟨f, -, hf⟩ | ⟨integration, hdescribe, hm⟩⟩ := readStep_cases hread
  · exact absurd hsuccess (interim_of_recover hdelay he.session hf.symm).unfinished
  · obtain ⟨-, id, last, -, rfl, hfirst⟩ := describe_ok hdescribe
    rw [List.append_nil]
    refine ⟨id, last, integration, rfl, hfirst, ?_⟩
    cases hmodel : modelOf integration with
    | error f => rw [hmodel] at hm; cases hm
    | ok m => rw [hmodel] at hm; cases hm; rfl

theorem interim_start (model : Value) : (Event.progress model .session).Interim :=
  .of_clean rfl (by simp [Event.progress]) rfl

theorem create_success (hs : Patient s) (ha : r.action = .create)
    (hy : (create s r).Yields sess h (.ok e) sess') (he : e.status = .success) :
    SeenActive s r sess h e.model := by
  unfold create at hy
  rw [yields_model_bind] at hy
  obtain ⟨tags, htags, hchain⟩ := yields_lift_bind_ok.1 hy
  rw [yields_model_bind] at hchain
  have hinterim : ∀ step ∈ [nameStep r, executeOnce "create_complete" (createStep s tags),
      executeOnce "add_tags_complete" (tagStep s (.ok .empty) tags.withoutSystem)],
      Step.Interim step :=
    List.forall_mem_cons.2 ⟨interim_nameStep, List.forall_mem_cons.2
      ⟨interim_executeOnce (staysInSession_createStep tags) (interim_createStep hs.isPositive tags),
      List.forall_mem_cons.2
        ⟨interim_executeOnce (staysInSession_tagStep _ _) (interim_tagStep hs.isPositive _ _),
        by simp⟩⟩⟩
  obtain ⟨h₁, e₁, s₁, h₂, hpassed, he₁, hrest, rfl⟩ :=
    chain_passes (by simp) hinterim (interim_start _) hchain he
  obtain ⟨ho₁, h₃, e₂, s₂, h₄, hpoll, hread, rfl⟩ := chain_cons_success he₁.unfinished hrest he
  have he₂ := interim_stabilize hs.isPositive e₁ he₁.session (Event.outcome_eq_proceed ho₁).1
    (he₁.clean ho₁) hpoll
  obtain ⟨ho₂, id', last, integration', rfl, hlast, hmodel⟩ :=
    chain_readStep_success hs.isPositive he₂ hread he
  obtain ⟨now, id, polled, integration, rfl, hfirst, hstatus⟩ :=
    stabilizeStep_proceeds hs he₁.session hpoll ho₂
  have hseen : SeenActive s r sess
      (h₁ ++ [.clock now, lookup id (.ok polled)] ++ [] ++ [lookup id' (.ok last)]) e.model :=
    .intro (.create ha htags) hpassed hfirst hstatus hlast hmodel
  simpa using hseen

theorem update_success (hs : Patient s) (ha : r.action = .update)
    (hy : (update s r).Yields sess h (.ok e) sess') (he : e.status = .success) :
    SeenActive s r sess h e.model := by
  obtain ⟨f, hr, -⟩ | ⟨previousTags, desiredTags, model, -, -, -, hchain⟩ := update_cases hy
  · cases hr
  have hinterim : ∀ step ∈
      [executeOnce "modify_complete" (modifyStep s (r.previous.orElse (.map [])))],
      Step.Interim step :=
    List.forall_mem_cons.2
      ⟨interim_executeOnce (staysInSession_modifyStep _) (interim_modifyStep hs.isPositive _),
        by simp⟩
  obtain ⟨h₁, e₁, s₁, h₂, hpassed, he₁, hrest, rfl⟩ :=
    chain_passes (by simp) hinterim (interim_start _) hchain he
  obtain ⟨ho₁, h₃, e₂, s₂, h₄, hpoll, hlater, rfl⟩ := chain_cons_success he₁.unfinished hrest he
  have he₂ := interim_stabilize hs.isPositive e₁ he₁.session (Event.outcome_eq_proceed ho₁).1
    (he₁.clean ho₁) hpoll
  obtain ⟨ho₂, h₅, e₃, s₃, h₆, htags, hread, rfl⟩ := chain_cons_success he₂.unfinished hlater he
  have he₃ := interim_executeOnce (staysInSession_tagStep _ _) (interim_tagStep hs.isPositive _ _)
    e₂ he₂.session (Event.outcome_eq_proceed ho₂).1 (he₂.clean ho₂) htags
  obtain ⟨-, id', last, integration', rfl, hlast, hmodel⟩ :=
    chain_readStep_success hs.isPositive he₃ hread he
  obtain ⟨now, id, polled, integration, rfl, hfirst, hstatus⟩ :=
    stabilizeStep_proceeds hs he₁.session hpoll ho₂
  have hseen : SeenActive s r sess
      (h₁ ++ [.clock now, lookup id (.ok polled)] ++ h₅ ++ [lookup id' (.ok last)]) e.model :=
    .intro (.update ha) hpassed hfirst hstatus hlast hmodel
  simpa using hseen

include hdelay in
/-- A call lets the next step run only if it was answered. -/
theorem serviceCall_proceeds {operation : String}
    {request : Value → Except Fault (Entries String Value)} {done : Value → Step}
    (hy : (serviceCall operation request (recover s) done e).Yields sess h (.ok e') sess')
    (ho : e'.outcome = .ok .proceed) : History.Returned operation h := by
  generalize hr : (Except.ok e' : Except Fault Event) = r at hy
  cases serviceCall_cases hy with
  | unmade _ => cases hr
  | refused _ => exact absurd ho (outcome_of_recover hdelay hr.symm)
  | answered _ _ => exact ⟨_, List.mem_cons_self, by simp [Exchange.returns]⟩

include hdelay in
/-- The step that deletes an integration lets the next one run only if the request was answered,
now or before. -/
theorem delete_call_proceeds (he : e.context = .session)
    (hy : (executeOnce "delete_complete"
      (serviceCall "delete_integration" identifyRequest (recover s)) e).Yields sess h
        (.ok e') sess') (ho : e'.outcome = .ok .proceed) :
    sess.context.Marked "delete_complete" ∨ History.Returned "delete_integration" h := by
  generalize hr : (Except.ok e' : Except Fault Event) = r at hy
  cases executeOnce_cases he staysInSession_delete_call hy with
  | unreadable _ => cases hr
  | skipped hm => exact .inl hm
  | incomplete _ hrun _ =>
    cases hr
    exact .inr (serviceCall_proceeds hdelay hrun ho)
  | complete _ hrun _ =>
    cases hr
    exact .inr (serviceCall_proceeds hdelay hrun ho)

theorem delete_success (hs : Patient s) (hy : (delete s).Yields sess h (.ok e) sess')
    (he : e.status = .success) : SeenGone sess h := by
  unfold delete at hy
  rw [yields_model_bind] at hy
  obtain ⟨-, h₁, e₁, s₁, h₂, hcall, hrest, rfl⟩ :=
    chain_cons_success (interim_start _).unfinished hy he
  have he₁ := interim_executeOnce staysInSession_delete_call
    (interim_serviceCall hs.isPositive interim_goOn) _ rfl rfl rfl hcall
  obtain ⟨ho₁, h₃, e₂, s₂, h₄, hpoll, hlast, rfl⟩ := chain_cons_success he₁.unfinished hrest he
  have he₂ := interim_stabilize hs.isPositive e₁ he₁.session (Event.outcome_eq_proceed ho₁).1
    (he₁.clean ho₁) hpoll
  obtain ⟨ho₂, h₅, e₃, s₃, h₆, hfinal, hend, rfl⟩ := chain_cons_success he₂.unfinished hlast he
  obtain ⟨rfl, -, rfl⟩ := yields_pure.1 hfinal
  obtain ⟨rfl, -, rfl⟩ := yields_pure.1 hend
  obtain ⟨now, s₄, h', rfl, hdeleted, -⟩ := stabilize_proceeds hs.delete
    (fun f e' hf => outcome_of_recover hs.isPositive hf) he₁.session hpoll ho₂
  obtain ⟨-, id, answer, rfl, hmissing⟩ := isDeleted_true hdeleted
  have hanswered := delete_call_proceeds hs.isPositive rfl hcall ho₁
  have hbefore : sess.context.Marked "delete_complete" ∨
      History.Returned "delete_integration" (h₁ ++ [.clock now]) :=
    hanswered.imp_right fun hr => History.returned_append.2 (.inl hr)
  simpa using SeenGone.intro hmissing hbefore

/-- With delays of at least one second, a create or update request that succeeds has passed all
steps before the poll, has polled an active integration, and reports the model of the integration
that it looked up last. A delete request that succeeds has ended with a look-up that reports no
integration, after the request to delete it had been answered. -/
theorem success_not_early (hs : Patient s)
    (hy : ((provider s).handle r sess).Runs h (.ok e, sess')) (he : e.status = .success) :
    (r.action = .create ∨ r.action = .update → SeenActive s r sess h e.model) ∧
      (r.action = .delete → SeenGone sess h) := by
  obtain ⟨res, hserve, hsettle⟩ := Provider.handle_runs_iff.1 hy
  rcases Provider.serve_cases hserve with ⟨e₀, hact, rfl⟩ | ⟨f, -, rfl | rfl⟩
  · cases hsettle
    rw [Event.settle_status] at he
    rw [Event.settle_model]
    obtain ⟨-, -, hact⟩ := yields_lift_bind_ok.1 hact
    refine ⟨?_, fun ha => ?_⟩
    · rintro (ha | ha) <;> rw [ha] at hact
      · exact create_success hs ha hact he
      · exact update_success hs ha hact he
    · rw [ha] at hact
      exact delete_success hs hact he
  · cases hsettle
  · cases hrec : (provider s).recover (.progress sess'.model .session) f with
    | error f' => rw [hrec] at hsettle; cases hsettle
    | ok e₀ =>
      rw [hrec] at hsettle
      cases hsettle
      rw [Event.settle_status] at he
      exact absurd he (interim_of_recover hs.isPositive rfl hrec).unfinished

/-- A service that always reports one active integration. -/
def activeService : Script :=
  { replies := [("describe_integrations", [.answer (.ok (.map [("Integrations",
      .list [.map [("IntegrationArn", .text "arn:orders"), ("Status", .text "active")]])]))])] }

/-- A create request that adopts the active integration succeeds, and so does a delete request to a
service that reports none. -/
theorem success_not_early_orders :
    Patient {} ∧
      (∃ h e sess', ((provider {}).handle { action := .create }
          ⟨.map [("IntegrationName", .text "orders")], .initial .integration⟩).Runs h
            (.ok e, sess') ∧
        e.status = .success ∧
        SeenActive {} { action := .create }
          ⟨.map [("IntegrationName", .text "orders")], .initial .integration⟩ h e.model) ∧
      ∃ h e sess', ((provider {}).handle { action := .delete }
          ⟨.map [("IntegrationName", .text "orders")], .initial .integration⟩).Runs h
            (.ok e, sess') ∧
        e.status = .success ∧
        SeenGone ⟨.map [("IntegrationName", .text "orders")], .initial .integration⟩ h := by
  have hs : Patient {} := ⟨⟨.int 6, rfl, by decide⟩, by decide, by decide⟩
  refine ⟨hs, ?_, ?_⟩
  · have hrun := Program.runs_history Script.environment ((provider {}).handle { action := .create }
      ⟨.map [("IntegrationName", .text "orders")], .initial .integration⟩) activeService
    exact ⟨_, _, _, hrun, rfl, (success_not_early hs hrun rfl).1 (.inl rfl)⟩
  · have hrun := Program.runs_history Script.environment ((provider {}).handle { action := .delete }
      ⟨.map [("IntegrationName", .text "orders")], .initial .integration⟩) {}
    exact ⟨_, _, _, hrun, rfl, (success_not_early hs hrun rfl).2 rfl⟩

end Integration

end Provisioning
