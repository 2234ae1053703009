import Provisioning.Proofs.Integration.Invocation
import Provisioning.Proofs.Integration.TagStore
import Provisioning.Proofs.Keeping
import Provisioning.Script

/-!
# An interrupted update arrives at the desired tags

An update removes tags and adds others by two calls, and each of them may be refused, with or
without having taken effect; the next invocation then makes both again. Every invocation computes
the same difference: the tags before the update are in the request, and the model that an invocation
leaves for the next one declares the same tags.

`Retagging` is what holds between two invocations, and wherever one of them ends: until the context
says that the tags are up to date, they are on the way to where the difference leads, and from then
on they have arrived. Every step of the chain keeps this, whatever it is answered. So an update that
succeeds, however often it was interrupted, has the effect of one that was not (`Retagging.run`).
-/

set_option autoImplicit false

namespace Provisioning

namespace Integration

open Handler TagSet

variable {s : Settings} {r : Request} {arn : String} {previous desired : TagSet} {w₀ w w' : Tags}
  {sess sess' : Session} {h : History} {e : Event} {res : Except Fault Event}

/-- What holds while an update request is served: the request wants the same tags as at the start,
and the tags of the integration are on the way there until the step is complete. -/
structure Retagging (r : Request) (arn : String) (previous desired : TagSet) (w₀ : Tags)
    (sess : Session) (w : Tags) : Prop where
  wants : r.tagsAfter sess.model = .ok desired
  knows : Knows arn sess.context
  underway : ¬ sess.context.Marked tagsFlag → Underway (diff previous desired) w₀ w
  applied : sess.context.Marked tagsFlag → Applied (diff previous desired) w₀ w

/-- It depends on the wanted tags, the ARN in the context and the flag. -/
theorem Retagging.congr {r' : Request} (hr : Retagging r arn previous desired w₀ sess w)
    (hwants : r'.tagsAfter sess'.model = .ok desired)
    (harn : sess'.context.get "integration_arn" = sess.context.get "integration_arn")
    (hflag : sess'.context.Marked tagsFlag ↔ sess.context.Marked tagsFlag) :
    Retagging r' arn previous desired w₀ sess' w where
  wants := hwants
  knows := hr.knows.imp harn.trans harn.trans
  underway hn := hr.underway (mt hflag.2 hn)
  applied hm := hr.applied (hflag.1 hm)

/-- Writing another field changes nothing about it. -/
theorem Retagging.writes {field : String} (hr : Retagging r arn previous desired w₀ sess w)
    (hwrites : sess.Writes field sess') (harn : "integration_arn" ≠ field)
    (hflag : tagsFlag ≠ field) : Retagging r arn previous desired w₀ sess' w :=
  hr.congr (by rw [hwrites.model]; exact hr.wants) (hwrites.others _ harn) (hwrites.marked hflag)

/-! ## Steps -/

/-- A step that changes no tags and writes another field. -/
theorem maintains_of_writes {step : Step} {field : String}
    (hwithin : ∀ e, (step e).Within ["describe_integrations", "modify_integration"])
    (hwrites : ∀ ⦃e s h r s'⦄, e.context = .session → (step e).Yields s h r s' → s.Writes field s')
    (harn : "integration_arn" ≠ field) (hflag : tagsFlag ≠ field) :
    step.Maintains (TagStore.Answers arn) (Retagging r arn previous desired w₀) := by
  intro e sess h res sess' w w' he hy hs hr
  rw [TagStore.Serves.eq_of_within hs (hwithin e hy).1]
  exact hr.writes (hwrites he hy) harn hflag

theorem modifyStep_session {before : Value}
    (hy : (modifyStep s before e).Yields sess h res sess') : sess' = sess := by
  rcases yields_lift_bind.1 hy with ⟨f, -, -, -, rfl⟩ | ⟨request, -, hy⟩
  · rfl
  split at hy
  · exact (yields_pure.1 hy).2.2
  · cases serviceCall_cases hy with
    | unmade => rfl
    | refused => rfl
    | answered _ hdone => exact (yields_pure.1 hdone).2.2

theorem maintains_modify (before : Value) :
    (executeOnce "modify_complete" (modifyStep s before)).Maintains (TagStore.Answers arn)
      (Retagging r arn previous desired w₀) :=
  maintains_of_writes (within_executeOnce _ (within_modifyStep (by simp) before))
    (fun _ _ _ _ _ he => executeOnce_writes he (staysInSession_modifyStep before) fun _ _ _ =>
      modifyStep_session) (by decide) (by decide)

theorem maintains_stabilizeStep :
    (stabilizeStep s).Maintains (TagStore.Answers arn) (Retagging r arn previous desired w₀) :=
  maintains_of_writes (within_stabilize (within_isActive (by simp)))
    (fun _ _ _ _ _ => stabilizeStep_writes) (by decide) (by decide)

theorem maintains_readStep :
    (readStep s).Maintains (TagStore.Answers arn) (Retagging r arn previous desired w₀) := by
  intro e sess h res sess' w w' _ hy hs hr
  obtain ⟨rfl, -⟩ := readStep_cases hy
  rw [TagStore.Serves.eq_of_within hs (within_readStep (by simp) e hy).1]
  exact hr

/-- The step that brings the tags up to date keeps them on the way, and sets its flag only when they
have arrived. -/
theorem maintains_tagging (hdelay : s.callbackDelay.isPositive = .ok true)
    (hdesired : desired.WellFormed) :
    (executeOnce tagsFlag (tagStep s (.ok previous) (.ok desired))).Maintains
      (TagStore.Answers arn) (Retagging r arn previous desired w₀) := by
  intro e sess h res sess' w w' he hy hs hr
  have hne : tagsFlag ≠ "integration_arn" := by decide
  cases executeOnce_cases he (staysInSession_tagStep _ _) hy with
  | unreadable => exact served_nil_iff.1 hs ▸ hr
  | skipped => exact served_nil_iff.1 hs ▸ hr
  | incomplete hnot hrun =>
    -- the flag stays unset, so the next invocation makes both requests again
    have hstart := hr.underway hnot
    have htags := TagStore.tagStep_serves hdelay hdesired hstart.distinct he hr.knows hrun hs
    exact ⟨by rw [htags.writes.model]; exact hr.wants, htags.knows,
      fun _ => hstart.trans htags.underway,
      fun hm => absurd ((htags.writes.marked hne).1 hm) hnot⟩
  | complete hnot hrun hcomplete =>
    have hstart := hr.underway hnot
    have htags := TagStore.tagStep_serves hdelay hdesired hstart.distinct he hr.knows hrun hs
    refine ⟨by rw [← hr.wants, ← htags.writes.model], ?_,
      fun hun => absurd (Context.marked_put _ _) hun,
      fun _ => hstart.applied (htags.applied _ rfl hcomplete)⟩
    have harn := fun c : Context => c.get_put_of_ne hne.symm (.bool true)
    exact htags.knows.imp (harn _).trans (harn _).trans

/-! ## One invocation -/

/-- An update request fails before it asks for anything, or runs its steps on a model that wants the
same tags. -/
theorem act_update_cases (haction : r.action = .update)
    (hy : ((provider s).act r).Yields sess h res sess') :
    (∃ f, res = .error f ∧ h = [] ∧ sess'.context = sess.context ∧
      r.tagsAfter sess'.model = r.tagsAfter sess.model) ∨
    ∃ previousTags desiredTags m, r.tagsAfter m = r.tagsAfter sess.model ∧
      r.previousTags (r.previous.orElse (.map [])) = .ok previousTags ∧
      r.desiredTags m = .ok desiredTags ∧
      (chain (.progress m .session) (updateSteps s r previousTags desiredTags)).Yields
        { sess with model := m } h res sess' := by
  rcases yields_lift_bind.1 hy with ⟨f, -, rfl, rfl, rfl⟩ | ⟨-, -, hy⟩
  · exact .inl ⟨f, rfl, rfl, rfl, rfl⟩
  rw [haction] at hy
  have hsame : ∀ {m}, r.desiredTags m = r.desiredTags sess.model →
      r.tagsAfter m = r.tagsAfter sess.model := fun h => by rw [Request.tagsAfter, h]; rfl
  rcases update_cases hy with
    ⟨f, rfl, rfl, hcontext, htags⟩ | ⟨previousTags, desiredTags, m, htags, hrest⟩
  · exact .inl ⟨f, rfl, rfl, hcontext, hsame htags⟩
  · exact .inr ⟨previousTags, desiredTags, m, hsame htags, hrest⟩

/-- An update succeeds only after its tags are up to date. -/
theorem update_marks (hdelay : s.callbackDelay.isPositive = .ok true)
    {previousTags desiredTags : TagSources} {m : Value}
    (hy : (chain (.progress m .session) (updateSteps s r previousTags desiredTags)).Yields sess h
      (.ok e) sess') (he : e.status = .success) : sess'.context.Marked tagsFlag := by
  have hbefore : ∀ step ∈ [executeOnce "modify_complete"
      (modifyStep s (r.previous.orElse (.map []))), stabilizeStep s], Step.Interim step :=
    List.forall_mem_cons.2
      ⟨interim_executeOnce (staysInSession_modifyStep _) (interim_modifyStep hdelay _),
        List.forall_mem_cons.2 ⟨interim_stabilize hdelay, by simp⟩⟩
  obtain ⟨h₁, e₁, s₁, h₂, -, he₁, hrest, rfl⟩ :=
    chain_passes (by simp) hbefore (interim_start m) hy he
  obtain ⟨ho₁, h₃, e₂, s₂, h₄, htags, hlast, rfl⟩ := chain_cons_success he₁.unfinished hrest he
  have he₂ := interim_executeOnce (staysInSession_tagStep _ _) (interim_tagStep hdelay _ _) e₁
    he₁.session (Event.outcome_eq_proceed ho₁).1 (he₁.clean ho₁) htags
  obtain ⟨ho₂, h₅, e₃, s₃, h₆, hread, hend, rfl⟩ := chain_cons_success he₂.unfinished hlast he
  obtain ⟨rfl, -⟩ := readStep_cases hread
  obtain ⟨-, -, rfl⟩ := yields_pure.1 hend
  -- reading runs on the event of the tags, so this one has completed its step
  have hcomplete : e₂.completes = true := by
    simp [Event.completes, Event.isFailed, (Event.outcome_eq_proceed ho₂).1, he₂.clean ho₂]
  exact executeOnce_completes he₁.session (staysInSession_tagStep _ _) htags hcomplete

/-- The model stays the same over the steps of an update. -/
theorem keeps_updateSteps {previousTags desiredTags : TagSources} {m : Value} :
    (chain (.progress m .session) (updateSteps s r previousTags desiredTags)).Returns
      (Event.Ending (Event.About m)) :=
  returns_chain_ending (forall_mem_updateSteps
    (keeps_executeOnce (Event.lasting_about m) _ (keeps_modifyStep _)) keeps_stabilizeStep
    (keeps_executeOnce (Event.lasting_about m) _ (keeps_tagStep _ _)) keeps_readStep) (.inr rfl)

/-- Every step of an update keeps the tags on the way. -/
theorem maintains_updateSteps (hdelay : s.callbackDelay.isPositive = .ok true)
    (hdesired : desired.WellFormed) {previousTags desiredTags : TagSources}
    (hprevious : previousTags.all = .ok previous) (hafter : desiredTags.all = .ok desired) :
    ∀ step ∈ updateSteps s r previousTags desiredTags, step.StaysInSession ∧
      step.Maintains (TagStore.Answers arn) (Retagging r arn previous desired w₀) :=
  forall_mem_updateSteps
    ⟨staysInSession_executeOnce _ (staysInSession_modifyStep _), maintains_modify _⟩
    ⟨staysInSession_stabilizeStep, maintains_stabilizeStep⟩
    ⟨staysInSession_executeOnce _ (staysInSession_tagStep _ _),
      by rw [hprevious, hafter]; exact maintains_tagging hdelay hdesired⟩
    ⟨staysInSession_readStep, maintains_readStep⟩

/-- Wherever an invocation ends, the tags are on the way or have arrived; if it succeeds, they have
arrived, and if it asks for another one, that one wants the same tags. -/
theorem Retagging.act (hdelay : s.callbackDelay.isPositive = .ok true)
    (haction : r.action = .update) (hbefore : r.tagsBefore = .ok previous)
    (hdesired : desired.WellFormed) (hr : Retagging r arn previous desired w₀ sess w)
    (hy : ((provider s).act r).Yields sess h res sess') (hs : TagStore.Serves arn w h w') :
    Retagging r arn previous desired w₀ sess' w' ∧
      (∀ e, res = .ok e → e.status = .success → sess'.context.Marked tagsFlag) ∧
      ∀ m, Awaits m sess' res → r.tagsAfter m = .ok desired := by
  rcases act_update_cases haction hy with
    ⟨f, rfl, rfl, hcontext, hsame⟩ |
    ⟨previousTags, desiredTags, m, hsame, hprevious, hafter, hchain⟩
  · obtain rfl := served_nil_iff.1 hs
    have hwants : r.tagsAfter sess'.model = .ok desired := hsame.trans hr.wants
    have hnow := hr.congr hwants (by rw [hcontext]) (by rw [hcontext])
    exact ⟨hnow, nofun, fun m hm => hm ▸ hwants⟩
  · have hwants : r.tagsAfter m = .ok desired := hsame.trans hr.wants
    have hall : previousTags.all = .ok previous ∧ desiredTags.all = .ok desired := by
      unfold Request.tagsBefore at hbefore
      unfold Request.tagsAfter at hwants
      rw [hprevious] at hbefore
      rw [hafter] at hwants
      exact ⟨hbefore, hwants⟩
    have hnow := chain_maintains (maintains_updateSteps hdelay hdesired hall.1 hall.2) (.inl rfl)
      hchain hs (hr.congr hwants rfl .rfl)
    refine ⟨hnow, ?_, fun m' hawaits => ?_⟩
    · rintro e rfl hsuccess
      exact update_marks hdelay hchain hsuccess
    · cases res with
      | error f => exact hawaits ▸ hnow.wants
      | ok e =>
        obtain ⟨hstatus, -, rfl⟩ := hawaits
        rw [((keeps_updateSteps hchain).of_inProgress hstatus : e.model = m)]
        exact hwants

/-! ## Runs -/

/-- The next invocation starts where this one has left the tags. -/
theorem Retagging.resume {m : Value} {next : Session}
    (hr : Retagging r arn previous desired w₀ sess w) (hm : r.tagsAfter m = .ok desired)
    (hnext : next.model = m) (hcarried : Carried sess.context next.context) (e : Event) :
    Retagging (r.resume e) arn previous desired w₀ next w :=
  hr.congr (hnext ▸ hm) (hcarried _ (by decide)) (hcarried.marked (by decide))

/-- A run that succeeds has made the whole change, as if it had not been interrupted. -/
theorem Retagging.run (hdelay : s.callbackDelay.isPositive = .ok true)
    (hdesired : desired.WellFormed) {hs : List History} {result : Except Fault Event}
    (hrun : (provider s).Run r hs result) (hresult : result = .ok e)
    (hsuccess : e.status = .success) (haction : r.action = .update)
    (hbefore : r.tagsBefore = .ok previous) (hopen : (provider s).openSession r = .ok sess)
    (hr : Retagging r arn previous desired w₀ sess w)
    (hremote : TagStore.Serves arn w hs.flatten w') : Applied (diff previous desired) w₀ w' := by
  -- on the invocations: each one may start with any part of the difference applied
  induction hrun generalizing sess w with
  | last hinv =>
    subst hresult
    obtain ⟨res, sess', hact, hreported⟩ := invokes_cases hopen hinv
    rw [List.flatten_cons, List.flatten_nil, List.append_nil] at hremote
    obtain ⟨hnow, hmarks, -⟩ := hr.act hdelay haction hbefore hdesired hact hremote
    cases res with
    | error f => exact absurd hsuccess (hreported.awaits sess'.model rfl)
    | ok e' => exact hnow.applied (hmarks e' rfl ((hreported.event e' rfl).1 ▸ hsuccess))
  | @again r h e₁ hs result hinv hstatus _ ih =>
    obtain ⟨res, sess', hact, hreported⟩ := invokes_cases hopen hinv
    obtain ⟨w₁, hs₁, hs₂⟩ := served_append_iff.1 hremote
    obtain ⟨hnow, -, hwants⟩ := hr.act hdelay haction hbefore hdesired hact hs₁
    obtain ⟨m, hawaits⟩ := hreported.exists_awaits hact hstatus
    obtain ⟨next, hnext, hmodel, hcarried⟩ := hreported.resume m hawaits hstatus
    have hm : r.tagsAfter (if m.isNull then sess.model else m) = .ok desired := by
      split
      · exact hr.wants
      · exact hwants m hawaits
    exact ih hresult haction hbefore hnext (hnow.resume hm hmodel hcarried e₁) hs₂

/-- An update request that starts afresh and succeeds leaves the integration with the desired tags,
if it had the previous ones: however often its calls that remove and add tags are refused, and
whether or not they have taken effect. Here a retry asks for a positive delay, each source of tags
is a mapping, and no key of the desired tags is in two of the sources. -/
theorem update_agrees (hdelay : s.callbackDelay.isPositive = .ok true)
    (haction : r.action = .update)
    (hfresh : Context.ofValue .integration r.customContext = .ok (.initial .integration))
    (hbefore : r.tagsBefore = .ok previous) (hafter : r.tagsAfter r.desired = .ok desired)
    (hprevious : previous.WellFormed) (hdesired : desired.WellFormed) (hapart : desired.Apart)
    {hs : List History} (hrun : (provider s).Run r hs (.ok e)) (hsuccess : e.status = .success)
    (hremote : TagStore.Serves arn w hs.flatten w') (hw : w.Distinct)
    (hstart : w.agrees previous.flat = true) : w'.agrees desired.flat = true := by
  have hopen : (provider s).openSession r = .ok ⟨r.desired, .initial .integration⟩ :=
    Provider.openSession_eq_ok.2 ⟨rfl, hfresh⟩
  have hunmarked : ¬ (Context.initial .integration).Marked tagsFlag := by
    rintro ⟨v, hv, htruthy⟩
    cases hv
    cases htruthy
  have hinitial : Retagging r arn previous desired w ⟨r.desired, .initial .integration⟩ w :=
    ⟨hafter, .inl rfl, fun _ => .refl hw, fun hm => absurd hm hunmarked⟩
  have harrived := hinitial.run hdelay hdesired hrun rfl hsuccess haction hbefore hopen hremote
  exact harrived.agrees hprevious hdesired hapart hw hstart

/-- The tags of an integration before it goes to production. -/
def testTags : TagSet where
  system := [(.text "aws:stack", .text "orders")]
  stack := [(.text "stage", .text "test")]
  resource := [(.text "team", .text "data"), (.text "owner", .text "ops")]

/-- The tags that it is to have there. -/
def productionTags : TagSet where
  system := [(.text "aws:stack", .text "orders")]
  stack := [(.text "stage", .text "production")]
  resource := [(.text "team", .text "web")]

/-- A request to change the tags of an integration from the ones to the others. -/
def productionUpdate : Request where
  action := .update
  desired := .map [("IntegrationName", .text "orders"), ("Tags", tagList productionTags.resource)]
  previous := .map [("IntegrationName", .text "orders"), ("IntegrationArn", .text "arn:orders"),
    ("Tags", tagList testTags.resource)]
  systemTags := .map [("aws:stack", .text "orders")]
  previousSystemTags := .map [("aws:stack", .text "orders")]
  stackTags := .map [("stage", .text "production")]
  previousStackTags := .map [("stage", .text "test")]

/-- What a look-up of the integration reports. -/
def activeOrders : Answer :=
  .ok (.map [("Integrations", .list [.map [("IntegrationName", .text "orders"),
    ("IntegrationArn", .text "arn:orders"), ("Status", .text "active")]])])

/-- A refusal because the integration is still on its way to a valid state. -/
def notYetValid : Fault :=
  .service { code := some (.text "InvalidIntegrationStateFault")
             message := some (.text invalidStateMessage), operation := "AddTagsToResource" }

/-- A service with an answer to the request that removes tags and one to the request that adds
tags. -/
def tagService (removed added : Answer) : Script :=
  { replies := [("describe_integrations", [.answer activeOrders]),
      ("remove_tags_from_resource", [.answer removed]),
      ("add_tags_to_resource", [.answer added])] }

/-- The request that removes the tag of the owner. -/
def removeOwner (answer : Answer) : Exchange :=
  removal (.text "arn:orders") [.text "owner"] answer

/-- The request that adds the tags with new values. -/
def addChanged (answer : Answer) : Exchange :=
  addition (.text "arn:orders")
    [(.text "stage", .text "production"), (.text "team", .text "web")] answer

/-- The histories of three invocations: the tags are removed and adding is refused, then removing is
refused, and then both are done. -/
def productionRun : List History :=
  let shown := lookup (.text "arn:orders") activeOrders
  [[.clock (.int 0), shown, shown, removeOwner (.ok (.map [])), addChanged (.error notYetValid)],
   [.clock (.int 0), shown, removeOwner (.error notYetValid)],
   [.clock (.int 0), shown, removeOwner (.ok (.map [])), addChanged (.ok (.map [])), shown]]

theorem run_productionRun :
    ∃ e, (provider {}).Run productionUpdate productionRun (.ok e) ∧ e.status = .success := by
  have hfirst : (provider {}).Invokes productionUpdate _ _ :=
    ⟨⟨productionUpdate.desired, .initial .integration⟩, _, rfl,
      Program.runs_history Script.environment _ (tagService (.ok (.map [])) (.error notYetValid))⟩
  have hrun : (provider {}).Run productionUpdate [_, _, _] _ :=
    .again hfirst rfl
      (.again ⟨_, _, rfl, Program.runs_history Script.environment _
          (tagService (.error notYetValid) (.ok (.map [])))⟩ rfl
        (.last ⟨_, _, rfl, Program.runs_history Script.environment _
          (tagService (.ok (.map [])) (.ok (.map [])))⟩))
  exact ⟨_, hrun, rfl⟩

/-- The remote has all answers of the run: the refused request to add tags has taken effect, the
refused request to remove tags has not. -/
theorem serves_productionRun : ∃ w', TagStore.Serves "arn:orders" testTags.flat
    productionRun.flatten w' ∧ w' = [(.text "aws:stack", .text "orders"),
      (.text "stage", .text "production"), (.text "team", .text "web")] := by
  have hshown : ∀ w,
      TagStore.Answers "arn:orders" w (lookup (.text "arn:orders") activeOrders) w := by
    refine fun w => .found rfl fun record hr => ?_
    obtain rfl := hr.unique ⟨_, rfl, rfl, rfl⟩
    rfl
  have hclock : ∀ w, TagStore.Answers "arn:orders" w (.clock (.int 0)) w := fun w => .other rfl id
  exact ⟨_, .cons (hclock _) (.cons (hshown _) (.cons (hshown _) (.cons (.removed rfl rfl rfl)
    (.cons (.added rfl rfl rfl) (.cons (hclock _) (.cons (hshown _) (.cons .refused
      (.cons (hclock _) (.cons (hshown _) (.cons (.removed rfl rfl rfl)
        (.cons (.added rfl rfl rfl) (.cons (hshown _) .nil)))))))))))), rfl⟩

/-- The run is interrupted twice, and the integration has the new tags in the end. -/
theorem update_agrees_productionRun :
    productionUpdate.tagsBefore = .ok testTags ∧
      productionUpdate.tagsAfter productionUpdate.desired = .ok productionTags ∧
      testTags.WellFormed ∧ productionTags.WellFormed ∧ productionTags.Apart ∧
      ∃ e w', (provider {}).Run productionUpdate productionRun (.ok e) ∧ e.status = .success ∧
        TagStore.Serves "arn:orders" testTags.flat productionRun.flatten w' ∧
        testTags.flat.agrees testTags.flat = true ∧ w'.agrees productionTags.flat = true := by
  obtain ⟨e, hrun, hsuccess⟩ := run_productionRun
  obtain ⟨w', hremote, -⟩ := serves_productionRun
  have hprevious : testTags.WellFormed := ⟨by decide, by decide, by decide⟩
  have hdesired : productionTags.WellFormed := ⟨by decide, by decide, by decide⟩
  have hapart : productionTags.Apart := ⟨by decide, by decide⟩
  have hstart : testTags.flat.agrees testTags.flat = true := by decide
  exact ⟨rfl, rfl, hprevious, hdesired, hapart, e, w', hrun, hsuccess, hremote, hstart,
    update_agrees rfl rfl rfl rfl rfl hprevious hdesired hapart hrun hsuccess hremote
      (distinct_flat hprevious.system) hstart⟩

end Integration

end Provisioning
