import Provisioning.Executor
import Provisioning.Script
import Provisioning.Proofs.Chain
import Provisioning.Proofs.Integration.Footprint
import Provisioning.Proofs.ParameterGroup.Footprint
import Provisioning.Proofs.Raising
import Provisioning.Proofs.Run

/-!
# Completed operations are not repeated

An operation that a flag guards is called no more once a call of it has returned
(`Provider.Run.returns_at_most_once`): a handler that is guarded (`Handler.Guards`) calls nothing if
the flag is set, and after a call has returned it either leaves the flag set or ends in a fault
without a code of the service. Such a fault fails the operation, so a run goes on only with the flag
set.

`Handler.Sends` is what a step has to do for its guard: after the call has returned it completes, or
ends in such a fault.
-/

set_option autoImplicit false

namespace Provisioning

open History

namespace Handler

variable {α β : Type} {ops : List String} {op flag : String}

/-- What a handler did is guarded by a flag with respect to an operation. -/
structure Guarded (op flag : String) (s : Session) (h : History) (r : Except Fault α)
    (s' : Session) : Prop where
  once : Once op h
  skips : s.context.Marked flag → Avoids op h
  marks : Returned op h → s'.context.Marked flag ∨ ∃ f, r = .error f ∧ f.serviceCode = .null
  grows : s.context.Extends s'.context

/-- Whatever a handler does is guarded by a flag. -/
def Guards (op flag : String) (x : Handler α) : Prop :=
  ∀ ⦃s h r s'⦄, x.Yields s h r s' → Guarded op flag s h r s'

theorem Within.avoids {x : Handler α} (hx : x.Within ops) (hop : op ∉ ops) {s : Session}
    {h : History} {r : Except Fault α} {s' : Session} (hy : x.Yields s h r s') : Avoids op h :=
  fun e he => Exchange.not_calls_of_within ((hx hy).1 e he) hop

/-- A handler that never calls the operation is guarded. -/
theorem Within.guards {x : Handler α} (hx : x.Within ops) (hop : op ∉ ops) :
    x.Guards op flag := fun _ _ _ _ hy =>
  have hav := hx.avoids hop hy
  ⟨hav.once, fun _ => hav, fun h => absurd h hav.not_returned, (hx hy).2⟩

/-- A handler that calls nothing is guarded. -/
theorem Guards.idle {x : Handler α} (hx : x.Within []) : x.Guards op flag :=
  hx.guards List.not_mem_nil

/-- Guarded handlers in a row are guarded. -/
theorem Guards.bind_of {P : α → Prop} {x : Handler α} {f : α → Handler β}
    (hflag : flag ∈ Context.flags) (hx : x.Guards op flag) (hp : x.Returns P)
    (hf : ∀ a, P a → (f a).Guards op flag) : (x >>= f).Guards op flag := by
  intro s h r s' hy
  rcases yields_bind.1 hy with ⟨e, hx', rfl⟩ | ⟨h₁, a, s₁, h₂, hx', hf', rfl⟩
  · have h1 := hx hx'
    refine ⟨h1.once, h1.skips, fun hr => ?_, h1.grows⟩
    rcases h1.marks hr with hm | ⟨f, hf, hcode⟩
    · exact .inl hm
    · cases hf
      exact .inr ⟨_, rfl, hcode⟩
  · have h1 := hx hx'
    have h2 := hf a (hp hx') hf'
    have hmarked : Returned op h₁ → s₁.context.Marked flag := fun hr => by
      rcases h1.marks hr with hm | ⟨f, hf, -⟩
      · exact hm
      · cases hf
    refine ⟨h1.once.append h2.once fun hr => h2.skips (hmarked hr),
      fun hm => (h1.skips hm).append (h2.skips (h1.grows.marked hflag hm)),
      fun hr => ?_, h1.grows.trans h2.grows⟩
    rcases returned_append.1 hr with hr | hr
    · exact .inl (h2.grows.marked hflag (hmarked hr))
    · exact h2.marks hr

theorem Guards.bind {x : Handler α} {f : α → Handler β} (hflag : flag ∈ Context.flags)
    (hx : x.Guards op flag) (hf : ∀ a, (f a).Guards op flag) : (x >>= f).Guards op flag :=
  hx.bind_of hflag (P := fun _ => True) (fun _ _ _ _ _ => trivial) fun a _ => hf a

/-! ## Steps that send a request once -/

/-- A step has completed, or has ended in a fault without a code of the service. -/
def Settled : Except Fault Event → Prop
  | .ok e => e.completes = true
  | .error f => f.serviceCode = .null

/-- Whatever a handler does, it settles. -/
def Settles (x : Handler Event) : Prop := ∀ ⦃s h r s'⦄, x.Yields s h r s' → Settled r

/-- What a handler did sent a request at most once, and settled if it was sent. -/
structure Sent (op : String) (s : Session) (h : History) (r : Except Fault Event)
    (s' : Session) : Prop where
  once : Once op h
  settled : Returned op h → Settled r
  grows : s.context.Extends s'.context

/-- Whatever a handler does sends a request at most once, and settles if it was sent. -/
def Sends (op : String) (x : Handler Event) : Prop :=
  ∀ ⦃s h r s'⦄, x.Yields s h r s' → Sent op s h r s'

theorem Within.sends {x : Handler Event} (hx : x.Within ops) (hop : op ∉ ops) : x.Sends op :=
  fun _ _ _ _ hy =>
  have hav := hx.avoids hop hy
  ⟨hav.once, fun h => absurd h hav.not_returned, (hx hy).2⟩

/-- A handler that calls nothing sends no request. -/
theorem Sends.idle {x : Handler Event} (hx : x.Within []) : x.Sends op :=
  hx.sends List.not_mem_nil

/-- What comes before the request must not send it. -/
theorem Sends.after {x : Handler α} {f : α → Handler Event} (hx : x.Within ops) (hop : op ∉ ops)
    (hf : ∀ a, (f a).Sends op) : (x >>= f).Sends op := by
  intro s h r s' hy
  rcases yields_bind.1 hy with ⟨e, hx', rfl⟩ | ⟨h₁, a, s₁, h₂, hx', hf', rfl⟩
  · have hav := hx.avoids hop hx'
    exact ⟨hav.once, fun h => absurd h hav.not_returned, (hx hx').2⟩
  · have hav := hx.avoids hop hx'
    have h2 := hf a hf'
    refine ⟨hav.once.append h2.once fun hr => absurd hr hav.not_returned, fun hr => ?_,
      (hx hx').2.trans h2.grows⟩
    rcases returned_append.1 hr with hr | hr
    · exact absurd hr hav.not_returned
    · exact h2.settled hr

/-- What calls nothing may come before the request. -/
theorem Sends.after_idle {x : Handler α} {f : α → Handler Event} (hx : x.Within [])
    (hf : ∀ a, (f a).Sends op) : (x >>= f).Sends op := .after hx List.not_mem_nil hf

/-- What comes after the request must call nothing, and must settle if it was sent. -/
theorem Sends.before {x : Handler Event} {f : Event → Handler Event} (hx : x.Sends op)
    (hf : ∀ e, (f e).Within []) (hsettles : ∀ e, e.completes = true → (f e).Settles) :
    (x >>= f).Sends op := by
  intro s h r s' hy
  rcases yields_bind.1 hy with ⟨e, hx', rfl⟩ | ⟨h₁, e, s₁, h₂, hx', hf', rfl⟩
  · have h1 := hx hx'
    exact ⟨h1.once, h1.settled, h1.grows⟩
  · have h1 := hx hx'
    have hav : Avoids op h₂ := (hf e).avoids List.not_mem_nil hf'
    refine ⟨h1.once.append hav.once fun _ => hav, fun hr => ?_, h1.grows.trans (hf e hf').2⟩
    rcases returned_append.1 hr with hr | hr
    · exact hsettles e (h1.settled hr) hf'
    · exact absurd hr hav.not_returned

theorem Settles.of_returns {x : Handler Event} (hx : x.Returns (·.completes = true))
    (hfault : x.Raises (·.isRefusal = false)) : x.Settles := by
  intro s h r s' hy
  cases r with
  | ok e => exact hx hy
  | error f => exact Fault.serviceCode_eq_null (hfault hy)

/-! ## Steps of a chain -/

/-- A call sends its request once, if nothing that follows sends it. -/
theorem sends_serviceCall {request : Value → Except Fault (Entries String Value)}
    {recover : Recovery} {done : Value → Step}
    (hdone : ∀ v e, (done v e).Within []) (hsettles : ∀ v e, (done v e).Settles) (e : Event) :
    (serviceCall op request recover done e).Sends op := by
  intro s h r s' hy
  cases serviceCall_cases hy with
  | unmade hf => exact ⟨.nil, fun ⟨e, he, _⟩ => absurd he List.not_mem_nil, .refl _⟩
  | refused harguments =>
    refine ⟨List.pairwise_singleton _ _, fun ⟨e, he, hr⟩ => ?_, .refl _⟩
    obtain rfl := List.mem_singleton.1 he
    cases hr
  | answered harguments hrest =>
    have hav : Avoids op _ := (hdone _ _).avoids List.not_mem_nil hrest
    refine ⟨List.pairwise_cons.2 ⟨fun e he _ => hav e he, hav.once⟩,
      fun _ => hsettles _ _ hrest, (hdone _ _ hrest).2⟩

theorem sends_createWithTaggingFallback {create : TagSet → Step} {tags : TagSet} {e : Event}
    (hcreate : ∀ tags, (create tags e).Sends op) :
    (createWithTaggingFallback create tags e).Sends op := by
  intro s h r s' hy
  rcases createWithTaggingFallback_cases hy with
    hfirst | ⟨h₁, e₁, s₁, h₂, hfirst, ⟨hfailed, -⟩, hsecond, rfl⟩
  · exact hcreate _ hfirst
  · -- a request that was answered does not end in a failure
    have h1 := hcreate _ hfirst
    have h2 := hcreate _ hsecond
    have hnot : ¬ Returned op h₁ := fun hr => by
      have : e₁.completes = true := h1.settled hr
      simp [Event.completes, hfailed] at this
    refine ⟨h1.once.append h2.once fun hr => absurd hr hnot, fun hr => ?_, h1.grows.trans h2.grows⟩
    rcases returned_append.1 hr with hr | hr
    · exact absurd hr hnot
    · exact h2.settled hr

theorem sends_safeCreate {probe : Value → Handler Value} {create : Step} {probing : Bool}
    (hop : op ∉ ops) (hprobe : ∀ v, (probe v).Within ops) {e : Event}
    (hcreate : (create e).Sends op) : (safeCreate probe create probing e).Sends op := by
  refine .after (within_lookFor hprobe _) hop fun existing => ?_
  split
  · exact hcreate
  · refine .after_idle (.lift _) fun _ => .after_idle (.lift _) fun _ => .idle (.pure _)

/-- A step that sends a request once is guarded by its flag. -/
theorem guards_executeOnce {step : Step} {e : Event}
    (he : e.context = .session) (hstep : step.StaysInSession) (hsends : (step e).Sends op)
    (hflag : flag ≠ startField := by decide) : (executeOnce flag step e).Guards op flag := by
  intro s h r s' hy
  cases executeOnce_cases he hstep hy with
  | unreadable _ =>
    exact ⟨.nil, fun _ => by simp [Avoids], fun ⟨e, he, _⟩ => absurd he List.not_mem_nil, .refl _⟩
  | skipped _ =>
    exact ⟨.nil, fun _ => by simp [Avoids], fun ⟨e, he, _⟩ => absurd he List.not_mem_nil, .refl _⟩
  | incomplete hnot hrun hincomplete =>
    have hsent := hsends hrun
    refine ⟨hsent.once, fun hm => absurd hm hnot, fun hr => .inr ?_, hsent.grows⟩
    have hsettled := hsent.settled hr
    cases r with
    | ok e' =>
      have := hincomplete e' rfl
      rw [show e'.completes = true from hsettled] at this
      cases this
    | error f => exact ⟨f, rfl, hsettled⟩
  | complete hnot hrun hcomplete =>
    have hsent := hsends hrun
    exact ⟨hsent.once, fun hm => absurd hm hnot, fun _ => .inl (Context.marked_put _ _),
      hsent.grows.trans (.of_set (Context.set_of_not_isUnset rfl) (fun _ => rfl)
        fun h => absurd h hflag)⟩

/-- A step that starts and ends with events of the invocation is guarded. -/
structure StepGuards (op flag : String) (step : Step) : Prop where
  stays : step.StaysInSession
  guards : ∀ e : Event, e.context = .session → (step e).Guards op flag

theorem StepGuards.of_within {step : Step} (hstep : step.StaysInSession)
    (hwithin : ∀ e, (step e).Within ops) (hop : op ∉ ops) : StepGuards op flag step :=
  ⟨hstep, fun e _ => (hwithin e).guards hop⟩

theorem StepGuards.of_sends {step : Step} (hstep : step.StaysInSession)
    (hsends : ∀ e, (step e).Sends op) (hflag : flag ≠ startField := by decide) :
    StepGuards op flag (executeOnce flag step) :=
  ⟨staysInSession_executeOnce _ hstep, fun e he => guards_executeOnce he hstep (hsends e) hflag⟩

/-- A chain of guarded steps is guarded. -/
theorem guards_chain (hflag : flag ∈ Context.flags) {steps : List Step}
    (hsteps : ∀ step ∈ steps, StepGuards op flag step) {e : Event} (he : e.InSession) :
    (chain e steps).Guards op flag := by
  induction steps generalizing e with
  | nil => exact .idle (.pure _)
  | cons step steps ih =>
    refine Guards.bind_of hflag (P := (e.outcome = .ok ·))
      (.idle (.lift _)) (.lift fun _ h => h) fun o ho => ?_
    cases o with
    | proceed =>
      obtain ⟨hstay, hguards⟩ := hsteps step List.mem_cons_self
      have hs := he.session (Event.outcome_eq_proceed ho).1
      exact (hguards e hs).bind_of hflag (hstay e hs) fun e' he' =>
        ih (fun step h => hsteps step (List.mem_cons_of_mem _ h)) he'
    | suspend => exact .idle (.pure _)
    | terminal => exact .idle (.pure _)

end Handler

open Handler

/-- The operations that change a resource and are guarded. -/
def guardedOperations : List String :=
  ["create_integration", "create_db_parameter_group", "modify_integration", "delete_integration"]

/-- The flag that guards an operation on integrations. -/
def guardOf (op : String) : String :=
  if op = "modify_integration" then "modify_complete"
  else if op = "delete_integration" then "delete_complete"
  else "create_complete"

theorem guardOf_mem_flags (op : String) : guardOf op ∈ Context.flags := by
  unfold guardOf
  split
  · decide
  · split <;> decide

theorem settles_goOn (v : Value) (e : Event) : (goOn v e).Settles :=
  .of_returns (.pure rfl) (.pure _)

/-! ## Integrations -/

namespace Integration

variable {s : Settings} {r : Request} {op : String}

theorem settles_created (v : Value) (e : Event) : (created s v e).Settles :=
  .of_returns (.bind fun _ => .bind fun _ => .bind fun _ => .pure rfl) (codeless_created v e)

theorem settles_rememberArn {e : Event} (he : e.completes = true) : (rememberArn e).Settles := by
  refine .of_returns (.bind fun known => ?_) (codeless_rememberArn e)
  split
  · refine .bind fun arn => ?_
    split
    · exact .bind fun _ => .pure he
    · exact .pure he
  · exact .pure he

theorem sends_createTagged (tags : TagSources) (e : Event) :
    (createTagged s tags e).Sends "create_integration" :=
  .after_idle (.lift _) fun _ =>
    sends_createWithTaggingFallback fun _ =>
      sends_serviceCall within_created settles_created e

theorem sends_createStep (tags : TagSources) (e : Event) :
    (createStep s tags e).Sends "create_integration" := by
  have hprobe : ∀ v, (probe v).Within ["describe_integrations"] :=
    within_probe List.mem_cons_self
  exact (sends_safeCreate (by decide) hprobe (sends_createTagged tags e)).before
    within_rememberArn fun _ => settles_rememberArn

theorem sends_modifyStep (previous : Value) (e : Event) :
    (modifyStep s previous e).Sends "modify_integration" := by
  refine .after_idle (.lift _) fun request => ?_
  split
  · exact .idle (.pure _)
  · exact sends_serviceCall within_goOn settles_goOn e

theorem stepGuards_tagStep (previous desired : Except Fault TagSet)
    (hop : op ∉ "describe_integrations" :: tagOperations) {flag : String} (mark : String)
    (hmark : mark ≠ startField := by decide) :
    StepGuards op flag (executeOnce mark (tagStep s previous desired)) :=
  .of_within (staysInSession_executeOnce _ (staysInSession_tagStep _ _))
    (fun e => within_executeOnce _ (within_tagStep (fun _ h => List.mem_cons_of_mem _ h)
      List.mem_cons_self _ _) e hmark) hop

theorem stepGuards_stabilizeStep (hop : op ∉ ["describe_integrations"]) {flag : String} :
    StepGuards op flag (stabilizeStep s) :=
  .of_within staysInSession_stabilizeStep (within_stabilize (within_isActive List.mem_cons_self))
    hop

theorem stepGuards_readStep (hop : op ∉ ["describe_integrations"]) {flag : String} :
    StepGuards op flag (readStep s) :=
  .of_within staysInSession_readStep (within_readStep List.mem_cons_self) hop

theorem guards_create : (create s r).Guards "create_integration" "create_complete" := by
  have hflag : "create_complete" ∈ Context.flags := by decide
  refine .bind hflag (.idle .model) fun m =>
    .bind hflag (.idle (.lift _)) fun tags =>
    .bind hflag (.idle .model) fun m' =>
    guards_chain hflag (List.forall_mem_cons.2 ⟨?_, List.forall_mem_cons.2 ⟨?_,
      List.forall_mem_cons.2 ⟨?_, List.forall_mem_cons.2 ⟨?_, List.forall_mem_cons.2 ⟨?_,
        by simp⟩⟩⟩⟩⟩) (.inl rfl)
  · have hname : ∀ e, (nameStep r e).Within [] := within_nameStep
    exact .of_within staysInSession_nameStep hname List.not_mem_nil
  · exact .of_sends (staysInSession_createStep tags) (sends_createStep tags)
  · exact stepGuards_tagStep _ _ (by decide) _
  · exact stepGuards_stabilizeStep (by decide)
  · exact stepGuards_readStep (by decide)

theorem guards_update : (update s r).Guards "modify_integration" "modify_complete" := by
  have hflag : "modify_complete" ∈ Context.flags := by decide
  refine .bind hflag (.idle .model) fun m =>
    .bind hflag (.idle (.lift _)) fun _ =>
    .bind hflag (.idle .model) fun m' =>
    .bind hflag (.idle (.lift _)) fun m'' =>
    .bind hflag (.idle (.setModel _)) fun _ =>
    .bind hflag (.idle (.lift _)) fun previousTags =>
    .bind hflag (.idle .model) fun m₃ =>
    .bind hflag (.idle (.lift _)) fun desiredTags =>
    .bind hflag (.idle .model) fun m₄ =>
    guards_chain hflag (List.forall_mem_cons.2 ⟨?_, List.forall_mem_cons.2 ⟨?_,
      List.forall_mem_cons.2 ⟨?_, List.forall_mem_cons.2 ⟨?_, by simp⟩⟩⟩⟩) (.inl rfl)
  · exact .of_sends (staysInSession_modifyStep _) (sends_modifyStep _)
  · exact stepGuards_stabilizeStep (by decide)
  · exact stepGuards_tagStep _ _ (by decide) _
  · exact stepGuards_readStep (by decide)

theorem guards_delete : (delete s).Guards "delete_integration" "delete_complete" := by
  have hflag : "delete_complete" ∈ Context.flags := by decide
  refine .bind hflag (.idle .model) fun m =>
    guards_chain hflag (List.forall_mem_cons.2 ⟨?_, List.forall_mem_cons.2 ⟨?_,
      List.forall_mem_cons.2 ⟨?_, by simp⟩⟩⟩) (.inl rfl)
  · exact .of_sends staysInSession_delete_call
      (sends_serviceCall within_goOn settles_goOn)
  · have hdeleted : ∀ v, (isDeleted v).Within ["describe_integrations"] :=
      within_isDeleted List.mem_cons_self
    exact .of_within (staysInSession_stabilize fun _ _ _ => context_of_recover)
      (within_stabilize hdeleted) (by decide)
  · have hsuccess : ∀ _ : Event, Within [] (pure (Event.success .null)) := fun _ => .pure _
    exact .of_within (fun _ _ => .pure (.inr ⟨rfl, rfl⟩)) hsuccess List.not_mem_nil

/-- An action asks for at most one of the guarded operations, its own. -/
theorem eq_of_mem_actOperations {action : Action} (hop : op ∈ guardedOperations)
    (hmem : op ∈ actOperations action) :
    action = .create ∧ op = "create_integration" ∨ action = .update ∧ op = "modify_integration" ∨
      action = .delete ∧ op = "delete_integration" := by
  revert op
  cases action <;> decide

/-- Every action guards every operation that changes an integration. -/
theorem guards_act (hop : op ∈ guardedOperations) :
    ((provider s).act r).Guards op (guardOf op) := by
  by_cases hmem : op ∈ actOperations r.action
  · refine .bind (guardOf_mem_flags op) (.idle (.lift _)) fun _ => ?_
    rcases eq_of_mem_actOperations hop hmem with ⟨ha, rfl⟩ | ⟨ha, rfl⟩ | ⟨ha, rfl⟩ <;> rw [ha]
    · exact guards_create
    · exact guards_update
    · exact guards_delete
  · exact within_act.guards hmem

end Integration

/-! ## Parameter groups -/

namespace ParameterGroup

variable {s : Settings} {r : Request} {op : String}

theorem settles_created (v : Value) (e : Event) : (created v e).Settles :=
  .of_returns (.bind fun _ => .bind fun _ => .bind fun _ => .pure rfl)
    (Raises.bind (.lift (Value.codeless_require _ _)) fun _ =>
      Raises.bind (.lift (Value.codeless_require _ _)) fun _ =>
        (raises_setField _ _ _).bind fun _ => .pure _)

theorem sends_createStep (tags : TagSources) (e : Event) :
    (createStep s tags e).Sends "create_db_parameter_group" := by
  have hprobe : ∀ v, (probe e.context v).Within ["describe_db_parameter_groups"] :=
    within_probe List.mem_cons_self _
  exact sends_safeCreate (by decide) hprobe (.after_idle (.lift _) fun _ =>
    sends_createWithTaggingFallback fun _ => sends_serviceCall within_created settles_created e)

theorem guards_create : (create s r).Guards "create_db_parameter_group" "create_complete" := by
  have hflag : "create_complete" ∈ Context.flags := by decide
  refine .bind hflag (.idle .model) fun m =>
    .bind hflag (.idle (.lift _)) fun tags =>
    .bind hflag (.idle within_fillName) fun _ =>
    .bind hflag (.idle .model) fun m' =>
    guards_chain hflag (List.forall_mem_cons.2 ⟨?_, List.forall_mem_cons.2 ⟨?_,
      List.forall_mem_cons.2 ⟨?_, List.forall_mem_cons.2 ⟨?_, by simp⟩⟩⟩⟩) (.inl rfl)
  · exact .of_sends (staysInSession_createStep tags) (sends_createStep tags)
  · have htag : ∀ e, (tagStep (.ok .empty) tags.withoutSystem e).Within
        ("describe_db_parameter_groups" :: tagOperations) :=
      within_tagStep (fun _ h => List.mem_cons_of_mem _ h) List.mem_cons_self _ _
    exact .of_within (staysInSession_executeOnce _ (staysInSession_tagStep _ _))
      (within_executeOnce _ htag) (by decide)
  · exact .of_within (staysInSession_executeOnce _ fun e he => .bind fun _ =>
        staysInSession_parameterStep _ _ e he)
      (within_executeOnce _ fun e => (Within.lift _).bind fun _ =>
        within_parameterStep (fun _ h => h) _ _ e) (by decide)
  · exact .of_within staysInSession_readStep (within_readStep fun _ h => h) (by decide)

/-- The only guarded operation that an action asks for is the one that creates. -/
theorem eq_of_mem_actOperations {action : Action} (hop : op ∈ guardedOperations)
    (hmem : op ∈ actOperations action) : action = .create ∧ op = "create_db_parameter_group" := by
  revert op
  cases action <;> decide

/-- Every action guards every operation that creates a parameter group. -/
theorem guards_act (hop : op ∈ guardedOperations) :
    ((provider s).act r).Guards op "create_complete" := by
  by_cases hmem : op ∈ actOperations r.action
  · have hflag : "create_complete" ∈ Context.flags := by decide
    refine .bind hflag (.idle (.lift _)) fun _ => ?_
    obtain ⟨ha, rfl⟩ := eq_of_mem_actOperations hop hmem
    rw [ha]
    exact guards_create
  · exact within_act.guards hmem

end ParameterGroup

/-! ## Invocations and runs -/

namespace Provider

variable {p : Provider} {op flag : String}

/-- Every action of a provider is guarded by a flag that its context declares. -/
structure Guards (p : Provider) (op flag : String) : Prop where
  isFlag : flag ∈ Context.flags
  declared : p.contextKind.fields.has flag = true
  act : ∀ r, (p.act r).Guards op flag
  returns : ∀ r, (p.act r).Returns Event.InSession
  context : ∀ {e f e'}, p.recover e f = .ok e' → e'.context = e.context
  fails : ∀ {e f e'}, p.recover e f = .ok e' → f.serviceCode = .null → e'.status = .failed

theorem guards_integration {s : Settings} (hop : op ∈ guardedOperations) :
    (Integration.provider s).Guards op (guardOf op) := by
  refine ⟨guardOf_mem_flags op, ?_, fun r => Integration.guards_act hop,
    fun r => Integration.returns_act, Integration.context_of_recover, fun h hcode => ?_⟩
  · show ContextKind.integration.fields.has (guardOf op) = true
    unfold guardOf
    split
    · decide
    · split <;> decide
  · rcases Integration.recover_cases h with ⟨code, rfl⟩ | ⟨-, hnull⟩
    · rfl
    · rw [hcode] at hnull
      cases hnull

theorem guards_parameterGroup {s : Settings} (hop : op ∈ guardedOperations) :
    (ParameterGroup.provider s).Guards op "create_complete" := by
  have hdeclared : ContextKind.parameterGroup.fields.has "create_complete" = true := by decide
  refine ⟨by decide, hdeclared, fun r => ParameterGroup.guards_act hop,
    fun r => ParameterGroup.returns_act, ParameterGroup.context_of_recover, fun h _ => ?_⟩
  obtain ⟨code, rfl⟩ := ParameterGroup.recover_cases h
  rfl

theorem exists_guards {s : Settings} (hp : p ∈ providers s) (hop : op ∈ guardedOperations) :
    ∃ flag, p.Guards op flag := by
  simp only [providers, List.mem_cons, List.not_mem_nil, or_false] at hp
  rcases hp with rfl | rfl
  · exact ⟨_, guards_integration hop⟩
  · exact ⟨_, guards_parameterGroup hop⟩

/-- One invocation keeps to the guard: it goes on after a return only with the flag set. -/
theorem Guards.handle (hg : p.Guards op flag) {r : Request} {s s' : Session} {h : History}
    {result : Except Fault Event} (hy : (p.handle r s).Runs h (result, s')) :
    Once op h ∧ (s.context.Marked flag → Avoids op h) ∧ s.context.Extends s'.context ∧
      ∀ e, result = .ok e → e.status = .inProgress →
        e.context = .own s'.context ∧ (Returned op h → s'.context.Marked flag) := by
  obtain ⟨res, hserve, rfl⟩ := handle_runs_iff.1 hy
  rcases serve_cases hserve with ⟨e, hact, rfl⟩ | ⟨f, hact, rfl | rfl⟩
  · have hguarded := hg.act r hact
    refine ⟨hguarded.once, hguarded.skips, hguarded.grows, fun e' he' hs => ?_⟩
    cases he'
    rw [Event.settle_status] at hs
    refine ⟨Event.settle_context ((hg.returns r hact).session hs) _, fun hr => ?_⟩
    rcases hguarded.marks hr with hm | ⟨f, hf, -⟩
    · exact hm
    · cases hf
  · have hguarded := hg.act r hact
    exact ⟨hguarded.once, hguarded.skips, hguarded.grows, fun e' he' => by cases he'⟩
  · have hguarded := hg.act r hact
    refine ⟨hguarded.once, hguarded.skips, hguarded.grows, fun e' he' hs => ?_⟩
    cases hrec : p.recover (.progress s'.model .session) f with
    | error f' => rw [hrec] at he'; cases he'
    | ok e =>
      rw [hrec] at he'
      cases he'
      rw [Event.settle_status] at hs
      refine ⟨Event.settle_context (hg.context hrec) _, fun hr => ?_⟩
      rcases hguarded.marks hr with hm | ⟨f', hf', hcode⟩
      · exact hm
      · cases hf'
        rw [hg.fails hrec hcode] at hs
        cases hs

/-- The next invocation starts with the context that the last one left; the flag is set there if it
was set here. -/
theorem Guards.resume (hg : p.Guards op flag) {r : Request} {s : Session} {c : Context} {e : Event}
    (hopen : p.openSession r = .ok s) (hgrows : s.context.Extends c) (he : e.context = .own c) :
    p.openSession (r.resume e) = .ok
        { model := if e.model.isNull then r.desired else e.model, context := c.travelled } ∧
      (c.Marked flag → c.travelled.Marked flag) := by
  have hdeclares := (declares_of_ofValue (openSession_eq_ok.1 hopen).2).extends hgrows
  refine ⟨openSession_resume hdeclares he, ?_⟩
  rw [Context.marked_iff, Context.marked_iff, hdeclares.get_travelled hg.declared]
  exact id

/-- A run makes no call if the flag is set, and no call after one has returned. -/
theorem Run.once_of_guards (hg : p.Guards op flag) {r : Request} {hs : List History}
    {result : Except Fault Event} (hr : p.Run r hs result) :
    Once op hs.flatten ∧ ∀ s, p.openSession r = .ok s → s.context.Marked flag →
      Avoids op hs.flatten := by
  induction hr with
  | last hinv =>
    obtain ⟨s, s', hopen, hy⟩ := hinv
    obtain ⟨honce, hskips, -⟩ := hg.handle hy
    simp only [List.flatten_cons, List.flatten_nil, List.append_nil]
    refine ⟨honce, fun s₁ hopen₁ hm => hskips ?_⟩
    rw [hopen] at hopen₁
    cases hopen₁
    exact hm
  | @again r h e hs result hinv hstatus hrun ih =>
    obtain ⟨s, s', hopen, hy⟩ := hinv
    obtain ⟨honce, hskips, hgrows, hnext⟩ := hg.handle hy
    obtain ⟨hcontext, hmarks⟩ := hnext _ rfl hstatus
    obtain ⟨hresume, hkept⟩ := hg.resume hopen hgrows hcontext
    have hlater : s'.context.Marked flag → Avoids op hs.flatten := fun hm =>
      ih.2 _ hresume (hkept hm)
    rw [List.flatten_cons]
    refine ⟨honce.append ih.1 fun hr => hlater (hmarks hr), fun s₁ hopen₁ hm => ?_⟩
    rw [hopen] at hopen₁
    cases hopen₁
    exact (hskips hm).append (hlater (hgrows.marked hg.isFlag hm))

/-- Over a run of either provider, whatever the service answers, a call that creates, modifies or
deletes a resource returns at most once, and is not made again after it has returned. -/
theorem Run.returns_at_most_once {s : Settings} (hp : p ∈ providers s)
    (hop : op ∈ guardedOperations) {r : Request} {hs : List History}
    {result : Except Fault Event} (hr : p.Run r hs result) :
    hs.flatten.countP (·.returns op) ≤ 1 ∧
      hs.flatten.Pairwise fun e e' => e.returns op = true → e'.calls op = false := by
  obtain ⟨flag, hg⟩ := exists_guards hp hop
  have honce := (Run.once_of_guards hg hr).1
  exact ⟨honce.countP_le_one, honce⟩

/-- A request for a new integration. -/
def orders : Request :=
  { action := .create
    desired := .map [("IntegrationName", .text "orders"), ("SourceArn", .text "arn:source"),
      ("TargetArn", .text "arn:target")] }

/-- The integration that is created for it. -/
def ordersIntegration : Value :=
  .map [("IntegrationArn", .text "arn:orders"), ("Status", .text "active")]

/-- A service that creates the integration and reports it as active from then on. -/
def ordersService : Script :=
  { replies :=
      [("create_integration", [.answer (.ok ordersIntegration)]),
       ("describe_integrations", [.answer (.ok (.map [])),
         .answer (.ok (.map [("Integrations", .list [ordersIntegration])]))])] }

/-- A run of two invocations, of which the first one creates the integration. -/
theorem returns_at_most_once_orders :
    Integration.provider {} ∈ providers {} ∧ "create_integration" ∈ guardedOperations ∧
      ∃ h h' result, (Integration.provider {}).Run orders [h, h'] result ∧
        Returned "create_integration" h ∧
        [h, h'].flatten.countP (·.returns "create_integration") ≤ 1 := by
  have hp : Integration.provider {} ∈ providers {} := List.mem_cons_self
  have hop : "create_integration" ∈ guardedOperations := by decide
  have hrun : (Integration.provider {}).Run orders _ _ :=
    .again ⟨⟨orders.desired, .initial .integration⟩, _, rfl,
        Program.runs_history Script.environment _ ordersService⟩ rfl
      (.last ⟨_, _, rfl, Program.runs_history Script.environment _
        (((Integration.provider {}).handle orders
          ⟨orders.desired, .initial .integration⟩).run Script.environment ordersService).2⟩)
  exact ⟨hp, hop, _, _, _, hrun, by unfold Returned; decide,
    (Run.returns_at_most_once hp hop hrun).1⟩

end Provider

end Provisioning
