import Provisioning.Chain
import Provisioning.Stabilization
import Provisioning.Tagging
import Provisioning.Proofs.Context
import Provisioning.Proofs.Handler

/-!
# What handlers leave alone

`x.Within ops` is the frame of a handler: whatever the service answers, the handler asks it for
nothing but the operations `ops`, and the context that it leaves behind extends the one that it
found. The frame of a handler follows from its parts.
-/

set_option autoImplicit false

namespace Provisioning

namespace Handler

variable {α β : Type} {ops : List String}

/-- A handler asks the service for nothing but some operations and extends the context. -/
def Within (ops : List String) (x : Handler α) : Prop :=
  ∀ ⦃s : Session⦄ ⦃h : History⦄ ⦃r : Except Fault α⦄ ⦃s' : Session⦄, x.Yields s h r s' →
    (∀ e ∈ h, e.within ops = true) ∧ s.context.Extends s'.context

namespace Within

/-- What asks for nothing and leaves the context as it was is within any operations. -/
theorem of_idle {x : Handler α}
    (hx : ∀ ⦃s h r s'⦄, x.Yields s h r s' → h = [] ∧ s'.context = s.context) : x.Within ops := by
  intro s h r s' hy
  obtain ⟨rfl, hc⟩ := hx hy
  rw [hc]
  exact ⟨by simp, .refl _⟩

theorem pure (a : α) : (pure a : Handler α).Within ops := of_idle fun _ _ _ _ hy => by
  obtain ⟨rfl, -, rfl⟩ := yields_pure.1 hy; exact ⟨rfl, rfl⟩

theorem lift (a : Except Fault α) : (lift a).Within ops := of_idle fun _ _ _ _ hy => by
  obtain ⟨rfl, -, rfl⟩ := yields_lift.1 hy; exact ⟨rfl, rfl⟩

theorem throw (f : Fault) : (throw f : Handler α).Within ops := of_idle fun _ _ _ _ hy => by
  obtain ⟨rfl, -, rfl⟩ := yields_throw.1 hy; exact ⟨rfl, rfl⟩

theorem get : (get : Handler Session).Within ops := of_idle fun _ _ _ _ hy => by
  obtain ⟨rfl, -, rfl⟩ := yields_get.1 hy; exact ⟨rfl, rfl⟩

theorem model : model.Within ops := of_idle fun _ _ _ _ hy => by
  obtain ⟨rfl, -, rfl⟩ := yields_model.1 hy; exact ⟨rfl, rfl⟩

theorem setModel (v : Value) : (setModel v).Within ops := of_idle fun _ _ _ _ hy => by
  obtain ⟨rfl, -, rfl⟩ := yields_setModel.1 hy; exact ⟨rfl, rfl⟩

theorem bind {x : Handler α} {f : α → Handler β} (hx : x.Within ops)
    (hf : ∀ a, (f a).Within ops) : (x >>= f).Within ops := by
  intro s h r s' hy
  rcases yields_bind.1 hy with ⟨e, hx', rfl⟩ | ⟨h₁, a, s₁, h₂, hx', hf', rfl⟩
  · exact hx hx'
  · obtain ⟨hw₁, hc₁⟩ := hx hx'
    obtain ⟨hw₂, hc₂⟩ := hf a hf'
    refine ⟨fun e he => ?_, hc₁.trans hc₂⟩
    rcases List.mem_append.1 he with he | he
    · exact hw₁ e he
    · exact hw₂ e he

theorem attempt {x : Handler α} (hx : x.Within ops) : x.attempt.Within ops := by
  intro s h r s' hy
  obtain ⟨a, hy, -⟩ := yields_attempt.1 hy
  exact hx hy

theorem tryCatch {x : Handler α} {f : Fault → Handler α} (hx : x.Within ops)
    (hf : ∀ e, (f e).Within ops) : (tryCatch x f).Within ops := by
  intro s h r s' hy
  rcases yields_tryCatch.1 hy with ⟨a, hx', -⟩ | ⟨h₁, e, s₁, h₂, hx', hf', rfl⟩
  · exact hx hx'
  · obtain ⟨hw₁, hc₁⟩ := hx hx'
    obtain ⟨hw₂, hc₂⟩ := hf e hf'
    refine ⟨fun e he => ?_, hc₁.trans hc₂⟩
    rcases List.mem_append.1 he with he | he
    · exact hw₁ e he
    · exact hw₂ e he

theorem call {operation : String} (hop : operation ∈ ops) (arguments : Entries String Value) :
    (call operation arguments).Within ops := by
  intro s h r s' hy
  obtain ⟨rfl, rfl⟩ := yields_call.1 hy
  refine ⟨fun e he => ?_, .refl _⟩
  obtain rfl := List.mem_singleton.1 he
  simpa [Exchange.within] using hop

theorem pages {operation : String} (hop : operation ∈ ops) (arguments : Entries String Value) :
    (pages operation arguments).Within ops := by
  intro s h r s' hy
  obtain ⟨answers, rfl, -, rfl⟩ := yields_pages.1 hy
  refine ⟨fun e he => ?_, .refl _⟩
  obtain rfl := List.mem_singleton.1 he
  simpa [Exchange.within] using hop

theorem now : now.Within ops := by
  intro s h r s' hy
  obtain ⟨t, rfl, -, rfl⟩ := yields_now.1 hy
  refine ⟨fun e he => ?_, .refl _⟩
  obtain rfl := List.mem_singleton.1 he
  rfl

theorem contextOf (ref : ContextRef) : (contextOf ref).Within ops := by
  cases ref with
  | none => exact pure _
  | session => exact get.bind fun _ => pure _
  | own c => exact pure _

theorem field (ref : ContextRef) (name : String) : (field ref name).Within ops := by
  refine (contextOf ref).bind fun c => ?_
  cases c with
  | none => exact throw _
  | some c => exact lift _

theorem setField (ref : ContextRef) {name : String} {v : Value}
    (hv : name ∈ Context.flags → v = .bool true) (hstart : name ≠ startField) :
    (setField ref name v).Within ops := by
  cases ref with
  | none => exact throw _
  | own c => exact (lift _).bind fun _ => pure _
  | session =>
    intro s h r s' hy
    obtain ⟨rfl, ⟨f, -, -, rfl⟩ | ⟨c, hc, -, rfl⟩⟩ := yields_setField_session.1 hy
    · exact ⟨by simp, .refl _⟩
    · exact ⟨by simp, .of_set hc hv fun h => absurd h hstart⟩

theorem forM {items : List α} {f : α → Handler PUnit} (hf : ∀ a, (f a).Within ops) :
    (items.forM f).Within ops := by
  induction items with
  | nil => exact pure _
  | cons a items ih => exact (hf a).bind fun _ => ih

end Within

end Handler

/-! ## Chains -/

section
variable {ops : List String}

open Handler

theorem within_chain {steps : List Step} (hsteps : ∀ step ∈ steps, ∀ e, (step e).Within ops)
    (e : Event) : (chain e steps).Within ops := by
  induction steps generalizing e with
  | nil => exact .pure _
  | cons step steps ih =>
    unfold chain
    refine (Within.lift _).bind fun o => ?_
    cases o with
    | proceed =>
      exact (hsteps step (by simp) e).bind fun e' =>
        ih (fun step h => hsteps step (List.mem_cons_of_mem _ h)) e'
    | suspend => exact .pure _
    | terminal => exact .pure _

theorem within_markDone {flag : String} (hflag : flag ≠ startField) (progress result : Event) :
    (markDone flag progress result).Within ops := by
  unfold markDone
  split
  · exact (Within.setField _ (fun _ => rfl) hflag).bind fun _ => .pure _
  · exact (Within.setField _ (fun _ => rfl) hflag).bind fun _ => .pure _

theorem within_executeOnce (flag : String) {step : Step} (hstep : ∀ e, (step e).Within ops)
    (e : Event) (hflag : flag ≠ startField := by decide) :
    (executeOnce flag step e).Within ops := by
  refine (Within.field _ _).bind fun v => ?_
  split
  · exact .pure _
  · refine (hstep e).bind fun result => ?_
    split
    · exact within_markDone hflag _ _
    · exact .pure _

theorem within_serviceCall {operation : String} (hop : operation ∈ ops)
    {request : Value → Except Fault (Entries String Value)} {recover : Recovery}
    {done : Value → Step} (hdone : ∀ v e, (done v e).Within ops) (e : Event) :
    (serviceCall operation request recover done e).Within ops := by
  refine (Within.lift _).bind fun arguments => (Within.call hop _).attempt.bind fun answer => ?_
  cases answer with
  | error f => exact .lift _
  | ok v => exact hdone v e

theorem within_goOn (v : Value) (e : Event) : (goOn v e).Within ops := .pure _

theorem within_lookUp {operation : String} (hop : operation ∈ ops)
    (arguments : Entries String Value) (listField missingCode : String) (missing : Fault) :
    (lookUp operation arguments listField missingCode missing).Within ops := by
  refine (Within.call hop _).attempt.bind fun answer => ?_
  cases answer with
  | error f => exact .throw _
  | ok response =>
    refine (Within.lift _).bind fun items => ?_
    split
    · exact .lift _
    · exact .throw _

theorem within_lookFor {probe : Value → Handler Value} {probing : Bool}
    (hprobe : ∀ v, (probe v).Within ops) (model : Value) :
    (lookFor probe probing model).Within ops := by
  unfold lookFor
  split
  · refine (hprobe model).tryCatch fun f => ?_
    split
    · exact .pure _
    · exact .throw _
  · exact .pure _

theorem within_safeCreate {probe : Value → Handler Value} {create : Step} {probing : Bool}
    (hprobe : ∀ v, (probe v).Within ops) (hcreate : ∀ e, (create e).Within ops) (e : Event) :
    (safeCreate probe create probing e).Within ops := by
  refine (within_lookFor hprobe _).bind fun existing => ?_
  split
  · exact hcreate e
  · exact (Within.lift _).bind fun _ => (Within.lift _).bind fun _ => .pure _

theorem within_poll {isStabilized : Value → Handler Bool} {backoff : Backoff} {recover : Recovery}
    (hpoll : ∀ v, (isStabilized v).Within ops) (e : Event) :
    (poll isStabilized backoff recover e).Within ops := by
  refine (hpoll _).attempt.bind fun answer => ?_
  split
  · exact .lift _
  · exact .pure _
  · exact (Within.lift _).bind fun _ => .pure _

/-- The context that a reference stands for is read and nothing else. -/
theorem contextOf_cases {ref : ContextRef} {s s' : Session} {h : History}
    {r : Except Fault (Option Context)} (hy : (contextOf ref).Yields s h r s') :
    h = [] ∧ s' = s ∧ ∃ c, r = .ok c ∧ (ref = .session → c = some s.context) := by
  cases ref with
  | session =>
    obtain ⟨rfl, rfl, rfl⟩ := yields_contextOf_session.1 hy
    exact ⟨rfl, rfl, _, rfl, fun _ => rfl⟩
  | _ =>
    obtain ⟨rfl, rfl, rfl⟩ := yields_pure.1 hy
    exact ⟨rfl, rfl, _, rfl, fun h => by cases h⟩

/-- The time of the first poll is written only if the context has none. -/
theorem within_keepStart {ref : ContextRef} {c : Option Context} {t : Number} {s s' : Session}
    {h : History} {r : Except Fault ContextRef} (hc : ref = .session → c = some s.context)
    (hy : (keepStart (stabilizationStart c) t ref).Yields s h r s') :
    (∀ e ∈ h, e.within ops = true) ∧ s.context.Extends s'.context := by
  unfold keepStart at hy
  split at hy
  · rename_i hnull
    cases ref with
    | none => exact Within.throw _ hy
    | own _ => exact ((Within.lift _).bind fun _ => .pure _) hy
    | session =>
      obtain ⟨rfl, ⟨f, -, -, rfl⟩ | ⟨c', hset, -, rfl⟩⟩ := yields_setField_session.1 hy
      · exact ⟨by simp, .refl _⟩
      · refine ⟨by simp, .of_set hset (fun h => absurd h (by decide)) fun _ u hu => ?_⟩
        rwa [hc rfl, stabilizationStart, Option.bind_some, hu] at hnull
  · exact Within.pure _ hy

theorem within_stabilize {isStabilized : Value → Handler Bool} {backoff : Backoff}
    {recover : Recovery} {resourceType : String} (hpoll : ∀ v, (isStabilized v).Within ops)
    (e : Event) : (stabilize isStabilized backoff recover resourceType e).Within ops := by
  intro s h r s' hy
  unfold stabilize at hy
  rcases yields_bind.1 hy with ⟨f, hread, rfl⟩ | ⟨h₁, c, s₁, h₂, hread, hrest, rfl⟩
  · exact Within.contextOf _ hread
  obtain ⟨rfl, rfl, c', hc', hsession⟩ := contextOf_cases hread
  cases hc'
  -- the clock does not change the context that was read
  obtain ⟨t, h', rfl, hafter⟩ := yields_now_bind.1 hrest
  have hclock : ∀ {h : History}, (∀ e ∈ h, e.within ops = true) →
      ∀ e ∈ [] ++ Exchange.clock t :: h, e.within ops = true :=
    fun hh => List.forall_mem_cons.2 ⟨rfl, hh⟩
  rcases yields_bind.1 hafter with ⟨f, hkeep, rfl⟩ | ⟨h₃, ref, s₂, h₄, hkeep, hlast, rfl⟩
  · obtain ⟨hops, hext⟩ := within_keepStart hsession hkeep
    exact ⟨hclock hops, hext⟩
  obtain ⟨hops, hext⟩ := within_keepStart hsession hkeep
  have hend : (∀ e ∈ h₄, e.within ops = true) ∧ s₂.context.Extends s'.context := by
    rcases yields_lift_bind.1 hlast with ⟨f, -, rfl, -, rfl⟩ | ⟨expired, -, hlast⟩
    · exact ⟨by simp, .refl _⟩
    split at hlast
    · exact ((Within.lift _).bind fun _ => .pure _) hlast
    · exact within_poll hpoll _ hlast
  exact ⟨hclock (List.forall_mem_append.2 ⟨hops, hend.1⟩), hext.trans hend.2⟩

/-! ## Tags -/

theorem within_addTags (hop : "add_tags_to_resource" ∈ ops) (arn : Value) (tags : TagSet) :
    (addTags arn tags).Within ops := by
  unfold addTags
  split
  · exact .pure _
  · exact (Within.call hop _).bind fun _ => .pure _

theorem within_removeTags (hop : "remove_tags_from_resource" ∈ ops) (arn : Value) (tags : TagSet) :
    (removeTags arn tags).Within ops := by
  unfold removeTags
  split
  · exact .pure _
  · exact (Within.call hop _).bind fun _ => .pure _

/-- The operations that change tags. -/
def tagOperations : List String := ["remove_tags_from_resource", "add_tags_to_resource"]

theorem within_changeTags (hops : ∀ op ∈ tagOperations, op ∈ ops) (toRemove toAdd : TagSet)
    (rules : Option RuleSet) (arnField : String) (e : Event) :
    (changeTags toRemove toAdd rules arnField e).Within ops := by
  refine (Within.field _ _).bind fun arn => Within.bind (.attempt ?_) fun answer => ?_
  · exact (within_removeTags (hops _ (by simp [tagOperations])) _ _).bind fun _ =>
      within_addTags (hops _ (by simp [tagOperations])) _ _
  · split
    · exact .lift _
    · exact .pure _

theorem within_updateTags (hops : ∀ op ∈ tagOperations, op ∈ ops) (previous desired : TagSet)
    (rules : Option RuleSet) (arnField : String) {fetchArn : Step}
    (hfetch : ∀ e, (fetchArn e).Within ops) (e : Event) :
    (updateTags previous desired rules arnField fetchArn e).Within ops := by
  have hchange := within_changeTags hops (TagSet.diff previous desired).1
    (TagSet.diff previous desired).2 rules arnField
  unfold updateTags
  dsimp only
  split
  · exact .pure _
  · refine (Within.field _ _).bind fun arn => ?_
    split
    · refine (hfetch e).bind fun e' => within_chain (fun step h => ?_) e'
      obtain rfl := List.mem_singleton.1 h
      exact hchange
    · exact hchange e

theorem within_createWithTaggingFallback {create : TagSet → Step}
    (hcreate : ∀ tags e, (create tags e).Within ops) (tags : TagSet) (e : Event) :
    (createWithTaggingFallback create tags e).Within ops := by
  refine (hcreate tags e).bind fun result => ?_
  split
  · exact hcreate _ _
  · exact .pure _

end

end Provisioning
