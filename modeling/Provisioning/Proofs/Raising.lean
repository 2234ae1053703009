import Provisioning.Stabilization
import Provisioning.Tagging
import Provisioning.Proofs.Event

/-!
# Faults of steps

A step turns the fault of a call into an event, so what it ends in itself is a fault of shape, which
is no refusal of the service. Such a fault fails the operation; it is never tried again.
-/

set_option autoImplicit false

namespace Provisioning

namespace Handler

variable {α : Type} {F : Fault → Prop}

theorem Raises.attempt (x : Handler α) : x.attempt.Raises F := fun _ _ _ _ hy => by
  obtain ⟨a, -, ha⟩ := yields_attempt.1 hy
  cases ha

theorem Raises.now : now.Raises F := fun _ _ _ _ hy => by
  obtain ⟨t, -, ht, -⟩ := yields_now.1 hy
  cases ht

theorem Raises.contextOf (ref : ContextRef) : (contextOf ref).Raises F := by
  cases ref with
  | none => exact .pure _
  | session => exact Raises.get.bind fun _ => .pure _
  | own c => exact .pure _

/-- Reading and writing the context fails without a refusal of the service. -/
theorem raises_field (ref : ContextRef) (name : String) :
    (field ref name).Raises (·.isRefusal = false) := by
  refine (Raises.contextOf ref).bind fun c => ?_
  cases c with
  | none => exact .throw rfl
  | some c => exact .lift (Context.codeless_get _ _)

theorem raises_setField (ref : ContextRef) (name : String) (v : Value) :
    (setField ref name v).Raises (·.isRefusal = false) := by
  cases ref with
  | none => exact .throw rfl
  | session =>
    exact Raises.get.bind fun _ => Raises.bind (.lift (Context.codeless_set _ _ _)) fun _ =>
      (Raises.modify _).bind fun _ => .pure _
  | own c => exact Raises.bind (.lift (Context.codeless_set _ _ _)) fun _ => .pure _

end Handler

open Handler

theorem Event.codeless_outcome (e : Event) : Codeless e.outcome := by
  unfold outcome
  split
  · exact .ok _
  · exact (Value.codeless_isPositive _).bind fun _ => .ok _

/-- Rules that end in no refusal of the service make an event, or end in none either. -/
theorem Event.codeless_ofFault {rules : RuleSet} (h : ∀ f, Provisioning.Codeless (rules.classify f))
    (e : Event) (f : Fault) : Codeless (ofFault (some rules) e f) := by
  refine (h f).bind fun verdict => ?_
  cases verdict <;> exact .ok _

theorem Backoff.codeless_isExpired (b : Backoff) (startedAt now : Value) :
    Codeless (b.isExpired startedAt now) := by
  unfold isExpired
  split
  · exact .ok _
  · refine Codeless.bind ?_ fun _ => .ok _
    unfold elapsed
    split
    · split
      · exact .ok _
      · exact .error rfl
    · exact .error rfl

/-- What a step ends in is no refusal of the service. -/
def Step.Codeless (step : Step) : Prop := ∀ e, (step e).Raises (·.isRefusal = false)

theorem raises_chain {steps : List Step} (hsteps : ∀ step ∈ steps, Step.Codeless step) (e : Event) :
    (chain e steps).Raises (·.isRefusal = false) := by
  induction steps generalizing e with
  | nil => exact .pure _
  | cons step steps ih =>
    refine Raises.bind (.lift e.codeless_outcome) fun o => ?_
    cases o with
    | proceed =>
      exact (hsteps step List.mem_cons_self e).bind
        (ih fun step h => hsteps step (List.mem_cons_of_mem _ h))
    | suspend => exact .pure _
    | terminal => exact .pure _

theorem codeless_executeOnce (flag : String) {step : Step} (hstep : step.Codeless) :
    (executeOnce flag step).Codeless := by
  intro e
  refine (raises_field _ _).bind fun v => ?_
  split
  · exact .pure _
  · refine (hstep e).bind fun result => ?_
    split
    · unfold markDone
      split <;> exact (raises_setField _ _ _).bind fun _ => .pure _
    · exact .pure _

theorem codeless_serviceCall {operation : String}
    {request : Value → Except Fault (Entries String Value)} {recover : Recovery}
    {done : Value → Step} (hrequest : ∀ v, Codeless (request v))
    (hrecover : ∀ e f, Codeless (recover e f)) (hdone : ∀ v, (done v).Codeless) :
    (serviceCall operation request recover done).Codeless := by
  intro e
  refine Raises.bind (.lift (hrequest _)) fun arguments => (Raises.attempt _).bind fun answer => ?_
  cases answer with
  | error f => exact .lift (hrecover e f)
  | ok v => exact hdone v e

theorem codeless_createWithTaggingFallback {create : TagSet → Step}
    (hcreate : ∀ tags, (create tags).Codeless) (tags : TagSet) :
    (createWithTaggingFallback create tags).Codeless := by
  refine fun e => (hcreate tags e).bind fun result => ?_
  split
  · exact hcreate _ e
  · exact .pure _

theorem codeless_stabilize {isStabilized : Value → Handler Bool} {backoff : Backoff}
    {recover : Recovery} {resourceType : String} (hrecover : ∀ e f, Codeless (recover e f)) :
    (stabilize isStabilized backoff recover resourceType).Codeless := by
  intro e
  refine (Raises.contextOf _).bind fun c => Raises.now.bind fun t => Raises.bind ?_ fun ref =>
    Raises.bind (.lift (Backoff.codeless_isExpired _ _ _)) fun expired => ?_
  · unfold keepStart
    split
    · exact raises_setField _ _ _
    · exact .pure _
  · split
    · exact Raises.bind (.lift (Number.codeless_whole _)) fun _ => .pure _
    · refine (Raises.attempt _).bind fun answer => ?_
      split
      · exact .lift (hrecover _ _)
      · exact .pure _
      · exact Raises.bind (.lift (Number.codeless_whole _)) fun _ => .pure _

theorem codeless_updateTags (previous desired : TagSet) {rules : Option RuleSet}
    {arnField : String} {fetchArn : Step} (hrules : ∀ e f, Codeless (Event.ofFault rules e f))
    (hfetch : fetchArn.Codeless) :
    (updateTags previous desired rules arnField fetchArn).Codeless := by
  have hchange : (changeTags (TagSet.diff previous desired).1 (TagSet.diff previous desired).2
      rules arnField).Codeless := by
    refine fun e => (raises_field _ _).bind fun arn => (Raises.attempt _).bind fun answer => ?_
    split
    · exact .lift (hrules _ _)
    · exact .pure _
  intro e
  unfold updateTags
  dsimp only
  split
  · exact .pure _
  · refine (raises_field _ _).bind fun arn => ?_
    split
    · refine (hfetch e).bind (raises_chain fun step h => ?_)
      obtain rfl := List.mem_singleton.1 h
      exact hchange
    · exact hchange e

theorem Tags.codeless_ofMap (v : Value) : Codeless (Tags.ofMap v) :=
  (Value.codeless_spread v).bind fun _ => .ok _

theorem TagSources.codeless_all (tags : TagSources) : Codeless tags.all :=
  (Tags.codeless_ofMap _).bind fun _ => (Tags.codeless_ofMap _).bind fun _ => .ok _

theorem TagSources.codeless_withoutSystem (tags : TagSources) : Codeless tags.withoutSystem :=
  (Tags.codeless_ofMap _).bind fun _ => .ok _

/-! ## Requests -/

theorem codeless_readTag (tag : Value) : Codeless (readTag tag) :=
  (Value.codeless_require _ _).bind fun key => (Value.codeless_get _ _).bind fun _ =>
    (Value.codeless_checkKey key).bind fun _ => .ok _

theorem Request.codeless_modelTags (model : Value) : Codeless (modelTags model) := by
  refine (Value.codeless_get _ _).bind fun tags => .ite ?_ (.ok _)
  exact (Value.codeless_iterate _).bind fun items =>
    (Codeless.mapM codeless_readTag items).bind fun _ => .ok _

theorem Request.codeless_desiredTags (r : Request) (model : Value) :
    Codeless (r.desiredTags model) := (codeless_modelTags model).bind fun _ => .ok _

theorem Request.codeless_previousTags (r : Request) (previous : Value) :
    Codeless (r.previousTags previous) := (codeless_modelTags previous).bind fun _ => .ok _

theorem codeless_lacksName (v : Value) : Codeless (lacksName v) := by
  unfold lacksName
  split
  · exact .ok _
  · exact .ok _
  · exact .error rfl

theorem codeless_seedOf (seed : Value) : Codeless (seedOf seed) := by
  unfold seedOf
  split
  · refine Codeless.bind ?_ fun _ => .ok _
    unfold requireUtf8
    dsimp only
    split
    · exact .ok _
    · exact .error rfl
  · exact .error rfl

theorem IdentifierFactory.codeless_newIdentifierFor (f : IdentifierFactory)
    (stackId logicalId token : Value) : Codeless (f.newIdentifierFor stackId logicalId token) := by
  have hseed : ∀ stack, Codeless (do
      let seed ← seedOf token
      return f.newIdentifier stack (if logicalId.truthy then some logicalId.display else none)
        seed) := fun _ => (codeless_seedOf token).bind fun _ => .ok _
  cases stackId with
  | text s => exact hseed (some s)
  | _ =>
    simp only [newIdentifierFor]
    split
    · exact .error rfl
    · exact hseed none

/-! ## The provider of integrations -/

namespace Integration

variable {s : Settings}

theorem codeless_recover (e : Event) (f : Fault) : Codeless (recover s e f) :=
  Event.codeless_ofFault (codeless_classify s.callbackDelay) e f

theorem codeless_identifier (v : Value) : Codeless (identifier v) :=
  (Value.codeless_get _ _).bind fun _ => (Value.codeless_get _ _).bind fun _ => .ok _

theorem codeless_identifyRequest (v : Value) : Codeless (identifyRequest v) :=
  (codeless_identifier v).bind fun _ => .ok _

theorem codeless_modelOf (v : Value) : Codeless (modelOf v) :=
  (Value.codeless_entriesFor _ _).bind fun _ => (Value.codeless_get _ _).bind fun _ => .ok _

theorem codeless_firstModelOf (response : Value) : Codeless (firstModelOf response) :=
  (Value.codeless_get _ _).bind fun _ =>
    .ite ((Value.codeless_first _).bind codeless_modelOf) (.ok _)

theorem codeless_modifyRequest (previous desired : Value) :
    Codeless (modifyRequest previous desired) := by
  refine (codeless_identifier _).bind fun _ => Codeless.bind ?_ fun _ => .ok _
  refine Codeless.bind (.mapM (fun key => ?_) _) fun _ => .ok _
  refine (Value.codeless_occursIn _ _).bind fun occurs => .ite ?_ (.ok _)
  exact (Value.codeless_get _ _).bind fun value => (Value.codeless_get _ _).bind fun before =>
    .ite (.ok _) (.ok _)

theorem codeless_requireUnchanged (type : String) (keys : List String) (model previous : Value) :
    Codeless (requireUnchanged type keys model previous) := by
  have hdiffering : Codeless (differing keys model previous) :=
    .filterM (fun key => (Value.codeless_get _ _).bind fun _ =>
      (Value.codeless_get _ _).bind fun _ => .ok _) keys
  exact hdiffering.bind fun changed => .ite (.ok _) (.error rfl)

theorem codeless_inherit (previous model : Value) (key : String) :
    Codeless (inherit previous model key) :=
  (Value.codeless_get _ _).bind fun _ => .ite (.ok _)
    ((Value.codeless_get _ _).bind fun _ => .ite (Value.codeless_set _ _ _) (.ok _))

theorem codeless_createRequest (tags : TagSet) (v : Value) : Codeless (createRequest v tags) :=
  (Value.codeless_get _ _).bind fun _ => (Value.codeless_get _ _).bind fun _ =>
  (Value.codeless_get _ _).bind fun _ => (Value.codeless_get _ _).bind fun _ =>
  (Value.codeless_get _ _).bind fun _ => (Value.codeless_get _ _).bind fun _ =>
  (Value.codeless_get _ _).bind fun _ => .ok _

theorem codeless_nameStep {r : Request} : (nameStep r).Codeless := by
  refine fun e => Raises.bind (.lift (Value.codeless_get _ _)) fun name =>
    Raises.bind (.lift (codeless_lacksName _)) fun lacks => ?_
  split
  · exact Raises.bind (.lift (names.codeless_newIdentifierFor _ _ _)) fun _ =>
      Raises.bind (.lift (Value.codeless_set _ _ _)) fun _ =>
        (Raises.modify _).bind fun _ => .pure _
  · exact .pure _

theorem codeless_created (response : Value) : (created s response).Codeless := fun _ =>
  Raises.bind (.lift (Value.codeless_get _ _)) fun _ => (raises_setField _ _ _).bind fun _ =>
    Raises.bind (.lift (Value.codeless_set _ _ _)) fun _ => .pure _

theorem codeless_rememberArn : Step.Codeless rememberArn := by
  intro e
  refine (raises_field _ _).bind fun known => ?_
  split
  · refine Raises.bind (.lift (Value.codeless_get _ _)) fun arn => ?_
    split
    · exact (raises_setField _ _ _).bind fun _ => .pure _
    · exact .pure _
  · exact .pure _

theorem codeless_createTagged (tags : TagSources) : (createTagged s tags).Codeless := fun e =>
  Raises.bind (.lift tags.codeless_all) fun all => codeless_createWithTaggingFallback
    (fun tags => codeless_serviceCall (codeless_createRequest tags) codeless_recover
      codeless_created) all e

theorem codeless_fetchArn : (fetchArn s).Codeless := by
  refine codeless_serviceCall codeless_identifyRequest codeless_recover fun response e => ?_
  refine Raises.bind (.lift (codeless_firstModelOf response)) fun integration => ?_
  split
  · exact Raises.bind (.lift (codeless_identifier _)) fun _ => .pure _
  · exact Raises.bind (.lift (Value.codeless_require _ _)) fun _ =>
      (raises_setField _ _ _).bind fun _ => .pure _

theorem codeless_tagStep {previous desired : Except Fault TagSet} (hprevious : Codeless previous)
    (hdesired : Codeless desired) : (tagStep s previous desired).Codeless := fun e =>
  Raises.bind (.lift hprevious) fun previous => Raises.bind (.lift hdesired) fun desired =>
    codeless_updateTags previous desired codeless_recover codeless_fetchArn e

theorem codeless_modifyStep (before : Value) : (modifyStep s before).Codeless := fun e =>
  Raises.bind (.lift (codeless_modifyRequest _ _)) fun request => by
    split
    · exact .pure _
    · exact codeless_serviceCall (fun _ => .ok _) codeless_recover (fun _ _ => .pure _) e

theorem codeless_stabilizeStep : (stabilizeStep s).Codeless := codeless_stabilize codeless_recover

theorem codeless_readStep : (readStep s).Codeless := by
  refine fun e => (Raises.attempt _).bind fun answer => ?_
  split
  · exact .lift (codeless_recover _ _)
  · exact Raises.bind (.lift (codeless_modelOf _)) fun _ => .pure _

end Integration

end Provisioning
