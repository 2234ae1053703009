import Provisioning.Integration.Provider
import Provisioning.Proofs.Event
import Provisioning.Proofs.Footprint

/-!
# What the provider of integrations leaves alone

The operations that each action of the provider may ask for (`within_act`), and that its steps
return events of the invocation (`returns_act`).
-/

set_option autoImplicit false

namespace Provisioning.Integration

open Handler

variable {ops : List String} {s : Settings} {r : Request}

/-! ## Operations -/

theorem within_describe (hop : "describe_integrations" ∈ ops) (model : Value) :
    (describe model).Within ops :=
  (Within.lift _).bind fun _ => (Within.lift _).bind fun _ => within_lookUp hop _ _ _ _

theorem within_readStep (hop : "describe_integrations" ∈ ops) (e : Event) :
    (readStep s e).Within ops := by
  refine (within_describe hop _).attempt.bind fun answer => ?_
  split
  · exact .lift _
  · exact (Within.lift _).bind fun _ => .pure _

theorem within_nameStep (e : Event) : (nameStep r e).Within ops := by
  refine (Within.lift _).bind fun name => (Within.lift _).bind fun lacks => ?_
  split
  · exact (Within.lift _).bind fun _ => (Within.lift _).bind fun _ =>
      (Within.setModel _).bind fun _ => .pure _
  · exact .pure _

theorem within_created (response : Value) (e : Event) : (created s response e).Within ops :=
  (Within.lift _).bind fun _ =>
    (Within.setField _ (fun h => absurd h (by decide)) (by decide)).bind fun _ =>
      (Within.lift _).bind fun _ => .pure _

theorem within_createTagged (hop : "create_integration" ∈ ops) (tags : TagSources) (e : Event) :
    (createTagged s tags e).Within ops :=
  (Within.lift _).bind fun _ =>
    within_createWithTaggingFallback (fun _ => within_serviceCall hop within_created) _ e

theorem within_probe (hop : "describe_integrations" ∈ ops) (model : Value) :
    (probe model).Within ops := (within_describe hop model).bind fun _ => .lift _

theorem within_rememberArn (e : Event) : (rememberArn e).Within ops := by
  refine (Within.field _ _).bind fun known => ?_
  split
  · refine (Within.lift _).bind fun arn => ?_
    split
    · exact (Within.setField _ (fun h => absurd h (by decide)) (by decide)).bind fun _ => .pure _
    · exact .pure _
  · exact .pure _

theorem within_createStep (hdescribe : "describe_integrations" ∈ ops)
    (hcreate : "create_integration" ∈ ops) (tags : TagSources) (e : Event) :
    (createStep s tags e).Within ops :=
  (within_safeCreate (within_probe hdescribe) (within_createTagged hcreate tags) e).bind
    within_rememberArn

theorem within_fetchArn (hop : "describe_integrations" ∈ ops) (e : Event) :
    (fetchArn s e).Within ops := by
  refine within_serviceCall hop (fun response e => ?_) e
  refine (Within.lift _).bind fun integration => ?_
  split
  · exact (Within.lift _).bind fun _ => .pure _
  · exact (Within.lift _).bind fun _ =>
      (Within.setField _ (fun h => absurd h (by decide)) (by decide)).bind fun _ => .pure _

theorem within_tagStep (hops : ∀ op ∈ tagOperations, op ∈ ops)
    (hdescribe : "describe_integrations" ∈ ops) (previous desired : Except Fault TagSet)
    (e : Event) : (tagStep s previous desired e).Within ops :=
  (Within.lift _).bind fun _ => (Within.lift _).bind fun _ =>
    within_updateTags hops _ _ _ _ (within_fetchArn hdescribe) e

theorem within_isActive (hop : "describe_integrations" ∈ ops) (model : Value) :
    (isActive model).Within ops :=
  (Within.lift _).bind fun _ => (within_describe hop model).bind fun _ =>
    (Within.lift _).bind fun _ => .lift _

theorem within_isDeleted (hop : "describe_integrations" ∈ ops) (model : Value) :
    (isDeleted model).Within ops := by
  refine (within_describe hop model).attempt.bind fun answer => ?_
  split
  · exact (Within.lift _).bind fun _ => (Within.lift _).bind fun _ => .pure _
  · split
    · exact .pure _
    · exact .throw _

theorem within_modifyStep (hop : "modify_integration" ∈ ops) (previous : Value) (e : Event) :
    (modifyStep s previous e).Within ops := by
  refine (Within.lift _).bind fun request => ?_
  split
  · exact .pure _
  · exact within_serviceCall hop within_goOn e

theorem within_listed (key : String) (modelOf : Value → Except Fault Value) (response : Value)
    (e : Event) : (listed key modelOf response e).Within ops :=
  (Within.lift _).bind fun _ => (Within.lift _).bind fun _ => (Within.lift _).bind fun _ =>
    (Within.lift _).bind fun _ => .pure _

/-- The operations that an action may ask for. -/
def actOperations : Action → List String
  | .create => "describe_integrations" :: "create_integration" :: tagOperations
  | .read => ["describe_integrations"]
  | .update => "describe_integrations" :: "modify_integration" :: tagOperations
  | .delete => ["describe_integrations", "delete_integration"]
  | .list => ["describe_integrations"]

theorem within_create : (create s r).Within (actOperations .create) := by
  have hdescribe : "describe_integrations" ∈ actOperations .create := by simp [actOperations]
  have htags : ∀ op ∈ tagOperations, op ∈ actOperations .create := by
    simp +contextual [actOperations]
  refine Within.model.bind fun m => (Within.lift _).bind fun tags => Within.model.bind fun m' =>
    within_chain (List.forall_mem_cons.2 ⟨within_nameStep, List.forall_mem_cons.2 ⟨?_,
      List.forall_mem_cons.2 ⟨?_, List.forall_mem_cons.2 ⟨?_, List.forall_mem_cons.2 ⟨?_,
        by simp⟩⟩⟩⟩⟩) _
  · exact within_executeOnce _ (within_createStep hdescribe (by simp [actOperations]) tags)
  · exact within_executeOnce _ (within_tagStep htags hdescribe _ _)
  · exact within_stabilize (within_isActive hdescribe)
  · exact within_readStep hdescribe

theorem within_update : (update s r).Within (actOperations .update) := by
  have hdescribe : "describe_integrations" ∈ actOperations .update := by simp [actOperations]
  have htags : ∀ op ∈ tagOperations, op ∈ actOperations .update := by
    simp +contextual [actOperations]
  refine Within.model.bind fun m => (Within.lift _).bind fun _ => Within.model.bind fun m' =>
    (Within.lift _).bind fun m'' => (Within.setModel _).bind fun _ => (Within.lift _).bind
      fun previousTags => Within.model.bind fun m₃ => (Within.lift _).bind fun desiredTags =>
        Within.model.bind fun m₄ => within_chain (List.forall_mem_cons.2 ⟨?_,
          List.forall_mem_cons.2 ⟨?_, List.forall_mem_cons.2 ⟨?_, List.forall_mem_cons.2 ⟨?_,
            by simp⟩⟩⟩⟩) _
  · exact within_executeOnce _ (within_modifyStep (by simp [actOperations]) _)
  · exact within_stabilize (within_isActive hdescribe)
  · exact within_executeOnce _ (within_tagStep htags hdescribe _ _)
  · exact within_readStep hdescribe

theorem within_delete : (delete s).Within (actOperations .delete) := by
  have hdescribe : "describe_integrations" ∈ actOperations .delete := by simp [actOperations]
  refine Within.model.bind fun m => within_chain (List.forall_mem_cons.2 ⟨?_,
    List.forall_mem_cons.2 ⟨?_, List.forall_mem_cons.2 ⟨fun _ => .pure _, by simp⟩⟩⟩) _
  · exact within_executeOnce _ (within_serviceCall (by simp [actOperations]) within_goOn)
  · exact within_stabilize (within_isDeleted hdescribe)

/-- An action asks for nothing but its own operations. -/
theorem within_act : ((provider s).act r).Within (actOperations r.action) := by
  refine (Within.lift _).bind fun _ => ?_
  cases r.action with
  | create => exact within_create
  | read => exact Within.model.bind fun m => within_readStep (by simp [actOperations]) _
  | update => exact within_update
  | delete => exact within_delete
  | list => exact within_serviceCall (by simp [actOperations]) (within_listed _ _) _

/-! ## Events -/

theorem context_of_recover {e e' : Event} {f : Fault} (h : recover s e f = .ok e') :
    e'.context = e.context := Event.context_of_ofFault h

theorem staysInSession_readStep : (readStep s).StaysInSession := by
  intro e he
  refine .bind fun answer => ?_
  split
  · exact .lift fun e' h => .inl ((context_of_recover h).trans he)
  · exact .bind fun _ => .pure (.inr ⟨rfl, rfl⟩)

theorem staysInSession_nameStep : (nameStep r).StaysInSession := by
  intro e he
  refine .bind fun name => .bind fun lacks => ?_
  split
  · exact .bind fun _ => .bind fun _ => .bind fun _ => .pure (.inl he)
  · exact .pure (.inl he)

theorem staysInSession_created (response : Value) : (created s response).StaysInSession := by
  intro e he
  refine .bind fun arn => Returns.bind_of (P := (· = ContextRef.session)) ?_ fun ref href =>
    .bind fun _ => .pure (.inl href)
  rw [he]
  exact .setField_session _ _

theorem staysInSession_createTagged (tags : TagSources) :
    (createTagged s tags).StaysInSession := by
  intro e he
  exact .bind fun tags => staysInSession_createWithTaggingFallback
    (fun _ => staysInSession_serviceCall (fun _ _ _ => context_of_recover)
      staysInSession_created) tags e he

theorem returns_rememberArn {e : Event} (he : e.InSession) :
    (rememberArn e).Returns Event.InSession := by
  rcases he with he | ⟨hs, hc⟩
  · refine .bind fun known => ?_
    split
    · refine .bind fun arn => ?_
      split
      · rw [he]
        exact .bind_of (.setField_session _ _) fun ref href => .pure (.inl href)
      · exact .pure (.inl he)
    · exact .pure (.inl he)
  · -- there is no context to read the field from
    unfold rememberArn field contextOf
    rw [hc]
    exact .bind_of (P := fun _ => False)
      (.bind_of (P := (· = none)) (.pure rfl) fun c hc => by subst hc; exact .throw _)
      fun _ h => h.elim

theorem staysInSession_createStep (tags : TagSources) : (createStep s tags).StaysInSession :=
  fun e he => .bind_of (staysInSession_safeCreate (staysInSession_createTagged tags) e he)
    fun _ => returns_rememberArn

theorem staysInSession_fetchArn : (fetchArn s).StaysInSession := by
  refine staysInSession_serviceCall (fun _ _ _ => context_of_recover) fun response e he => ?_
  refine .bind fun integration => ?_
  split
  · exact .bind fun _ => .pure (.inl he)
  · refine .bind fun arn => ?_
    rw [he]
    exact .bind_of (.setField_session _ _) fun ref href => .pure (.inl href)

theorem staysInSession_tagStep (previous desired : Except Fault TagSet) :
    (tagStep s previous desired).StaysInSession := fun e he =>
  .bind fun _ => .bind fun _ => staysInSession_updateTags _ _ _ _ staysInSession_fetchArn e he

theorem staysInSession_stabilizeStep : (stabilizeStep s).StaysInSession :=
  staysInSession_stabilize fun _ _ _ => context_of_recover

theorem staysInSession_modifyStep (previous : Value) :
    (modifyStep s previous).StaysInSession := by
  intro e he
  refine .bind fun request => ?_
  split
  · exact .pure (.inl he)
  · exact staysInSession_serviceCall (fun _ _ _ => context_of_recover) staysInSession_goOn e he

theorem staysInSession_delete_call :
    (serviceCall "delete_integration" identifyRequest (recover s)).StaysInSession :=
  staysInSession_serviceCall (fun _ _ _ => context_of_recover) staysInSession_goOn

theorem returns_create : (create s r).Returns Event.InSession :=
  .bind fun m => .bind fun tags => .bind fun m' => returns_chain
    (List.forall_mem_cons.2 ⟨staysInSession_nameStep,
      List.forall_mem_cons.2 ⟨staysInSession_executeOnce _ (staysInSession_createStep tags),
      List.forall_mem_cons.2 ⟨staysInSession_executeOnce _ (staysInSession_tagStep _ _),
      List.forall_mem_cons.2 ⟨staysInSession_stabilizeStep,
      List.forall_mem_cons.2 ⟨staysInSession_readStep, by simp⟩⟩⟩⟩⟩) (.inl rfl)

theorem returns_update : (update s r).Returns Event.InSession :=
  .bind fun m => .bind fun _ => .bind fun m' => .bind fun m'' => .bind fun _ => .bind
    fun previousTags => .bind fun m₃ => .bind fun desiredTags => .bind fun m₄ => returns_chain
      (List.forall_mem_cons.2 ⟨staysInSession_executeOnce _ (staysInSession_modifyStep _),
        List.forall_mem_cons.2 ⟨staysInSession_stabilizeStep,
        List.forall_mem_cons.2 ⟨staysInSession_executeOnce _ (staysInSession_tagStep _ _),
        List.forall_mem_cons.2 ⟨staysInSession_readStep, by simp⟩⟩⟩⟩) (.inl rfl)

theorem returns_delete : (delete s).Returns Event.InSession :=
  .bind fun m => returns_chain
    (List.forall_mem_cons.2 ⟨staysInSession_executeOnce _ staysInSession_delete_call,
      List.forall_mem_cons.2 ⟨staysInSession_stabilize fun _ _ _ => context_of_recover,
      List.forall_mem_cons.2 ⟨fun _ _ => .pure (.inr ⟨rfl, rfl⟩), by simp⟩⟩⟩) (.inl rfl)

theorem staysInSession_listed (key : String) (modelOf : Value → Except Fault Value)
    (response : Value) : (listed key modelOf response).StaysInSession := fun _ _ =>
  .bind fun _ => .bind fun _ => .bind fun _ => .bind fun _ => .pure (.inr ⟨rfl, rfl⟩)

/-- The events of an action refer to the context of the invocation. -/
theorem returns_act : ((provider s).act r).Returns Event.InSession := by
  refine .bind fun _ => ?_
  cases r.action with
  | create => exact returns_create
  | read => exact .bind fun m => staysInSession_readStep _ rfl
  | update => exact returns_update
  | delete => exact returns_delete
  | list =>
    exact staysInSession_serviceCall (fun _ _ _ => context_of_recover)
      (staysInSession_listed _ _) _ rfl

end Provisioning.Integration
