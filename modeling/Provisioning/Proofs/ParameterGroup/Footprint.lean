import Provisioning.ParameterGroup.Provider
import Provisioning.Proofs.Integration.Footprint

/-!
# What the provider of parameter groups leaves alone

The operations that each action of the provider may ask for (`within_act`), and that its steps
return events of the invocation (`returns_act`).
-/

set_option autoImplicit false

namespace Provisioning.ParameterGroup

open Handler
open Integration (within_listed staysInSession_listed)

variable {ops : List String} {s : Settings} {r : Request}

/-! ## Operations -/

theorem within_describe (hop : "describe_db_parameter_groups" ∈ ops) (model : Value) :
    (describe model).Within ops :=
  (Within.lift _).bind fun _ => (Within.lift _).bind fun _ => within_lookUp hop _ _ _ _

theorem within_describeWithTags (hdescribe : "describe_db_parameter_groups" ∈ ops)
    (htags : "list_tags_for_resource" ∈ ops) (model : Value) :
    (describeWithTags model).Within ops :=
  (within_describe hdescribe model).bind fun _ => (Within.lift _).bind fun _ =>
    (Within.call htags _).bind fun _ => .pure _

/-- The operations that read a parameter group. -/
def readOperations : List String := ["describe_db_parameter_groups", "list_tags_for_resource"]

theorem within_readStep (hops : ∀ op ∈ readOperations, op ∈ ops) (e : Event) :
    (readStep e).Within ops := by
  refine (within_describeWithTags (hops _ (by simp [readOperations]))
    (hops _ (by simp [readOperations])) _).attempt.bind fun answer => ?_
  split
  · exact .lift _
  · exact (Within.lift _).bind fun _ => (Within.lift _).bind fun _ => (Within.lift _).bind fun _ =>
      (Within.lift _).bind fun _ => (Within.lift _).bind fun _ => .pure _

/-- The operations that change parameters. -/
def parameterOperations : List String :=
  ["describe_db_parameters", "reset_db_parameter_group", "modify_db_parameter_group"]

theorem within_changeCall {operation : String} (hop : operation ∈ ops) (groupName : Value)
    (parameters : Except Fault (List Value)) :
    (changeCall operation groupName parameters).Within ops :=
  (Within.lift _).bind fun _ => (Within.call hop _).bind fun _ => .pure _

theorem within_changeParameters (hops : ∀ op ∈ parameterOperations, op ∈ ops)
    (groupName previous desired : Value) :
    (changeParameters groupName previous desired).Within ops := by
  refine ((Within.pages (hops _ (by simp [parameterOperations])) _).bind fun _ =>
    Within.lift _).bind fun current => (Within.lift _).bind fun _ =>
      (Within.lift _).bind fun reset => (Within.lift _).bind fun modify =>
        Within.bind ?_ fun _ => ?_
  · exact .forM fun names => within_changeCall (hops _ (by simp [parameterOperations])) _ _
  · exact .forM fun parameters => within_changeCall (hops _ (by simp [parameterOperations])) _ _

theorem within_parameterStep (hops : ∀ op ∈ parameterOperations, op ∈ ops)
    (previous desired : Value) (e : Event) : (parameterStep previous desired e).Within ops := by
  unfold parameterStep
  split
  · exact .pure _
  · refine (Within.lift _).bind fun name =>
      (within_changeParameters hops _ _ _).attempt.bind fun answer => ?_
    split
    · exact .lift _
    · exact .pure _

theorem within_fetchArn (hop : "describe_db_parameter_groups" ∈ ops) (e : Event) :
    (fetchArn e).Within ops := by
  refine (within_describe hop _).attempt.bind fun answer => ?_
  split
  · exact .lift _
  · exact (Within.lift _).bind fun _ =>
      (Within.setField _ (fun h => absurd h (by decide)) (by decide)).bind fun _ => .pure _

theorem within_tagStep (hops : ∀ op ∈ tagOperations, op ∈ ops)
    (hdescribe : "describe_db_parameter_groups" ∈ ops) (previous desired : Except Fault TagSet)
    (e : Event) : (tagStep previous desired e).Within ops :=
  (Within.lift _).bind fun _ => (Within.lift _).bind fun _ =>
    within_updateTags hops _ _ _ _ (within_fetchArn hdescribe) e

theorem within_fillName : (fillName r).Within ops := by
  refine Within.model.bind fun m => (Within.lift _).bind fun name =>
    (Within.lift _).bind fun lacks => ?_
  split
  · exact (Within.lift _).bind fun _ => Within.model.bind fun _ => (Within.lift _).bind fun _ =>
      .setModel _
  · exact .pure _

theorem within_created (response : Value) (e : Event) : (created response e).Within ops :=
  (Within.lift _).bind fun _ => (Within.lift _).bind fun _ =>
    (Within.setField _ (fun h => absurd h (by decide)) (by decide)).bind fun _ => .pure _

theorem within_createTagged (hop : "create_db_parameter_group" ∈ ops) (tags : TagSources)
    (e : Event) : (createTagged tags e).Within ops :=
  (Within.lift _).bind fun _ =>
    within_createWithTaggingFallback (fun _ => within_serviceCall hop within_created) _ e

theorem within_probe (hop : "describe_db_parameter_groups" ∈ ops) (context : ContextRef)
    (model : Value) : (probe context model).Within ops := by
  refine (within_describe hop model).bind fun group => (Within.lift _).bind fun arn =>
    Within.bind ?_ fun _ => .lift _
  unfold keepArn
  split
  · exact (Within.setField _ (fun h => absurd h (by decide)) (by decide)).bind fun _ => .pure _
  · exact .pure _

theorem within_createStep (hdescribe : "describe_db_parameter_groups" ∈ ops)
    (hcreate : "create_db_parameter_group" ∈ ops) (tags : TagSources) (e : Event) :
    (createStep s tags e).Within ops :=
  within_safeCreate (within_probe hdescribe _) (within_createTagged hcreate tags) e

/-- The operations that an action may ask for. -/
def actOperations : Action → List String
  | .create => "create_db_parameter_group" :: parameterOperations ++ tagOperations ++ readOperations
  | .read => readOperations
  | .update => parameterOperations ++ tagOperations ++ readOperations
  | .delete => ["delete_db_parameter_group"]
  | .list => ["describe_db_parameter_groups"]

theorem within_create : (create s r).Within (actOperations .create) := by
  have hread : ∀ op ∈ readOperations, op ∈ actOperations .create := by
    simp +contextual [actOperations]
  have htags : ∀ op ∈ tagOperations, op ∈ actOperations .create := by
    simp +contextual [actOperations]
  have hparameters : ∀ op ∈ parameterOperations, op ∈ actOperations .create := by
    simp +contextual [actOperations]
  have hdescribe := hread "describe_db_parameter_groups" (by simp [readOperations])
  refine Within.model.bind fun m => (Within.lift _).bind fun tags => within_fillName.bind fun _ =>
    Within.model.bind fun m' => within_chain (List.forall_mem_cons.2 ⟨?_,
      List.forall_mem_cons.2 ⟨?_, List.forall_mem_cons.2 ⟨?_, List.forall_mem_cons.2 ⟨?_,
        by simp⟩⟩⟩⟩) _
  · exact within_executeOnce _ (within_createStep hdescribe (by simp [actOperations]) tags)
  · exact within_executeOnce _ (within_tagStep htags hdescribe _ _)
  · exact within_executeOnce _ fun e => (Within.lift _).bind fun _ =>
      within_parameterStep hparameters _ _ e
  · exact within_readStep hread

theorem within_update : (update r).Within (actOperations .update) := by
  have hread : ∀ op ∈ readOperations, op ∈ actOperations .update := by
    simp +contextual [actOperations]
  have htags : ∀ op ∈ tagOperations, op ∈ actOperations .update := by
    simp +contextual [actOperations]
  have hparameters : ∀ op ∈ parameterOperations, op ∈ actOperations .update := by
    simp +contextual [actOperations]
  have hdescribe := hread "describe_db_parameter_groups" (by simp [readOperations])
  refine Within.model.bind fun m => (Within.lift _).bind fun m' => (Within.setModel _).bind fun _ =>
    Within.model.bind fun m'' => (Within.lift _).bind fun _ => (Within.lift _).bind fun _ =>
      (Within.lift _).bind fun _ => within_chain (List.forall_mem_cons.2 ⟨?_,
        List.forall_mem_cons.2 ⟨?_, List.forall_mem_cons.2 ⟨?_, by simp⟩⟩⟩) _
  · exact within_executeOnce _ fun e => (Within.lift _).bind fun _ => (Within.lift _).bind fun _ =>
      within_parameterStep hparameters _ _ e
  · exact within_executeOnce _ (within_tagStep htags hdescribe _ _)
  · exact within_readStep hread

theorem within_delete : delete.Within (actOperations .delete) :=
  Within.model.bind fun m => within_chain (List.forall_mem_cons.2
    ⟨within_serviceCall (by simp [actOperations]) within_goOn,
      List.forall_mem_cons.2 ⟨fun _ => .pure _, by simp⟩⟩) _

/-- An action asks for nothing but its own operations. -/
theorem within_act : ((provider s).act r).Within (actOperations r.action) := by
  refine (Within.lift _).bind fun _ => ?_
  cases r.action with
  | create => exact within_create
  | read => exact Within.model.bind fun m => within_readStep (fun _ h => h) _
  | update => exact within_update
  | delete => exact within_delete
  | list => exact within_serviceCall (by simp [actOperations]) (within_listed _ _) _

/-! ## Events -/

theorem context_of_recover {e e' : Event} {f : Fault} (h : recover e f = .ok e') :
    e'.context = e.context := Event.context_of_ofFault h

theorem staysInSession_readStep : Step.StaysInSession readStep := by
  intro e he
  refine .bind fun answer => ?_
  split
  · exact .lift fun e' h => .inl ((context_of_recover h).trans he)
  · exact .bind fun _ => .bind fun _ => .bind fun _ => .bind fun _ => .bind fun _ =>
      .pure (.inr ⟨rfl, rfl⟩)

theorem staysInSession_parameterStep (previous desired : Value) :
    (parameterStep previous desired).StaysInSession := by
  intro e he
  unfold parameterStep
  split
  · exact .pure (.inl he)
  · refine .bind fun name => .bind fun answer => ?_
    split
    · exact .lift fun e' h => .inl ((context_of_recover h).trans he)
    · exact .pure (.inl he)

theorem staysInSession_fetchArn : Step.StaysInSession fetchArn := by
  intro e he
  refine .bind fun answer => ?_
  split
  · exact .lift fun e' h => .inl ((context_of_recover h).trans he)
  · refine .bind fun arn => ?_
    rw [he]
    exact .bind_of (.setField_session _ _) fun ref href => .pure (.inl href)

theorem staysInSession_tagStep (previous desired : Except Fault TagSet) :
    (tagStep previous desired).StaysInSession := fun e he =>
  .bind fun _ => .bind fun _ => staysInSession_updateTags _ _ _ _ staysInSession_fetchArn e he

theorem staysInSession_created (response : Value) : (created response).StaysInSession := by
  intro e he
  refine .bind fun group => .bind fun arn => ?_
  rw [he]
  exact .bind_of (.setField_session _ _) fun ref href => .pure (.inl href)

theorem staysInSession_createStep (tags : TagSources) : (createStep s tags).StaysInSession :=
  fun e he => staysInSession_safeCreate (fun e he => .bind fun _ =>
    staysInSession_createWithTaggingFallback (fun _ => staysInSession_serviceCall
      (fun _ _ _ => context_of_recover) staysInSession_created) _ e he) e he

theorem returns_create : (create s r).Returns Event.InSession :=
  .bind fun m => .bind fun tags => .bind fun _ => .bind fun m' => returns_chain
    (List.forall_mem_cons.2 ⟨staysInSession_executeOnce _ (staysInSession_createStep tags),
      List.forall_mem_cons.2 ⟨staysInSession_executeOnce _ (staysInSession_tagStep _ _),
      List.forall_mem_cons.2 ⟨staysInSession_executeOnce _ fun e he => .bind fun _ =>
        staysInSession_parameterStep _ _ e he,
      List.forall_mem_cons.2 ⟨staysInSession_readStep, by simp⟩⟩⟩⟩) (.inl rfl)

theorem returns_update : (update r).Returns Event.InSession :=
  .bind fun m => .bind fun m' => .bind fun _ => .bind fun m'' => .bind fun _ => .bind fun _ =>
    .bind fun _ => returns_chain
      (List.forall_mem_cons.2 ⟨staysInSession_executeOnce _ fun e he => .bind fun _ =>
          .bind fun _ => staysInSession_parameterStep _ _ e he,
        List.forall_mem_cons.2 ⟨staysInSession_executeOnce _ (staysInSession_tagStep _ _),
        List.forall_mem_cons.2 ⟨staysInSession_readStep, by simp⟩⟩⟩) (.inl rfl)

theorem returns_delete : delete.Returns Event.InSession :=
  .bind fun m => returns_chain
    (List.forall_mem_cons.2 ⟨staysInSession_serviceCall (fun _ _ _ => context_of_recover)
        staysInSession_goOn,
      List.forall_mem_cons.2 ⟨fun _ _ => .pure (.inr ⟨rfl, rfl⟩), by simp⟩⟩) (.inl rfl)

/-- The events of an action refer to the context of the invocation. -/
theorem returns_act : ((provider s).act r).Returns Event.InSession := by
  refine .bind fun _ => ?_
  cases r.action with
  | create => exact returns_create
  | read => exact .bind fun m => staysInSession_readStep _ rfl
  | update => exact returns_update
  | delete => exact returns_delete
  | list =>
    exact staysInSession_serviceCall (fun _ _ _ => context_of_recover)
      (staysInSession_listed _ _) _ rfl

end Provisioning.ParameterGroup
