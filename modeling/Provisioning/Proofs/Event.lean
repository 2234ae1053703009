import Provisioning.Integration.Provider
import Provisioning.ParameterGroup.Provider
import Provisioning.Proofs.ErrorRules
import Provisioning.Proofs.Handler

/-!
# Which events steps end in

Only an event in progress without a positive delay lets the next step run. A fault of an
integration fails the operation or asks for a retry, and a fault of a parameter group fails it
(`Integration.recover_cases`, `ParameterGroup.recover_cases`); a fault without a code of the
service fails it in any case.

During an invocation an event refers to the context of the invocation, unless it reports success
(`Event.InSession`): `x.Returns Event.InSession` says so of the events that the handler `x`
returns.
-/

set_option autoImplicit false

namespace Provisioning

/-! ## Outcomes -/

namespace Event

variable {e e' : Event}

theorem outcome_eq_proceed (h : e.outcome = .ok .proceed) :
    e.status = .inProgress ∧ e.delay.isPositive = .ok false := by
  unfold outcome at h
  split at h
  · cases h
  · rename_i hs
    refine ⟨by simpa using hs, ?_⟩
    obtain ⟨b, hb, h⟩ := bind_eq_ok.1 h
    cases b with
    | false => exact hb
    | true => cases h

theorem outcome_defer {model delay : Value} {context : ContextRef} {code : Option ErrorCode}
    (hd : delay.isPositive = .ok true) :
    (defer model context delay code).outcome = .ok .suspend := by
  simp [outcome, defer, hd, bind, pure, Except.bind, Except.pure]

/-- The event for a fault refers to the context that the event before it refers to. -/
theorem context_of_ofFault {rules : Option RuleSet} {f : Fault} (h : ofFault rules e f = .ok e') :
    e'.context = e.context := by
  cases rules with
  | none => cases h; rfl
  | some rules =>
    obtain ⟨verdict, -, h⟩ := bind_eq_ok.1 h
    cases verdict <;> cases h <;> rfl

/-- An event refers to the context of the invocation, or reports success without a context. -/
def InSession (e : Event) : Prop :=
  e.context = .session ∨ e.status = .success ∧ e.context = .none

theorem InSession.session (h : e.InSession) (hs : e.status = .inProgress) :
    e.context = .session := by
  rcases h with h | ⟨h, -⟩
  · exact h
  · rw [hs] at h; cases h

@[simp] theorem settle_status (e : Event) (c : Context) : (e.settle c).status = e.status := by
  unfold settle; split <;> rfl

@[simp] theorem settle_model (e : Event) (c : Context) : (e.settle c).model = e.model := by
  unfold settle; split <;> rfl

theorem settle_context (h : e.context = .session) (c : Context) :
    (e.settle c).context = .own c := by
  unfold settle; rw [h]

end Event

theorem Integration.recover_cases {s : Settings} {e e' : Event} {f : Fault}
    (h : Integration.recover s e f = .ok e') :
    (∃ code, e' = .failed e.model e.context code f.message) ∨
      e' = .defer e.model e.context s.callbackDelay (some .throttling) ∧
        f.serviceCode.isNull = false := by
  obtain ⟨verdict, hv, h⟩ := bind_eq_ok.1 h
  rcases Integration.classify_cases hv with ⟨code, rfl⟩ | ⟨rfl, hnull⟩
  · exact .inl ⟨code, (pure_eq_ok.1 h).symm⟩
  · exact .inr ⟨(pure_eq_ok.1 h).symm, hnull⟩

theorem Integration.classify_of_recover {s : Settings} {e e' : Event} {f : Fault}
    (h : Integration.recover s e f = .ok e') (hs : e'.status ≠ .failed) :
    (Integration.rules s.callbackDelay).classify f = .ok (.retry s.callbackDelay) := by
  obtain ⟨verdict, hv, h⟩ := bind_eq_ok.1 h
  rcases Integration.classify_cases hv with ⟨code, rfl⟩ | ⟨rfl, -⟩
  · obtain rfl := pure_eq_ok.1 h
    exact absurd rfl hs
  · exact hv

/-- A handler fault that fails with its own code is reported with it. -/
theorem Event.ofFault_handler {rules : RuleSet} {fault : HandlerFault}
    (h : rules.classify (.handler fault) = .ok (.failWith fault.code)) (e : Event) :
    ofFault (some rules) e (.handler fault) =
      .ok (.failed e.model e.context fault.code (Fault.message (.handler fault))) :=
  bind_eq_ok.2 ⟨_, h, rfl⟩

/-- A failure with a message of its own keeps it. -/
theorem Event.message_failed {model : Value} {context : ContextRef} {code : ErrorCode}
    {text : String} (h : text ≠ "") :
    (failed model context code (.text text)).message = .text text :=
  Value.orElse_text h

/-- A fault does not complete a step. -/
theorem Integration.not_completes_of_recover {s : Settings} {e e' : Event} {f : Fault}
    (h : Integration.recover s e f = .ok e') : e'.completes = false := by
  rcases recover_cases h with ⟨code, rfl⟩ | ⟨rfl, -⟩ <;> rfl

theorem ParameterGroup.recover_cases {e e' : Event} {f : Fault}
    (h : ParameterGroup.recover e f = .ok e') :
    ∃ code, e' = .failed e.model e.context code f.message := by
  obtain ⟨verdict, hv, h⟩ := bind_eq_ok.1 h
  obtain ⟨code, rfl⟩ := ParameterGroup.classify_cases hv
  exact ⟨code, (pure_eq_ok.1 h).symm⟩

/-! ## Chains -/

open Handler

/-- Started with an event of the invocation, a step returns such events. -/
def Step.StaysInSession (step : Step) : Prop :=
  ∀ e : Event, e.context = .session → (step e).Returns Event.InSession

section
variable {step : Step}

theorem returns_chain {steps : List Step} (hsteps : ∀ step ∈ steps, Step.StaysInSession step)
    {e : Event} (he : e.InSession) : (chain e steps).Returns Event.InSession := by
  induction steps generalizing e with
  | nil => exact .pure he
  | cons step steps ih =>
    refine Returns.bind_of (P := (e.outcome = .ok ·)) (.lift fun _ h => h) fun o ho => ?_
    cases o with
    | proceed =>
      have hs := he.session (Event.outcome_eq_proceed ho).1
      exact Returns.bind_of (hsteps step List.mem_cons_self e hs) fun e' he' =>
        ih (fun step h => hsteps step (List.mem_cons_of_mem _ h)) he'
    | suspend => exact .pure he
    | terminal => exact .pure he

theorem returns_markDone (flag : String) {progress result : Event} (hr : result.InSession) :
    (markDone flag progress result).Returns Event.InSession := by
  unfold markDone
  split
  · exact .bind fun _ => .pure hr
  · rename_i hne
    rcases hr with hr | ⟨-, hr⟩
    · rw [hr]
      exact .bind_of (.setField_session _ _) fun ref href => .pure (.inl href)
    · exact absurd hr hne

theorem staysInSession_executeOnce (flag : String) (hstep : step.StaysInSession) :
    (executeOnce flag step).StaysInSession := by
  intro e he
  refine .bind fun v => ?_
  split
  · exact .pure (.inl he)
  · refine .bind_of (hstep e he) fun result hresult => ?_
    split
    · exact returns_markDone flag hresult
    · exact .pure hresult

theorem staysInSession_goOn (v : Value) : (goOn v).StaysInSession := fun _ he => .pure (.inl he)

theorem staysInSession_serviceCall {operation : String}
    {request : Value → Except Fault (Entries String Value)} {recover : Recovery}
    (hrecover : ∀ e f e', recover e f = .ok e' → e'.context = e.context)
    {done : Value → Step} (hdone : ∀ v, (done v).StaysInSession) :
    (serviceCall operation request recover done).StaysInSession := by
  intro e he
  refine .bind fun arguments => .bind fun answer => ?_
  cases answer with
  | error f => exact .lift fun e' h => .inl ((hrecover e f e' h).trans he)
  | ok v => exact hdone v e he

theorem staysInSession_safeCreate {probe : Value → Handler Value} {create : Step}
    {probing : Bool} (hcreate : create.StaysInSession) :
    (safeCreate probe create probing).StaysInSession := by
  intro e he
  refine .bind fun existing => ?_
  split
  · exact hcreate e he
  · exact .bind fun _ => .bind fun _ => .pure (.inl he)

theorem staysInSession_poll {isStabilized : Value → Handler Bool} {backoff : Backoff}
    {recover : Recovery} (hrecover : ∀ e f e', recover e f = .ok e' → e'.context = e.context) :
    (poll isStabilized backoff recover).StaysInSession := by
  intro e he
  refine .bind fun answer => ?_
  split
  · exact .lift fun e' h => .inl ((hrecover e _ e' h).trans he)
  · exact .pure (.inl he)
  · exact .bind fun _ => .pure (.inl he)

theorem staysInSession_stabilize {isStabilized : Value → Handler Bool} {backoff : Backoff}
    {recover : Recovery} {resourceType : String}
    (hrecover : ∀ e f e', recover e f = .ok e' → e'.context = e.context) :
    (stabilize isStabilized backoff recover resourceType).StaysInSession := by
  intro e he
  refine .bind fun c => .bind fun t => Returns.bind_of (P := (· = .session)) ?_ fun ref href =>
    .bind fun expired => ?_
  · unfold keepStart
    rw [he]
    split
    · exact .setField_session _ _
    · exact .pure rfl
  · split
    · exact .bind fun _ => .pure (.inl href)
    · exact staysInSession_poll hrecover _ href

theorem staysInSession_changeTags (toRemove toAdd : TagSet) (rules : Option RuleSet)
    (arnField : String) : (changeTags toRemove toAdd rules arnField).StaysInSession := by
  intro e he
  refine .bind fun arn => .bind fun answer => ?_
  split
  · exact .lift fun e' h => .inl ((Event.context_of_ofFault h).trans he)
  · exact .pure (.inl he)

theorem staysInSession_updateTags (previous desired : TagSet) (rules : Option RuleSet)
    (arnField : String) {fetchArn : Step} (hfetch : fetchArn.StaysInSession) :
    (updateTags previous desired rules arnField fetchArn).StaysInSession := by
  have hchange := staysInSession_changeTags (TagSet.diff previous desired).1
    (TagSet.diff previous desired).2 rules arnField
  intro e he
  unfold updateTags
  dsimp only
  split
  · exact .pure (.inl he)
  · refine .bind fun arn => ?_
    split
    · refine .bind_of (hfetch e he) fun e' he' => returns_chain (fun step h => ?_) he'
      obtain rfl := List.mem_singleton.1 h
      exact hchange
    · exact hchange e he

theorem staysInSession_createWithTaggingFallback {create : TagSet → Step}
    (hcreate : ∀ tags, (create tags).StaysInSession) (tags : TagSet) :
    (createWithTaggingFallback create tags).StaysInSession := by
  intro e he
  refine .bind_of (hcreate tags e he) fun result hresult => ?_
  split
  · exact hcreate _ e he
  · exact .pure hresult

end

end Provisioning
