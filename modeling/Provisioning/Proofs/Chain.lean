import Provisioning.Proofs.Context
import Provisioning.Proofs.Event

/-!
# What the steps of a chain can do

One case for each way in which a guarded step, a call, a probe, a poll or a change of tags can go,
for a step that starts with an event of the invocation. What a step of a provider does is put
together from these.
-/

set_option autoImplicit false

namespace Provisioning

open Handler

variable {e : Event} {s s' : Session} {h : History} {r : Except Fault Event}

/-! ## Chains -/

/-- A chain ends with the event that it has if that does not let a step run, and goes on with the
next step otherwise. -/
theorem chain_cons_cases {step : Step} {rest : List Step}
    (hy : (chain e (step :: rest)).Yields s h r s') :
    (e.outcome ≠ .ok .proceed ∧ h = [] ∧ s' = s ∧
      ((∃ f, e.outcome = .error f ∧ r = .error f) ∨ r = .ok e)) ∨
    (e.outcome = .ok .proceed ∧
      ((∃ f, (step e).Yields s h (.error f) s' ∧ r = .error f) ∨
        ∃ h₁ e' s₁ h₂, (step e).Yields s h₁ (.ok e') s₁ ∧ (chain e' rest).Yields s₁ h₂ r s' ∧
          h = h₁ ++ h₂)) := by
  unfold chain at hy
  rcases yields_lift_bind.1 hy with ⟨f, hf, rfl, rfl, rfl⟩ | ⟨o, ho, hy⟩
  · exact .inl ⟨by rw [hf]; simp, rfl, rfl, .inl ⟨f, hf, rfl⟩⟩
  · cases o with
    | proceed => exact .inr ⟨ho, yields_bind.1 hy⟩
    | suspend =>
      obtain ⟨rfl, rfl, rfl⟩ := yields_pure.1 hy
      exact .inl ⟨by rw [ho]; simp, rfl, rfl, .inr rfl⟩
    | terminal =>
      obtain ⟨rfl, rfl, rfl⟩ := yields_pure.1 hy
      exact .inl ⟨by rw [ho]; simp, rfl, rfl, .inr rfl⟩

/-- A chain stops at an event that ends or suspends it. -/
theorem chain_of_outcome {o : Outcome} {steps : List Step} (ho : e.outcome = .ok o)
    (hne : o ≠ .proceed) (hy : (chain e steps).Yields s h r s') : h = [] ∧ r = .ok e ∧ s' = s := by
  cases steps with
  | nil => exact yields_pure.1 hy
  | cons step steps =>
    rcases chain_cons_cases hy with ⟨-, rfl, rfl, ⟨f, hf, -⟩ | rfl⟩ | ⟨hproceed, -⟩
    · rw [ho] at hf
      cases hf
    · exact ⟨rfl, rfl, rfl⟩
    · rw [ho] at hproceed
      exact absurd (Except.ok.inj hproceed) hne

theorem chain_of_failed {steps : List Step} (hs : e.status = .failed)
    (hy : (chain e steps).Yields s h r s') : h = [] ∧ r = .ok e ∧ s' = s :=
  chain_of_outcome (o := .terminal) (by simp [Event.outcome, hs]) (by decide) hy

/-- A chain that goes on runs its next step. -/
theorem chain_of_proceed {step : Step} {steps : List Step} (ho : e.outcome = .ok .proceed)
    (hy : (chain e (step :: steps)).Yields s h r s') :
    (∃ f, (step e).Yields s h (.error f) s' ∧ r = .error f) ∨
      ∃ h₁ e' s₁ h₂, (step e).Yields s h₁ (.ok e') s₁ ∧ (chain e' steps).Yields s₁ h₂ r s' ∧
        h = h₁ ++ h₂ := by
  rcases chain_cons_cases hy with ⟨hne, -⟩ | ⟨-, hy⟩
  · exact absurd ho hne
  · exact hy

/-- A chain of one step that goes on is this step. -/
theorem chain_singleton_of_proceed {step : Step} (ho : e.outcome = .ok .proceed)
    (hy : (chain e [step]).Yields s h r s') : (step e).Yields s h r s' := by
  rcases chain_of_proceed ho hy with ⟨f, hstep, rfl⟩ | ⟨h₁, e₁, s₁, h₂, hstep, hend, rfl⟩
  · exact hstep
  · obtain ⟨rfl, rfl, rfl⟩ := yields_pure.1 hend
    rw [List.append_nil]
    exact hstep

/-! ## Guarded steps -/

/-- A record in which nothing but one field of the context may have been written. -/
structure Session.Writes (field : String) (s s' : Session) : Prop where
  model : s'.model = s.model
  others : ∀ other, other ≠ field → s'.context.get other = s.context.get other

theorem Session.Writes.refl (field : String) (s : Session) : s.Writes field s :=
  ⟨rfl, fun _ _ => rfl⟩

theorem Session.Writes.put (field : String) (s : Session) (v : Value) :
    s.Writes field { s with context := s.context.put field v } :=
  ⟨rfl, fun _ hne => Context.get_put_of_ne _ hne _⟩

theorem Session.Writes.trans {field : String} {s s₁ s' : Session} (h : s.Writes field s₁)
    (h' : s₁.Writes field s') : s.Writes field s' :=
  ⟨h'.model.trans h.model, fun other hne => (h'.others other hne).trans (h.others other hne)⟩

theorem Session.Writes.marked {field flag : String} {s s' : Session} (h : s.Writes field s')
    (hne : flag ≠ field) : s'.context.Marked flag ↔ s.context.Marked flag := by
  rw [Context.marked_iff, Context.marked_iff, h.others flag hne]

/-- Setting a field is never refused. -/
theorem setField_cases {name : String} {v : Value} {ref : Except Fault ContextRef}
    (hv : isUnset v = false) (hy : (setField .session name v).Yields s h ref s') :
    h = [] ∧ ref = .ok .session ∧ s' = { s with context := s.context.put name v } := by
  obtain ⟨rfl, hwrite⟩ := yields_setField_session.1 hy
  rw [Context.set_of_not_isUnset hv] at hwrite
  rcases hwrite with ⟨f, hbad, -⟩ | ⟨c, hc, rfl, rfl⟩
  · cases hbad
  · cases hc
    exact ⟨rfl, rfl, rfl⟩

/-- Marking a guarded step as complete sets its flag and keeps its event. -/
theorem markDone_cases {flag : String} {result : Event} (he : e.context = .session)
    (hr : result.InSession) (hy : (markDone flag e result).Yields s h r s') :
    h = [] ∧ r = .ok result ∧ s' = { s with context := s.context.put flag (.bool true) } := by
  unfold markDone at hy
  split at hy
  · rw [he] at hy
    rcases yields_bind.1 hy with ⟨f, hw, -⟩ | ⟨h₁, ref, s₁, h₂, hw, hp, rfl⟩
    · cases (setField_cases rfl hw).2.1
    · obtain ⟨rfl, -, rfl⟩ := setField_cases rfl hw
      obtain ⟨rfl, rfl, rfl⟩ := yields_pure.1 hp
      exact ⟨rfl, rfl, rfl⟩
  · rename_i hne
    have hsession : result.context = .session := by
      rcases hr with hr | ⟨-, hr⟩
      · exact hr
      · exact absurd hr hne
    rw [hsession] at hy
    rcases yields_bind.1 hy with ⟨f, hw, -⟩ | ⟨h₁, ref, s₁, h₂, hw, hp, rfl⟩
    · cases (setField_cases rfl hw).2.1
    · obtain ⟨rfl, href, rfl⟩ := setField_cases rfl hw
      cases href
      obtain ⟨rfl, rfl, rfl⟩ := yields_pure.1 hp
      exact ⟨rfl, by rw [← hsession], rfl⟩

/-- What a guarded step can do: the flag cannot be read, the step is skipped, it is run but not
complete, or it is complete and the flag gets set. -/
inductive GuardedRun (flag : String) (step : Step) (e : Event) (s : Session) :
    History → Except Fault Event → Session → Prop
  | unreadable {f : Fault} : s.context.get flag = .error f →
      GuardedRun flag step e s [] (.error f) s
  | skipped : s.context.Marked flag → GuardedRun flag step e s [] (.ok e) s
  | incomplete {h : History} {r : Except Fault Event} {s' : Session} : ¬ s.context.Marked flag →
      (step e).Yields s h r s' → (∀ e', r = .ok e' → e'.completes = false) →
      GuardedRun flag step e s h r s'
  | complete {h : History} {e' : Event} {s' : Session} : ¬ s.context.Marked flag →
      (step e).Yields s h (.ok e') s' → e'.completes = true →
      GuardedRun flag step e s h (.ok e')
        { s' with context := s'.context.put flag (.bool true) }

theorem executeOnce_cases {flag : String} {step : Step} (he : e.context = .session)
    (hstep : step.StaysInSession) (hy : (executeOnce flag step e).Yields s h r s') :
    GuardedRun flag step e s h r s' := by
  unfold executeOnce at hy
  rw [he] at hy
  rcases yields_field_session_bind.1 hy with ⟨f, hread, rfl, rfl, rfl⟩ | ⟨v, hread, hrest⟩
  · exact .unreadable hread
  · split at hrest
    · rename_i htruthy
      obtain ⟨rfl, rfl, rfl⟩ := yields_pure.1 hrest
      exact .skipped (Context.marked_iff.2 ⟨v, hread, htruthy⟩)
    · rename_i htruthy
      have hnot : ¬ s.context.Marked flag := by
        intro hm
        obtain ⟨w, hw, ht⟩ := Context.marked_iff.1 hm
        rw [hread] at hw
        cases hw
        exact htruthy ht
      rcases yields_bind.1 hrest with ⟨f, hrun, rfl⟩ | ⟨h₁, e', s₁, h₂, hrun, hmark, rfl⟩
      · exact .incomplete hnot hrun fun e' h => by cases h
      · split at hmark
        · rename_i hcomplete
          obtain ⟨rfl, rfl, rfl⟩ := markDone_cases he (hstep e he hrun) hmark
          rw [List.append_nil]
          exact .complete hnot hrun hcomplete
        · rename_i hcomplete
          obtain ⟨rfl, rfl, rfl⟩ := yields_pure.1 hmark
          rw [List.append_nil]
          exact .incomplete hnot hrun fun e'' h => by cases h; simpa using hcomplete

/-- Guarding a step that leaves the record as it is writes nothing but the flag. -/
theorem executeOnce_writes {flag : String} {step : Step} (he : e.context = .session)
    (hstays : step.StaysInSession) (hstep : ∀ ⦃h r s'⦄, (step e).Yields s h r s' → s' = s)
    (hy : (executeOnce flag step e).Yields s h r s') : s.Writes flag s' := by
  cases executeOnce_cases he hstays hy with
  | unreadable => exact .refl _ _
  | skipped => exact .refl _ _
  | incomplete _ hrun => exact hstep hrun ▸ .refl _ _
  | complete _ hrun => exact hstep hrun ▸ .put _ _ _

/-- After an event that completes a guarded step, its flag is set. -/
theorem executeOnce_completes {flag : String} {step : Step} {e' : Event} (he : e.context = .session)
    (hstays : step.StaysInSession) (hy : (executeOnce flag step e).Yields s h (.ok e') s')
    (hc : e'.completes = true) : s'.context.Marked flag := by
  generalize hr : (Except.ok e' : Except Fault Event) = result at hy
  cases executeOnce_cases he hstays hy with
  | unreadable => cases hr
  | skipped hm => exact hm
  | incomplete _ _ hincomplete =>
    rw [hincomplete e' hr.symm] at hc
    cases hc
  | complete => exact Context.marked_put _ _

/-- A guarded step that is complete is skipped. -/
theorem executeOnce_marked {flag : String} {step : Step} (he : e.context = .session)
    (hm : s.context.Marked flag) (hy : (executeOnce flag step e).Yields s h r s') :
    h = [] ∧ r = .ok e ∧ s' = s := by
  obtain ⟨v, hv, htruthy⟩ := Context.marked_iff.1 hm
  unfold executeOnce at hy
  rw [he, yields_field_session_bind_of_get hv, if_pos htruthy] at hy
  exact yields_pure.1 hy

/-- A complete guarded step is left out of a chain. -/
theorem chain_of_marked {flag : String} {step : Step} {steps : List Step} {model : Value}
    (hm : s.context.Marked flag)
    (hy : (chain (.progress model .session) (executeOnce flag step :: steps)).Yields s h r s') :
    (chain (.progress model .session) steps).Yields s h r s' := by
  rcases chain_of_proceed rfl hy with ⟨f, hskip, -⟩ | ⟨h₁, e₁, s₁, h₂, hskip, hchain, rfl⟩
  · cases (executeOnce_marked rfl hm hskip).2.1
  · obtain ⟨rfl, hr, rfl⟩ := executeOnce_marked rfl hm hskip
    cases hr
    exact hchain

/-- An event that completes a step sets its flag, and any other event keeps the context. -/
structure Flagged (flag : String) (e : Event) (s s' : Session) : Prop where
  set : e.completes = true → s' = { s with context := s.context.put flag (.bool true) }
  kept : e.completes = false → s' = s

/-- A guarded step that is not complete is run, and its flag is set if it completes. -/
theorem executeOnce_unmarked {flag : String} {step : Step} {e' : Event} (he : e.context = .session)
    (hstays : step.StaysInSession) (hun : ¬ s.context.Marked flag)
    (hy : (executeOnce flag step e).Yields s h (.ok e') s') :
    ∃ s₁, (step e).Yields s h (.ok e') s₁ ∧ Flagged flag e' s₁ s' := by
  generalize hr : (Except.ok e' : Except Fault Event) = result at hy
  cases executeOnce_cases he hstays hy with
  | unreadable => cases hr
  | skipped hm => exact absurd hm hun
  | incomplete _ hrun hincomplete =>
    refine ⟨s', hr ▸ hrun, fun hc => ?_, fun _ => rfl⟩
    rw [hincomplete e' hr.symm] at hc
    cases hc
  | complete _ hrun hcomplete =>
    cases hr
    refine ⟨_, hrun, fun _ => rfl, fun hc => ?_⟩
    rw [hcomplete] at hc
    cases hc

/-! ## Calls -/

section
variable {operation : String} {request : Value → Except Fault (Entries String Value)}
  {recover : Recovery} {done : Value → Step}

/-- What a call can do: its arguments cannot be made, it is refused, or it is answered. -/
inductive CallRun (operation : String) (request : Value → Except Fault (Entries String Value))
    (recover : Recovery) (done : Value → Step) (e : Event) (s : Session) :
    History → Except Fault Event → Session → Prop
  | unmade {f : Fault} : request e.model = .error f →
      CallRun operation request recover done e s [] (.error f) s
  | refused {arguments : Entries String Value} {f : Fault} : request e.model = .ok arguments →
      CallRun operation request recover done e s [.called ⟨operation, arguments⟩ (.error f)]
        (recover e f) s
  | answered {arguments : Entries String Value} {v : Value} {h : History}
      {r : Except Fault Event} {s' : Session} : request e.model = .ok arguments →
      (done v e).Yields s h r s' →
      CallRun operation request recover done e s (.called ⟨operation, arguments⟩ (.ok v) :: h) r s'

theorem serviceCall_cases
    (hy : (serviceCall operation request recover done e).Yields s h r s') :
    CallRun operation request recover done e s h r s' := by
  unfold serviceCall at hy
  rcases yields_lift_bind.1 hy with ⟨f, hf, rfl, rfl, rfl⟩ | ⟨arguments, harguments, hy⟩
  · exact .unmade hf
  · obtain ⟨h₁, answer, s₁, h₂, hcall, hrest, rfl⟩ := yields_attempt_bind.1 hy
    obtain ⟨rfl, rfl⟩ := yields_call.1 hcall
    cases answer with
    | error f =>
      obtain ⟨rfl, rfl, rfl⟩ := yields_lift.1 hrest
      exact .refused harguments
    | ok v => exact .answered harguments hrest

end

/-! ## Looking up -/

/-- An answer lists nothing: it is a fault that says so, or the list of the response is empty. -/
def ListsNothing (listField missingCode : String) (answer : Answer) : Prop :=
  (∃ f, answer = .error f ∧
    ((f.serviceCode == .text missingCode) = true ∨ f.isA "NotFoundError" = true)) ∨
  ∃ response items, answer = .ok response ∧ response.get listField = .ok items ∧
    items.truthy = false

/-- The first item that an answer lists. -/
def firstListed (listField missingCode : String) (missing : Fault) : Answer → Except Fault Value
  | .error f => .error (if f.serviceCode == .text missingCode then missing else f)
  | .ok response => do
    let items ← response.get listField
    if items.truthy then items.first else .error missing

section
variable {listField missingCode : String} {missing : Fault}

/-- A look-up is one call, and what it finds is a function of the answer. -/
theorem lookUp_cases {operation : String} {arguments : Entries String Value}
    {r : Except Fault Value}
    (hy : (lookUp operation arguments listField missingCode missing).Yields s h r s') :
    s' = s ∧ ∃ answer, h = [.called ⟨operation, arguments⟩ answer] ∧
      r = firstListed listField missingCode missing answer := by
  obtain ⟨h₁, answer, s₁, h₂, hcall, hrest, rfl⟩ := yields_attempt_bind.1 hy
  obtain ⟨rfl, rfl⟩ := yields_call.1 hcall
  cases answer with
  | error f =>
    obtain ⟨rfl, rfl, rfl⟩ := yields_throw.1 hrest
    exact ⟨rfl, .error f, rfl, rfl⟩
  | ok response =>
    rcases yields_lift_bind.1 hrest with ⟨f, hf, rfl, rfl, rfl⟩ | ⟨items, hitems, hrest⟩
    · exact ⟨rfl, .ok response, rfl, by simp [firstListed, hf, bind, Except.bind]⟩
    · split at hrest
      · rename_i htruthy
        obtain ⟨rfl, rfl, rfl⟩ := yields_lift.1 hrest
        exact ⟨rfl, .ok response, rfl, by
          simp [firstListed, hitems, bind, Except.bind, htruthy]⟩
      · rename_i htruthy
        obtain ⟨rfl, rfl, rfl⟩ := yields_throw.1 hrest
        exact ⟨rfl, .ok response, rfl, by
          simp [firstListed, hitems, bind, Except.bind, htruthy]⟩

/-- A look-up says that there is nothing only if the answer lists nothing. -/
theorem listsNothing_of_firstListed {answer : Answer} {f : Fault}
    (hf : firstListed listField missingCode missing answer = .error f)
    (hmissing : f.isA "NotFoundError" = true) : ListsNothing listField missingCode answer := by
  cases answer with
  | error f' =>
    refine .inl ⟨f', rfl, ?_⟩
    have hf := Except.error.inj hf
    split at hf
    · rename_i hcode
      exact .inl hcode
    · subst hf
      exact .inr hmissing
  | ok response =>
    rcases bind_eq_error.1 hf with hf | ⟨items, hitems, hf⟩
    · rw [Value.not_isA_of_get hf] at hmissing
      cases hmissing
    · split at hf
      · rw [Value.not_isA_of_first hf] at hmissing
        cases hmissing
      · rename_i htruthy
        exact .inr ⟨response, items, rfl, hitems, by simpa using htruthy⟩

end

/-! ## Creation -/

/-- What looking for a resource can do: the probe ends in a fault, what it finds is found, or there
is nothing to find. -/
inductive LookRun (probe : Value → Handler Value) (probing : Bool) (model : Value) (s : Session) :
    History → Except Fault Value → Session → Prop
  | faulted {h : History} {f : Fault} {s' : Session} : probing = true →
      (probe model).Yields s h (.error f) s' → f.isA "NotFoundError" = false →
      LookRun probe probing model s h (.error f) s'
  | found {h : History} {v : Value} {s' : Session} : probing = true →
      (probe model).Yields s h (.ok v) s' → LookRun probe probing model s h (.ok v) s'
  | missing {h : History} {f : Fault} {s' : Session} : probing = true →
      (probe model).Yields s h (.error f) s' → f.isA "NotFoundError" = true →
      LookRun probe probing model s h (.ok .null) s'
  | unprobed : probing = false → LookRun probe probing model s [] (.ok .null) s

theorem lookFor_cases {probe : Value → Handler Value} {probing : Bool} {model : Value}
    {r : Except Fault Value} (hy : (lookFor probe probing model).Yields s h r s') :
    LookRun probe probing model s h r s' := by
  unfold lookFor at hy
  cases probing with
  | false =>
    obtain ⟨rfl, rfl, rfl⟩ := yields_pure.1 hy
    exact .unprobed rfl
  | true =>
    rcases yields_tryCatch.1 hy with ⟨v, hprobe, rfl⟩ | ⟨h₁, f, s₁, h₂, hprobe, hcatch, rfl⟩
    · exact .found rfl hprobe
    · split at hcatch
      · rename_i hmissing
        obtain ⟨rfl, rfl, rfl⟩ := yields_pure.1 hcatch
        rw [List.append_nil]
        exact .missing rfl hprobe hmissing
      · rename_i hmissing
        obtain ⟨rfl, rfl, rfl⟩ := yields_throw.1 hcatch
        rw [List.append_nil]
        exact .faulted rfl hprobe (by simpa using hmissing)

/-- What creating with a fallback can do: the first request decides, or it is denied and the second
one decides. -/
theorem createWithTaggingFallback_cases {create : TagSet → Step} {tags : TagSet}
    (hy : (createWithTaggingFallback create tags e).Yields s h r s') :
    (create tags e).Yields s h r s' ∨
      ∃ h₁ e₁ s₁ h₂, (create tags e).Yields s h₁ (.ok e₁) s₁ ∧
        (e₁.isFailed = true ∧ e₁.code = some .accessDenied) ∧
        (create tags.onlySystem e).Yields s₁ h₂ r s' ∧ h = h₁ ++ h₂ := by
  unfold createWithTaggingFallback at hy
  rcases yields_bind.1 hy with ⟨f, hfirst, rfl⟩ | ⟨h₁, e₁, s₁, h₂, hfirst, hrest, rfl⟩
  · exact .inl hfirst
  · split at hrest
    · rename_i hdenied
      simp only [Bool.and_eq_true, decide_eq_true_eq] at hdenied
      exact .inr ⟨h₁, e₁, s₁, h₂, hfirst, hdenied.1, hrest, rfl⟩
    · obtain ⟨rfl, rfl, rfl⟩ := yields_pure.1 hrest
      rw [List.append_nil]
      exact .inl hfirst

/-! ## Polling -/

section
variable {isStabilized : Value → Handler Bool} {backoff : Backoff} {recover : Recovery}

/-- What a poll can do: it ends in a fault, the resource is stable, or it is to be polled again
after a delay, if the policy has one. -/
inductive PollRun (isStabilized : Value → Handler Bool) (backoff : Backoff) (recover : Recovery)
    (e : Event) (s : Session) : History → Except Fault Event → Session → Prop
  | faulted {h : History} {f : Fault} {s' : Session} :
      (isStabilized e.model).Yields s h (.error f) s' →
      PollRun isStabilized backoff recover e s h (recover e f) s'
  | stable {h : History} {s' : Session} : (isStabilized e.model).Yields s h (.ok true) s' →
      PollRun isStabilized backoff recover e s h (.ok (.progress e.model e.context)) s'
  | pending {h : History} {s' : Session} : (isStabilized e.model).Yields s h (.ok false) s' →
      PollRun isStabilized backoff recover e s h
        (backoff.delay.whole.map fun delay => .defer e.model e.context (.int delay)) s'

theorem poll_cases (hy : (poll isStabilized backoff recover e).Yields s h r s') :
    PollRun isStabilized backoff recover e s h r s' := by
  unfold poll at hy
  obtain ⟨h₁, answer, s₁, h₂, hy, hrest, rfl⟩ := yields_attempt_bind.1 hy
  rcases answer with f | b
  · obtain ⟨rfl, rfl, rfl⟩ := yields_lift.1 hrest
    rw [List.append_nil]
    exact .faulted hy
  · cases b with
    | true =>
      obtain ⟨rfl, rfl, rfl⟩ := yields_pure.1 hrest
      rw [List.append_nil]
      exact .stable hy
    | false =>
      rcases yields_lift_bind.1 hrest with ⟨f, hf, rfl, rfl, rfl⟩ | ⟨delay, hdelay, hrest⟩
      · rw [List.append_nil]
        have : PollRun isStabilized backoff recover e s _ _ _ := .pending hy
        rwa [hf] at this
      · obtain ⟨rfl, rfl, rfl⟩ := yields_pure.1 hrest
        rw [List.append_nil]
        have : PollRun isStabilized backoff recover e s _ _ _ := .pending hy
        rwa [hdelay] at this

/-- What stabilizing can do: reading or keeping the time ends in a fault, the time is over, or the
resource is polled. -/
inductive StabilizeRun (isStabilized : Value → Handler Bool) (backoff : Backoff)
    (recover : Recovery) (e : Event) (s : Session) :
    History → Except Fault Event → Session → Prop
  | faulted {now : Number} {f : Fault} {s' : Session} : s.Writes startField s' →
      StabilizeRun isStabilized backoff recover e s [.clock now] (.error f) s'
  | timedOut {now : Number} {message : Value} {s' : Session} : s.Writes startField s' →
      StabilizeRun isStabilized backoff recover e s [.clock now]
        (.ok (.failed e.model .session .notStabilized message)) s'
  | polled {now : Number} {s₁ : Session} {h : History} {r : Except Fault Event} {s' : Session} :
      s.Writes startField s₁ → PollRun isStabilized backoff recover e s₁ h r s' →
      StabilizeRun isStabilized backoff recover e s (.clock now :: h) r s'

theorem keepStart_cases {startedAt : Value} {now : Number} {ref : Except Fault ContextRef}
    (hy : (keepStart startedAt now .session).Yields s h ref s') :
    h = [] ∧ s.Writes startField s' ∧ ((∃ f, ref = .error f) ∨ ref = .ok .session) := by
  unfold keepStart at hy
  split at hy
  · obtain ⟨rfl, ⟨f, -, rfl, rfl⟩ | ⟨c, hc, rfl, rfl⟩⟩ := yields_setField_session.1 hy
    · exact ⟨rfl, .refl _ _, .inl ⟨f, rfl⟩⟩
    · rw [Context.set_eq_put hc]
      exact ⟨rfl, .put _ _ _, .inr rfl⟩
  · obtain ⟨rfl, rfl, rfl⟩ := yields_pure.1 hy
    exact ⟨rfl, .refl _ _, .inr rfl⟩

theorem stabilize_cases {resourceType : String} (he : e.context = .session)
    (hy : (stabilize isStabilized backoff recover resourceType e).Yields s h r s') :
    StabilizeRun isStabilized backoff recover e s h r s' := by
  have hsame : { e with context := .session } = e := by rw [← he]
  unfold stabilize at hy
  rw [he] at hy
  rw [yields_contextOf_session_bind, yields_now_bind] at hy
  obtain ⟨now, h', rfl, hy⟩ := hy
  rcases yields_bind.1 hy with ⟨f, hkeep, rfl⟩ | ⟨h₁, ref, s₁, h₂, hkeep, hrest, rfl⟩
  · obtain ⟨rfl, hwrites, -⟩ := keepStart_cases hkeep
    exact .faulted hwrites
  · obtain ⟨rfl, hwrites, ⟨f, hbad⟩ | href⟩ := keepStart_cases hkeep
    · cases hbad
    · cases href
      rcases yields_lift_bind.1 hrest with ⟨f, -, rfl, rfl, rfl⟩ | ⟨expired, -, hrest⟩
      · exact .faulted hwrites
      · cases expired with
        | true =>
          rcases yields_lift_bind.1 hrest with ⟨f, -, rfl, rfl, rfl⟩ | ⟨seconds, -, hrest⟩
          · exact .faulted hwrites
          · obtain ⟨rfl, rfl, rfl⟩ := yields_pure.1 hrest
            exact .timedOut hwrites
        | false =>
          rw [hsame] at hrest
          exact .polled hwrites (poll_cases hrest)

end

end Provisioning
