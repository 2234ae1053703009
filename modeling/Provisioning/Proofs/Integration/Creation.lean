import Provisioning.Proofs.Integration.Invocation
import Provisioning.Proofs.Integration.Model
import Provisioning.Proofs.Raising

/-!
# One invocation that creates an integration

Between two invocations of a create request the context and the model are in one of three stages:
no integration is there yet (`Fresh`), one has been created or found but its tags have not been
added (`Created`), or the tags have been added (`Tagged`). For each stage: what the steps from there
to the end of the chain can do, against a remote that keeps tags.

The remote holds the integration that the model names from the second stage on. A context can know
another ARN than the model, that of an integration which the remote does not hold; then the request
to add tags is refused, so that whatever tags are added are added to the integration of the model.
-/

set_option autoImplicit false

namespace Provisioning

open Handler

variable {e : Event} {sess sess' : Session} {h : History} {res : Except Fault Event}

namespace Integration

variable {s : Settings} {r : Request} {w w' : Remote} {arn : String}

/-! ## Ends of an invocation -/

/-- The call to add tags is not refused. -/
def Unrefused (h : History) : Prop :=
  ∀ request f, .called request (.error f) ∈ h → request.operation ≠ "add_tags_to_resource"

theorem unrefused_of_within {ops : List String} (hh : ∀ x ∈ h, x.within ops = true)
    (hops : "add_tags_to_resource" ∉ ops) : Unrefused h := by
  intro request f hmem hop
  have := hh _ hmem
  rw [Exchange.within, hop, List.contains_iff_mem] at this
  exact hops this

theorem unrefused_nil : Unrefused [] := fun _ _ hmem => by cases hmem

theorem Unrefused.append {h' : History} (hh : Unrefused h) (hh' : Unrefused h') :
    Unrefused (h ++ h') := fun request f hmem =>
  (List.mem_append.1 hmem).elim (hh request f) (hh' request f)

theorem over_or_awaits_of_recover {f : Fault} {result : Except Fault Event}
    (he : e.context = .session) (hr : recover s e f = result) :
    Over result ∨ Awaits e.model sess result := by
  cases result with
  | error f' => exact .inl (Fault.serviceCode_eq_null (codeless_recover _ _ _ hr))
  | ok e' =>
    rcases recover_cases hr with ⟨code, rfl⟩ | ⟨rfl, -⟩
    · exact .inl rfl
    · exact .inr ⟨rfl, he, rfl⟩

/-! ## Steps -/

/-- Polling keeps the model, and does not report success. -/
theorem stabilizeStep_ok {e' : Event} (he : e.context = .session)
    (hy : (stabilizeStep s e).Yields sess h (.ok e') sess') :
    e'.context = .session ∧ e'.model = e.model ∧
      (e'.status = .inProgress ∨ e'.status = .failed) := by
  generalize hr : (Except.ok e' : Except Fault Event) = result at hy
  cases stabilize_cases he hy with
  | faulted => cases hr
  | timedOut =>
    cases hr
    exact ⟨rfl, rfl, .inr rfl⟩
  | polled _ hpoll =>
    cases hpoll with
    | faulted =>
      rcases recover_cases hr.symm with ⟨code, rfl⟩ | ⟨rfl, -⟩
      · exact ⟨he, rfl, .inr rfl⟩
      · exact ⟨he, rfl, .inl rfl⟩
    | stable =>
      cases hr
      exact ⟨he, rfl, .inl rfl⟩
    | pending =>
      cases hd : s.createUpdate.delay.whole with
      | error f => rw [hd] at hr; cases hr
      | ok d =>
        rw [hd] at hr
        cases hr
        exact ⟨he, rfl, .inl rfl⟩

/-! ## The end of the chain -/

/-- An integration that is looked up by an ARN that is held is reported with this ARN. -/
theorem reported_arn {m integration model : Value}
    (harn : m.get "IntegrationArn" = .ok (.text arn)) (hne : arn ≠ "") (hheld : w.has arn = true)
    (hy : (describe m).Yields sess h (.ok integration) sess') (hw : w.Serves h w')
    (hm : modelOf integration = .ok model) : model.get "IntegrationArn" = .ok (.text arn) := by
  obtain ⟨-, id, response, hid, rfl, hfirst⟩ := describe_ok hy
  obtain ⟨w₁, hanswer, -⟩ := Remote.serves_cons_iff.1 hw
  obtain ⟨-, arn', tags, -, -, hshows, hsame⟩ := hanswer.shows hfirst
  cases identifier_of_arn harn (Value.truthy_text hne) hid
  obtain rfl := hsame arn rfl hheld
  obtain ⟨found, rfl, -, hfound, -⟩ := hshows.model hm
  exact Value.get_eq_ok.2 ⟨found, rfl, by rw [hfound]; rfl⟩

/-- Reading ends the operation, or it goes on with the same model; if it reports success, then of
the integration that the model identifies. -/
theorem readStep_ends (he : e.context = .session)
    (harn : e.model.get "IntegrationArn" = .ok (.text arn)) (hne : arn ≠ "")
    (hheld : w.has arn = true) (hy : (readStep s e).Yields sess h res sess') (hw : w.Serves h w') :
    Over res ∨ Awaits e.model sess' res ∨ ∃ e', res = .ok e' ∧ e'.status = .success ∧
      e'.model.get "IntegrationArn" = .ok (.text arn) := by
  obtain ⟨rfl, ⟨f, -, hr⟩ | ⟨integration, hdescribe, hr⟩⟩ := readStep_cases hy
  · exact (over_or_awaits_of_recover he hr.symm).imp_right .inl
  · cases hm : modelOf integration with
    | error f =>
      rw [hm] at hr
      subst hr
      exact .inl (Fault.serviceCode_eq_null (codeless_modelOf _ _ hm))
    | ok model =>
      rw [hm] at hr
      exact .inr (.inr ⟨_, hr, rfl, reported_arn harn hne hheld hdescribe hw hm⟩)

/-- Polling and reading change no tags. They end the operation, or it goes on with the same model;
if they report success, then of the integration that the model identifies. -/
theorem settle_cases (he : e.context = .session) (hstatus : e.status = .inProgress)
    (harn : e.model.get "IntegrationArn" = .ok (.text arn)) (hne : arn ≠ "")
    (hheld : w.has arn = true)
    (hy : (chain e [stabilizeStep s, readStep s]).Yields sess h res sess') (hw : w.Serves h w') :
    w' = w ∧ Unrefused h ∧ sess.context.Extends sess'.context ∧
      (Over res ∨ Awaits e.model sess' res ∨ ∃ e', res = .ok e' ∧ e'.status = .success ∧
        e'.model.get "IntegrationArn" = .ok (.text arn)) := by
  have hwithin : ∀ e, (chain e [stabilizeStep s, readStep s]).Within ["describe_integrations"] :=
    within_chain (List.forall_mem_cons.2 ⟨within_stabilize (within_isActive List.mem_cons_self),
      List.forall_mem_cons.2 ⟨within_readStep List.mem_cons_self, by simp⟩⟩)
  have hops := hwithin e hy
  have hkept := hw.eq_of_within hops.1
  refine ⟨hkept, unrefused_of_within hops.1 (by decide), hops.2, ?_⟩
  have hraise : ∀ f, res = .error f → Over res := by
    rintro f rfl
    exact Fault.serviceCode_eq_null (raises_chain (List.forall_mem_cons.2
      ⟨codeless_stabilizeStep, List.forall_mem_cons.2 ⟨codeless_readStep, by simp⟩⟩) e hy)
  rcases chain_cons_cases hy with ⟨-, -, -, ⟨f, -, hr⟩ | rfl⟩ |
    ⟨-, ⟨f, -, hr⟩ | ⟨h₁, e₁, s₁, h₂, hpoll, hchain, rfl⟩⟩
  · exact .inl (hraise f hr)
  · exact .inr (.inl ⟨hstatus, he, rfl⟩)
  · exact .inl (hraise f hr)
  obtain ⟨he₁, hm₁, hs₁⟩ := stabilizeStep_ok he hpoll
  rw [← hm₁] at harn ⊢
  rcases chain_cons_cases hchain with ⟨-, -, -, ⟨f, -, hr⟩ | rfl⟩ |
    ⟨-, ⟨f, -, hr⟩ | ⟨h₃, e₂, s₂, h₄, hread, hlast, rfl⟩⟩
  · exact .inl (hraise f hr)
  · rcases hs₁ with hs₁ | hs₁
    · exact .inr (.inl ⟨hs₁, he₁, rfl⟩)
    · exact .inl hs₁
  · exact .inl (hraise f hr)
  · obtain ⟨rfl, rfl, rfl⟩ := yields_pure.1 hlast
    obtain ⟨w₁, hw₁, hw₂⟩ := Remote.serves_append_iff.1 hw
    rw [List.append_nil] at hw₂
    obtain rfl := hw₁.eq_of_within fun x hx => hops.1 x (List.mem_append_left _ hx)
    exact readStep_ends he₁ harn hne hheld hread hw₂

/-! ## Stages of a creation -/

/-- No integration has been created yet: if the context knows an ARN, then that of the model. -/
structure Fresh (c : Context) (m : Value) : Prop where
  uncreated : ¬ c.Marked "create_complete"
  untagged : ¬ c.Marked "add_tags_complete"
  known : ∃ known, c.get "integration_arn" = .ok known ∧
    (known.isNull = true ∨ known.truthy = true ∧ m.get "IntegrationArn" = .ok known)

/-- An integration has been created or found, and has not been tagged: the context and the model
know it, unless the context knows an ARN that the remote does not hold. -/
structure Created (w : Remote) (arn : String) (c : Context) (m : Value) : Prop where
  created : c.Marked "create_complete"
  untagged : ¬ c.Marked "add_tags_complete"
  named : arn ≠ ""
  model : m.get "IntegrationArn" = .ok (.text arn)
  known : ∃ known, c.get "integration_arn" = .ok known ∧ known.isNull = false ∧
    ∀ b, known = .text b → w.has b = true → b = arn

/-- An integration has been created or found, and has been tagged. -/
structure Tagged (arn : String) (c : Context) (m : Value) : Prop where
  created : c.Marked "create_complete"
  tagged : c.Marked "add_tags_complete"
  named : arn ≠ ""
  model : m.get "IntegrationArn" = .ok (.text arn)

/-- An invocation of a tagged integration succeeds, or asks for another one. -/
inductive Finishing (arn : String) (sess : Session) : Except Fault Event → Prop
  | awaits {m : Value} {res : Except Fault Event} : Awaits m sess res →
      Tagged arn sess.context m → Finishing arn sess res
  | success {e : Event} : e.status = .success →
      e.model.get "IntegrationArn" = .ok (.text arn) → Finishing arn sess (.ok e)

theorem Tagged.extends {c c' : Context} {m : Value} (ht : Tagged arn c m) (hc : c.Extends c') :
    Tagged arn c' m :=
  ⟨hc.marked (by decide) ht.created, hc.marked (by decide) ht.tagged, ht.named, ht.model⟩

/-- The end of the chain changes no tags, and finishes the operation. -/
theorem Tagged.settle (ht : Tagged arn sess.context e.model) (he : e.context = .session)
    (hstatus : e.status = .inProgress) (hheld : w.has arn = true)
    (hy : (chain e [stabilizeStep s, readStep s]).Yields sess h res sess') (hw : w.Serves h w') :
    w' = w ∧ Unrefused h ∧ (Over res ∨ Finishing arn sess' res) := by
  obtain ⟨hkept, hunrefused, hext, hends⟩ :=
    settle_cases he hstatus ht.model ht.named hheld hy hw
  refine ⟨hkept, hunrefused, ?_⟩
  rcases hends with hover | hawaits | ⟨e', rfl, hsuccess, harn⟩
  · exact .inl hover
  · exact .inr (.awaits hawaits (ht.extends hext))
  · exact .inr (.success hsuccess harn)

/-! ## Tagging -/

theorem tagStep_cases {desired : Except Fault TagSet} {known : Value} (he : e.context = .session)
    (hknown : sess.context.get "integration_arn" = .ok known) (hnull : known.isNull = false)
    (hy : (tagStep s (.ok .empty) desired e).Yields sess h res sess') :
    sess' = sess ∧ ((∃ f, desired = .error f ∧ h = [] ∧ res = .error f) ∨
      ∃ tags, desired = .ok tags ∧ AddRun (some (rules s.callbackDelay)) known tags e h res) := by
  rcases yields_lift_bind.1 hy with ⟨f, hf, -⟩ | ⟨previous, hprevious, hy⟩
  · cases hf
  cases hprevious
  rcases yields_lift_bind.1 hy with ⟨f, hf, rfl, rfl, rfl⟩ | ⟨tags, htags, hy⟩
  · exact ⟨rfl, .inl ⟨f, hf, rfl, rfl⟩⟩
  · obtain ⟨hsess, hadd⟩ := updateTags_empty_cases he hknown hnull hy
    exact ⟨hsess, .inr ⟨tags, htags, hadd⟩⟩

/-- Once the tags are up to date, the end of the chain finishes the operation. -/
theorem Created.finish {m : Value} {tags : Tags} {s₁ : Session} {w₁ : Remote}
    (hc : Created w' arn sess.context m) (htags : w.get? arn = some tags)
    (hflag : Flagged "add_tags_complete" (.progress m .session) sess s₁)
    (hy : (chain (.progress m .session) [stabilizeStep s, readStep s]).Yields s₁ h res sess')
    (hw : w.Serves h w₁) : w₁ = w ∧ Unrefused h ∧ (Over res ∨ Finishing arn sess' res) := by
  obtain rfl := hflag.set rfl
  have htagged : Tagged arn (sess.context.put "add_tags_complete" (.bool true)) m :=
    ⟨(Context.marked_put_of_ne _ (by decide) _).2 hc.created, Context.marked_put _ _, hc.named,
      hc.model⟩
  exact Tagged.settle (e := .progress m .session) htagged rfl rfl
    (by rw [Entries.has_eq_isSome, htags]; rfl) hy hw

/-- A refusal of the tags fails the operation, or has it tried again. -/
theorem refused_cases {m : Value} {f : Fault} {s₁ : Session} {steps : List Step}
    (hdelay : s.callbackDelay.isPositive = .ok true)
    (hr : recover s (.progress m .session) f = .ok e)
    (hflag : Flagged "add_tags_complete" e sess s₁) (hy : (chain e steps).Yields s₁ h res sess') :
    Over res ∨ h = [] ∧ Awaits m sess' res ∧ sess' = sess := by
  rcases recover_cases hr with ⟨code, rfl⟩ | ⟨rfl, -⟩
  · obtain ⟨-, rfl, -⟩ := chain_of_failed rfl hy
    exact .inl rfl
  · obtain ⟨rfl, rfl, rfl⟩ := chain_of_outcome (Event.outcome_defer hdelay) (by decide) hy
    exact .inr ⟨rfl, ⟨rfl, rfl, rfl⟩, hflag.kept rfl⟩

/-- Added tags are written over those of the integration that the context knows. -/
theorem Created.added {m known response : Value} {cur more : Tags} {c : Context}
    (hc : Created w arn c m) (hknown : c.get "integration_arn" = .ok known)
    (hcur : w.get? arn = some cur) (ha : w.Answers (addition known more (.ok response)) w') :
    w'.get? arn = some (cur.merge more) := by
  obtain ⟨b, tags, rfl, hb, rfl⟩ := ha.added
  obtain ⟨known', hknown', -, hsame⟩ := hc.known
  rw [hknown] at hknown'
  cases hknown'
  obtain rfl := hsame b rfl (by rw [Entries.has_eq_isSome, hb]; rfl)
  rw [hcur] at hb
  cases hb
  exact Entries.get?_insert_self _ _ _

/-- Once an integration is there, the operation fails, or is tried again because the tags were
refused, or finishes with the tags that are wanted written over those that were there. -/
theorem Created.finalSteps_cases {tags : TagSources} {m : Value} {cur : Tags}
    (hdelay : s.callbackDelay.isPositive = .ok true) (hc : Created w arn sess.context m)
    (hcur : w.get? arn = some cur)
    (hy : (chain (.progress m .session) (finalSteps s tags)).Yields sess h res sess')
    (hw : w.Serves h w') :
    Over res ∨
      (∃ known wanted f, tags.withoutSystem = .ok wanted ∧
        h = [addition known wanted.flat (.error f)] ∧ Awaits m sess' res ∧ sess' = sess ∧
        w' = w) ∨
      ∃ wanted, tags.withoutSystem = .ok wanted ∧ w'.get? arn = some (cur.merge wanted.flat) ∧
        Unrefused h ∧ Finishing arn sess' res := by
  obtain ⟨known, hknown, hnull, -⟩ := hc.known
  rcases chain_of_proceed rfl hy with ⟨f, hf, rfl⟩ | ⟨h₁, e₁, s₁, h₂, hguarded, hchain, rfl⟩
  · exact .inl (Fault.serviceCode_eq_null
      (codeless_executeOnce _ (codeless_tagStep (.ok _) tags.codeless_withoutSystem) _ hf))
  obtain ⟨w₁, hw₁, hw₂⟩ := Remote.serves_append_iff.1 hw
  obtain ⟨s₂, htag, hflag⟩ := executeOnce_unmarked rfl (staysInSession_tagStep _ _) hc.untagged
    hguarded
  obtain ⟨rfl, ⟨f, -, -, hr⟩ | ⟨wanted, hwanted, hadd⟩⟩ := tagStep_cases rfl hknown hnull htag
  · cases hr
  generalize hr : (Except.ok e₁ : Except Fault Event) = result at hadd
  cases hadd with
  | none hempty =>
    cases hr
    obtain rfl := Remote.serves_nil_iff.1 hw₁
    obtain ⟨rfl, hunrefused, hends⟩ := hc.finish hcur hflag hchain hw₂
    refine hends.imp_right fun hfinish => .inr ⟨wanted, hwanted, ?_, hunrefused, hfinish⟩
    rw [TagSet.flat_of_isEmpty hempty, hcur]
    rfl
  | added =>
    cases hr
    obtain ⟨w₂, hanswer, hnil⟩ := Remote.serves_cons_iff.1 hw₁
    obtain rfl := Remote.serves_nil_iff.1 hnil
    have hnow := hc.added hknown hcur hanswer
    obtain ⟨rfl, hunrefused, hends⟩ := hc.finish hnow hflag hchain hw₂
    have hfirst : ∀ response, Unrefused [addition known wanted.flat (.ok response)] :=
      fun _ _ _ hmem => by cases List.mem_singleton.1 hmem
    exact hends.imp_right fun hfinish =>
      .inr ⟨wanted, hwanted, hnow, (hfirst _).append hunrefused, hfinish⟩
  | @refused f =>
    obtain ⟨w₂, hanswer, hnil⟩ := Remote.serves_cons_iff.1 hw₁
    obtain rfl := Remote.serves_nil_iff.1 hnil
    rcases refused_cases hdelay hr.symm hflag hchain with hover | ⟨rfl, hawaits, rfl⟩
    · exact .inl hover
    · obtain rfl := Remote.serves_nil_iff.1 hw₂
      refine .inr (.inl ⟨known, wanted, f, hwanted, rfl, hawaits, rfl, ?_⟩)
      cases hanswer
      rfl

/-! ## Creating -/

/-- What a request to create an integration can do: it ends in a fault, it fails, it is to be tried
again, or an integration is there with an ARN that the model and the context keep. -/
inductive CreateRun (s : Settings) (e : Event) (sess : Session) (w' : Remote) :
    Except Fault Event → Session → Prop
  | faulted {f : Fault} {sess' : Session} : CreateRun s e sess w' (.error f) sess'
  | failed {e' : Event} : e'.status = .failed → e'.context = .session →
      CreateRun s e sess w' (.ok e') sess
  | retried : CreateRun s e sess w'
      (.ok (.defer e.model .session s.callbackDelay (some .throttling))) sess
  | created {arn : String} {tags : Tags} {m : Value} : arn ≠ "" → w'.get? arn = some tags →
      e.model.set "IntegrationArn" (.text arn) = .ok m →
      CreateRun s e sess w' (.ok (.defer m .session s.callbackDelay))
        { sess with context := sess.context.put "integration_arn" (.text arn) }

/-- A request that the remote answers is for an integration that it holds from then on. -/
theorem CreateCallRun.served {e' : Event} (hr : CreateCallRun s e sess h (.ok e') sess')
    (hw : w.Serves h w') : CreateRun s e sess w' (.ok e') sess' := by
  cases hr with
  | failed hstatus hcontext => exact .failed hstatus hcontext
  | retried => exact .retried
  | answered harn hset hm =>
    obtain ⟨w₁, -, hlast⟩ := Remote.serves_append_iff.1 hw
    obtain ⟨w₂, hanswer, hnil⟩ := Remote.serves_cons_iff.1 hlast
    obtain rfl := Remote.serves_nil_iff.1 hnil
    obtain ⟨arn, tags, hne, hget, hheld⟩ := hanswer.holds
    rw [harn] at hget
    cases hget
    rw [Context.set_of_not_isUnset rfl] at hset
    cases hset
    exact .created hne hheld hm

/-- Keeping the ARN in the context does nothing if the context has one or the model has none. -/
theorem rememberArn_ok {e' : Event} (he : e.context = .session)
    (hy : (rememberArn e).Yields sess h (.ok e') sess') :
    h = [] ∧ e' = e ∧ ∃ known, sess.context.get "integration_arn" = .ok known ∧
      (sess' = sess ∧ (known.isNull = true → ∃ arn, e.model.get "IntegrationArn" = .ok arn ∧
          arn.truthy = false) ∨
        known.isNull = true ∧ ∃ arn, e.model.get "IntegrationArn" = .ok arn ∧ arn.truthy = true ∧
          sess' = { sess with context := sess.context.put "integration_arn" arn }) := by
  unfold rememberArn at hy
  rw [he] at hy
  rcases yields_field_session_bind.1 hy with ⟨f, -, -, hr, -⟩ | ⟨known, hknown, hy⟩
  · cases hr
  split at hy
  · rename_i hnull
    obtain ⟨arn, harn, hy⟩ := yields_lift_bind_ok.1 hy
    split at hy
    · rename_i htruthy
      obtain ⟨h₁, ref, s₁, h₂, hset, hrest, rfl⟩ := yields_bind_ok.1 hy
      obtain ⟨rfl, href, rfl⟩ := setField_cases (Context.isUnset_of_truthy htruthy) hset
      cases href
      obtain ⟨rfl, hr, rfl⟩ := yields_pure.1 hrest
      cases hr
      refine ⟨rfl, by rw [← he], known, hknown, .inr ⟨hnull, arn, harn, htruthy, rfl⟩⟩
    · rename_i htruthy
      obtain ⟨rfl, hr, rfl⟩ := yields_pure.1 hy
      cases hr
      exact ⟨rfl, rfl, known, hknown, .inl ⟨rfl, fun _ => ⟨arn, harn, by simpa using htruthy⟩⟩⟩
  · rename_i hnull
    obtain ⟨rfl, hr, rfl⟩ := yields_pure.1 hy
    cases hr
    exact ⟨rfl, rfl, known, hknown, .inl ⟨rfl, fun h => absurd h hnull⟩⟩

/-- The ARN of a model that has one is kept unless the context has one already. -/
theorem rememberArn_of_arn {e' : Event} (he : e.context = .session)
    (harn : e.model.get "IntegrationArn" = .ok (.text arn)) (hne : arn ≠ "")
    (hy : (rememberArn e).Yields sess h (.ok e') sess') :
    h = [] ∧ e' = e ∧ ∃ known, sess.context.get "integration_arn" = .ok known ∧
      (known.isNull = false ∧ sess' = sess ∨ known.isNull = true ∧
        sess' = { sess with context := sess.context.put "integration_arn" (.text arn) }) := by
  obtain ⟨rfl, rfl, known, hknown, hcases⟩ := rememberArn_ok he hy
  refine ⟨rfl, rfl, known, hknown, ?_⟩
  rcases hcases with ⟨rfl, hlacks⟩ | ⟨hnull, v, hv, -, rfl⟩
  · cases hnull : known.isNull with
    | false => exact .inl ⟨rfl, rfl⟩
    | true =>
      obtain ⟨v, hv, hfalse⟩ := hlacks hnull
      rw [harn] at hv
      cases hv
      rw [Value.truthy_text hne] at hfalse
      cases hfalse
  · rw [harn] at hv
    cases hv
    exact .inr ⟨hnull, rfl⟩

/-- What creating unless a look-up finds an integration can do: the look-up or the request ends in a
fault, the request decides, or what was found is merged over the model. -/
inductive SafeRun (s : Settings) (e : Event) (sess : Session) (w w' : Remote) :
    History → Except Fault Event → Session → Prop
  | faulted {h : History} {f : Fault} {sess' : Session} : f.serviceCode = .null ∨ sess' = sess →
      SafeRun s e sess w w' h (.error f) sess'
  | requested {h : History} {e' : Event} {sess' : Session} : CreateRun s e sess w' (.ok e') sess' →
      SafeRun s e sess w w' h (.ok e') sess'
  | adopted {id response record : Value} {found entries : Entries String Value} : w.Serves
      [lookup id (.ok response)] w' → identifier e.model = .ok id → ReportsFirst response record →
      modelOf record = .ok (.map found) →
      SafeRun s e sess w w' [lookup id (.ok response)]
        (.ok (.progress (.map (entries.merge found)) e.context)) sess

theorem SafeCreateRun.served (hr : SafeCreateRun s e sess h res sess') (hw : w.Serves h w') :
    SafeRun s e sess w w' h res sess' := by
  cases hr with
  | faulted hfault => exact .faulted hfault
  | requested hrequest => exact .requested (hrequest.served hw)
  | adopted hid hfirst hm => exact .adopted hw hid hfirst hm

/-- What the guarded creation can do before an integration is there: it ends in a fault, it fails,
it is to be tried again, or an integration has been created or found. -/
inductive FreshRun (s : Settings) (w w' : Remote) (m : Value) (sess : Session) :
    History → Except Fault Event → Session → Prop
  | faulted {h : History} {f : Fault} {sess' : Session} : f.serviceCode = .null ∨ sess' = sess →
      FreshRun s w w' m sess h (.error f) sess'
  | failed {h : History} {e' : Event} {sess' : Session} : e'.status = .failed →
      FreshRun s w w' m sess h (.ok e') sess'
  | retried {h : History} {sess' : Session} : Fresh sess'.context m → FreshRun s w w' m sess h
      (.ok (.defer m .session s.callbackDelay (some .throttling))) sess'
  | created {h : History} {arn : String} {tags : Tags} {m' : Value} {sess' : Session} :
      Created w' arn sess'.context m' → w'.get? arn = some tags →
      (∀ r : Request, r.wanted m' = r.wanted m) →
      FreshRun s w w' m sess h (.ok (.defer m' .session s.callbackDelay)) sess'
  | adopted {id response record : Value} {arn : String} {tags : Tags} {m' : Value}
      {sess' : Session} : Created w arn sess'.context m' → w' = w → w.get? arn = some tags →
      ReportsFirst response record → Shows record arn tags →
      (∀ r : Request, r.wanted m' = r.wanted record) →
      FreshRun s w w' m sess [lookup id (.ok response)] (.ok (.progress m' .session)) sess'

theorem created_put {c : Context} {m : Value} (hun : ¬ c.Marked "add_tags_complete")
    (hne : arn ≠ "") (hm : m.get "IntegrationArn" = .ok (.text arn))
    (hknown : ∃ known, c.get "integration_arn" = .ok known ∧ known.isNull = false ∧
      ∀ b, known = .text b → w.has b = true → b = arn) :
    Created w arn (c.put "create_complete" (.bool true)) m where
  created := Context.marked_put _ _
  untagged := by rwa [Context.marked_put_of_ne _ (by decide)]
  named := hne
  model := hm
  known := by rwa [Context.get_put_of_ne _ (by decide)]

/-- The ARN of the model is kept, and another attempt can follow. -/
theorem Fresh.remember {m : Value} {e' : Event} (hf : Fresh sess.context m)
    (he : e.context = .session) (hm : e.model = m)
    (hy : (rememberArn e).Yields sess h (.ok e') sess') : e' = e ∧ Fresh sess'.context m := by
  obtain ⟨-, rfl, known, hknown, ⟨rfl, -⟩ | ⟨-, arn, harn, htruthy, rfl⟩⟩ := rememberArn_ok he hy
  · exact ⟨rfl, hf⟩
  · refine ⟨rfl, ?_, ?_, arn, Context.get_put_self _ _ _, .inr ⟨htruthy, hm ▸ harn⟩⟩
    · rw [Context.marked_put_of_ne _ (by decide)]
      exact hf.uncreated
    · rw [Context.marked_put_of_ne _ (by decide)]
      exact hf.untagged

/-- An ARN that the context knows is the one that the model is looked up by. -/
theorem Fresh.looked_up {c : Context} {m known id : Value} (hf : Fresh c m)
    (hknown : c.get "integration_arn" = .ok known) (hsome : known.isNull = false)
    (hid : identifier m = .ok id) : id = known := by
  obtain ⟨known', hknown', hstate⟩ := hf.known
  rw [hknown] at hknown'
  cases hknown'
  rcases hstate with hnull | ⟨htruthy, hget⟩
  · rw [hsome] at hnull
    cases hnull
  · exact identifier_of_arn hget htruthy hid

/-- What has been found is known from then on: by its own ARN, or by that which the model has had
before, by which it has been found. -/
theorem Fresh.adopt {m id response record : Value} {found entries : Entries String Value}
    {e' : Event} (hf : Fresh sess.context m) (hw : w.Serves [lookup id (.ok response)] w')
    (hid : identifier m = .ok id) (hfirst : ReportsFirst response record)
    (hm : modelOf record = .ok (.map found))
    (hy : (rememberArn (.progress (.map (entries.merge found)) .session)).Yields sess h (.ok e')
      sess') :
    ∃ arn tags m', e' = .progress m' .session ∧ w' = w ∧ w.get? arn = some tags ∧
      Shows record arn tags ∧ (∀ r : Request, r.wanted m' = r.wanted record) ∧
      Created w arn (sess'.context.put "create_complete" (.bool true)) m' := by
  obtain ⟨w₁, hanswer, hnil⟩ := Remote.serves_cons_iff.1 hw
  obtain rfl := Remote.serves_nil_iff.1 hnil
  obtain ⟨rfl, arn, tags, hne, hheld, hshows, hsame⟩ := hanswer.shows hfirst
  obtain ⟨_, hmap, hdistinct, harn, htags⟩ := hshows.model hm
  cases hmap
  have harn' : (Value.map (entries.merge found)).get "IntegrationArn" = .ok (.text arn) :=
    get_merge hdistinct harn
  obtain ⟨-, rfl, known, hknown, hcases⟩ := rememberArn_of_arn rfl harn' hne hy
  refine ⟨arn, tags, _, rfl, rfl, hheld, hshows,
    fun r => r.wanted_congr (get_merge hdistinct htags) hshows.tags, ?_⟩
  rcases hcases with ⟨hsome, rfl⟩ | ⟨-, rfl⟩
  · have hlooked := hf.looked_up hknown hsome hid
    exact created_put hf.untagged hne harn'
      ⟨known, hknown, hsome, fun b hb => hsame b (hlooked.trans hb)⟩
  · refine created_put ?_ hne harn' ⟨.text arn, Context.get_put_self _ _ _, rfl,
      fun b hb _ => (Value.text.inj hb).symm⟩
    rw [Context.marked_put_of_ne _ (by decide)]
    exact hf.untagged

/-- What the guarded creation does if it sends the request. -/
theorem Fresh.requested {m : Value} {e₁ e' : Event} {s₁ s₂ : Session} {h₂ : History} {w₁ : Remote}
    (hf : Fresh sess.context m) (hrequest : CreateRun s (.progress m .session) sess w₁ (.ok e₁) s₁)
    (hremember : (rememberArn e₁).Yields s₁ h₂ (.ok e') s₂)
    (hflag : Flagged "create_complete" e' s₂ sess') (hw : w₁.Serves h₂ w') :
    FreshRun s w w' m sess h (.ok e') sess' := by
  cases hrequest with
  | failed hstatus hcontext =>
    obtain ⟨-, rfl, -⟩ := rememberArn_ok hcontext hremember
    exact .failed hstatus
  | retried =>
    obtain ⟨rfl, hfresh⟩ := hf.remember (by rfl) rfl hremember
    obtain rfl := hflag.kept rfl
    exact .retried hfresh
  | created hne hheld hset =>
    have harn := get_of_set hset
    obtain ⟨rfl, rfl, known, hknown, hkept⟩ := rememberArn_of_arn rfl harn hne hremember
    obtain rfl := Remote.serves_nil_iff.1 hw
    rw [Context.get_put_self] at hknown
    cases hknown
    rcases hkept with ⟨-, rfl⟩ | ⟨hnull, -⟩
    · obtain rfl := hflag.set rfl
      refine .created (created_put ?_ hne harn ⟨_, Context.get_put_self _ _ _, rfl,
        fun b hb _ => (Value.text.inj hb).symm⟩) hheld ((sameBut_of_set hset).wanted (by decide))
      rw [Context.marked_put_of_ne _ (by decide)]
      exact hf.untagged
    · cases hnull

theorem Fresh.createStep_cases {tags : TagSources} {m : Value} (hf : Fresh sess.context m)
    (hy : (executeOnce "create_complete" (createStep s tags) (.progress m .session)).Yields sess h
      res sess') (hw : w.Serves h w') : FreshRun s w w' m sess h res sess' := by
  cases res with
  | error f => exact .faulted (executeOnce_createStep_error hy)
  | ok e' =>
    obtain ⟨s₁, hstep, hflag⟩ :=
      executeOnce_unmarked rfl (staysInSession_createStep tags) hf.uncreated hy
    obtain ⟨h₁, e₁, s₂, h₂, hsafe, hremember, rfl⟩ := yields_bind_ok.1 hstep
    obtain ⟨w₁, hw₁, hw₂⟩ := Remote.serves_append_iff.1 hw
    generalize hr : (Except.ok e₁ : Except Fault Event) = result at hsafe
    cases (safeCreate_cases rfl hsafe).served hw₁ with
    | faulted => cases hr
    | requested hrequest =>
      cases hr
      exact hf.requested hrequest hremember hflag hw₂
    | adopted hlookup hid hfirst hm =>
      cases hr
      obtain ⟨rfl, -⟩ := rememberArn_ok rfl hremember
      obtain rfl := Remote.serves_nil_iff.1 hw₂
      obtain ⟨arn, tags, m', rfl, hkept, hheld, hshows, hwanted, hcreated⟩ :=
        hf.adopt hlookup hid hfirst hm hremember
      obtain rfl := hflag.set rfl
      rw [List.append_nil]
      exact .adopted hcreated hkept hheld hfirst hshows hwanted

end Integration

end Provisioning
