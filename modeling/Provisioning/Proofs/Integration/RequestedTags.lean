import Provisioning.Proofs.Integration.Creation
import Provisioning.Script

/-!
# Requested tags over a run

A create request is served over several invocations, and each of them takes the tags to add from
the model that the one before it has reported. That is the model of the request as long as an
integration is created for it; an integration that a look-up finds replaces the tags of the model by
its own. If the request to add tags is then refused and has to be made again, the next invocation
adds only what the found integration and the stack declare (`Forgets`).

`carries_requested_iff`: this is the only way to lose a tag. A run that succeeds leaves the
integration with every requested tag exactly if no invocation forgets one.
-/

set_option autoImplicit false

namespace Provisioning.Integration

open Handler

variable {s : Settings} {r : Request} {w w' : Remote} {arn : String} {e : Event}
  {sess sess' : Session} {h : History} {res : Except Fault Event}

/-! ## One invocation -/

/-- An invocation for a tagged integration changes no tags, and finishes. -/
theorem Tagged.act (haction : r.action = .create) (ht : Tagged arn sess.context sess.model)
    (hheld : w.has arn = true) (hy : ((provider s).act r).Yields sess h res sess')
    (hw : w.Serves h w') : w' = w ∧ Unrefused h ∧ (Over res ∨ Finishing arn sess' res) := by
  rcases act_create_cases haction hy with
    ⟨f, -, rfl, rfl, rfl⟩ | ⟨tags, named, -, hcontext, hm, hchain⟩
  · exact ⟨Remote.serves_nil_iff.1 hw, unrefused_nil,
      .inr (Finishing.awaits (m := sess'.model) rfl ht)⟩
  · rw [← hcontext] at ht
    have hfinal := chain_of_marked ht.tagged (chain_of_marked ht.created hchain)
    exact Tagged.settle (e := .progress named.model .session)
      ⟨ht.created, ht.tagged, ht.named, hm.sameBut.get (by decide) ht.model⟩ rfl rfl hheld hfinal hw

/-- An invocation for an integration without its tags fails, or is repeated because the tags were
refused, or finishes with the tags that are wanted. -/
theorem Created.act (hdelay : s.callbackDelay.isPositive = .ok true)
    (haction : r.action = .create) (hc : Created w arn sess.context sess.model) {cur : Tags}
    (hcur : w.get? arn = some cur) (hy : ((provider s).act r).Yields sess h res sess')
    (hw : w.Serves h w') :
    Over res ∨
      (h.length ≤ 1 ∧ w' = w ∧ ∃ m, Awaits m sess' res ∧ Created w arn sess'.context m ∧
        r.wanted m = r.wanted sess.model) ∨
      ∃ wanted, r.wanted sess.model = .ok wanted ∧ w'.get? arn = some (cur.merge wanted) ∧
        Unrefused h ∧ Finishing arn sess' res := by
  rcases act_create_cases haction hy with
    ⟨f, -, rfl, rfl, rfl⟩ | ⟨tags, named, htags, hcontext, hm, hchain⟩
  · exact .inr (.inl ⟨Nat.zero_le _, Remote.serves_nil_iff.1 hw, sess'.model, rfl, hc, rfl⟩)
  · rw [← hcontext] at hc
    have hnamed : Created w arn named.context named.model :=
      ⟨hc.created, hc.untagged, hc.named, hm.sameBut.get (by decide) hc.model, hc.known⟩
    rcases hnamed.finalSteps_cases hdelay hcur (chain_of_marked hc.created hchain) hw with
      hover | ⟨known, wanted, f, -, rfl, hawaits, rfl, rfl⟩ |
      ⟨wanted, hwanted, hnow, hunrefused, hends⟩
    · exact .inl hover
    · exact .inr (.inl ⟨Nat.le_refl _, rfl, _, hawaits, hnamed, hm.sameBut.wanted (by decide) r⟩)
    · exact .inr (.inr ⟨_, r.wanted_eq_ok htags hwanted, hnow, hunrefused, hends⟩)

/-- What an invocation can do before an integration is there: it fails, it is repeated, it creates
an integration, it finds one and is repeated because the tags were refused, or it finds one and
finishes with the tags that are wanted. -/
inductive FirstRun (r : Request) (w w' : Remote) (m : Value) :
    History → Except Fault Event → Session → Prop
  | ended {h : History} {res : Except Fault Event} {sess' : Session} : Over res →
      FirstRun r w w' m h res sess'
  | again {h : History} {res : Except Fault Event} {sess' : Session} {m' : Value} : Unrefused h →
      Awaits m' sess' res → Fresh sess'.context m' → r.wanted m' = r.wanted m →
      FirstRun r w w' m h res sess'
  | created {h : History} {res : Except Fault Event} {sess' : Session} {m' : Value} {arn : String}
      {tags : Tags} : Unrefused h → Awaits m' sess' res → Created w' arn sess'.context m' →
      w'.get? arn = some tags → r.wanted m' = r.wanted m → FirstRun r w w' m h res sess'
  | refused {id response record known : Value} {wanted tags : Tags} {f : Fault}
      {res : Except Fault Event} {sess' : Session} {m' : Value} {arn : String} :
      r.wanted m = .ok wanted → ReportsFirst response record → Shows record arn tags →
      Awaits m' sess' res → Created w' arn sess'.context m' → w'.get? arn = some tags →
      r.wanted m' = r.wanted record →
      FirstRun r w w' m [lookup id (.ok response), addition known wanted (.error f)] res sess'
  | adopted {h : History} {res : Except Fault Event} {sess' : Session} {arn : String}
      {tags wanted : Tags} : Unrefused h → r.wanted m = .ok wanted →
      w'.get? arn = some (tags.merge wanted) → Finishing arn sess' res →
      FirstRun r w w' m h res sess'

/-- Naming the integration does not change the stage. -/
theorem Fresh.rename {c : Context} {m m' : Value} (hf : Fresh c m)
    (hm : SameBut "IntegrationName" m m') : Fresh c m' := by
  obtain ⟨known, hknown, hstate⟩ := hf.known
  exact ⟨hf.uncreated, hf.untagged, known, hknown,
    hstate.imp_right fun ⟨htruthy, hget⟩ => ⟨htruthy, hm.get (by decide) hget⟩⟩

theorem unrefused_createStep {tags : TagSources}
    (hy : (executeOnce "create_complete" (createStep s tags) e).Yields sess h res sess') :
    Unrefused h := by
  have hwithin : ∀ e,
      (createStep s tags e).Within ["describe_integrations", "create_integration"] :=
    within_createStep (by decide) (by decide) tags
  exact unrefused_of_within (within_executeOnce _ hwithin _ (by decide) hy).1 (by decide)

theorem Fresh.act (hdelay : s.callbackDelay.isPositive = .ok true)
    (haction : r.action = .create) (hf : Fresh sess.context sess.model)
    (hy : ((provider s).act r).Yields sess h res sess') (hw : w.Serves h w') :
    FirstRun r w w' sess.model h res sess' := by
  rcases act_create_cases haction hy with
    ⟨f, -, rfl, rfl, rfl⟩ | ⟨tags, named, htags, hcontext, hm, hchain⟩
  · exact .again unrefused_nil (show Awaits sess'.model _ _ from rfl) hf rfl
  have hf : Fresh named.context named.model := by
    rw [hcontext]
    exact hf.rename hm.sameBut
  have hwanted : r.wanted named.model = r.wanted sess.model := hm.sameBut.wanted (by decide) r
  rcases chain_of_proceed (by rfl) hchain with
    ⟨f, hstep, rfl⟩ | ⟨h₁, e₁, s₁, h₂, hstep, hrest, rfl⟩
  · rcases executeOnce_createStep_error hstep with hcode | rfl
    · exact .ended hcode
    · exact .again (unrefused_createStep hstep) (show Awaits sess'.model _ _ from rfl) hf hwanted
  obtain ⟨w₁, hw₁, hw₂⟩ := Remote.serves_append_iff.1 hw
  have hunrefused := unrefused_createStep hstep
  generalize hr : (Except.ok e₁ : Except Fault Event) = result at hstep
  cases hf.createStep_cases hstep hw₁ with
  | faulted => cases hr
  | failed hstatus =>
    cases hr
    obtain ⟨-, rfl, -⟩ := chain_of_failed hstatus hrest
    exact .ended hstatus
  | retried hagain =>
    cases hr
    obtain ⟨rfl, rfl, rfl⟩ := chain_of_outcome (Event.outcome_defer hdelay) (by decide) hrest
    rw [List.append_nil]
    exact .again hunrefused ⟨rfl, rfl, rfl⟩ hagain hwanted
  | created hcreated hheld hsame =>
    cases hr
    obtain ⟨rfl, rfl, rfl⟩ := chain_of_outcome (Event.outcome_defer hdelay) (by decide) hrest
    obtain rfl := Remote.serves_nil_iff.1 hw₂
    rw [List.append_nil]
    exact .created hunrefused ⟨rfl, rfl, rfl⟩ hcreated hheld ((hsame r).trans hwanted)
  | adopted hcreated hkept hheld hfirst hshows hsame =>
    cases hr
    obtain rfl := hkept
    rcases hcreated.finalSteps_cases hdelay hheld hrest hw₂ with
      hover | ⟨known, wanted, f, hready, rfl, hawaits, rfl, rfl⟩ |
      ⟨wanted, hready, hnow, hlater, hends⟩
    · exact .ended hover
    · exact .refused (r.wanted_eq_ok htags hready) hfirst hshows hawaits hcreated hheld (hsame r)
    · exact .adopted (hunrefused.append hlater) (r.wanted_eq_ok htags hready) hnow hends

/-! ## From one invocation to the next -/

section
variable {c c' : Context} {m : Value}

theorem Fresh.carry (hf : Fresh c m) (hc : Carried c c') : Fresh c' m := by
  refine ⟨?_, ?_, ?_⟩
  · rw [hc.marked (by decide)]
    exact hf.uncreated
  · rw [hc.marked (by decide)]
    exact hf.untagged
  · rw [hc _ (by decide)]
    exact hf.known

theorem Created.carry (hm : Created w arn c m) (hc : Carried c c') : Created w arn c' m := by
  refine ⟨(hc.marked (by decide)).2 hm.created, ?_, hm.named, hm.model, ?_⟩
  · rw [hc.marked (by decide)]
    exact hm.untagged
  · rw [hc _ (by decide)]
    exact hm.known

theorem Tagged.carry (hm : Tagged arn c m) (hc : Carried c c') : Tagged arn c' m :=
  ⟨(hc.marked (by decide)).2 hm.created, (hc.marked (by decide)).2 hm.tagged, hm.named, hm.model⟩

end

/-- What is reported of a tagged integration in the end has its ARN. -/
theorem Reported.success (hr : Reported s r sess res sess' e)
    (hends : Over res ∨ Finishing arn sess' res) (hs : e.status = .success) :
    e.model.get "IntegrationArn" = .ok (.text arn) := by
  rcases hends with hover | hawaits | ⟨-, harn⟩
  · rw [hr.ended hover] at hs
    cases hs
  · exact absurd hs (hr.awaits _ ‹_›)
  · rw [(hr.event _ rfl).2]
    exact harn

/-- If another invocation follows, it is for the tagged integration. -/
theorem Reported.tagged (hr : Reported s r sess res sess' e)
    (hends : Over res ∨ Finishing arn sess' res) (hs : e.status = .inProgress) :
    ∃ next, (provider s).openSession (r.resume e) = .ok next ∧
      Tagged arn next.context next.model := by
  rcases hends with hover | ⟨hawaits, ht⟩ | ⟨hsuccess, -⟩
  · rw [hr.ended hover] at hs
    cases hs
  · obtain ⟨next, hopen, hm, hc⟩ := hr.resume _ hawaits hs
    rw [Value.not_isNull_of_get ht.model] at hm
    exact ⟨next, hopen, hm ▸ ht.carry hc⟩
  · rw [(hr.event _ rfl).1, hsuccess] at hs
    cases hs

/-- If another invocation follows an attempt, it wants the same tags. -/
theorem Reported.fresh {m : Value} (hr : Reported s r sess res sess' e) (hm : Awaits m sess' res)
    (hf : Fresh sess'.context m) (hsame : r.wanted m = r.wanted sess.model)
    (hs : e.status = .inProgress) :
    ∃ next, (provider s).openSession (r.resume e) = .ok next ∧ Fresh next.context next.model ∧
      r.wanted next.model = r.wanted sess.model := by
  obtain ⟨next, hopen, hmodel, hcarried⟩ := hr.resume _ hm hs
  refine ⟨next, hopen, ?_, ?_⟩
  · cases hnull : m.isNull with
    | false => rw [hmodel, hnull]; exact hf.carry hcarried
    | true =>
      -- a null model has no ARN that the context could know
      obtain ⟨known, hknown, hnone | ⟨-, hget⟩⟩ := hf.known
      · exact Fresh.carry ⟨hf.uncreated, hf.untagged, known, hknown, .inl hnone⟩ hcarried
      · rw [Value.not_isNull_of_get hget] at hnull
        cases hnull
  · rw [hmodel]
    split
    · rfl
    · exact hsame

/-- If another invocation follows, it is for the integration that is not tagged yet. -/
theorem Reported.created {m : Value} (hr : Reported s r sess res sess' e)
    (hm : Awaits m sess' res) (hc : Created w arn sess'.context m) (hs : e.status = .inProgress) :
    ∃ next, (provider s).openSession (r.resume e) = .ok next ∧
      Created w arn next.context next.model ∧ next.model = m := by
  obtain ⟨next, hopen, hmodel, hcarried⟩ := hr.resume _ hm hs
  rw [Value.not_isNull_of_get hc.model] at hmodel
  exact ⟨next, hopen, hmodel ▸ hc.carry hcarried, hmodel⟩

/-! ## Runs -/

/-- Tags give every key of others the value that it has there. -/
def Carries (tags requested : Tags) : Prop :=
  ∀ k v, requested.get? k = some v → Entries.Matches (tags.get? k) (some v)

/-- An invocation has found an integration, and its request to add tags was refused: from then on
the request wants the tags that it would want for the record that was found. -/
inductive Forgets (r : Request) : History → Tags → Prop
  | intro {id response record known : Value} {tags later : Tags} {f : Fault} :
      ReportsFirst response record → r.wanted record = .ok later →
      Forgets r [lookup id (.ok response), addition known tags (.error f)] later

theorem carries_merge (cur : Tags) {requested : Tags} (hd : requested.Distinct) :
    Carries (cur.merge requested) requested := by
  intro k v hk
  rw [Entries.get?_merge _ hd, hk]
  exact .some BEq.rfl

theorem carries_merge_iff {cur later requested : Tags} (hd : later.Distinct)
    (hcover : ∀ k, cur.has k = true → later.has k = true) :
    Carries (cur.merge later) requested ↔ Carries later requested := by
  have hsame : ∀ k, (cur.merge later).get? k = later.get? k := by
    intro k
    rw [Entries.get?_merge _ hd]
    cases hlater : later.get? k with
    | some v => rfl
    | none =>
      cases hcur : cur.get? k with
      | none => rfl
      | some v =>
        have hhas := hcover k (by rw [Entries.has_eq_isSome, hcur]; rfl)
        rw [Entries.has_eq_isSome, hlater] at hhas
        cases hhas
  simp only [Carries, hsame]

theorem not_forgets {later : Tags} (h₁ : Unrefused h ∨ h.length ≤ 1) : ¬ Forgets r h later := by
  rintro ⟨-, -⟩
  rcases h₁ with hunrefused | hshort
  · exact hunrefused _ _ (List.mem_cons_of_mem _ List.mem_cons_self) rfl
  · exact absurd hshort (Nat.not_succ_le_self 1)

/-- If no invocation forgets tags, what has been added last is all that counts. -/
theorem carries_merge_iff_of_plain {hs : List History} (cur : Tags) {requested : Tags}
    (hd : requested.Distinct) (hplain : ∀ h ∈ hs, Unrefused h ∨ h.length ≤ 1) :
    Carries (cur.merge requested) requested ↔
      ∀ h ∈ hs, ∀ later, Forgets r h later → Carries later requested :=
  iff_of_true (carries_merge cur hd) fun h hh _ hf => absurd hf (not_forgets (hplain h hh))

/-- What the request wants from then on depends on what the first look-up found. -/
theorem Forgets.wanted {id response record : Value} {later : Tags}
    (hf : Forgets r (lookup id (.ok response) :: h) later) (hr : ReportsFirst response record) :
    r.wanted record = .ok later := by
  generalize hh : lookup id (.ok response) :: h = h' at hf
  obtain ⟨hfirst, hlater⟩ := hf
  have hanswer := (Exchange.called.inj (List.cons.inj hh).1).2
  cases hanswer
  cases hr.unique hfirst
  exact hlater

/-- Another invocation of a request wants the same tags for the same record. -/
theorem forgets_resume_iff {later : Tags} : Forgets (r.resume e) h later ↔ Forgets r h later :=
  ⟨fun ⟨hfirst, hlater⟩ => .intro hfirst hlater, fun ⟨hfirst, hlater⟩ => .intro hfirst hlater⟩

section
variable {hs : List History} {result : Except Fault Event}

/-- A run for a tagged integration changes no tags. -/
theorem Tagged.run (hrun : (provider s).Run r hs result) (hresult : result = .ok e)
    (hsuccess : e.status = .success) (haction : r.action = .create)
    (hopen : (provider s).openSession r = .ok sess) (ht : Tagged arn sess.context sess.model)
    (hheld : w.has arn = true) (hw : w.Serves hs.flatten w') :
    w' = w ∧ e.model.get "IntegrationArn" = .ok (.text arn) ∧ ∀ h ∈ hs, Unrefused h := by
  induction hrun generalizing sess w with
  | last hinv =>
    subst hresult
    obtain ⟨res, sess', hact, hreported⟩ := invokes_cases hopen hinv
    rw [List.flatten_cons, List.flatten_nil, List.append_nil] at hw
    obtain ⟨rfl, hunrefused, hends⟩ := ht.act haction hheld hact hw
    exact ⟨rfl, hreported.success hends hsuccess, by simpa using hunrefused⟩
  | again hinv hstatus _ ih =>
    obtain ⟨res, sess', hact, hreported⟩ := invokes_cases hopen hinv
    obtain ⟨w₁, hw₁, hw₂⟩ := Remote.serves_append_iff.1 hw
    obtain ⟨rfl, hunrefused, hends⟩ := ht.act haction hheld hact hw₁
    obtain ⟨next, hnext, htagged⟩ := hreported.tagged hends hstatus
    obtain ⟨hkept, harn, hlater⟩ := ih hresult haction hnext htagged hheld hw₂
    exact ⟨hkept, harn, List.forall_mem_cons.2 ⟨hunrefused, hlater⟩⟩

/-- A run for an integration without its tags adds those that are wanted. -/
theorem Created.run (hdelay : s.callbackDelay.isPositive = .ok true)
    (hrun : (provider s).Run r hs result) (hresult : result = .ok e)
    (hsuccess : e.status = .success) (haction : r.action = .create)
    (hopen : (provider s).openSession r = .ok sess) (hc : Created w arn sess.context sess.model)
    {cur : Tags} (hcur : w.get? arn = some cur) (hw : w.Serves hs.flatten w') :
    ∃ wanted, r.wanted sess.model = .ok wanted ∧ w'.get? arn = some (cur.merge wanted) ∧
      e.model.get "IntegrationArn" = .ok (.text arn) ∧
      ∀ h ∈ hs, Unrefused h ∨ h.length ≤ 1 := by
  induction hrun generalizing sess w with
  | last hinv =>
    subst hresult
    obtain ⟨res, sess', hact, hreported⟩ := invokes_cases hopen hinv
    rw [List.flatten_cons, List.flatten_nil, List.append_nil] at hw
    rcases hc.act hdelay haction hcur hact hw with
      hover | ⟨-, -, m, hawaits, -⟩ | ⟨wanted, hwanted, hnow, hunrefused, hends⟩
    · rw [hreported.ended hover] at hsuccess
      cases hsuccess
    · exact absurd hsuccess (hreported.awaits m hawaits)
    · exact ⟨wanted, hwanted, hnow, hreported.success (.inr hends) hsuccess,
        by simpa using .inl hunrefused⟩
  | again hinv hstatus hrest ih =>
    obtain ⟨res, sess', hact, hreported⟩ := invokes_cases hopen hinv
    obtain ⟨w₁, hw₁, hw₂⟩ := Remote.serves_append_iff.1 hw
    rcases hc.act hdelay haction hcur hact hw₁ with
      hover | ⟨hshort, rfl, m, hawaits, hcreated, hsame⟩ |
      ⟨wanted, hwanted, hnow, hunrefused, hends⟩
    · rw [hreported.ended hover] at hstatus
      cases hstatus
    · obtain ⟨next, hnext, hstill, rfl⟩ := hreported.created hawaits hcreated hstatus
      obtain ⟨wanted, hwanted, hnow, harn, hlater⟩ := ih hresult haction hnext hstill hcur hw₂
      exact ⟨wanted, hsame ▸ hwanted, hnow, harn, List.forall_mem_cons.2 ⟨.inr hshort, hlater⟩⟩
    · obtain ⟨next, hnext, htagged⟩ := hreported.tagged (.inr hends) hstatus
      obtain ⟨rfl, harn, hlater⟩ := htagged.run hrest hresult hsuccess haction hnext
        (by rw [Entries.has_eq_isSome, hnow]; rfl) hw₂
      exact ⟨wanted, hwanted, hnow, harn,
        List.forall_mem_cons.2 ⟨.inl hunrefused, fun h hh => .inl (hlater h hh)⟩⟩

/-- Over a run that succeeds, the integration gets the requested tags exactly if no invocation found
it and forgot a tag of it. -/
theorem Fresh.run (hdelay : s.callbackDelay.isPositive = .ok true)
    (hrun : (provider s).Run r hs result) (hresult : result = .ok e)
    (hsuccess : e.status = .success) (haction : r.action = .create)
    (hopen : (provider s).openSession r = .ok sess) (hf : Fresh sess.context sess.model)
    (hw : w.Serves hs.flatten w') :
    ∃ requested arn tags, r.wanted sess.model = .ok requested ∧
      e.model.get "IntegrationArn" = .ok (.text arn) ∧ w'.get? arn = some tags ∧
      (Carries tags requested ↔
        ∀ h ∈ hs, ∀ later, Forgets r h later → Carries later requested) := by
  induction hrun generalizing sess w with
  | last hinv =>
    subst hresult
    obtain ⟨res, sess', hact, hreported⟩ := invokes_cases hopen hinv
    rw [List.flatten_cons, List.flatten_nil, List.append_nil] at hw
    cases hf.act hdelay haction hact hw with
    | ended hover => rw [hreported.ended hover] at hsuccess; cases hsuccess
    | again _ hawaits => exact absurd hsuccess (hreported.awaits _ hawaits)
    | created _ hawaits => exact absurd hsuccess (hreported.awaits _ hawaits)
    | refused _ _ _ hawaits => exact absurd hsuccess (hreported.awaits _ hawaits)
    | adopted hunrefused hwanted hnow hends =>
      exact ⟨_, _, _, hwanted, hreported.success (.inr hends) hsuccess, hnow,
        carries_merge_iff_of_plain _ (Request.distinct_wanted hwanted)
          (List.forall_mem_singleton.2 (.inl hunrefused))⟩
  | again hinv hstatus hrest ih =>
    obtain ⟨res, sess', hact, hreported⟩ := invokes_cases hopen hinv
    obtain ⟨w₁, hw₁, hw₂⟩ := Remote.serves_append_iff.1 hw
    cases hf.act hdelay haction hact hw₁ with
    | ended hover => rw [hreported.ended hover] at hstatus; cases hstatus
    | again hunrefused hawaits hfresh hsame =>
      obtain ⟨next, hnext, hfresh, hsame⟩ := hreported.fresh hawaits hfresh hsame hstatus
      obtain ⟨requested, arn, tags, hwanted, harn, hnow, hiff⟩ :=
        ih hresult haction hnext hfresh hw₂
      refine ⟨requested, arn, tags, hsame ▸ hwanted, harn, hnow, ?_⟩
      simp only [forgets_resume_iff] at hiff
      rw [hiff, List.forall_mem_cons]
      exact (and_iff_right fun later hf => absurd hf (not_forgets (.inl hunrefused))).symm
    | created hunrefused hawaits hcreated hheld hsame =>
      obtain ⟨next, hnext, hstill, rfl⟩ := hreported.created hawaits hcreated hstatus
      obtain ⟨wanted, hwanted, hnow, harn, hlater⟩ :=
        hstill.run hdelay hrest hresult hsuccess haction hnext hheld hw₂
      exact ⟨wanted, _, _, hsame ▸ hwanted, harn, hnow,
        carries_merge_iff_of_plain _ (Request.distinct_wanted hwanted)
          (List.forall_mem_cons.2 ⟨.inl hunrefused, hlater⟩)⟩
    | @refused _ _ record _ requested _ _ _ _ _ _ hwanted hfirst hshows hawaits hcreated hheld
        hsame =>
      obtain ⟨next, hnext, hstill, rfl⟩ := hreported.created hawaits hcreated hstatus
      obtain ⟨later, hlater, hnow, harn, hplain⟩ :=
        hstill.run hdelay hrest hresult hsuccess haction hnext hheld hw₂
      have hlater := hsame.symm.trans hlater
      refine ⟨requested, _, _, hwanted, harn, hnow, ?_⟩
      rw [carries_merge_iff (Request.distinct_wanted hlater)
        fun k hk => hshows.has_wanted hlater hk, List.forall_mem_cons]
      refine ⟨fun hcarries => ⟨?_, fun h hh later hf => absurd hf (not_forgets (hplain h hh))⟩,
        fun hforgets => hforgets.1 later (.intro hfirst hlater)⟩
      intro later' hf
      cases hlater.symm.trans (hf.wanted hfirst)
      exact hcarries
    | adopted hunrefused hwanted hnow hends =>
      obtain ⟨next, hnext, htagged⟩ := hreported.tagged (.inr hends) hstatus
      obtain ⟨rfl, harn, hlater⟩ := htagged.run hrest hresult hsuccess haction hnext
        (by rw [Entries.has_eq_isSome, hnow]; rfl) hw₂
      exact ⟨_, _, _, hwanted, harn, hnow,
        carries_merge_iff_of_plain _ (Request.distinct_wanted hwanted)
          (List.forall_mem_cons.2 ⟨.inl hunrefused, fun h hh => .inl (hlater h hh)⟩)⟩

end

/-- Over a run of a create request that starts afresh and ends in success, with a remote that keeps
tags, the integration gets every requested tag exactly if no invocation forgets one: an invocation
that finds the integration and whose request to add the tags is refused goes on with the tags of
the record that it found. Here a retry asks for a positive delay. -/
theorem carries_requested_iff (hdelay : s.callbackDelay.isPositive = .ok true)
    (haction : r.action = .create)
    (hfresh : Context.ofValue .integration r.customContext = .ok (.initial .integration))
    {hs : List History} (hrun : (provider s).Run r hs (.ok e)) (hsuccess : e.status = .success)
    (hremote : w.Serves hs.flatten w') :
    ∃ requested arn tags, r.wanted r.desired = .ok requested ∧
      e.model.get "IntegrationArn" = .ok (.text arn) ∧ w'.get? arn = some tags ∧
      (Carries tags requested ↔
        ∀ h ∈ hs, ∀ later, Forgets r h later → Carries later requested) := by
  have hopen : (provider s).openSession r = .ok ⟨r.desired, .initial .integration⟩ :=
    Provider.openSession_eq_ok.2 ⟨rfl, hfresh⟩
  have hinitial : Fresh (.initial .integration) r.desired := by
    refine ⟨?_, ?_, .null, rfl, .inl rfl⟩ <;> rintro ⟨v, hv, htruthy⟩ <;> cases hv <;> cases htruthy
  exact Fresh.run hdelay hrun rfl hsuccess haction hopen hinitial hremote

/-- A request for an integration with a tag. -/
def teamOrder : Request :=
  { action := .create
    desired := .map [("IntegrationName", .text "orders"), ("SourceArn", .text "arn:source"),
      ("TargetArn", .text "arn:target"),
      ("Tags", tagList [(.text "team", .text "data")])] }

/-- The integration is there already, without tags. -/
def untaggedRecord : Value :=
  .map [("IntegrationName", .text "orders"), ("IntegrationArn", .text "arn:orders"),
    ("Status", .text "active"), ("Tags", tagList [])]

/-- A refusal that passes on its own. -/
def passingConflict : Fault :=
  .service { code := some (.text "InvalidIntegrationStateFault")
             message := some (.text invalidStateMessage), operation := "AddTagsToResource" }

/-- A service that holds the integration and refuses tags. -/
def busyService : Script :=
  { replies :=
      [("describe_integrations", [.answer (.ok (.map [("Integrations", .list [untaggedRecord])]))]),
       ("add_tags_to_resource", [.answer (.error passingConflict)])] }

/-- The look-up that finds the integration. -/
def untaggedLookup (id : String) : Exchange :=
  lookup (.text id) (.ok (.map [("Integrations", .list [untaggedRecord])]))

/-- The histories of two invocations: the integration is found and its tag is refused, and then it
is polled and read. -/
def busyRun : List History :=
  [[untaggedLookup "orders",
    addition (.text "arn:orders") [(.text "team", .text "data")] (.error passingConflict)],
   [.clock (.int 0), untaggedLookup "arn:orders", untaggedLookup "arn:orders"]]

/-- The service answers the request with these histories, and the run succeeds. -/
theorem run_busyRun : ∃ e, (provider {}).Run teamOrder busyRun (.ok e) ∧ e.status = .success ∧
    e.model.get "IntegrationArn" = .ok (.text "arn:orders") := by
  have hfirst : (provider {}).Invokes teamOrder _ _ :=
    ⟨⟨teamOrder.desired, .initial .integration⟩, _, rfl,
      Program.runs_history Script.environment _ busyService⟩
  have hrun : (provider {}).Run teamOrder [_, _] _ :=
    .again hfirst rfl (.last ⟨_, _, rfl, Program.runs_history Script.environment _ busyService⟩)
  exact ⟨_, hrun, rfl, rfl⟩

/-- A remote that holds the integration without tags. -/
def ordersRemote : Remote := [("arn:orders", [])]

theorem answers_untaggedLookup (id : String) :
    ordersRemote.Answers (untaggedLookup id) ordersRemote := by
  have hfirst : ReportsFirst (.map [("Integrations", .list [untaggedRecord])]) untaggedRecord :=
    ⟨_, rfl, rfl, rfl⟩
  refine .found rfl (by decide) rfl (fun id' _ hheld => ?_) hfirst
    ⟨⟨_, rfl, by unfold Entries.Distinct; simp⟩, rfl, rfl⟩
  have hsame : ("arn:orders" == id') = true := by simpa [ordersRemote, Entries.has] using hheld
  exact (eq_of_beq hsame).symm

/-- This is a remote that keeps tags: it never gets any. -/
theorem serves_busyRun : ordersRemote.Serves busyRun.flatten ordersRemote :=
  .cons (answers_untaggedLookup _) (.cons .refused (.cons .clock
    (.cons (answers_untaggedLookup _) (.cons (answers_untaggedLookup _) .nil))))

/-- The second invocation wants no tags, since the record that the first one found has none; so the
requested tag is lost. -/
theorem carries_requested_iff_busyRun :
    ∃ e, (provider {}).Run teamOrder busyRun (.ok e) ∧ e.status = .success ∧
      ordersRemote.Serves busyRun.flatten ordersRemote ∧ ∃ requested arn tags,
        teamOrder.wanted teamOrder.desired = .ok requested ∧
        e.model.get "IntegrationArn" = .ok (.text arn) ∧ ordersRemote.get? arn = some tags ∧
        (Carries tags requested ↔
          ∀ h ∈ busyRun, ∀ later, Forgets teamOrder h later → Carries later requested) := by
  obtain ⟨e, hrun, hsuccess, -⟩ := run_busyRun
  exact ⟨e, hrun, hsuccess, serves_busyRun,
    carries_requested_iff rfl rfl rfl hrun hsuccess serves_busyRun⟩

/-- A run can succeed without having tagged the integration as requested. -/
theorem not_forall_carries_requested :
    ¬ ∀ (s : Settings) (r : Request) (hs : List History) (e : Event) (w w' : Remote)
      (requested : Tags) (arn : String) (tags : Tags), s.callbackDelay.isPositive = .ok true →
      r.action = .create →
      Context.ofValue .integration r.customContext = .ok (.initial .integration) →
      (provider s).Run r hs (.ok e) → e.status = .success → w.Serves hs.flatten w' →
      r.wanted r.desired = .ok requested → e.model.get "IntegrationArn" = .ok (.text arn) →
      w'.get? arn = some tags → Carries tags requested := by
  intro hall
  obtain ⟨e, hrun, hsuccess, harn⟩ := run_busyRun
  have hlost := hall {} teamOrder busyRun e ordersRemote ordersRemote
    [(.text "team", .text "data")] "arn:orders" [] rfl rfl rfl hrun hsuccess serves_busyRun rfl harn
    rfl
  cases hlost (.text "team") (.text "data") rfl

end Provisioning.Integration
