import Provisioning.Proofs.Integration.Model
import Provisioning.Proofs.Integration.Success
import Provisioning.Proofs.Remote
import Provisioning.Proofs.TagChange

/-!
# A remote that keeps the tags of one integration

The remote answers look-ups with the ARN of the integration and keeps its tags. A request to change
the tags that is refused may have taken effect all the same, and it may be refused for any reason
(`TagStore.Answers`).

Bringing the tags up to date then leaves them on the way to where the whole change leads, whatever
is refused, and if the step completes, the whole change has been made (`TagStore.tagStep_serves`).
-/

set_option autoImplicit false

namespace Provisioning.Integration

open Handler TagSet

/-- An exchange that may change the tags of a resource. -/
def ChangesTags (arn : String) : Exchange → Prop
  | .called request _ => request.operation ∈ tagOperations ∧
      request.arguments.get? "ResourceName" = some (.text arn)
  | _ => False

/-- The context knows the ARN of an integration or none. -/
def Knows (arn : String) (c : Context) : Prop :=
  c.get "integration_arn" = .ok .null ∨ c.get "integration_arn" = .ok (.text arn)

namespace TagStore

/-- One answer of a remote that keeps the tags of an integration: whatever it answers to a request
that removes or adds tags, the request may have taken effect, and if it is not refused, it has. -/
inductive Answers (arn : String) (w : Tags) : Exchange → Tags → Prop
  | removed {request : Call} {answer : Answer} {keys : List Value} :
      request.operation = "remove_tags_from_resource" →
      request.arguments.get? "ResourceName" = some (.text arn) →
      request.arguments.get? "TagKeys" = some (.list keys) →
      Answers arn w (.called request answer) (w.without keys)
  | added {request : Call} {answer : Answer} {more : Tags} :
      request.operation = "add_tags_to_resource" →
      request.arguments.get? "ResourceName" = some (.text arn) →
      request.arguments.get? "Tags" = some (tagList more) →
      Answers arn w (.called request answer) (w.merge more)
  | refused {request : Call} {f : Fault} : Answers arn w (.called request (.error f)) w
  | found {request : Call} {response : Value} : request.operation = "describe_integrations" →
      (∀ record, ReportsFirst response record → record.get "IntegrationArn" = .ok (.text arn)) →
      Answers arn w (.called request (.ok response)) w
  | other {x : Exchange} : x.calls "describe_integrations" = false → ¬ ChangesTags arn x →
      Answers arn w x w

/-- The answers of a remote that keeps the tags of an integration. -/
abbrev Serves (arn : String) (w : Tags) (h : History) (w' : Tags) : Prop :=
  Served (Answers arn) w h w'

variable {arn : String} {w w' : Tags} {h : History}

/-! ## Answers -/

theorem Answers.removal {keys : List Value} {answer : Answer}
    (ha : Answers arn w (removal (.text arn) keys answer) w') :
    w' = w.without keys ∨ w' = w ∧ ∃ f, answer = .error f := by
  cases ha with
  | removed _ _ hkeys =>
    cases hkeys
    exact .inl rfl
  | added hop => simp at hop
  | refused => exact .inr ⟨rfl, _, rfl⟩
  | found hop => simp at hop
  | other _ hnot => exact absurd ⟨List.mem_cons_self, rfl⟩ hnot

theorem Answers.addition {more : Tags} {answer : Answer}
    (ha : Answers arn w (addition (.text arn) more answer) w') :
    w' = w.merge more ∨ w' = w ∧ ∃ f, answer = .error f := by
  cases ha with
  | removed hop => simp at hop
  | added _ _ htags =>
    cases tagList_injective (Option.some.inj htags)
    exact .inl rfl
  | refused => exact .inr ⟨rfl, _, rfl⟩
  | found hop => simp at hop
  | other _ hnot => exact absurd ⟨List.mem_cons_of_mem _ List.mem_cons_self, rfl⟩ hnot

/-- A look-up reports the integration, if it reports any. -/
theorem Answers.reports {arguments : Entries String Value} {response record : Value}
    (ha : Answers arn w (.called ⟨"describe_integrations", arguments⟩ (.ok response)) w')
    (hr : ReportsFirst response record) : record.get "IntegrationArn" = .ok (.text arn) := by
  cases ha with
  | removed hop => simp at hop
  | added hop => simp at hop
  | found _ hreports => exact hreports record hr
  | other hnot => simp [Exchange.calls] at hnot

/-- Other operations change no tags. -/
theorem Answers.eq_of_within {x : Exchange} (ha : Answers arn w x w')
    (hx : x.within ["describe_integrations", "modify_integration"] = true) : w' = w := by
  cases ha with
  | removed hop => simp [Exchange.within, hop] at hx
  | added hop => simp [Exchange.within, hop] at hx
  | _ => rfl

theorem Serves.eq_of_within (hs : Serves arn w h w')
    (hh : ∀ x ∈ h, x.within ["describe_integrations", "modify_integration"] = true) : w' = w :=
  hs.invariant (f := id) fun x hx _ _ ha => ha.eq_of_within (hh x hx)

/-! ## Changing the tags -/

variable {s : Settings} {sess sess' : Session} {e : Event} {res : Except Fault Event}
  {d : TagSet × TagSet}

theorem removeTags_serves {tags : TagSet} {r : Except Fault Unit}
    (hy : (removeTags (.text arn) tags).Yields sess h r sess') (hs : Serves arn w h w') :
    sess' = sess ∧ (w' = w.without tags.flat.keys ∨ w' = w ∧ ∃ f, r = .error f) := by
  obtain ⟨hsess, ⟨hempty, rfl, rfl⟩ | ⟨answer, rfl, rfl⟩⟩ := removeTags_cases hy
  · refine ⟨hsess, .inl ?_⟩
    rw [served_nil_iff.1 hs, TagSet.flat_of_isEmpty hempty]
    exact (Entries.without_nil w).symm
  · refine ⟨hsess, (served_singleton_iff.1 hs).removal.imp_right ?_⟩
    rintro ⟨rfl, f, rfl⟩
    exact ⟨rfl, f, rfl⟩

theorem addTags_serves {tags : TagSet} {r : Except Fault Unit}
    (hy : (addTags (.text arn) tags).Yields sess h r sess') (hs : Serves arn w h w') :
    sess' = sess ∧ (w' = w.merge tags.flat ∨ w' = w ∧ ∃ f, r = .error f) := by
  obtain ⟨hsess, ⟨hempty, rfl, rfl⟩ | ⟨answer, rfl, rfl⟩⟩ := addTags_cases hy
  · refine ⟨hsess, .inl ?_⟩
    rw [served_nil_iff.1 hs, TagSet.flat_of_isEmpty hempty]
    rfl
  · refine ⟨hsess, (served_singleton_iff.1 hs).addition.imp_right ?_⟩
    rintro ⟨rfl, f, rfl⟩
    exact ⟨rfl, f, rfl⟩

/-- Both requests of a change together leave the tags on the way, and make the whole change if
neither is refused. -/
theorem calls_serves (hd : d.2.flat.Distinct) (hw : w.Distinct) {r : Except Fault Unit}
    (hy : Yields (do removeTags (.text arn) d.1; addTags (.text arn) d.2) sess h r sess')
    (hs : Serves arn w h w') :
    sess' = sess ∧ Underway d w w' ∧ (r = .ok () → Applied d w w') := by
  rcases yields_bind.1 hy with ⟨f, hremove, rfl⟩ | ⟨h₁, _, s₁, h₂, hremove, hadd, rfl⟩
  · obtain ⟨rfl, rfl | ⟨rfl, -⟩⟩ := removeTags_serves hremove hs
    · exact ⟨rfl, underway_without hw hd, nofun⟩
    · exact ⟨rfl, .refl hw, nofun⟩
  · -- adding is asked for only after removing has been done
    obtain ⟨w₁, hs₁, hs₂⟩ := served_append_iff.1 hs
    obtain ⟨rfl, rfl | ⟨-, f, hf⟩⟩ := removeTags_serves hremove hs₁
    · have hremoved := underway_without hw hd
      obtain ⟨rfl, rfl | ⟨rfl, f, rfl⟩⟩ := addTags_serves hadd hs₂
      · exact ⟨rfl, hremoved.trans (underway_merge hremoved.distinct hd),
          fun _ => applied_applyDiff hw d⟩
      · exact ⟨rfl, hremoved, nofun⟩
    · cases hf

/-- A change of the tags of the integration that the context knows. -/
theorem changeTags_serves (hd : d.2.flat.Distinct) (hw : w.Distinct) (he : e.context = .session)
    (hknown : sess.context.get "integration_arn" = .ok (.text arn)) {rules : Option RuleSet}
    (hy : (changeTags d.1 d.2 rules "integration_arn" e).Yields sess h res sess')
    (hs : Serves arn w h w') :
    sess' = sess ∧ Underway d w w' ∧
      (res = .ok e ∧ Applied d w w' ∨ ∃ f, res = Event.ofFault rules e f) := by
  unfold changeTags at hy
  rw [he, yields_field_session_bind_of_get hknown] at hy
  obtain ⟨h₁, answer, s₁, h₂, hcalls, hrest, rfl⟩ := yields_attempt_bind.1 hy
  obtain ⟨w₁, hs₁, hs₂⟩ := served_append_iff.1 hs
  obtain ⟨rfl, hunderway, happlied⟩ := calls_serves hd hw hcalls hs₁
  cases answer with
  | error f =>
    obtain ⟨rfl, rfl, rfl⟩ := yields_lift.1 hrest
    obtain rfl := served_nil_iff.1 hs₂
    exact ⟨rfl, hunderway, .inr ⟨f, rfl⟩⟩
  | ok v =>
    obtain ⟨rfl, rfl, rfl⟩ := yields_pure.1 hrest
    obtain rfl := served_nil_iff.1 hs₂
    exact ⟨rfl, hunderway, .inl ⟨rfl, happlied rfl⟩⟩

/-- Looking up the ARN changes no tags. It puts the ARN into the context, or the next step does not
run. -/
theorem fetchArn_serves (hdelay : s.callbackDelay.isPositive = .ok true) (he : e.context = .session)
    (hy : (fetchArn s e).Yields sess h res sess') (hs : Serves arn w h w') :
    w' = w ∧ (sess' = sess ∧
        (∀ e', res = .ok e' → e'.outcome ≠ .ok .proceed ∧ e'.completes = false) ∨
      res = .ok (.progress e.model .session) ∧
        sess' = { sess with context := sess.context.put "integration_arn" (.text arn) }) := by
  have hwithin : (fetchArn s e).Within ["describe_integrations", "modify_integration"] :=
    within_fetchArn List.mem_cons_self e
  refine ⟨hs.eq_of_within (hwithin hy).1, ?_⟩
  cases serviceCall_cases hy with
  | unmade => exact .inl ⟨rfl, nofun⟩
  | refused => exact .inl ⟨rfl, fun e' hr =>
      ⟨outcome_of_recover hdelay hr, not_completes_of_recover hr⟩⟩
  | answered _ hdone =>
    rcases yields_lift_bind.1 hdone with ⟨f, -, -, rfl, rfl⟩ | ⟨m, hm, hdone⟩
    · exact .inl ⟨rfl, nofun⟩
    split at hdone
    · rcases yields_lift_bind.1 hdone with ⟨f, -, -, rfl, rfl⟩ | ⟨id, -, hdone⟩
      · exact .inl ⟨rfl, nofun⟩
      · obtain ⟨-, rfl, rfl⟩ := yields_pure.1 hdone
        refine .inl ⟨rfl, fun e' hr => ?_⟩
        cases hr
        exact ⟨by simp [Event.outcome, Event.failed], rfl⟩
    · -- the remote reports the ARN of its own integration, and that is what gets into the context
      rename_i hsome
      obtain ⟨record, hfirst, hmodel⟩ := (firstModelOf_cases hm).resolve_left
        (by rintro rfl; exact hsome rfl)
      obtain ⟨w₁, hanswer, -⟩ := served_cons_iff.1 hs
      obtain ⟨found, rfl, harn⟩ := modelOf_get? (by decide) (hanswer.reports hfirst) rfl hmodel
      have hrequire : (Value.map found).require "IntegrationArn" = .ok (.text arn) := by
        simp [Value.require, harn]
      rw [hrequire, he] at hdone
      rcases yields_lift_bind.1 hdone with ⟨f, hf, -⟩ | ⟨known, hknown, hdone⟩
      · cases hf
      cases hknown
      rcases yields_bind.1 hdone with ⟨f, hset, -⟩ | ⟨h₁, ref, s₁, h₂, hset, hdone, rfl⟩
      · cases (setField_cases rfl hset).2.1
      obtain ⟨rfl, href, rfl⟩ := setField_cases rfl hset
      cases href
      obtain ⟨-, rfl, rfl⟩ := yields_pure.1 hdone
      exact .inr ⟨rfl, rfl⟩

/-- What bringing the tags up to date has done: the tags are on the way, and the change has been
made if the step is complete. Nothing but the ARN may have been written to the context. -/
structure TagRun (arn : String) (d : TagSet × TagSet) (sess : Session) (w : Tags)
    (res : Except Fault Event) (sess' : Session) (w' : Tags) : Prop where
  writes : sess.Writes "integration_arn" sess'
  knows : Knows arn sess'.context
  underway : Underway d w w'
  applied : ∀ e, res = .ok e → e.completes = true → Applied d w w'

theorem changeTags_run (hd : d.2.flat.Distinct) (hw : w.Distinct) (he : e.context = .session)
    (hknown : sess.context.get "integration_arn" = .ok (.text arn))
    (hy : (changeTags d.1 d.2 (some (rules s.callbackDelay)) "integration_arn" e).Yields sess h res
      sess') (hs : Serves arn w h w') : TagRun arn d sess w res sess' w' := by
  obtain ⟨rfl, hunderway, ⟨-, happlied⟩ | ⟨f, hr⟩⟩ := changeTags_serves hd hw he hknown hy hs
  · exact ⟨.refl _ _, .inr hknown, hunderway, fun _ _ _ => happlied⟩
  · refine ⟨.refl _ _, .inr hknown, hunderway, fun e' he' hcomplete => ?_⟩
    rw [not_completes_of_recover (hr.symm.trans he')] at hcomplete
    cases hcomplete

theorem tagStep_serves (hdelay : s.callbackDelay.isPositive = .ok true) {previous desired : TagSet}
    (hdesired : desired.WellFormed) (hw : w.Distinct) (he : e.context = .session)
    (hknows : Knows arn sess.context)
    (hy : (tagStep s (.ok previous) (.ok desired) e).Yields sess h res sess')
    (hs : Serves arn w h w') : TagRun arn (diff previous desired) sess w res sess' w' := by
  have hd : (diff previous desired).2.flat.Distinct := distinct_flat (hdesired.filtered _).system
  have hupdate : (updateTags previous desired (some (rules s.callbackDelay)) "integration_arn"
      (fetchArn s) e).Yields sess h res sess' := hy
  unfold updateTags at hupdate
  dsimp only at hupdate
  split at hupdate
  · rename_i hempty
    rw [Bool.and_eq_true] at hempty
    obtain ⟨rfl, rfl, rfl⟩ := yields_pure.1 hupdate
    obtain rfl := served_nil_iff.1 hs
    exact ⟨.refl _ _, hknows, .refl hw, fun _ _ _ => applied_of_isEmpty hw hempty.1 hempty.2⟩
  rw [he] at hupdate
  rcases hknows with hnone | hknown
  · rw [yields_field_session_bind_of_get hnone, if_pos (by rfl)] at hupdate
    rcases yields_bind.1 hupdate with ⟨f, hfetch, rfl⟩ | ⟨h₁, e₁, s₁, h₂, hfetch, hchain, rfl⟩
    · obtain ⟨rfl, ⟨rfl, -⟩ | ⟨hr, -⟩⟩ := fetchArn_serves hdelay he hfetch hs
      · exact ⟨.refl _ _, .inl hnone, .refl hw, nofun⟩
      · cases hr
    obtain ⟨w₁, hs₁, hs₂⟩ := served_append_iff.1 hs
    obtain ⟨rfl, ⟨rfl, hstops⟩ | ⟨hr, rfl⟩⟩ := fetchArn_serves hdelay he hfetch hs₁
    · -- nothing was found: the step ends as the look-up has, and changes no tags
      obtain ⟨hstop, hincomplete⟩ := hstops e₁ rfl
      rcases chain_cons_cases hchain with ⟨-, rfl, rfl, hend⟩ | ⟨ho, -⟩
      · obtain rfl := served_nil_iff.1 hs₂
        refine ⟨.refl _ _, .inl hnone, .refl hw, fun e' he' hcomplete => ?_⟩
        rcases hend with ⟨f, -, rfl⟩ | rfl
        · cases he'
        · cases he'
          rw [hincomplete] at hcomplete
          cases hcomplete
      · exact absurd ho hstop
    · cases hr
      have hrun := changeTags_run hd hw rfl (Context.get_put_self _ _ _)
        (chain_singleton_of_proceed rfl hchain) hs₂
      exact ⟨(Session.Writes.put _ _ _).trans hrun.writes, hrun.knows, hrun.underway, hrun.applied⟩
  · rw [yields_field_session_bind_of_get hknown, if_neg (by simp [Value.isNull])] at hupdate
    exact changeTags_run hd hw he hknown hupdate hs

end TagStore

end Provisioning.Integration
