import Provisioning.Proofs.ParameterGroup.Batching
import Provisioning.Proofs.ParameterGroup.Footprint
import Provisioning.Proofs.RuleSets
import Provisioning.Proofs.TagDiff
import Provisioning.Proofs.Tagging
import Provisioning.Proofs.WellFormed

/-!
# Tagging as far as the caller may

A parameter group goes on without the tags that the caller may not change, but never without system
tags. Rules that ignore denied access are used only if the system tags stay what they are
(`bestEffortRules_some`), and then none of them is among the tags that are removed or added
(`TagSet.withoutSystemTags_diff`), unless another source has tags of the same keys.

`ParameterGroup.tagStep_refused`: a refused change of tags is passed over exactly if the system tags
agree and access is denied, and every other refusal fails the operation.
-/

set_option autoImplicit false

namespace Provisioning

open Entries (Matches)
open Handler

/-! ## Unchanged system tags -/

namespace TagSet

/-- No system tag has the key of another tag. -/
def SystemApart (t : TagSet) : Prop :=
  ∀ k, t.system.has k = true → t.stack.has k = false ∧ t.resource.has k = false

/-- What is removed and added has no system tags, neither as system tags nor, in the flat view, as
tags of another source. -/
structure WithoutSystemTags (previous desired : TagSet) (d : TagSet × TagSet) : Prop where
  noneRemoved : d.1.system = []
  noneAdded : d.2.system = []
  keeps : ∀ k, previous.system.has k = true ∨ desired.system.has k = true → d.1.flat.has k = false
  spares : ∀ k v, desired.system.get? k = some v → ¬ Matches (d.2.flat.get? k) (some v)

variable {previous desired : TagSet}

/-- The flat view has all system tags that no other tag stands in front of. -/
theorem get?_flat_of_systemApart {t : TagSet} (ht : t.WellFormed) (hapart : t.SystemApart)
    {k : Value} (hk : t.system.has k = true) : t.flat.get? k = t.system.get? k := by
  obtain ⟨hstack, hresource⟩ := hapart k hk
  rw [get?_flat ht, given]
  simp only [List.filterMap_cons, List.filterMap_nil, Entries.get?_eq_none_iff.2 hstack,
    Entries.get?_eq_none_iff.2 hresource]
  cases t.system.get? k <;> rfl

theorem has_flat_of_has_system {t : TagSet} (ht : t.WellFormed) {k : Value}
    (hk : t.system.has k = true) : t.flat.has k = true := by
  rw [Entries.has_eq_isSome] at hk
  obtain ⟨v, hv⟩ := Option.isSome_iff_exists.1 hk
  obtain ⟨w, hw⟩ := exists_flat_of_mem_given ht
    (mem_given.2 ⟨t.system, by simp only [List.mem_cons, true_or, or_true], hv⟩)
  rw [Entries.has_eq_isSome, hw]
  rfl

/-- A system tag that stays what it is does not differ from the tags before. -/
theorem differsFrom_flat_of_agrees (hp : previous.WellFormed) (hd : desired.WellFormed)
    (hapart : previous.SystemApart) (hagrees : previous.system.agrees desired.system = true)
    {k v : Value} (hv : desired.system.get? k = some v) :
    differsFrom previous.flat (k, v) = false := by
  have hmatches : Matches (previous.system.get? k) (some v) :=
    hv ▸ (Entries.agrees_iff hp.system hd.system).1 hagrees k
  have hhas : previous.system.has k = true := by
    obtain ⟨w, hw, -⟩ := Entries.matches_some_iff.1 hmatches
    rw [Entries.has_eq_isSome, hw]
    rfl
  rw [differsFrom_of_matches (get?_flat_of_systemApart hp hapart hhas ▸ hmatches), BEq.rfl]
  rfl

theorem has_system_congr (hp : previous.WellFormed) (hd : desired.WellFormed)
    (hagrees : previous.system.agrees desired.system = true) (k : Value) :
    previous.system.has k = desired.system.has k := by
  have hmatches := (Entries.agrees_iff hp.system hd.system).1 hagrees k
  rw [Entries.has_eq_isSome, Entries.has_eq_isSome]
  revert hmatches
  cases previous.system.get? k <;> cases desired.system.get? k <;> intro hmatches <;>
    first | rfl | cases hmatches

/-- A difference of tag sets with the same system tags has none of them. -/
theorem withoutSystemTags_diff (hp : previous.WellFormed) (hd : desired.WellFormed)
    (hapart : previous.SystemApart) (hagrees : previous.system.agrees desired.system = true) :
    WithoutSystemTags previous desired (diff previous desired) := by
  have hdesired : ∀ k, previous.system.has k = true → desired.flat.has k = true := fun k hk =>
    has_flat_of_has_system hd (has_system_congr hp hd hagrees k ▸ hk)
  have hsame : ∀ {k v}, desired.system.get? k = some v →
      differsFrom previous.flat (k, v) = false :=
    differsFrom_flat_of_agrees hp hd hapart hagrees
  rw [diff_eq]
  refine ⟨List.filter_eq_nil_iff.2 fun e he => ?_, List.filter_eq_nil_iff.2 fun e he => ?_,
    fun k hk => ?_, fun k v hv hmatches => ?_⟩
  · have hhas : previous.system.has e.1 = true := List.any_eq_true.2 ⟨e, he, BEq.rfl⟩
    rw [hdesired e.1 hhas]
    decide
  · rw [hsame (Entries.get?_of_mem hd.system he)]
    decide
  · have hk : desired.flat.has k = true :=
      hk.elim (hdesired k) (has_flat_of_has_system hd)
    rw [← Entries.get?_eq_none_iff, get?_flat_filtered hp fun a b _ h => not_has_congr _ a b h]
    exact List.find?_eq_none.2 fun v _ => by rw [hk]; decide
  · rw [get?_flat_filtered hd (differsFrom_congr _)] at hmatches
    obtain ⟨w, hw, hwv⟩ := Entries.matches_some_iff.1 hmatches
    -- what is added to the key differs from before, and so from the system tag
    have hdiffers : differsFrom previous.flat (k, w) = true :=
      List.find?_some (p := fun v => differsFrom previous.flat (k, v)) hw
    refine differsFrom_iff.1 hdiffers ?_
    obtain ⟨u, hu, huv⟩ := Entries.matches_some_iff.1 (Classical.not_not.1 fun h =>
      Bool.false_ne_true ((hsame hv).symm.trans (differsFrom_iff.2 h)))
    exact Entries.matches_some_iff.2 ⟨u, hu, BEq.trans huv (BEq.symm hwv)⟩

end TagSet

/-! ## Denied access -/

/-- The service has denied access. -/
def Fault.DeniesAccess (f : Fault) : Prop :=
  ∃ error, f = .service error ∧ ∃ code ∈ accessDeniedCodes, error.code = some (.text code)

theorem Fault.deniesAccess_iff {f : Fault} :
    f.DeniesAccess ↔ (accessDeniedCodes.map Value.text).any (· == f.serviceCode) = true := by
  rw [List.any_eq_true]
  constructor
  · rintro ⟨error, rfl, code, hcode, hsent⟩
    refine ⟨.text code, List.mem_map_of_mem hcode, ?_⟩
    rw [Fault.serviceCode, hsent]
    exact BEq.rfl
  · rintro ⟨v, hv, hsame⟩
    obtain ⟨code, hcode, rfl⟩ := List.mem_map.1 hv
    have hcode' : f.serviceCode = .text code := Value.beq_text_iff.1 (BEq.symm hsame)
    cases f with
    | service error =>
      refine ⟨error, rfl, code, hcode, ?_⟩
      cases hsent : error.code with
      | none =>
        rw [Fault.serviceCode, hsent] at hcode'
        cases hcode'
      | some v =>
        rw [Fault.serviceCode, hsent] at hcode'
        exact congrArg some hcode'
    | _ => cases hcode'

/-- The rules for tagging as far as the caller may: if the system tags agree, denied access is
ignored, and every other fault is left to the rules that they are made from. -/
theorem bestEffortRules_some (rules : RuleSet) (previous desired : TagSet) :
    ∃ softened, bestEffortRules (some rules) previous desired = some softened ∧ ∀ f : Fault,
      (previous.system.agrees desired.system = true ∧ f.DeniesAccess →
        softened.classify f = .ok .ignore) ∧
      (¬ (previous.system.agrees desired.system = true ∧ f.DeniesAccess) →
        softened.classify f = rules.classify f) := by
  unfold bestEffortRules
  cases hagrees : previous.system.agrees desired.system with
  | false => exact ⟨rules, rfl, fun f => ⟨nofun, fun _ => rfl⟩⟩
  | true =>
    let denied := Registration.codes .ignore (accessDeniedCodes.map .text)
    refine ⟨rules.extend.register denied, rfl, fun f => ⟨fun h => ?_, fun h => ?_⟩⟩
    · have hcode := Fault.deniesAccess_iff.1 h.2
      obtain ⟨error, rfl, code, -, hsent⟩ := h.2
      have hshape : (Fault.service error).caught.code = .text code := by
        rw [Fault.caught, Fault.serviceCode, hsent]
        rfl
      have hdecides : denied.Decides rules.extend.own (Fault.service error).caught :=
        .code (by rw [hshape]; rfl) (by rw [hshape]; rfl) hcode
      rw [RuleSet.classify, RuleSet.classifyCaught,
        RuleSet.findCaught_register_of_decides hdecides]
      rfl
    · have hspares : denied.Spares rules.extend.own f.caught :=
        .otherCode (Bool.eq_false_iff.2 fun hcode => h ⟨rfl, Fault.deniesAccess_iff.2 hcode⟩)
      rw [RuleSet.classify, RuleSet.classifyCaught,
        RuleSet.findCaught_register_of_spares hspares, RuleSet.findCaught_extend]
      rfl

/-! ## Refused changes of tags -/

/-- A call of an operation that a handler does not ask for is not in its history. -/
theorem Handler.Within.not_mem {α : Type} {x : Handler α} {ops : List String} (hx : x.Within ops)
    {s s' : Session} {h : History} {r : Except Fault α} {c : Call} {answer : Answer}
    (hy : x.Yields s h r s') (hop : c.operation ∉ ops) : .called c answer ∉ h := fun hmem => by
  have hwithin := (hx hy).1 _ hmem
  rw [Exchange.within, List.contains_eq_mem, decide_eq_true_eq] at hwithin
  exact hop hwithin

section
variable {e : Event} {s s' : Session} {h : History} {c : Call} {f : Fault}

/-- If tags are to be removed and added, the first refusal is what comes of it. -/
theorem eq_error_of_refused {arn : Value} {toRemove toAdd : TagSet} {r : Except Fault Unit}
    (hy : (do removeTags arn toRemove; addTags arn toAdd : Handler Unit).Yields s h r s')
    (hrefused : .called c (.error f) ∈ h) : r = .error f := by
  have hanswer : ∀ {d : Call} {answer : Answer},
      Exchange.called c (.error f) ∈ [Exchange.called d answer] → answer = .error f := fun h => by
    cases List.mem_singleton.1 h
    rfl
  rcases yields_bind.1 hy with ⟨g, hremove, rfl⟩ | ⟨h₁, u, s₁, h₂, hremove, hadd, rfl⟩
  · obtain ⟨-, ⟨-, rfl, -⟩ | ⟨answer, rfl, hr⟩⟩ := removeTags_cases hremove
    · cases hrefused
    · rw [hanswer hrefused] at hr
      exact hr
  · obtain ⟨-, hremoved⟩ := removeTags_cases hremove
    obtain ⟨-, hadded⟩ := addTags_cases hadd
    have hnot : .called c (.error f) ∉ h₁ := fun hmem => by
      rcases hremoved with ⟨-, rfl, -⟩ | ⟨answer, rfl, hr⟩
      · cases hmem
      · rw [hanswer hmem] at hr
        cases hr
    rcases hadded with ⟨-, rfl, -⟩ | ⟨answer, rfl, hr⟩
    · exact absurd (List.append_nil h₁ ▸ hrefused) hnot
    · rw [hr, hanswer ((List.mem_append.1 hrefused).resolve_left hnot)]
      rfl

variable {rules : Option RuleSet} {arnField : String} {r : Except Fault Event}

/-- A refused change of tags is left to the rules. -/
theorem changeTags_refused {toRemove toAdd : TagSet}
    (hy : (changeTags toRemove toAdd rules arnField e).Yields s h r s')
    (hrefused : .called c (.error f) ∈ h) : r = Event.ofFault rules e f := by
  have hfield : (field e.context arnField).Within [] := .field _ _
  rcases yields_bind.1 hy with ⟨g, hread, -⟩ | ⟨h₁, arn, s₁, h₂, hread, hrest, rfl⟩
  · exact absurd hrefused (hfield.not_mem hread List.not_mem_nil)
  have hrefused := (List.mem_append.1 hrefused).resolve_left
    (hfield.not_mem hread List.not_mem_nil)
  obtain ⟨h₁, answer, s₂, h₂, hcalls, hend, rfl⟩ := yields_attempt_bind.1 hrest
  cases answer with
  | error g =>
    obtain ⟨rfl, rfl, rfl⟩ := yields_lift.1 hend
    cases eq_error_of_refused hcalls (List.append_nil h₁ ▸ hrefused)
    rfl
  | ok =>
    obtain ⟨rfl, rfl, rfl⟩ := yields_pure.1 hend
    cases eq_error_of_refused hcalls (List.append_nil h₁ ▸ hrefused)

/-- A refused change of tags is left to the rules, also if the name of the resource has to be
fetched before. -/
theorem updateTags_refused {previous desired : TagSet} {fetchArn : Step} {ops : List String}
    (hfetch : ∀ e, (fetchArn e).Within ops) (hop : c.operation ∉ ops)
    (hy : (updateTags previous desired rules arnField fetchArn e).Yields s h r s')
    (hrefused : .called c (.error f) ∈ h) : ∃ e₁, r = Event.ofFault rules e₁ f := by
  unfold updateTags at hy
  dsimp only at hy
  split at hy
  · obtain ⟨rfl, -, -⟩ := yields_pure.1 hy
    cases hrefused
  have hfield : (field e.context arnField).Within [] := .field _ _
  rcases yields_bind.1 hy with ⟨g, hread, -⟩ | ⟨h₁, arn, s₁, h₂, hread, hrest, rfl⟩
  · exact absurd hrefused (hfield.not_mem hread List.not_mem_nil)
  have hrefused := (List.mem_append.1 hrefused).resolve_left
    (hfield.not_mem hread List.not_mem_nil)
  split at hrest
  · rcases yields_bind.1 hrest with ⟨g, hrun, -⟩ | ⟨h₁, e₁, s₂, h₂, hrun, hchain, rfl⟩
    · exact absurd hrefused ((hfetch e).not_mem hrun hop)
    have hrefused := (List.mem_append.1 hrefused).resolve_left ((hfetch e).not_mem hrun hop)
    rcases chain_cons_cases hchain with ⟨-, rfl, -⟩ | ⟨ho, -⟩
    · cases hrefused
    · exact ⟨e₁, changeTags_refused (chain_singleton_of_proceed ho hchain) hrefused⟩
  · exact ⟨e, changeTags_refused hrest hrefused⟩

end

/-! ## Parameter groups -/

namespace ParameterGroup

/-- The operation fails: it ends in a failure, or in a fault that the provider reports as one. -/
def Fails (r : Except Fault Event) : Prop :=
  (∃ e, r = .ok e ∧ e.status = .failed) ∨
    ∃ g, r = .error g ∧ ∀ e, ∃ e', recover e g = .ok e' ∧ e'.status = .failed

theorem Fails.not_proceed {r : Except Fault Event} (hr : Fails r) :
    ¬ ∃ e, r = .ok e ∧ e.outcome = .ok .proceed := by
  rintro ⟨e, rfl, ho⟩
  rcases hr with ⟨e', he, hfailed⟩ | ⟨g, hg, -⟩
  · cases he
    rw [(Event.outcome_eq_proceed ho).1] at hfailed
    cases hfailed
  · cases hg

/-- A fault of a parameter group fails the operation. If its code cannot be looked up, that is
another fault, one without a code. -/
theorem fails_recover (e : Event) (f : Fault) : Fails (recover e f) := by
  cases hrecover : recover e f with
  | ok e' =>
    obtain ⟨code, rfl⟩ := recover_cases hrecover
    exact .inl ⟨_, rfl, rfl⟩
  | error g =>
    refine .inr ⟨g, rfl, fun e₁ => ?_⟩
    have hkey : g.serviceCode.isKey = true := by
      rw [Fault.serviceCode_eq_null (codeless_recover e f g hrecover)]
      rfl
    obtain ⟨code, hagain⟩ := exists_recover hkey e₁
    exact ⟨_, hagain, rfl⟩

variable {previous desired : TagSet} {e : Event} {s s' : Session} {h : History} {c : Call}
  {f : Fault} {r : Except Fault Event}

/-- If the service refuses to remove or to add tags, the operation goes on exactly if the system
tags agree and the service has denied access. As long as they agree, no system tag is removed or
added. Every other refusal fails the operation. -/
theorem tagStep_refused (hp : previous.WellFormed) (hd : desired.WellFormed)
    (hapart : previous.SystemApart) (hop : c.operation ∈ tagOperations)
    (hy : (tagStep (.ok previous) (.ok desired) e).Yields s h r s')
    (hrefused : .called c (.error f) ∈ h) :
    ((∃ e', r = .ok e' ∧ e'.outcome = .ok .proceed) ↔
      previous.system.agrees desired.system = true ∧ f.DeniesAccess) ∧
    (previous.system.agrees desired.system = true →
      TagSet.WithoutSystemTags previous desired (TagSet.diff previous desired)) ∧
    (¬ (previous.system.agrees desired.system = true ∧ f.DeniesAccess) →
      Fails r ∧ (f.serviceCode.isKey = true → ∃ e', r = .ok e' ∧ e'.status = .failed)) := by
  obtain ⟨softened, hsoftened, hclassify⟩ := bestEffortRules_some rules previous desired
  have hnot : c.operation ∉ ["describe_db_parameter_groups"] := fun hdescribe => by
    rw [List.mem_singleton.1 hdescribe] at hop
    revert hop
    decide
  obtain ⟨e₁, rfl⟩ := updateTags_refused (within_fetchArn List.mem_cons_self) hnot hy hrefused
  rw [hsoftened]
  have hignored : previous.system.agrees desired.system = true ∧ f.DeniesAccess →
      Event.ofFault (some softened) e₁ f = .ok (.progress e₁.model e₁.context) := fun h =>
    bind_eq_ok.2 ⟨_, (hclassify f).1 h, rfl⟩
  have hfailed : ¬ (previous.system.agrees desired.system = true ∧ f.DeniesAccess) →
      Event.ofFault (some softened) e₁ f = recover e₁ f := fun h => by
    rw [recover, Event.ofFault, Event.ofFault, (hclassify f).2 h]
  refine ⟨⟨fun hgoes => Classical.not_not.1 fun h => ?_, fun h => ⟨_, hignored h, rfl⟩⟩,
    TagSet.withoutSystemTags_diff hp hd hapart, fun h => ?_⟩
  · rw [hfailed h] at hgoes
    exact (fails_recover e₁ f).not_proceed hgoes
  · rw [hfailed h]
    refine ⟨fails_recover e₁ f, fun hkey => ?_⟩
    obtain ⟨code, hrecover⟩ := exists_recover hkey e₁
    exact ⟨_, hrecover, rfl⟩

/-- The tags of a group before an update: those of the system and two of the stack. -/
def teamTags : TagSet :=
  { system := [(.text "aws:cloudformation:stack-name", .text "tuning")]
    stack := [(.text "team", .text "data"), (.text "cost", .text "low")] }

/-- The tags afterwards: the team has changed, and the system tags have not. -/
def otherTeamTags : TagSet :=
  { system := teamTags.system, stack := [(.text "team", .text "web")] }

/-- A refusal because the caller may not tag. -/
def deniedAccess : Fault :=
  .service { code := some (.text "AccessDenied"), message := some (.text "Not allowed to tag.")
             operation := "AddTagsToResource" }

/-- The record of an invocation that knows the group. -/
def taggedSession : Session :=
  ⟨Family.tuningEvent.model,
    (Context.initial .parameterGroup).put "db_parameter_group_arn" (.text "arn:tuned")⟩

/-- The request that adds the changed tag. -/
def teamAddition : Call :=
  ⟨"add_tags_to_resource", [("ResourceName", .text "arn:tuned"),
    ("Tags", tagList [(.text "team", .text "web")])]⟩

/-- A tag is removed, and access is denied to add the other one: the operation goes on. -/
theorem tagStep_refused_deniedAccess :
    teamTags.WellFormed ∧ otherTeamTags.WellFormed ∧ teamTags.SystemApart ∧
      teamAddition.operation ∈ tagOperations ∧
      ∃ h e', (tagStep (.ok teamTags) (.ok otherTeamTags) Family.tuningEvent).Yields taggedSession
          h (.ok e') taggedSession ∧
        .called teamAddition (.error deniedAccess) ∈ h ∧ e'.outcome = .ok .proceed ∧
        TagSet.WithoutSystemTags teamTags otherTeamTags (TagSet.diff teamTags otherTeamTags) := by
  have hp : teamTags.WellFormed :=
    ⟨.cons (by simp) .nil, .cons (by simp) (.cons (by simp) .nil), .nil⟩
  have hd : otherTeamTags.WellFormed := ⟨.cons (by simp) .nil, .cons (by simp) .nil, .nil⟩
  have hapart : teamTags.SystemApart := fun k hk => by
    obtain ⟨e, he, hsame⟩ := List.any_eq_true.1 hk
    cases List.mem_singleton.1 he
    rw [← Entries.get?_eq_none_iff, ← Entries.get?_eq_none_iff, ← Entries.get?_congr _ hsame,
      ← Entries.get?_congr _ hsame]
    exact ⟨by decide, rfl⟩
  have hop : teamAddition.operation ∈ tagOperations := by decide
  have hrun : ∃ h r, (tagStep (.ok teamTags) (.ok otherTeamTags) Family.tuningEvent).Yields
      taggedSession h r taggedSession ∧ .called teamAddition (.error deniedAccess) ∈ h := by
    with_unfolding_all
      exact ⟨_, _, Program.runs_history Script.environment _
        { replies := [("add_tags_to_resource", [.answer (.error deniedAccess)])] },
        .tail _ (.head _)⟩
  obtain ⟨h, r, hy, hrefused⟩ := hrun
  obtain ⟨hgoes, hwithout, -⟩ := tagStep_refused hp hd hapart hop hy hrefused
  have hagrees : teamTags.system.agrees otherTeamTags.system = true := by decide
  obtain ⟨e', rfl, hproceed⟩ :=
    hgoes.2 ⟨hagrees, _, rfl, "AccessDenied", List.mem_cons_self, rfl⟩
  exact ⟨hp, hd, hapart, hop, h, e', hy, hrefused, hproceed, hwithout hagrees⟩

end ParameterGroup

end Provisioning
