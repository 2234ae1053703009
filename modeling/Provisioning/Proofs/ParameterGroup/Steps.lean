import Provisioning.ParameterGroup.Provider
import Provisioning.Proofs.Integration.Steps

/-!
# What the actions of the provider of parameter groups can do

A create request names the parameter group and then runs the steps of a creation
(`create_cases`), and an update request completes the model and then runs the steps of an update
(`update_cases`). Neither changes which tags and parameters the model declares.
-/

set_option autoImplicit false

namespace Provisioning.ParameterGroup

open Handler
open Integration (inherit sameBut_inherit)

variable {s : Settings} {r : Request} {sess sess' : Session} {h : History}
  {res : Except Fault Event}

/-- How parameter groups are named. -/
def naming : Naming := ⟨"DBParameterGroupName", names⟩

/-- Filling in the name completes the model. -/
theorem fillName_cases {done : Except Fault Unit} (hy : (fillName r).Yields sess h done sess') :
    h = [] ∧ ((∃ f, done = .error f) ∨
      ∃ m, naming.Fills r sess.model m ∧ done = .ok () ∧ sess' = { sess with model := m }) := by
  unfold fillName at hy
  rw [yields_model_bind] at hy
  rcases yields_lift_bind.1 hy with ⟨f, -, rfl, rfl, rfl⟩ | ⟨given, hgiven, hy⟩
  · exact ⟨rfl, .inl ⟨f, rfl⟩⟩
  rcases yields_lift_bind.1 hy with ⟨f, -, rfl, rfl, rfl⟩ | ⟨lacks, hlacks, hy⟩
  · exact ⟨rfl, .inl ⟨f, rfl⟩⟩
  cases lacks with
  | true =>
    rcases yields_lift_bind.1 hy with ⟨f, -, rfl, rfl, rfl⟩ | ⟨name, hname, hy⟩
    · exact ⟨rfl, .inl ⟨f, rfl⟩⟩
    rw [yields_model_bind] at hy
    rcases yields_lift_bind.1 hy with ⟨f, -, rfl, rfl, rfl⟩ | ⟨m, hm, hy⟩
    · exact ⟨rfl, .inl ⟨f, rfl⟩⟩
    obtain ⟨rfl, rfl, rfl⟩ := yields_setModel.1 hy
    exact ⟨rfl, .inr ⟨m, .generated hgiven hlacks hname hm, rfl, rfl⟩⟩
  | false =>
    obtain ⟨rfl, rfl, rfl⟩ := yields_pure.1 hy
    exact ⟨rfl, .inr ⟨sess'.model, .given hgiven hlacks, rfl, rfl⟩⟩

/-- Models that differ in another property declare the same parameters. -/
theorem parametersOf_congr {field : String} {m m' : Value} (h : SameBut field m m')
    (hfield : "Parameters" ≠ field) : parametersOf m' = parametersOf m := by
  obtain ⟨v, hv, hv'⟩ := h "Parameters" hfield
  simp only [parametersOf, hv, hv']

/-- The step that brings the parameters up to date. -/
def parametersOnce (before after : Except Fault Value) : Step :=
  executeOnce "parameters_applied" fun progress => do
    let before ← lift before
    parameterStep before (← lift after) progress

/-- A create request fails before it asks for anything, or runs the steps of a creation. -/
theorem create_cases (hy : (create s r).Yields sess h res sess') :
    (∃ f, res = .error f ∧ h = []) ∨
      ∃ tags m, r.desiredTags sess.model = .ok tags ∧ naming.Fills r sess.model m ∧
        (chain (.progress m .session)
          [executeOnce "create_complete" (createStep s tags),
            executeOnce "add_tags_complete" (tagStep (.ok .empty) tags.withoutSystem),
            parametersOnce (.ok (.map [])) (parametersOf sess.model), readStep]).Yields
          { sess with model := m } h res sess' := by
  unfold create at hy
  rw [yields_model_bind] at hy
  rcases yields_lift_bind.1 hy with ⟨f, -, rfl, rfl, -⟩ | ⟨tags, htags, hy⟩
  · exact .inl ⟨f, rfl, rfl⟩
  rcases yields_bind.1 hy with ⟨f, hfill, rfl⟩ | ⟨h₁, _, s₁, h₂, hfill, hrest, rfl⟩
  · exact .inl ⟨f, rfl, (fillName_cases hfill).1⟩
  obtain ⟨rfl, ⟨f, hf⟩ | ⟨m, hm, -, rfl⟩⟩ := fillName_cases hfill
  · cases hf
  rw [yields_model_bind] at hrest
  have hsame : parametersOf m = parametersOf sess.model :=
    parametersOf_congr hm.sameBut (by decide)
  dsimp only at hrest
  rw [hsame] at hrest
  exact .inr ⟨tags, m, htags, hm, hrest⟩

/-- An update request fails before it asks for anything, or runs the steps of an update. -/
theorem update_cases (hy : (update r).Yields sess h res sess') :
    (∃ f, res = .error f ∧ h = []) ∨
      ∃ previousTags desiredTags m,
        r.previousTags (r.previous.orElse (.map [])) = .ok previousTags ∧
        r.desiredTags sess.model = .ok desiredTags ∧
        (chain (.progress m .session)
          [parametersOnce (parametersOf (r.previous.orElse (.map []))) (parametersOf sess.model),
            executeOnce "update_tags_complete" (tagStep previousTags.all desiredTags.all),
            readStep]).Yields { sess with model := m } h res sess' := by
  unfold update at hy
  dsimp only at hy
  rw [yields_model_bind] at hy
  rcases yields_lift_bind.1 hy with ⟨f, -, rfl, rfl, -⟩ | ⟨m, hm, hy⟩
  · exact .inl ⟨f, rfl, rfl⟩
  rw [yields_setModel_bind, yields_model_bind] at hy
  rcases yields_lift_bind.1 hy with ⟨f, -, rfl, rfl, -⟩ | ⟨-, -, hy⟩
  · exact .inl ⟨f, rfl, rfl⟩
  rcases yields_lift_bind.1 hy with ⟨f, -, rfl, rfl, -⟩ | ⟨previousTags, hprevious, hy⟩
  · exact .inl ⟨f, rfl, rfl⟩
  rcases yields_lift_bind.1 hy with ⟨f, -, rfl, rfl, -⟩ | ⟨desiredTags, hdesired, hy⟩
  · exact .inl ⟨f, rfl, rfl⟩
  have hsame := sameBut_inherit hm
  rw [hsame.desiredTags (by decide)] at hdesired
  dsimp only at hy
  rw [parametersOf_congr hsame (by decide)] at hy
  exact .inr ⟨previousTags, desiredTags, m, hprevious, hdesired, hy⟩

end Provisioning.ParameterGroup
