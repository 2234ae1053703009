import Provisioning.Proofs.Integration.Steps
import Provisioning.Proofs.Tagging

/-!
# A remote that keeps tags

The remote holds integrations and keeps the tags of each by its ARN. `w.Serves h w'` means that a
remote that keeps tags can give all answers of the history `h`, and holds `w'` after it held `w`: a
request that creates an integration stores the tags that it brings along, a request that adds tags
writes them over those that are there, a look-up reports what is there, and a refused request
changes nothing.

Which integration a name finds, if any, is left open; an ARN that is held finds no other
integration.
-/

set_option autoImplicit false

namespace Provisioning.Integration

/-- What a remote holds: the tags of the integrations, by ARN. -/
abbrev Remote := Entries String Tags

/-- A record shows an integration: its ARN, and its tags. -/
structure Shows (record : Value) (arn : String) (tags : Tags) : Prop where
  mapping : ∃ entries : Entries String Value, record = .map entries ∧ entries.Distinct
  arn : record.get "IntegrationArn" = .ok (.text arn)
  tags : record.get "Tags" = .ok (tagList tags)

namespace Remote

/-- One answer of a remote that keeps tags. -/
inductive Answers (w : Remote) : Exchange → Remote → Prop
  | clock {now : Number} : Answers w (.clock now) w
  | slept {seconds : Value} {rested : Except Fault Unit} : Answers w (.slept seconds rested) w
  | refused {request : Call} {f : Fault} : Answers w (.called request (.error f)) w
  | created {request : Call} {response : Value} {arn : String} {tags : Tags} :
      request.operation = "create_integration" → arn ≠ "" → w.has arn = false →
      (request.arguments.get? "Tags").getD (tagList []) = tagList tags →
      response.get "IntegrationArn" = .ok (.text arn) →
      Answers w (.called request (.ok response)) (w.insert arn tags)
  | tagged {request : Call} {response : Value} {arn : String} {tags more : Tags} :
      request.operation = "add_tags_to_resource" →
      request.arguments.get? "ResourceName" = some (.text arn) → w.get? arn = some tags →
      request.arguments.get? "Tags" = some (tagList more) →
      Answers w (.called request (.ok response)) (w.insert arn (tags.merge more))
  | missing {request : Call} {response integrations : Value} :
      request.operation = "describe_integrations" →
      response.get "Integrations" = .ok integrations → integrations.truthy = false →
      Answers w (.called request (.ok response)) w
  | found {request : Call} {response record : Value} {arn : String} {tags : Tags} :
      request.operation = "describe_integrations" → arn ≠ "" → w.get? arn = some tags →
      (∀ id, request.arguments.get? "IntegrationIdentifier" = some (.text id) →
        w.has id = true → id = arn) →
      ReportsFirst response record → Shows record arn tags →
      Answers w (.called request (.ok response)) w

/-- The answers of a remote that keeps tags, one after another. -/
inductive Serves : Remote → History → Remote → Prop
  | nil {w : Remote} : Serves w [] w
  | cons {w w₁ w' : Remote} {x : Exchange} {h : History} :
      w.Answers x w₁ → Serves w₁ h w' → Serves w (x :: h) w'

variable {w w' : Remote} {h h' : History}

theorem serves_nil_iff : w.Serves [] w' ↔ w' = w :=
  ⟨fun hs => by cases hs; rfl, by rintro rfl; exact .nil⟩

theorem serves_cons_iff {x : Exchange} :
    w.Serves (x :: h) w' ↔ ∃ w₁, w.Answers x w₁ ∧ w₁.Serves h w' :=
  ⟨fun hs => by cases hs with | cons ha hs => exact ⟨_, ha, hs⟩, fun ⟨_, ha, hs⟩ => .cons ha hs⟩

theorem serves_append_iff :
    w.Serves (h ++ h') w' ↔ ∃ w₁, w.Serves h w₁ ∧ w₁.Serves h' w' := by
  induction h generalizing w with
  | nil => simp [serves_nil_iff]
  | cons x h ih =>
    simp only [List.cons_append, serves_cons_iff, ih]
    constructor
    · rintro ⟨w₁, ha, w₂, hs, hs'⟩
      exact ⟨w₂, ⟨w₁, ha, hs⟩, hs'⟩
    · rintro ⟨w₂, ⟨w₁, ha, hs⟩, hs'⟩
      exact ⟨w₁, ha, w₂, hs, hs'⟩

/-- Look-ups change nothing. -/
theorem Answers.eq_of_within {x : Exchange} (ha : w.Answers x w')
    (hx : x.within ["describe_integrations"] = true) : w' = w := by
  cases ha with
  | created hop => simp [Exchange.within, hop] at hx
  | tagged hop => simp [Exchange.within, hop] at hx
  | _ => rfl

theorem Serves.eq_of_within (hs : w.Serves h w')
    (hh : ∀ x ∈ h, x.within ["describe_integrations"] = true) : w' = w := by
  induction hs with
  | nil => rfl
  | cons ha _ ih =>
    rw [ih fun x hx => hh x (List.mem_cons_of_mem _ hx)]
    exact ha.eq_of_within (hh _ List.mem_cons_self)

end Remote

theorem ReportsFirst.unique {response a b : Value} (ha : ReportsFirst response a)
    (hb : ReportsFirst response b) : a = b := by
  obtain ⟨xs, hxs, -, hxa⟩ := ha
  obtain ⟨ys, hys, -, hyb⟩ := hb
  rw [hxs] at hys
  cases hys
  rw [hxa] at hyb
  exact Except.ok.inj hyb

namespace Remote

variable {w w' : Remote}

/-- What a look-up finds is there as it is shown. -/
theorem Answers.shows {id response record : Value} (ha : w.Answers (lookup id (.ok response)) w')
    (hr : ReportsFirst response record) :
    w' = w ∧ ∃ arn tags, arn ≠ "" ∧ w.get? arn = some tags ∧ Shows record arn tags ∧
      ∀ b, id = .text b → w.has b = true → b = arn := by
  cases ha with
  | created hop => simp at hop
  | tagged hop => simp at hop
  | missing _ hget htruthy =>
    obtain ⟨xs, hxs, hlist, -⟩ := hr
    rw [hget] at hxs
    cases hxs
    rw [htruthy] at hlist
    cases hlist
  | found _ hne hget hid hfirst hshows =>
    cases hfirst.unique hr
    refine ⟨rfl, _, _, hne, hget, hshows, fun b hb hheld => hid b ?_ hheld⟩
    rw [hb]
    rfl

/-- Tags that were added are written over those of the integration that was named. -/
theorem Answers.added {known response : Value} {more : Tags}
    (ha : w.Answers (addition known more (.ok response)) w') :
    ∃ arn tags, known = .text arn ∧ w.get? arn = some tags ∧
      w' = w.insert arn (tags.merge more) := by
  cases ha with
  | created hop => simp at hop
  | tagged _ hname hget htags =>
    cases tagList_injective (Option.some.inj htags)
    exact ⟨_, _, Option.some.inj hname, hget, rfl⟩
  | missing hop => simp at hop
  | found hop => simp at hop

/-- An integration that was created is there from then on. -/
theorem Answers.holds {arguments : Entries String Value} {response : Value}
    (ha : w.Answers (.called ⟨"create_integration", arguments⟩ (.ok response)) w') :
    ∃ arn tags, arn ≠ "" ∧ response.get "IntegrationArn" = .ok (.text arn) ∧
      w'.get? arn = some tags := by
  cases ha with
  | @created _ _ arn tags _ hne _ _ harn =>
    exact ⟨arn, tags, hne, harn, Entries.get?_insert_self _ _ _⟩
  | tagged hop => simp at hop
  | missing hop => simp at hop
  | found hop => simp at hop

end Remote

end Provisioning.Integration
