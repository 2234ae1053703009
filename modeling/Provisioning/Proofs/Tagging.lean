import Provisioning.Tagging
import Provisioning.Proofs.Chain

/-!
# What tagging can do

Tags are added by one call and removed by one, unless there are none (`addTags_cases`,
`removeTags_cases`). Bringing a resource without any tags to the desired ones removes nothing
(`updateTags_empty_cases`).
-/

set_option autoImplicit false

namespace Provisioning

open Handler

/-- The tags before an update request. -/
def Request.tagsBefore (r : Request) : Except Fault TagSet := do
  (← r.previousTags (r.previous.orElse (.map []))).all

/-- The tags that an update request wants for a model. -/
def Request.tagsAfter (r : Request) (m : Value) : Except Fault TagSet := do
  (← r.desiredTags m).all

/-- Tags as a request or a response lists them. -/
def tagList (tags : Tags) : Value := .list (Tags.toList tags)

theorem tagList_injective {a b : Tags} (h : tagList a = tagList b) : a = b := by
  refine (List.map_inj_right fun x y hxy => ?_).1 (Value.list.inj h)
  obtain ⟨k, v⟩ := x
  obtain ⟨l, u⟩ := y
  have hentries := Value.map.inj hxy
  simp only [List.cons.injEq, Prod.mk.injEq, true_and, and_true] at hentries
  rw [hentries.1, hentries.2]

theorem mapM_readTag {tags : Tags} {pairs : List (Value × Value)}
    (h : (Tags.toList tags).mapM readTag = .ok pairs) : pairs = tags := by
  induction tags generalizing pairs with
  | nil => exact (pure_eq_ok.1 h).symm
  | cons e tags ih =>
    rw [Tags.toList, List.map_cons, List.mapM_cons] at h
    obtain ⟨pair, hpair, h⟩ := bind_eq_ok.1 h
    obtain ⟨rest, hrest, h⟩ := bind_eq_ok.1 h
    have hread : readTag (tagValue e.1 e.2) = e.1.checkKey >>= fun _ => pure (e.1, e.2) := rfl
    rw [hread] at hpair
    obtain ⟨-, -, hpair⟩ := bind_eq_ok.1 hpair
    rw [← pure_eq_ok.1 h, ← pure_eq_ok.1 hpair, ih hrest]

/-- What is read from a list of tags are these tags. -/
theorem Tags.ofValue_tagList {tags read : Tags} (h : Tags.ofValue (tagList tags) = .ok read) :
    read = Entries.ofList tags := by
  unfold Tags.ofValue at h
  split at h
  · obtain ⟨items, hitems, h⟩ := bind_eq_ok.1 h
    cases hitems
    obtain ⟨pairs, hpairs, h⟩ := bind_eq_ok.1 h
    rw [← pure_eq_ok.1 h, mapM_readTag hpairs]
  · rename_i hempty
    have hnil : tags = [] := by simpa [tagList, Tags.toList, Value.truthy] using hempty
    rw [hnil, ← pure_eq_ok.1 h]
    rfl

/-- The call that adds tags to a resource. -/
def addition (known : Value) (tags : Tags) (answer : Answer) : Exchange :=
  .called ⟨"add_tags_to_resource", [("ResourceName", known), ("Tags", tagList tags)]⟩ answer

/-- The call that removes tags from a resource by their keys. -/
def removal (known : Value) (keys : List Value) (answer : Answer) : Exchange :=
  .called ⟨"remove_tags_from_resource", [("ResourceName", known), ("TagKeys", .list keys)]⟩ answer

theorem TagSet.diff_empty (t : TagSet) : TagSet.diff .empty t = (.empty, t) := by
  have hadded : ∀ tags : Tags, TagSet.added [] tags = tags := fun tags =>
    List.filter_eq_self.2 fun _ _ => rfl
  unfold TagSet.diff
  rw [show TagSet.empty.flat = [] from rfl]
  simp only [hadded]
  rfl

variable {e : Event} {s s' : Session} {h : History}

/-- A call that is not needed is not made. -/
theorem unless_call_cases {needless : Bool} {operation : String}
    {arguments : Entries String Value} {r : Except Fault Unit}
    (hy : Yields (do unless needless do let _ ← call operation arguments) s h r s') :
    s' = s ∧ ((needless = true ∧ h = [] ∧ r = .ok ()) ∨
      ∃ answer, h = [.called ⟨operation, arguments⟩ answer] ∧ r = answer.map fun _ => ()) := by
  split at hy
  · rename_i hneedless
    obtain ⟨rfl, rfl, rfl⟩ := yields_pure.1 hy
    exact ⟨rfl, .inl ⟨hneedless, rfl, rfl⟩⟩
  · rcases yields_bind.1 hy with ⟨f, hcall, rfl⟩ | ⟨h₁, v, s₁, h₂, hcall, hrest, rfl⟩
    · obtain ⟨rfl, rfl⟩ := yields_call.1 hcall
      exact ⟨rfl, .inr ⟨.error f, rfl, rfl⟩⟩
    · obtain ⟨rfl, rfl⟩ := yields_call.1 hcall
      obtain ⟨rfl, rfl, rfl⟩ := yields_pure.1 hrest
      exact ⟨rfl, .inr ⟨.ok v, rfl, rfl⟩⟩

/-- What adding tags can do: there are none, or they are sent. -/
theorem addTags_cases {arn : Value} {tags : TagSet} {r : Except Fault Unit}
    (hy : (addTags arn tags).Yields s h r s') :
    s' = s ∧ ((tags.isEmpty = true ∧ h = [] ∧ r = .ok ()) ∨
      ∃ answer, h = [addition arn tags.flat answer] ∧ r = answer.map fun _ => ()) :=
  unless_call_cases hy

/-- What removing tags can do: there are none, or their keys are sent. -/
theorem removeTags_cases {arn : Value} {tags : TagSet} {r : Except Fault Unit}
    (hy : (removeTags arn tags).Yields s h r s') :
    s' = s ∧ ((tags.isEmpty = true ∧ h = [] ∧ r = .ok ()) ∨
      ∃ answer, h = [removal arn tags.flat.keys answer] ∧ r = answer.map fun _ => ()) :=
  unless_call_cases hy

/-- What adding tags to a resource without any can do: there are none, they are added, or the call
is refused. -/
inductive AddRun (rules : Option RuleSet) (known : Value) (tags : TagSet) (e : Event) :
    History → Except Fault Event → Prop
  | none : tags.isEmpty = true → AddRun rules known tags e [] (.ok e)
  | added {response : Value} :
      AddRun rules known tags e [addition known tags.flat (.ok response)] (.ok e)
  | refused {f : Fault} :
      AddRun rules known tags e [addition known tags.flat (.error f)] (Event.ofFault rules e f)

theorem changeTags_empty_cases {tags : TagSet} {rules : Option RuleSet} {arnField : String}
    {known : Value} {r : Except Fault Event} (he : e.context = .session)
    (hknown : s.context.get arnField = .ok known)
    (hy : (changeTags .empty tags rules arnField e).Yields s h r s') :
    s' = s ∧ AddRun rules known tags e h r := by
  unfold changeTags at hy
  rw [he, yields_field_session_bind_of_get hknown] at hy
  obtain ⟨h₁, answer, s₁, h₂, hcalls, hrest, rfl⟩ := yields_attempt_bind.1 hy
  have hremove : removeTags known TagSet.empty = pure () := rfl
  rw [hremove, pure_bind] at hcalls
  obtain ⟨rfl, ⟨hempty, rfl, rfl⟩ | ⟨answer, rfl, rfl⟩⟩ := addTags_cases hcalls
  · obtain ⟨rfl, rfl, rfl⟩ := yields_pure.1 hrest
    exact ⟨rfl, .none hempty⟩
  · cases answer with
    | error f =>
      obtain ⟨rfl, rfl, rfl⟩ := yields_lift.1 hrest
      exact ⟨rfl, .refused⟩
    | ok v =>
      obtain ⟨rfl, rfl, rfl⟩ := yields_pure.1 hrest
      exact ⟨rfl, .added⟩

/-- Tags are added to the resource that the context knows. -/
theorem updateTags_empty_cases {tags : TagSet} {rules : Option RuleSet} {arnField : String}
    {fetchArn : Step} {known : Value} {r : Except Fault Event} (he : e.context = .session)
    (hknown : s.context.get arnField = .ok known) (hnull : known.isNull = false)
    (hy : (updateTags .empty tags rules arnField fetchArn e).Yields s h r s') :
    s' = s ∧ AddRun rules known tags e h r := by
  unfold updateTags at hy
  rw [TagSet.diff_empty] at hy
  dsimp only at hy
  split at hy
  · rename_i hempty
    obtain ⟨rfl, rfl, rfl⟩ := yields_pure.1 hy
    exact ⟨rfl, .none (by simpa [TagSet.isEmpty, TagSet.empty] using hempty)⟩
  · rw [he, yields_field_session_bind_of_get hknown, if_neg (by simp [hnull])] at hy
    exact changeTags_empty_cases he hknown hy

end Provisioning
