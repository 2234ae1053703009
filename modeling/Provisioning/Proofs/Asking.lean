import Provisioning.Proofs.Footprint
import Provisioning.Proofs.TagSet

/-!
# What handlers ask for

`x.Asks C`: whatever the service answers, every request that the handler `x` makes has the property
`C`. The operations that a handler keeps to (`Handler.Within`) bound its requests; where the
arguments matter, they are followed through the steps.
-/

set_option autoImplicit false

namespace Provisioning

/-- The request that an exchange makes of the service, if it makes one. -/
def Exchange.request? : Exchange → Option Call
  | called request _ => some request
  | paged request _ => some request
  | _ => none

theorem Exchange.operation_mem_of_within {ops : List String} {e : Exchange}
    (h : e.within ops = true) {c : Call} (hc : e.request? = some c) : c.operation ∈ ops := by
  cases e with
  | called request answer =>
    cases hc
    exact List.contains_iff_mem.1 h
  | paged request answers =>
    cases hc
    exact List.contains_iff_mem.1 h
  | _ => cases hc

/-- Every request of a history has a property. -/
def History.Requests (C : Call → Prop) (h : History) : Prop :=
  ∀ e ∈ h, ∀ c, e.request? = some c → C c

namespace History

variable {C : Call → Prop} {h h' : History}

theorem requests_nil : Requests C [] := fun _ he => by cases he

theorem Requests.append (hh : Requests C h) (hh' : Requests C h') : Requests C (h ++ h') :=
  fun e he => (List.mem_append.1 he).elim (hh e) (hh' e)

end History

open History (Requests)

namespace Handler

variable {α β : Type} {C : Call → Prop} {ops : List String}

/-- Every request that a handler makes has a property. -/
def Asks (C : Call → Prop) (x : Handler α) : Prop :=
  ∀ ⦃s h r s'⦄, x.Yields s h r s' → Requests C h

theorem Within.asks {x : Handler α} (hx : x.Within ops) (hops : ∀ c, c.operation ∈ ops → C c) :
    x.Asks C := fun _ _ _ _ hy e he c hc =>
  hops c (Exchange.operation_mem_of_within ((hx hy).1 e he) hc)

namespace Asks

/-- What asks for nothing. -/
theorem idle {x : Handler α} (hx : x.Within []) : x.Asks C :=
  hx.asks fun _ hc => by cases hc

theorem bind {x : Handler α} {f : α → Handler β} (hx : x.Asks C) (hf : ∀ a, (f a).Asks C) :
    (x >>= f).Asks C := by
  intro s h r s' hy
  rcases yields_bind.1 hy with ⟨e, hx', rfl⟩ | ⟨h₁, a, s₁, h₂, hx', hf', rfl⟩
  · exact hx hx'
  · exact (hx hx').append (hf a hf')

/-- What has been read may be used for what is asked. -/
theorem lift_bind {a : Except Fault α} {f : α → Handler β} (hf : ∀ v, a = .ok v → (f v).Asks C) :
    (Handler.lift a >>= f).Asks C := by
  intro s h r s' hy
  rcases yields_lift_bind.1 hy with ⟨e, -, rfl, -, -⟩ | ⟨v, hv, hy⟩
  · exact History.requests_nil
  · exact hf v hv hy

theorem attempt {x : Handler α} (hx : x.Asks C) : x.attempt.Asks C := by
  intro s h r s' hy
  obtain ⟨a, hy, -⟩ := yields_attempt.1 hy
  exact hx hy

theorem call {operation : String} {arguments : Entries String Value}
    (hc : C ⟨operation, arguments⟩) : (call operation arguments).Asks C := by
  intro s h r s' hy e he c hrequest
  obtain ⟨rfl, -⟩ := yields_call.1 hy
  obtain rfl := List.mem_singleton.1 he
  cases hrequest
  exact hc

theorem forM {items : List α} {f : α → Handler PUnit} (hf : ∀ a ∈ items, (f a).Asks C) :
    (items.forM f).Asks C := by
  induction items with
  | nil => exact idle (.pure _)
  | cons a items ih =>
    exact (hf a List.mem_cons_self).bind fun _ => ih fun b hb => hf b (List.mem_cons_of_mem _ hb)

end Asks

end Handler

open Handler

/-- Every request that a step makes has a property. -/
def Step.Asks (C : Call → Prop) (step : Step) : Prop := ∀ e, (step e).Asks C

section
variable {C : Call → Prop} {ops : List String} {step : Step}

theorem asks_chain {steps : List Step} (hsteps : ∀ step ∈ steps, Step.Asks C step) (e : Event) :
    (chain e steps).Asks C := by
  induction steps generalizing e with
  | nil => exact .idle (.pure _)
  | cons step steps ih =>
    refine .lift_bind fun o _ => ?_
    cases o with
    | proceed =>
      exact (hsteps step List.mem_cons_self e).bind
        (ih fun step h => hsteps step (List.mem_cons_of_mem _ h))
    | suspend => exact .idle (.pure _)
    | terminal => exact .idle (.pure _)

theorem asks_executeOnce (flag : String) {e : Event} (hstep : (step e).Asks C)
    (hflag : flag ≠ startField := by decide) : (executeOnce flag step e).Asks C := by
  refine (Asks.idle (.field _ _)).bind fun v => ?_
  split
  · exact .idle (.pure _)
  · refine hstep.bind fun result => ?_
    split
    · exact .idle (within_markDone hflag _ _)
    · exact .idle (.pure _)

/-- Tags are removed by the keys of those that are no longer desired, and only if there are any. -/
theorem asks_updateTags {previous desired : TagSet} {rules : Option RuleSet} {arnField : String}
    {fetchArn : Step} (hfetch : fetchArn.Asks C)
    (hadd : ∀ c : Call, c.operation = "add_tags_to_resource" → C c)
    (hremove : ∀ arn, (TagSet.diff previous desired).1.isEmpty = false →
      C ⟨"remove_tags_from_resource", [("ResourceName", arn),
        ("TagKeys", .list (TagSet.diff previous desired).1.flat.keys)]⟩) :
    (updateTags previous desired rules arnField fetchArn).Asks C := by
  have hadds : ∀ arn tags, (addTags arn tags).Asks C := by
    intro arn tags
    unfold addTags
    split
    · exact .idle (.pure _)
    · exact (Asks.call (hadd _ rfl)).bind fun _ => .idle (.pure _)
  have hremoves : ∀ arn, (removeTags arn (TagSet.diff previous desired).1).Asks C := by
    intro arn
    unfold removeTags
    split
    · exact .idle (.pure _)
    · rename_i hne
      exact (Asks.call (hremove arn (by simpa using hne))).bind fun _ => .idle (.pure _)
  have hchange : (changeTags (TagSet.diff previous desired).1 (TagSet.diff previous desired).2
      rules arnField).Asks C := by
    refine fun e => (Asks.idle (.field _ _)).bind fun arn =>
      ((hremoves arn).bind fun _ => hadds arn _).attempt.bind fun answer => ?_
    split
    · exact .idle (.lift _)
    · exact .idle (.pure _)
  intro e
  unfold updateTags
  dsimp only
  split
  · exact .idle (.pure _)
  · refine (Asks.idle (.field _ _)).bind fun arn => ?_
    split
    · exact (hfetch e).bind fun e' => asks_chain (by simpa using hchange) e'
    · exact hchange e

end

end Provisioning
