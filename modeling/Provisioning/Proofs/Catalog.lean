import Provisioning.Proofs.Footprint
import Provisioning.Proofs.Chain
import Provisioning.Proofs.Naming
import Provisioning.Proofs.Once
import Provisioning.Proofs.Remote

/-!
# Resources that are found by their names

A catalog says by which calls the resources of a type are created and looked up. A remote stores the
resources that it was asked to create, also several ones of the same name, and a look-up by name
reports nothing only if no resource of that name is stored. A create request that fails may have
taken effect all the same, unless access was denied.

Creating a resource unless a look-up finds it then never stores a second one of its name, wherever
it is cut off (`Catalog.safeCreate_adds`): what is stored is as before, or it is one resource more
of a name that was not stored.
-/

set_option autoImplicit false

namespace Provisioning

open Handler History

/-- How the resources of a type are created and looked up. The name of a resource is an argument of
its create request, under the same key as in its model. -/
structure Catalog where
  createOp : String
  naming : Naming
  lookupOp : String
  lookupField : String
  listField : String
  missingCode : String
  rules : RuleSet

namespace Catalog

variable (c : Catalog)

/-! ## A remote that stores resources -/

/-- The name of the resource that a create request asks for. -/
def named (request : Call) : Value := (request.arguments.get? c.naming.field).getD .null

/-- The call that looks up a resource. -/
def lookup (id : Value) (answer : Answer) : Exchange :=
  .called ⟨c.lookupOp, [(c.lookupField, id)]⟩ answer

/-- A fault denies access. -/
def Denies (f : Fault) : Prop := c.rules.classify f = .ok (.failWith .accessDenied)

/-- One answer of a remote that stores resources, given by their names: an accepted create request
stores one, and so may a failed one unless access was denied. Everything else stores nothing, and a
look-up reports nothing only if no resource of the name that it asks for is stored. -/
inductive Answers (w : List Value) : Exchange → List Value → Prop
  | created {request : Call} {response : Value} : request.operation = c.createOp →
      Answers w (.called request (.ok response)) (c.named request :: w)
  | refused {request : Call} {f : Fault} : request.operation = c.createOp →
      Answers w (.called request (.error f)) w
  | lost {request : Call} {f : Fault} : request.operation = c.createOp → ¬ c.Denies f →
      Answers w (.called request (.error f)) (c.named request :: w)
  | other {x : Exchange} : x.calls c.createOp = false →
      (∀ id answer, x = c.lookup id answer → ListsNothing c.listField c.missingCode answer →
        id ∉ w) → Answers w x w

/-- The answers of a remote that stores resources. -/
abbrev Serves (w : List Value) (h : History) (w' : List Value) : Prop := Served c.Answers w h w'

/-- At no moment of a history another resource has been stored. -/
def Spares (h : History) : Prop := Throughout c.Answers (fun w w' => w' = w) h

/-- At no moment of a history more than one resource of a name has been stored. -/
def AddsOne (name : Value) (h : History) : Prop :=
  Throughout c.Answers (fun w w' => w' = w ∨ w' = name :: w) h

/-- At no moment of a history more than one resource of a name has been stored, and none if there
was one before. -/
def AddsNew (name : Value) (h : History) : Prop :=
  Throughout c.Answers (fun w w' => w' = w ∨ name ∉ w ∧ w' = name :: w) h

variable {c} {name : Value} {h h' : History}

theorem Answers.eq_of_not_calls {x : Exchange} {w w' : List Value} (ha : c.Answers w x w')
    (hx : x.calls c.createOp = false) : w' = w := by
  cases ha with
  | created hop => simp [Exchange.calls, hop] at hx
  | lost hop => simp [Exchange.calls, hop] at hx
  | _ => rfl

theorem spares_nil : c.Spares [] := .nil fun _ => rfl

/-- Only create requests store resources. -/
theorem spares_of_avoids (hav : Avoids c.createOp h) : c.Spares h := fun _ hbegin _ _ hs =>
  hs.invariant (f := id) fun _ hx _ _ ha => ha.eq_of_not_calls (hav _ (hbegin.subset hx))

theorem Spares.append (hh : c.Spares h) (hh' : c.Spares h') : c.Spares (h ++ h') :=
  Throughout.append hh hh' (fun _ _ => id) fun _ _ _ h₁ h₂ => h₂.trans h₁

theorem Spares.addsOne (hh : c.Spares h) : c.AddsOne name h := hh.imp fun _ _ => .inl

theorem Spares.addsNew (hh : c.Spares h) : c.AddsNew name h := hh.imp fun _ _ => .inl

theorem Spares.append_addsOne (hh : c.Spares h) (hh' : c.AddsOne name h') :
    c.AddsOne name (h ++ h') :=
  Throughout.append hh hh' (fun _ _ => .inl) fun _ _ _ h₁ h₂ => h₁ ▸ h₂

theorem AddsOne.append_spares (hh : c.AddsOne name h) (hh' : c.Spares h') :
    c.AddsOne name (h ++ h') :=
  Throughout.append hh hh' (fun _ _ => id) fun _ _ _ h₁ h₂ => h₂ ▸ h₁

/-- Once a resource is stored, no other one of its name is. -/
theorem AddsNew.append (hh : c.AddsNew name h) (hh' : c.AddsNew name h') :
    c.AddsNew name (h ++ h') := by
  refine Throughout.append hh hh' (fun _ _ => id) ?_
  rintro w w₁ w' (rfl | ⟨hnew, rfl⟩) h₂
  · exact h₂
  · rcases h₂ with rfl | ⟨hnew', -⟩
    · exact .inr ⟨hnew, rfl⟩
    · exact absurd List.mem_cons_self hnew'

/-! ## Sending create requests -/

/-- What sending a create request did: one resource may have been stored, and none if the result
says that access was denied. -/
structure Requested (c : Catalog) (name : Value) (h : History) (r : Except Fault Event) : Prop where
  adds : c.AddsOne name h
  spares : ∀ e, r = .ok e → e.isFailed = true → e.code = some .accessDenied → c.Spares h

theorem addsOne_request {arguments : Entries String Value} {answer : Answer}
    (hname : c.named ⟨c.createOp, arguments⟩ = name) :
    c.AddsOne name [.called ⟨c.createOp, arguments⟩ answer] := by
  intro h₁ hbegin w w' hs
  rcases List.prefix_cons_iff.1 hbegin with rfl | ⟨rest, rfl, hrest⟩
  · exact .inl (served_nil_iff.1 hs)
  · rw [List.prefix_nil.1 hrest] at hs
    cases served_singleton_iff.1 hs with
    | created => exact .inr (by rw [hname])
    | refused => exact .inl rfl
    | lost => exact .inr (by rw [hname])
    | other => exact .inl rfl

theorem spares_denied {request : Call} {f : Fault} (hf : c.Denies f) :
    c.Spares [.called request (.error f)] := by
  intro h₁ hbegin w w' hs
  rcases List.prefix_cons_iff.1 hbegin with rfl | ⟨rest, rfl, hrest⟩
  · exact served_nil_iff.1 hs
  · rw [List.prefix_nil.1 hrest] at hs
    cases served_singleton_iff.1 hs with
    | lost _ hnot => exact absurd hf hnot
    | _ => rfl

/-- An event that says that access was denied is the event for a fault that denies access. -/
theorem denies_of_ofFault {e e' : Event} {f : Fault}
    (he : Event.ofFault (some c.rules) e f = .ok e') (hfailed : e'.isFailed = true)
    (hcode : e'.code = some .accessDenied) : c.Denies f := by
  obtain ⟨verdict, hv, he⟩ := bind_eq_ok.1 he
  cases verdict with
  | failWith code =>
    cases he
    cases hcode
    exact hv
  | retry delay => cases he; cases hfailed
  | ignore => cases he; cases hfailed

section
variable {s s' : Session} {e : Event} {r : Except Fault Event}

theorem serviceCall_requested {request : Value → Except Fault (Entries String Value)}
    {done : Value → Step}
    (hname : ∀ arguments, request e.model = .ok arguments →
      c.named ⟨c.createOp, arguments⟩ = name)
    (hidle : ∀ v e, (done v e).Within []) (hdone : ∀ v e, (done v e).Returns (·.isFailed = false))
    (hy : (serviceCall c.createOp request (Event.ofFault (some c.rules)) done e).Yields s h r s') :
    c.Requested name h r := by
  cases serviceCall_cases hy with
  | unmade => exact ⟨spares_nil.addsOne, fun _ _ _ _ => spares_nil⟩
  | refused harguments =>
    exact ⟨addsOne_request (hname _ harguments), fun e' he hfailed hcode =>
      spares_denied (denies_of_ofFault he hfailed hcode)⟩
  | answered harguments hrest =>
    have hlater := spares_of_avoids (c := c) ((hidle _ _).avoids List.not_mem_nil hrest)
    refine ⟨(addsOne_request (hname _ harguments)).append_spares hlater, ?_⟩
    rintro e' rfl hfailed -
    rw [hdone _ _ hrest] at hfailed
    cases hfailed

/-- The second request follows only where access was denied to the first one. -/
theorem createWithTaggingFallback_adds {create : TagSet → Step} {tags : TagSet}
    (hcreate : ∀ ⦃tags s h r s'⦄, (create tags e).Yields s h r s' → c.Requested name h r)
    (hy : (createWithTaggingFallback create tags e).Yields s h r s') : c.AddsOne name h := by
  rcases createWithTaggingFallback_cases hy with
    hfirst | ⟨h₁, e₁, s₁, h₂, hfirst, ⟨hfailed, hcode⟩, hsecond, rfl⟩
  · exact (hcreate hfirst).adds
  · exact ((hcreate hfirst).spares e₁ rfl hfailed hcode).append_addsOne (hcreate hsecond).adds

/-- What a probe has to do: it asks for no create request, what it finds is no null, and if it finds
nothing, it has looked for the name. -/
structure Probes (c : Catalog) (name : Value) (x : Handler Value) : Prop where
  avoids : ∀ ⦃s h r s'⦄, x.Yields s h r s' → Avoids c.createOp h
  finds : x.Returns (·.isNull = false)
  misses : ∀ ⦃s h f s'⦄, x.Yields s h (.error f) s' → f.isA "NotFoundError" = true →
    ∃ answer, h = [c.lookup name answer] ∧ ListsNothing c.listField c.missingCode answer

theorem name_not_mem {answer : Answer} {w w' : List Value} (hops : c.lookupOp ≠ c.createOp)
    (hs : c.Serves w [c.lookup name answer] w')
    (hnothing : ListsNothing c.listField c.missingCode answer) : name ∉ w := by
  cases served_singleton_iff.1 hs with
  | created hop => exact absurd hop hops
  | refused hop => exact absurd hop hops
  | lost hop => exact absurd hop hops
  | other _ hmissing => exact hmissing name answer rfl hnothing

/-- A resource is created only if none of its name is stored. -/
theorem safeCreate_adds {probe : Value → Handler Value} {create : Step}
    (hops : c.lookupOp ≠ c.createOp) (hprobe : c.Probes name (probe e.model))
    (hcreate : ∀ ⦃s h r s'⦄, (create e).Yields s h r s' → c.AddsOne name h)
    (hy : (safeCreate probe create true e).Yields s h r s') : c.AddsNew name h := by
  rcases yields_bind.1 hy with ⟨f, hlook, rfl⟩ | ⟨h₁, v, s₁, h₂, hlook, hrest, rfl⟩
  · generalize hr : (Except.error f : Except Fault Value) = result at hlook
    cases lookFor_cases hlook with
    | faulted _ hy => exact (spares_of_avoids (hprobe.avoids hy)).addsNew
    | _ => cases hr
  · generalize hr : (Except.ok v : Except Fault Value) = result at hlook
    cases lookFor_cases hlook with
    | faulted => cases hr
    | found _ hy =>
      cases hr
      rw [hprobe.finds hy] at hrest
      have hidle : h₂ = [] := by
        rcases yields_lift_bind.1 hrest with ⟨-, -, hnil, -⟩ | ⟨model, -, hrest⟩
        · exact hnil
        · rcases yields_lift_bind.1 hrest with ⟨-, -, hnil, -⟩ | ⟨found, -, hrest⟩
          · exact hnil
          · exact (yields_pure.1 hrest).1
      rw [hidle, List.append_nil]
      exact (spares_of_avoids (hprobe.avoids hy)).addsNew
    | unprobed hprobing => cases hprobing
    | missing _ hy hmissing =>
      cases hr
      -- the look-up found nothing, so the name is not stored when the request is sent
      obtain ⟨answer, rfl, hnothing⟩ := hprobe.misses hy hmissing
      have hspares : c.Spares [c.lookup name answer] := spares_of_avoids (hprobe.avoids hy)
      refine Throughout.append_of hspares.addsNew fun w w₁ hs _ hbegin w' hs' => ?_
      obtain rfl := hspares.served hs
      exact (hcreate hrest hbegin hs').imp_right fun h => ⟨name_not_mem hops hs hnothing, h⟩

theorem executeOnce_adds {flag : String} {step : Step} (he : e.context = .session)
    (hstays : step.StaysInSession)
    (hstep : ∀ ⦃s h r s'⦄, (step e).Yields s h r s' → c.AddsNew name h)
    (hy : (executeOnce flag step e).Yields s h r s') : c.AddsNew name h := by
  cases executeOnce_cases he hstays hy with
  | unreadable => exact spares_nil.addsNew
  | skipped => exact spares_nil.addsNew
  | incomplete _ hrun => exact hstep hrun
  | complete _ hrun => exact hstep hrun

/-- A chain stores what its first step stores, if no other one sends create requests. -/
theorem chain_adds {step : Step} {rest : List Step} {ops : List String}
    (he : e.outcome = .ok .proceed)
    (hstep : ∀ ⦃s h r s'⦄, (step e).Yields s h r s' → c.AddsNew name h)
    (hrest : ∀ e, (chain e rest).Within ops) (hops : c.createOp ∉ ops)
    (hy : (chain e (step :: rest)).Yields s h r s') : c.AddsNew name h := by
  rcases chain_of_proceed he hy with ⟨f, hfirst, -⟩ | ⟨h₁, e₁, s₁, h₂, hfirst, hlater, rfl⟩
  · exact hstep hfirst
  · exact (hstep hfirst).append (spares_of_avoids ((hrest _).avoids hops hlater)).addsNew

end

end Catalog

end Provisioning
