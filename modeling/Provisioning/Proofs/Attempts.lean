import Provisioning.Proofs.Catalog

/-!
# Attempts to create a resource

A create request may be invoked again and again: with the context that it came with, because an
invocation was cut off and what it left is lost, or with the event of an invocation that asked for
another one (`Provider.Attempts`). The provider knows no more about what has been done before than
the context and the model say, and the remote.

`Provider.Careful` is what a provider has to do for this to be safe. As long as the context does not
say that the creation is complete, the model is a candidate (`Naming.Candidate`): a look-up for it
goes by the name that the request wants, so that an invocation finds what those before it have
stored.
-/

set_option autoImplicit false

namespace Provisioning

open Handler History

/-- A model that the name identifies which a request wants for it. -/
structure Naming.Candidate (n : Naming) (r : Request) (name m : Value) : Prop where
  named : ∀ v, n.nameOf r m = .ok v → v = name
  unidentified : ∀ v, m.get "IntegrationArn" = .ok v → v.truthy = false

/-- Once it is completed, a candidate has the name, and is still a candidate. -/
theorem Naming.Candidate.fill {n : Naming} {r : Request} {name m m' : Value}
    (hc : n.Candidate r name m) (hf : n.Fills r m m') (hfield : "IntegrationArn" ≠ n.field) :
    n.Candidate r name m' ∧ m'.get n.field = .ok name := by
  obtain ⟨v, hv, hget, -⟩ := hf.exists_name
  obtain rfl := hc.named v hv
  refine ⟨⟨fun v' hv' => hc.named v' (hf.nameOf_eq ▸ hv'), fun arn harn => ?_⟩, hget⟩
  obtain ⟨u, hu, hu'⟩ := hf.sameBut "IntegrationArn" hfield
  rw [harn] at hu'
  cases hu'
  exact hc.unidentified arn hu

/-- The next invocation gives the resource the same name. -/
theorem Naming.Candidate.resume {n : Naming} {r : Request} {name m : Value}
    (hc : n.Candidate r name m) (e : Event) : n.Candidate (r.resume e) name m :=
  ⟨hc.named, hc.unidentified⟩

namespace Provider

variable {p : Provider} {c : Catalog} {r : Request} {name : Value} {s s' : Session} {h : History}

/-- The attempts to serve a request, one after another: with what requests the next one may start,
and what has been asked and answered so far. An attempt that is cut off leaves nothing behind but
what it has asked for; one that asks for another attempt says how to start it. -/
inductive Attempts (p : Provider) (r : Request) : List Request → History → Prop
  | none : Attempts p r [r] []
  | cut {known : List Request} {h h₁ h₂ : History} {q : Request} {result : Except Fault Event} :
      Attempts p r known h → q ∈ known → p.Invokes q (h₁ ++ h₂) result →
      Attempts p r known (h ++ h₁)
  | suspended {known : List Request} {h h₁ : History} {q : Request} {e : Event} :
      Attempts p r known h → q ∈ known → p.Invokes q h₁ (.ok e) → e.status = .inProgress →
      Attempts p r (q.resume e :: known) (h ++ h₁)

/-- A provider creates with care: it stores a new resource for a candidate, and another invocation
starts with the creation complete or with a candidate. -/
structure Careful (p : Provider) (c : Catalog) : Prop where
  guards : p.Guards c.createOp "create_complete"
  adds : ∀ {r name s h res s'}, r.action = .create → c.naming.Candidate r name s.model →
    (p.act r).Yields s h res s' → c.AddsNew name h
  keeps : ∀ {r name s h e s'}, r.action = .create → c.naming.Candidate r name s.model →
    (p.serve r).Yields s h (.ok e) s' → e.status = .inProgress →
    s'.context.Marked "create_complete" ∨ c.naming.Candidate r name e.model

/-- An invocation starts with the creation complete or with a candidate. -/
def Ready (p : Provider) (c : Catalog) (name : Value) (r : Request) : Prop :=
  r.action = .create ∧ ∀ s, p.openSession r = .ok s →
    s.context.Marked "create_complete" ∨ c.naming.Candidate r name s.model

theorem Careful.serve_adds (hc : p.Careful c) {res : Except Fault Event}
    (ha : r.action = .create) (hm : c.naming.Candidate r name s.model)
    (hy : (p.serve r).Yields s h res s') : c.AddsNew name h := by
  rcases serve_cases hy with ⟨e, hact, -⟩ | ⟨f, hact, -⟩ <;> exact hc.adds ha hm hact

/-- One invocation stores at most one resource, and none if there was one; if it asks for another
invocation, that one starts like it. -/
theorem Careful.invokes (hc : p.Careful c) (hr : p.Ready c name r) {result : Except Fault Event}
    (hi : p.Invokes r h result) :
    c.AddsNew name h ∧
      ∀ e, result = .ok e → e.status = .inProgress → p.Ready c name (r.resume e) := by
  obtain ⟨ha, hstart⟩ := hr
  obtain ⟨s, s', hopen, hy⟩ := hi
  obtain ⟨-, hskips, hgrows, hnext⟩ := hc.guards.handle hy
  obtain ⟨res, hserve, rfl⟩ := handle_runs_iff.1 hy
  have hdesired := (openSession_eq_ok.1 hopen).1
  refine ⟨?_, ?_⟩
  · rcases hstart s hopen with hm | hcandidate
    · exact (Catalog.spares_of_avoids (hskips hm)).addsNew
    · exact hc.serve_adds ha hcandidate hserve
  · rintro e he hs
    obtain ⟨e', rfl, rfl⟩ : ∃ e', res = .ok e' ∧ e = e'.settle s'.context := by
      cases res with
      | error f => cases he
      | ok e' => exact ⟨e', rfl, (Except.ok.inj he).symm⟩
    obtain ⟨hcontext, -⟩ := hnext _ rfl hs
    obtain ⟨hresume, hkept⟩ := hc.guards.resume hopen hgrows hcontext
    refine ⟨ha, fun s₂ hopen₂ => ?_⟩
    rw [hresume] at hopen₂
    cases hopen₂
    -- a complete creation stays so over the way of the context into the next request
    rcases hstart s hopen with hm | hcandidate
    · exact .inl (hkept (hgrows.marked hc.guards.isFlag hm))
    · rw [Event.settle_status] at hs
      refine (hc.keeps ha hcandidate hserve hs).imp hkept fun hcandidate' => ?_
      rw [Event.settle_model]
      split
      · exact (hdesired ▸ hcandidate).resume _
      · exact hcandidate'.resume _

/-- All attempts together store at most one resource, and none if there was one. -/
theorem Attempts.adds (hc : p.Careful c) (hr : p.Ready c name r) {known : List Request}
    (ha : p.Attempts r known h) : (∀ q ∈ known, p.Ready c name q) ∧ c.AddsNew name h := by
  induction ha with
  | none => exact ⟨by simpa using hr, Catalog.spares_nil.addsNew⟩
  | cut _ hq hi ih =>
    exact ⟨ih.1, ih.2.append (hc.invokes (ih.1 _ hq) hi).1.beginning⟩
  | suspended _ hq hi hs ih =>
    obtain ⟨hadds, hnext⟩ := hc.invokes (ih.1 _ hq) hi
    exact ⟨List.forall_mem_cons.2 ⟨hnext _ rfl hs, ih.1⟩, ih.2.append hadds⟩

end Provider

end Provisioning
