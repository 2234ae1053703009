import Provisioning.Proofs.Chain

/-!
# Remotes with a state

A remote is given by what it may answer in a state, and which state it is in afterwards.
`Served answers w h w'` means that the remote can give all answers of the history `h` one after
another, from the state `w` to the state `w'`. An invocation may be cut off after any answer, so
what has to be true at every moment is stated about all beginnings of a history (`Throughout`).
-/

set_option autoImplicit false

namespace Provisioning

open Handler

variable {σ : Type} {answers : σ → Exchange → σ → Prop} {w w' : σ} {h h' : History}

/-- The answers of a remote, one after another. -/
inductive Served (answers : σ → Exchange → σ → Prop) : σ → History → σ → Prop
  | nil {w : σ} : Served answers w [] w
  | cons {w w₁ w' : σ} {x : Exchange} {h : History} :
      answers w x w₁ → Served answers w₁ h w' → Served answers w (x :: h) w'

theorem served_nil_iff : Served answers w [] w' ↔ w' = w :=
  ⟨fun hs => by cases hs; rfl, by rintro rfl; exact .nil⟩

theorem served_cons_iff {x : Exchange} :
    Served answers w (x :: h) w' ↔ ∃ w₁, answers w x w₁ ∧ Served answers w₁ h w' :=
  ⟨fun hs => by cases hs with | cons ha hs => exact ⟨_, ha, hs⟩, fun ⟨_, ha, hs⟩ => .cons ha hs⟩

theorem served_singleton_iff {x : Exchange} : Served answers w [x] w' ↔ answers w x w' := by
  simp [served_cons_iff, served_nil_iff]

theorem served_append_iff :
    Served answers w (h ++ h') w' ↔ ∃ w₁, Served answers w h w₁ ∧ Served answers w₁ h' w' := by
  induction h generalizing w with
  | nil => simp [served_nil_iff]
  | cons x h ih =>
    simp only [List.cons_append, served_cons_iff, ih]
    constructor
    · rintro ⟨w₁, ha, w₂, hs, hs'⟩
      exact ⟨w₂, ⟨w₁, ha, hs⟩, hs'⟩
    · rintro ⟨w₂, ⟨w₁, ha, hs⟩, hs'⟩
      exact ⟨w₁, ha, w₂, hs, hs'⟩

/-- What every exchange keeps holds after a history. -/
theorem Served.keeps {P : σ → Prop} (hs : Served answers w h w')
    (hstep : ∀ x ∈ h, ∀ w w', answers w x w' → P w → P w') (hP : P w) : P w' := by
  induction hs with
  | nil => exact hP
  | cons ha _ ih =>
    exact ih (fun x hx => hstep x (List.mem_cons_of_mem _ hx))
      (hstep _ List.mem_cons_self _ _ ha hP)

/-- What no exchange changes is the same after a history. -/
theorem Served.invariant {α : Type} {f : σ → α} (hs : Served answers w h w')
    (hstep : ∀ x ∈ h, ∀ w w', answers w x w' → f w' = f w) : f w' = f w :=
  hs.keeps (P := fun u => f u = f w) (fun x hx u u' ha hu => (hstep x hx u u' ha).trans hu) rfl

/-- What one exchange brings about and every exchange keeps holds after a history. -/
theorem Served.reaches {P : σ → Prop} (hs : Served answers w h w') {x : Exchange} (hx : x ∈ h)
    (hnow : ∀ w w', answers w x w' → P w')
    (hstep : ∀ x ∈ h, ∀ w w', answers w x w' → P w → P w') : P w' := by
  induction hs with
  | nil => cases hx
  | cons ha hs ih =>
    have hlater := fun y hy => hstep y (List.mem_cons_of_mem _ hy)
    rcases List.mem_cons.1 hx with rfl | hx
    · exact hs.keeps hlater (hnow _ _ ha)
    · exact ih hx hlater

/-! ## Steps -/

/-- Whatever is asked and answered, a step keeps a relation between the record of the invocation and
the state of the remote. -/
def Step.Maintains (answers : σ → Exchange → σ → Prop) (I : Session → σ → Prop) (step : Step) :
    Prop :=
  ∀ ⦃e s h r s' w w'⦄, e.context = .session → (step e).Yields s h r s' → Served answers w h w' →
    I s w → I s' w'

/-- A chain keeps what its steps keep, wherever it ends. -/
theorem chain_maintains {I : Session → σ → Prop} {steps : List Step}
    (hsteps : ∀ step ∈ steps, step.StaysInSession ∧ step.Maintains answers I) {e : Event}
    {s s' : Session} {r : Except Fault Event} (he : e.InSession)
    (hy : (chain e steps).Yields s h r s') (hs : Served answers w h w') (hI : I s w) : I s' w' := by
  induction steps generalizing e s h w with
  | nil =>
    obtain ⟨rfl, -, rfl⟩ := yields_pure.1 hy
    obtain rfl := served_nil_iff.1 hs
    exact hI
  | cons step steps ih =>
    rcases chain_cons_cases hy with ⟨-, rfl, rfl, -⟩ | ⟨ho, hrun⟩
    · obtain rfl := served_nil_iff.1 hs
      exact hI
    have hsession := he.session (Event.outcome_eq_proceed ho).1
    obtain ⟨hstays, hmaintains⟩ := hsteps step List.mem_cons_self
    rcases hrun with ⟨f, hstep, -⟩ | ⟨h₁, e₁, s₁, h₂, hstep, hrest, rfl⟩
    · exact hmaintains hsession hstep hs hI
    · obtain ⟨w₁, hs₁, hs₂⟩ := served_append_iff.1 hs
      exact ih (fun step hm => hsteps step (List.mem_cons_of_mem _ hm))
        (hstays e hsession hstep) hrest hs₂ (hmaintains hsession hstep hs₁ hI)

/-- A chain keeps what its steps keep of the record of the invocation. -/
theorem chain_keeps {I : Session → Prop} {steps : List Step}
    (hsteps : ∀ step ∈ steps, step.StaysInSession ∧
      ∀ ⦃e s h r s'⦄, e.context = .session → (step e).Yields s h r s' → I s → I s') {e : Event}
    {s s' : Session} {r : Except Fault Event} (he : e.InSession)
    (hy : (chain e steps).Yields s h r s') (hI : I s) : I s' := by
  -- a remote that is in one state and may answer anything
  have hany : Served (fun (_ : Unit) _ _ => True) () h () := by
    generalize h = h
    induction h with
    | nil => exact .nil
    | cons x h ih => exact .cons trivial ih
  exact chain_maintains (I := fun s _ => I s) (fun step hm => ⟨(hsteps step hm).1,
    fun _ _ _ _ _ _ _ hc hstep _ hs => (hsteps step hm).2 hc hstep hs⟩) he hy hany hI

/-! ## Every moment of a history -/

/-- After every beginning of a history the remote is in a related state. -/
def Throughout (answers : σ → Exchange → σ → Prop) (P : σ → σ → Prop) (h : History) : Prop :=
  ∀ ⦃h₁⦄, h₁ <+: h → ∀ ⦃w w'⦄, Served answers w h₁ w' → P w w'

namespace Throughout

variable {P Q R : σ → σ → Prop}

theorem nil (hP : ∀ w, P w w) : Throughout answers P [] := by
  intro h₁ hbegin w w' hs
  rw [List.prefix_nil.1 hbegin] at hs
  rw [served_nil_iff.1 hs]
  exact hP w

theorem beginning (hP : Throughout answers P (h ++ h')) : Throughout answers P h :=
  fun _ hbegin => hP (hbegin.trans (List.prefix_append h h'))

theorem served (hP : Throughout answers P h) (hs : Served answers w h w') : P w w' :=
  hP List.prefix_rfl hs

theorem imp (hP : Throughout answers P h) (hPQ : ∀ w w', P w w' → Q w w') :
    Throughout answers Q h := fun _ hbegin _ _ hs => hPQ _ _ (hP hbegin hs)

/-- After one history and then another: a moment is one of the first history, or the first one is
over and it is one of the second. -/
theorem append_of (hfirst : Throughout answers R h)
    (hthen : ∀ w w₁, Served answers w h w₁ → ∀ ⦃h₁⦄, h₁ <+: h' → ∀ w', Served answers w₁ h₁ w' →
      R w w') : Throughout answers R (h ++ h') := by
  intro h₁ hbegin w w' hs
  obtain ⟨rest, hrest⟩ := hbegin
  rcases List.append_eq_append_iff.1 hrest with ⟨more, rfl, -⟩ | ⟨more, rfl, rfl⟩
  · exact hfirst (List.prefix_append h₁ more) hs
  · obtain ⟨w₁, hs₁, hs₂⟩ := served_append_iff.1 hs
    exact hthen w w₁ hs₁ (List.prefix_append more rest) w' hs₂

theorem append (hP : Throughout answers P h) (hQ : Throughout answers Q h')
    (hPR : ∀ w w', P w w' → R w w') (hPQ : ∀ w w₁ w', P w w₁ → Q w₁ w' → R w w') :
    Throughout answers R (h ++ h') :=
  append_of (hP.imp hPR) fun w w₁ hs _ hbegin w' hs' => hPQ w w₁ w' (hP.served hs) (hQ hbegin hs')

end Throughout

end Provisioning
