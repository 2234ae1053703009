import Provisioning.Integration.Provider
import Provisioning.Proofs.Event

/-!
# What events in progress keep

An event in progress is the one that the next step starts with, and its model is the one that the
next invocation starts with. `step.Keeps P`: from an event with the property `P` the step leads to
an event with this property, unless it ends the operation. A chain of such steps keeps the property
as well.
-/

set_option autoImplicit false

namespace Provisioning

open Handler

namespace Event

variable {e e' : Event} {f : Fault}

/-- An event is about a model. -/
def About (m : Value) (e : Event) : Prop := e.model = m

/-- An event ends the operation: it has succeeded or failed. -/
def Over (e : Event) : Prop := e.status = .success ∨ e.status = .failed

/-- An event ends the operation, or it has a property. -/
def Ending (P : Event → Prop) (e : Event) : Prop := e.Over ∨ P e

/-- A property that events keep when the operation just goes on, whatever context they refer to. -/
structure Lasting (P : Event → Prop) : Prop where
  progress : ∀ {e}, P e → P (.progress e.model e.context)
  context : ∀ {e ref}, P e → P { e with context := ref }

/-- The events for faults keep a property. -/
def Recovers (P : Event → Prop) (recover : Recovery) : Prop :=
  ∀ ⦃e e' f⦄, P e → recover e f = .ok e' → e'.Ending P

theorem model_of_ofFault {rules : Option RuleSet} (h : ofFault rules e f = .ok e') :
    e'.model = e.model := by
  cases rules with
  | none => cases h; rfl
  | some rules =>
    obtain ⟨verdict, -, h⟩ := bind_eq_ok.1 h
    cases verdict <;> cases h <;> rfl

theorem Over.ne_inProgress (h : e.Over) : e.status ≠ .inProgress := by
  intro hs
  rcases h with h | h <;> cases hs.symm.trans h

theorem over_success (model : Value) (context : ContextRef) : (success model context).Over :=
  .inl rfl

theorem over_failed (model : Value) (context : ContextRef) (code : ErrorCode) (message : Value) :
    (failed model context code message).Over := .inr rfl

section
variable {P : Event → Prop}

theorem Ending.of_inProgress (h : e.Ending P) (hs : e.status = .inProgress) : P e :=
  h.resolve_left fun hover => hover.ne_inProgress hs

theorem Ending.withContext (hP : Lasting P) (h : e.Ending P) (ref : ContextRef) :
    Ending P { e with context := ref } := h.imp id hP.context

end

theorem lasting_about (m : Value) : Lasting (About m) := ⟨id, id⟩

/-- Whatever the rules, the event for a fault is about the same model. -/
theorem recovers_about (m : Value) (rules : Option RuleSet) :
    Recovers (About m) (ofFault rules) := fun _ _ _ he h =>
  .inr ((model_of_ofFault h).trans he)

end Event

open Event

/-- From an event with a property a step leads to such an event, unless it ends the operation. -/
def Step.Keeps (P : Event → Prop) (step : Step) : Prop := ∀ e, P e → (step e).Returns (Ending P)

section
variable {P : Event → Prop} {step : Step} {recover : Recovery}

theorem returns_chain_ending {steps : List Step} (hsteps : ∀ step ∈ steps, Step.Keeps P step)
    {e : Event} (he : e.Ending P) : (chain e steps).Returns (Ending P) := by
  induction steps generalizing e with
  | nil => exact .pure he
  | cons step steps ih =>
    refine Returns.bind_of (P := (e.outcome = .ok ·)) (.lift fun _ h => h) fun o ho => ?_
    cases o with
    | proceed =>
      have hkeeps := hsteps step List.mem_cons_self e (he.of_inProgress (outcome_eq_proceed ho).1)
      exact .bind_of hkeeps fun e' he' => ih (fun s h => hsteps s (List.mem_cons_of_mem _ h)) he'
    | suspend => exact .pure he
    | terminal => exact .pure he

theorem keeps_executeOnce (hP : Lasting P) (flag : String) (hstep : step.Keeps P) :
    (executeOnce flag step).Keeps P := by
  refine fun e he => .bind fun v => ?_
  split
  · exact .pure (.inr he)
  · refine .bind_of (hstep e he) fun result hresult => ?_
    split
    · unfold markDone
      split
      · exact .bind fun _ => .pure hresult
      · exact .bind fun _ => .pure (hresult.withContext hP _)
    · exact .pure hresult

theorem keeps_goOn (hP : Lasting P) (v : Value) : (goOn v).Keeps P := fun _ he =>
  .pure (.inr (hP.progress he))

theorem keeps_serviceCall {operation : String}
    {request : Value → Except Fault (Entries String Value)} (hrecover : Recovers P recover)
    {done : Value → Step} (hdone : ∀ v, (done v).Keeps P) :
    (serviceCall operation request recover done).Keeps P := by
  refine fun e he => .bind fun arguments => .bind fun answer => ?_
  cases answer with
  | error f => exact .lift fun _ h => hrecover he h
  | ok v => exact hdone v e he

theorem keeps_changeTags {rules : Option RuleSet} (hrules : Recovers P (ofFault rules))
    (toRemove toAdd : TagSet) (arnField : String) :
    (changeTags toRemove toAdd rules arnField).Keeps P := by
  refine fun e he => .bind fun arn => .bind fun answer => ?_
  split
  · exact .lift fun _ h => hrules he h
  · exact .pure (.inr he)

theorem keeps_updateTags {rules : Option RuleSet} (hrules : Recovers P (ofFault rules))
    (previous desired : TagSet) (arnField : String) {fetchArn : Step} (hfetch : fetchArn.Keeps P) :
    (updateTags previous desired rules arnField fetchArn).Keeps P := by
  have hchange := keeps_changeTags hrules (TagSet.diff previous desired).1
    (TagSet.diff previous desired).2 arnField
  intro e he
  unfold updateTags
  dsimp only
  split
  · exact .pure (.inr he)
  · refine .bind fun arn => ?_
    split
    · exact .bind_of (hfetch e he) fun e' he' => returns_chain_ending (by simpa using hchange) he'
    · exact hchange e he

/-- A poll keeps the model; it may ask for a delay. -/
theorem keeps_stabilize {m : Value} {isStabilized : Value → Handler Bool} {backoff : Backoff}
    {resourceType : String} (hrecover : Recovers (About m) recover) :
    (stabilize isStabilized backoff recover resourceType).Keeps (About m) := by
  refine fun e he => .bind fun c => .bind fun now => .bind fun ref => .bind fun expired => ?_
  split
  · exact .bind fun _ => .pure (.inl (over_failed _ _ _ _))
  · refine .bind fun answer => ?_
    split
    · exact .lift fun _ h => hrecover ((lasting_about m).context he) h
    · exact .pure (.inr he)
    · exact .bind fun _ => .pure (.inr he)

end

/-! ## The provider of integrations -/

namespace Integration

variable {s : Settings} {m : Value}

theorem keeps_fetchArn : (fetchArn s).Keeps (About m) := by
  refine keeps_serviceCall (recovers_about m _) fun response e he => .bind fun integration => ?_
  split
  · exact .bind fun _ => .pure (.inl (over_failed _ _ _ _))
  · exact .bind fun _ => .bind fun _ => .pure (.inr he)

theorem keeps_tagStep (previous desired : Except Fault TagSet) :
    (tagStep s previous desired).Keeps (About m) := fun e he =>
  .bind fun _ => .bind fun _ => keeps_updateTags (recovers_about m _) _ _ _ keeps_fetchArn e he

theorem keeps_stabilizeStep : (stabilizeStep s).Keeps (About m) :=
  keeps_stabilize (recovers_about m _)

theorem keeps_modifyStep (previous : Value) : (modifyStep s previous).Keeps (About m) := by
  refine fun e he => .bind fun request => ?_
  split
  · exact .pure (.inr he)
  · exact keeps_serviceCall (recovers_about m _) (keeps_goOn (lasting_about m)) e he

theorem keeps_readStep : (readStep s).Keeps (About m) := by
  refine fun e he => .bind fun answer => ?_
  split
  · exact .lift fun _ h => recovers_about m _ he h
  · exact .bind fun _ => .pure (.inl (over_success _ _))

end Integration

end Provisioning
