import Provisioning.Proofs.Raising

/-!
# Faults in words

A refusal comes with a code and a message, and both should be texts (`Fault.textual`). As long as
the answers of the service are so, every fault that a handler ends in is one in words, and the event
for it can always be made: `x.Delivers P` says that over such answers the handler `x` ends in a
result with the property `P` or in a fault in words.

What the steps deliver is a well-formed event (`Event.WellFormed`): which of its parts an event has
depends on its status alone.
-/

set_option autoImplicit false

namespace Provisioning

/-! ## Faults -/

/-- Whether a document is a text. -/
def Value.isText : Value → Bool
  | .text _ => true
  | _ => false

namespace Fault

variable {f : Fault}

/-- Whether the code and the message of a refusal are texts, if it has them. -/
def textual : Fault → Bool
  | service error => error.code.all Value.isText && error.message.all Value.isText
  | _ => true

theorem textual_of_not_isRefusal (hf : f.isRefusal = false) : f.textual = true := by
  cases f with
  | service error => cases hf
  | _ => rfl

/-- The code of a fault in words can be looked up. -/
theorem isKey_serviceCode (hf : f.textual = true) : f.serviceCode.isKey = true := by
  cases f with
  | service error =>
    obtain ⟨_ | code, message, operation, retries⟩ := error
    · rfl
    · cases code with
      | text => rfl
      | _ => cases hf
  | _ => rfl

/-- The message of a fault in words is a text. -/
theorem exists_message (hf : f.textual = true) : ∃ m, f.message = .text m := by
  cases f with
  | service error =>
    obtain ⟨code, _ | message, operation, retries⟩ := error
    · exact ⟨_, rfl⟩
    · cases message with
      | text m =>
        simp only [message, Value.orElse]
        split <;> exact ⟨_, rfl⟩
      | _ => simp [textual, Value.isText] at hf
  | _ => exact ⟨_, rfl⟩

end Fault

/-- Whether the faults in an answer are faults in words. -/
def Exchange.textual : Exchange → Bool
  | called _ (.error f) => f.textual
  | paged _ answers => answers.all fun
    | .error f => f.textual
    | .ok _ => true
  | _ => true

/-! ## Rules -/

/-- The answer of a rule can be resolved for a fault. -/
def ErrorStatus.Resolves (fault : Fault) (status : ErrorStatus) : Prop :=
  ∀ f, status.resolve fault ≠ .error f

section
variable {fault : Fault}

theorem resolves_settled (verdict : Verdict) : (ErrorStatus.settled verdict).Resolves fault :=
  fun _ h => by cases h

theorem resolves_failWithOwnCode : failWithOwnCode.Resolves fault := fun _ h => by
  cases fault <;> cases h

theorem resolves_retryIfMessageContains (hf : fault.textual = true) (text : String)
    (delay : Value) : (Integration.retryIfMessageContains text delay).Resolves fault := by
  obtain ⟨m, hm⟩ := Fault.exists_message hf
  intro f h
  rw [Integration.retryIfMessageContains, ErrorStatus.resolve_ifMessageContains] at h
  rcases bind_eq_error.1 h with h | ⟨b, -, h⟩
  · rw [hm] at h
    cases h
  · cases b <;> cases h

/-- There is a verdict on every fault whose code can be looked up, if the rules can resolve their
answers. -/
theorem RuleSet.Answers.classify_ne_error {s : RuleSet} (hplain : s.Plain)
    (h : s.Answers (ErrorStatus.Resolves fault) (ErrorStatus.Resolves fault))
    (hcode : fault.serviceCode.isKey = true) (f : Fault) :
    s.classify fault ≠ .error f := fun herror => by
  rcases h.classifyCaught_eq_error hplain herror with hkey | ⟨status, hstatus, hresolve⟩
  · have hkeyed : fault.caught.code.checkKey = .ok () := if_pos hcode
    rw [hkeyed] at hkey
    cases hkey
  · exact hstatus f hresolve

theorem Integration.classify_ne_error (delay : Value) (hf : fault.textual = true) (f : Fault) :
    (Integration.rules delay).classify fault ≠ .error f :=
  (answers_rules delay (fun _ => resolves_settled _)
    (fun text => resolves_retryIfMessageContains hf text delay) (fun _ => resolves_settled _)
    resolves_failWithOwnCode).classify_ne_error (plain_rules delay) (Fault.isKey_serviceCode hf) f

theorem ParameterGroup.classify_ne_error (hcode : fault.serviceCode.isKey = true) (f : Fault) :
    ParameterGroup.rules.classify fault ≠ .error f :=
  (answers_rules (fun _ => resolves_settled _) (fun _ => resolves_settled _)
    resolves_failWithOwnCode).classify_ne_error plain_rules hcode f

end

/-! ## Events -/

namespace Event

/-- Which parts an event has, by its status. A failure has a code and tells why; what goes on says
nothing, and has a code only when it is throttled. -/
def WellFormed (e : Event) : Prop :=
  match e.status with
  | .success => e.delay = .int 0 ∧ e.code = none ∧ e.message = .null
  | .failed =>
    e.delay = .int 0 ∧ e.code.isSome = true ∧ (∃ m, e.message = .text m ∧ m ≠ "") ∧
      e.models = .null ∧ e.nextToken = .null
  | .inProgress =>
    e.message = .null ∧ e.models = .null ∧ e.nextToken = .null ∧
      (e.code = none ∨ e.code = some .throttling)
  | .invalid _ => False

namespace WellFormed

variable {e : Event} {model : Value} {context : ContextRef}

theorem progress : (Event.progress model context).WellFormed := ⟨rfl, rfl, rfl, .inl rfl⟩

theorem defer {delay : Value} {code : Option ErrorCode}
    (hcode : code = none ∨ code = some .throttling) :
    (Event.defer model context delay code).WellFormed := ⟨rfl, rfl, rfl, hcode⟩

theorem success : (Event.success model context).WellFormed := ⟨rfl, rfl, rfl⟩

theorem successList {models nextToken : Value} : (Event.successList models nextToken).WellFormed :=
  ⟨rfl, rfl, rfl⟩

/-- A text that is empty is replaced by the message for the code. -/
theorem failed {code : ErrorCode} {m : String} :
    (Event.failed model context code (.text m)).WellFormed := by
  refine ⟨rfl, rfl, ?_, rfl, rfl⟩
  by_cases hm : m = ""
  · refine ⟨defaultMessage code, by simp [Event.failed, Value.orElse, Value.truthy, hm],
      fun h => ?_⟩
    exact absurd (String.append_eq_empty_iff.1 h).1 (by decide)
  · exact ⟨m, by simp [Event.failed, Value.orElse, Value.truthy, hm], hm⟩

theorem withContext (he : e.WellFormed) (context : ContextRef) :
    { e with context := context }.WellFormed := he

theorem withModel (he : e.WellFormed) (model : Value) : { e with model := model }.WellFormed := he

theorem settle (he : e.WellFormed) (c : Context) : (e.settle c).WellFormed := by
  unfold Event.settle
  split
  · exact he.withContext _
  · exact he

end WellFormed

end Event

/-! ## What handlers deliver -/

section
variable {α β : Type} {P : α → Prop} {Q : β → Prop}

/-- A result with a property, or a fault in words. -/
def Sound (P : α → Prop) : Except Fault α → Prop
  | .ok a => P a
  | .error f => f.textual = true

theorem Codeless.sound_of {x : Except Fault α} (hx : Codeless x) (hP : ∀ a, x = .ok a → P a) :
    Sound P x := by
  cases x with
  | ok a => exact hP a rfl
  | error f => exact Fault.textual_of_not_isRefusal (hx f rfl)

namespace Handler

/-- Over answers in words, a handler ends in a result with a property, or in a fault in words. -/
def Delivers (P : α → Prop) (x : Handler α) : Prop :=
  ∀ ⦃s h r s'⦄, x.Yields s h r s' → (∀ e ∈ h, e.textual = true) → Sound P r

/-- The faults of a handler are faults in words, whatever it results in. -/
abbrev Worded (x : Handler α) : Prop := x.Delivers fun _ => True

namespace Delivers

theorem pure {a : α} (ha : P a) : (pure a : Handler α).Delivers P := fun _ _ _ _ hy _ => by
  obtain ⟨-, rfl, -⟩ := yields_pure.1 hy
  exact ha

theorem lift {r : Except Fault α} (hr : Sound P r) : (lift r).Delivers P := fun _ _ _ _ hy _ => by
  obtain ⟨-, rfl, -⟩ := yields_lift.1 hy
  exact hr

/-- What is read from documents. -/
theorem read {r : Except Fault α} (hr : Codeless r) : (Handler.lift r).Worded :=
  lift (hr.sound_of fun _ _ => trivial)

theorem throw {f : Fault} (hf : f.textual = true) : (throw f : Handler α).Delivers P :=
  fun _ _ _ _ hy _ => by
  obtain ⟨-, rfl, -⟩ := yields_throw.1 hy
  exact hf

/-- A handler that ends in no refusal of the service. -/
theorem of_raises {x : Handler α} (hraises : x.Raises (·.isRefusal = false)) : x.Worded :=
  fun _ _ r _ hy _ => by
  cases r with
  | ok a => trivial
  | error f => exact Fault.textual_of_not_isRefusal (hraises hy)

theorem bind {x : Handler α} {f : α → Handler β} (hx : x.Delivers P)
    (hf : ∀ a, P a → (f a).Delivers Q) : (x >>= f).Delivers Q := by
  intro s h r s' hy hh
  rcases yields_bind.1 hy with ⟨e, hx', rfl⟩ | ⟨h₁, a, s₁, h₂, hx', hf', rfl⟩
  · have hfault : Sound P (.error e) := hx hx' hh
    exact hfault
  · have ha : Sound P (.ok a) := hx hx' fun e he => hh e (List.mem_append_left _ he)
    exact hf a ha hf' fun e he => hh e (List.mem_append_right _ he)

theorem attempt {x : Handler α} (hx : x.Delivers P) : x.attempt.Delivers (Sound P) := by
  intro s h r s' hy hh
  obtain ⟨a, hyields, rfl⟩ := yields_attempt.1 hy
  exact hx hyields hh

theorem tryCatch {x : Handler α} {f : Fault → Handler α} (hx : x.Delivers P)
    (hf : ∀ e, e.textual = true → (f e).Delivers P) : (tryCatch x f).Delivers P := by
  intro s h r s' hy hh
  rcases yields_tryCatch.1 hy with ⟨a, hx', rfl⟩ | ⟨h₁, e, s₁, h₂, hx', hf', rfl⟩
  · exact hx hx' hh
  · have he : Sound P (.error e) := hx hx' fun e he => hh e (List.mem_append_left _ he)
    exact hf e he hf' fun e he => hh e (List.mem_append_right _ he)

theorem call (operation : String) (arguments : Entries String Value) :
    (call operation arguments).Worded := by
  intro s h r s' hy hh
  obtain ⟨rfl, -⟩ := yields_call.1 hy
  cases r with
  | ok v => trivial
  | error f => exact hh _ (List.mem_singleton_self _)

theorem pages (operation : String) (arguments : Entries String Value) :
    (pages operation arguments).Delivers fun answers => ∀ a ∈ answers, Sound (fun _ => True) a := by
  intro s h r s' hy hh
  obtain ⟨answers, rfl, rfl, -⟩ := yields_pages.1 hy
  have hpages : Exchange.textual (.paged _ answers) = true := hh _ (List.mem_singleton_self _)
  intro a ha
  cases a with
  | ok v => trivial
  | error f => exact List.all_eq_true.1 hpages _ ha

theorem model : model.Worded := fun _ _ _ _ hy _ => by
  obtain ⟨-, rfl, -⟩ := yields_model.1 hy
  trivial

theorem setModel (v : Value) : (setModel v).Worded := fun _ _ _ _ hy _ => by
  obtain ⟨-, rfl, -⟩ := yields_setModel.1 hy
  trivial

theorem forM {items : List α} {f : α → Handler PUnit} (hf : ∀ a, (f a).Worded) :
    (items.forM f).Worded := by
  induction items with
  | nil => exact pure trivial
  | cons a items ih => exact (hf a).bind fun _ _ => ih

end Delivers

end Handler

end

/-! ## Steps -/

open Handler

/-- From well-formed events a step leads to well-formed events. -/
def Step.Formed (step : Step) : Prop :=
  ∀ e : Event, e.WellFormed → (step e).Delivers Event.WellFormed

/-- The event for a fault in words is well formed, if one can be made. -/
def Recovery.Formed (recover : Recovery) : Prop :=
  ∀ e f, f.textual = true → Sound Event.WellFormed (recover e f)

/-- Whatever the rules. -/
theorem Event.formed_ofFault {rules : Option RuleSet}
    (hrules : ∀ e f, Codeless (ofFault rules e f)) : Recovery.Formed (ofFault rules) := by
  intro e f hf
  refine (hrules e f).sound_of fun e' he' => ?_
  obtain ⟨m, hm⟩ := Fault.exists_message hf
  cases rules with
  | none =>
    cases he'
    rw [hm]
    exact .failed
  | some rules =>
    obtain ⟨verdict, -, he'⟩ := bind_eq_ok.1 he'
    cases verdict with
    | failWith code =>
      cases he'
      rw [hm]
      exact .failed
    | retry delay =>
      cases he'
      exact .defer (.inr rfl)
    | ignore =>
      cases he'
      exact .progress

section
variable {step : Step} {recover : Recovery}

theorem delivers_chain {steps : List Step} (hsteps : ∀ step ∈ steps, Step.Formed step) {e : Event}
    (he : e.WellFormed) : (chain e steps).Delivers Event.WellFormed := by
  induction steps generalizing e with
  | nil => exact .pure he
  | cons step steps ih =>
    refine (Delivers.read e.codeless_outcome).bind fun o _ => ?_
    cases o with
    | proceed =>
      exact (hsteps step List.mem_cons_self e he).bind fun e' he' =>
        ih (fun step h => hsteps step (List.mem_cons_of_mem _ h)) he'
    | suspend => exact .pure he
    | terminal => exact .pure he

theorem formed_executeOnce (flag : String) (hstep : step.Formed) :
    (executeOnce flag step).Formed := by
  refine fun e he => (Delivers.of_raises (raises_field _ _)).bind fun v _ => ?_
  split
  · exact .pure he
  · refine (hstep e he).bind fun result hresult => ?_
    split
    · unfold markDone
      split
      · exact (Delivers.of_raises (raises_setField _ _ _)).bind fun _ _ => .pure hresult
      · exact (Delivers.of_raises (raises_setField _ _ _)).bind fun ref _ =>
          .pure (hresult.withContext ref)
    · exact .pure hresult

theorem formed_goOn (v : Value) : (goOn v).Formed := fun _ _ => .pure .progress

theorem formed_serviceCall {operation : String}
    {request : Value → Except Fault (Entries String Value)} (hrequest : ∀ v, Codeless (request v))
    (hrecover : Recovery.Formed recover) {done : Value → Step} (hdone : ∀ v, (done v).Formed) :
    (serviceCall operation request recover done).Formed := by
  refine fun e he => (Delivers.read (hrequest _)).bind fun arguments _ =>
    (Delivers.call _ _).attempt.bind fun answer hanswer => ?_
  cases answer with
  | error f => exact .lift (hrecover e f hanswer)
  | ok v => exact hdone v e he

theorem worded_lookUp {operation : String} {arguments : Entries String Value}
    {listField missingCode : String} {missing : Fault} (hmissing : missing.textual = true) :
    (lookUp operation arguments listField missingCode missing).Worded := by
  refine (Delivers.call _ _).attempt.bind fun answer hanswer => ?_
  cases answer with
  | error f =>
    refine .throw ?_
    split
    · exact hmissing
    · exact hanswer
  | ok response =>
    refine (Delivers.read (Value.codeless_get _ _)).bind fun items _ => ?_
    split
    · exact .read (Value.codeless_first _)
    · exact .throw hmissing

theorem formed_safeCreate {probe : Value → Handler Value} {create : Step} {probing : Bool}
    (hprobe : ∀ v, (probe v).Worded) (hcreate : create.Formed) :
    (safeCreate probe create probing).Formed := by
  have hlook : ∀ model, (lookFor probe probing model).Worded := by
    intro model
    unfold lookFor
    split
    · refine (hprobe model).tryCatch fun f hf => ?_
      split
      · exact .pure trivial
      · exact .throw hf
    · exact .pure trivial
  refine fun e he => (hlook _).bind fun existing _ => ?_
  split
  · exact hcreate e he
  · exact (Delivers.read (Value.codeless_spread _)).bind fun _ _ =>
      (Delivers.read (Value.codeless_spread _)).bind fun _ _ => .pure .progress

theorem formed_stabilize {isStabilized : Value → Handler Bool} {backoff : Backoff}
    {resourceType : String} (hpoll : ∀ v, (isStabilized v).Worded)
    (hrecover : Recovery.Formed recover) :
    (stabilize isStabilized backoff recover resourceType).Formed := by
  refine fun e he => (Delivers.of_raises (Raises.contextOf _)).bind fun c _ =>
    (Delivers.of_raises Raises.now).bind fun t _ => Delivers.bind (P := fun _ => True) ?_
      fun ref _ => (Delivers.read (Backoff.codeless_isExpired _ _ _)).bind fun expired _ => ?_
  · unfold keepStart
    split
    · exact .of_raises (raises_setField _ _ _)
    · exact .pure trivial
  · split
    · exact (Delivers.read (Number.codeless_whole _)).bind fun _ _ => .pure .failed
    · refine (hpoll _).attempt.bind fun answer hanswer => ?_
      split
      · exact .lift (hrecover _ _ hanswer)
      · exact .pure .progress
      · exact (Delivers.read (Number.codeless_whole _)).bind fun _ _ => .pure (.defer (.inl rfl))

theorem formed_updateTags {rules : Option RuleSet}
    (hrules : Recovery.Formed (Event.ofFault rules)) (previous desired : TagSet)
    (arnField : String) {fetchArn : Step} (hfetch : fetchArn.Formed) :
    (updateTags previous desired rules arnField fetchArn).Formed := by
  have hadd : ∀ arn tags, (addTags arn tags).Worded := by
    intro arn tags
    unfold addTags
    split
    · exact .pure trivial
    · exact (Delivers.call _ _).bind fun _ _ => .pure trivial
  have hremove : ∀ arn tags, (removeTags arn tags).Worded := by
    intro arn tags
    unfold removeTags
    split
    · exact .pure trivial
    · exact (Delivers.call _ _).bind fun _ _ => .pure trivial
  have hchange : (changeTags (TagSet.diff previous desired).1 (TagSet.diff previous desired).2
      rules arnField).Formed := by
    refine fun e he => (Delivers.of_raises (raises_field _ _)).bind fun arn _ =>
      ((hremove _ _).bind fun _ _ => hadd _ _).attempt.bind fun answer hanswer => ?_
    split
    · exact .lift (hrules _ _ hanswer)
    · exact .pure he
  intro e he
  unfold updateTags
  dsimp only
  split
  · exact .pure he
  · refine (Delivers.of_raises (raises_field _ _)).bind fun arn _ => ?_
    split
    · exact (hfetch e he).bind fun e' he' => delivers_chain (by simpa using hchange) he'
    · exact hchange e he

theorem formed_createWithTaggingFallback {create : TagSet → Step}
    (hcreate : ∀ tags, (create tags).Formed) (tags : TagSet) :
    (createWithTaggingFallback create tags).Formed := by
  refine fun e he => (hcreate tags e he).bind fun result hresult => ?_
  split
  · exact hcreate _ e he
  · exact .pure hresult

end

end Provisioning
