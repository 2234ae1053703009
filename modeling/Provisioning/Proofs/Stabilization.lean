import Provisioning.Proofs.Chain
import Provisioning.Proofs.Number
import Provisioning.Request

/-!
# When stabilizing lets the chain go on

Stabilizing polls once (`Polls`), unless the time limit is over or the time cannot be read or kept.
What it ends in follows from the answer to the poll (`Polls.yields`), and without a poll the chain
does not go on (`stabilize_polls`).

A condition that does not hold yet is answered by the whole seconds of the delay of the policy, and
an event without a positive delay lets the next step run. So the chain goes on for stable resources
only exactly if the delay is at least one second (`continuesWhenStable_iff`). A policy admits any
delay that is not negative.
-/

set_option autoImplicit false

namespace Provisioning

open Handler

namespace Handler

variable {α : Type} {s s₁ s₂ : Session} {h : History}

/-- What a handler was answered determines what it ends in. -/
theorem Yields.unique {x : Handler α} {r r' : Except Fault α} (hy : x.Yields s h r s₁)
    (hy' : x.Yields s h r' s₂) : r' = r ∧ s₂ = s₁ := by
  have hsame := hy'.run_replay.symm.trans hy.run_replay
  exact Prod.mk.inj (Prod.mk.inj hsame).1

end Handler

/-- The context that a reference stands for in a record. -/
def ContextRef.held (s : Session) : ContextRef → Option Context
  | .none => Option.none
  | .session => some s.context
  | .own context => some context

theorem yields_contextOf {ref : ContextRef} {s s' : Session} {h : History}
    {r : Except Fault (Option Context)} :
    (contextOf ref).Yields s h r s' ↔ h = [] ∧ r = .ok (ref.held s) ∧ s' = s := by
  cases ref with
  | session => exact yields_contextOf_session
  | none => exact yields_pure
  | own context => exact yields_pure

section
variable {isStabilized : Value → Handler Bool} {backoff : Backoff} {recover : Recovery}
  {resourceType : String} {e : Event} {s s' : Session} {h : History} {r : Except Fault Event}
  {answer : Except Fault Bool} {ref : ContextRef}

/-! ## Policies -/

/-- A policy is admitted: it is made from fields that are checked. -/
def Backoff.Admitted (b : Backoff) : Prop := ∃ delay timeout, Backoff.ofFields delay timeout = .ok b

theorem Backoff.le_of_readOptional {fallback n : Number} {least : Int} {field : Option Value}
    (hfallback : (Number.int least).le fallback = true)
    (h : readOptional fallback least field = .ok n) : (Number.int least).le n = true := by
  cases field with
  | none =>
    cases h
    exact hfallback
  | some v =>
    change readField least v = .ok n at h
    unfold readField at h
    cases hx : readNumber v with
    | error f => rw [hx] at h; cases h
    | ok x =>
      rw [hx] at h
      by_cases hle : (Number.int least).le (.float x) = true
      · simp only [bind, Except.bind, hle, if_true] at h
        cases h
        exact hle
      · simp only [bind, Except.bind, hle] at h
        cases h

/-- The delay of a policy is not negative. -/
theorem Backoff.Admitted.nonneg (hb : backoff.Admitted) :
    (Number.int 0).le backoff.delay = true := by
  obtain ⟨delay, timeout, hb⟩ := hb
  unfold Backoff.ofFields at hb
  split at hb
  · rename_i d t hd ht
    cases hb
    exact Backoff.le_of_readOptional (by decide) hd
  all_goals cases hb

/-! ## One poll -/

/-- What an answer to the poll makes of an event. -/
def pollResult (backoff : Backoff) (recover : Recovery) (e : Event) :
    Except Fault Bool → Except Fault Event
  | .error f => recover e f
  | .ok true => .ok (.progress e.model e.context)
  | .ok false => backoff.delay.whole.map fun seconds => .defer e.model e.context (.int seconds)

theorem poll_yields_iff : (poll isStabilized backoff recover e).Yields s h r s' ↔
    ∃ answer, (isStabilized e.model).Yields s h answer s' ∧
      r = pollResult backoff recover e answer := by
  have hrest : ∀ {s₁ : Session} {h₂ : History} {answer : Except Fault Bool},
      (match answer with
        | .error fault => lift (recover e fault)
        | .ok true => return .progress e.model e.context
        | .ok false => do
          let delay ← lift backoff.delay.whole
          return .defer e.model e.context (.int delay) : Handler Event).Yields s₁ h₂ r s' ↔
        h₂ = [] ∧ r = pollResult backoff recover e answer ∧ s' = s₁ := by
    intro s₁ h₂ answer
    rcases answer with f | b
    · exact yields_lift
    · cases b with
      | true => exact yields_pure
      | false =>
        simp only [pollResult]
        cases backoff.delay.whole with
        | error f => exact yields_throw
        | ok seconds => exact yields_pure
  unfold poll
  rw [yields_attempt_bind]
  constructor
  · rintro ⟨h₁, answer, s₁, h₂, hpoll, hafter, rfl⟩
    obtain ⟨rfl, rfl, rfl⟩ := hrest.1 hafter
    exact ⟨answer, by rwa [List.append_nil], rfl⟩
  · rintro ⟨answer, hpoll, rfl⟩
    exact ⟨h, answer, s', [], hpoll, hrest.2 ⟨rfl, rfl, rfl⟩, (List.append_nil h).symm⟩

/-- The time of the first poll in the context that an event refers to. -/
def Event.polledSince (e : Event) (s : Session) : Value := stabilizationStart (e.context.held s)

/-- The condition is polled in a call that starts with an event on a record, with an answer: the
time is kept in the context, which leads to a reference `ref` to it, and the limit is not over. -/
inductive Polls (isStabilized : Value → Handler Bool) (backoff : Backoff) (e : Event)
    (s : Session) : History → Except Fault Bool → ContextRef → Session → Prop
  | intro {now : Number} {ref : ContextRef} {s₁ s' : Session} {h : History}
      {answer : Except Fault Bool} :
      (keepStart (e.polledSince s) now e.context).Yields s [] (.ok ref) s₁ →
      backoff.isExpired (e.polledSince s) (.number now) = .ok false →
      (isStabilized e.model).Yields s₁ h answer s' →
      Polls isStabilized backoff e s (.clock now :: h) answer ref s'

/-- A call that polls ends in what the answer makes of the event. -/
theorem Polls.yields (hp : Polls isStabilized backoff e s h answer ref s') :
    (stabilize isStabilized backoff recover resourceType e).Yields s h
      (pollResult backoff recover { e with context := ref } answer) s' := by
  cases hp with
  | intro hkeep hexpired hpoll =>
    refine (yields_bind_of_silent fun _ _ _ => yields_contextOf).2
      (yields_now_bind.2 ⟨_, _, rfl, yields_bind.2 (.inr ⟨[], ref, _, _, hkeep, ?_, rfl⟩)⟩)
    exact yields_lift_bind.2 (.inr ⟨false, hexpired, poll_yields_iff.2 ⟨answer, hpoll, rfl⟩⟩)

/-- Writing a field of a context asks nothing. -/
theorem silent_setField {name : String} {v : Value} {result : Except Fault ContextRef}
    (hy : (setField ref name v).Yields s h result s') : h = [] := by
  cases ref with
  | none => exact (yields_throw.1 hy).1
  | session => exact (yields_setField_session.1 hy).1
  | own context =>
    rcases yields_lift_bind.1 hy with ⟨f, -, rfl, -⟩ | ⟨context', -, hrest⟩
    · rfl
    · exact (yields_pure.1 hrest).1

theorem silent_keepStart {startedAt : Value} {now : Number} {result : Except Fault ContextRef}
    (hy : (keepStart startedAt now ref).Yields s h result s') : h = [] := by
  unfold keepStart at hy
  split at hy
  · exact silent_setField hy
  · exact (yields_pure.1 hy).1

/-- What a call makes of an event after the time limit is over. -/
def timeoutResult (backoff : Backoff) (resourceType : String) (e : Event) : Except Fault Event :=
  backoff.timeout.whole.map fun seconds =>
    .failed e.model e.context .notStabilized (.text (timeoutMessage resourceType seconds))

/-- A call reads the clock and keeps the time. Then it polls exactly if the limit is not over, and
else it asks for nothing more. -/
theorem yields_stabilize
    (hy : (stabilize isStabilized backoff recover resourceType e).Yields s h r s') :
    ∃ (now : Number) (h' : History), h = .clock now :: h' ∧
      ((∃ f, (keepStart (e.polledSince s) now e.context).Yields s [] (.error f) s' ∧
          r = .error f) ∨
        ∃ ref s₁, (keepStart (e.polledSince s) now e.context).Yields s [] (.ok ref) s₁ ∧
          ((∃ f, backoff.isExpired (e.polledSince s) (.number now) = .error f ∧ r = .error f) ∨
            (backoff.isExpired (e.polledSince s) (.number now) = .ok true ∧ h' = [] ∧ s' = s₁ ∧
              r = timeoutResult backoff resourceType { e with context := ref }) ∨
            backoff.isExpired (e.polledSince s) (.number now) = .ok false ∧
              ∃ answer, (isStabilized e.model).Yields s₁ h' answer s')) := by
  obtain ⟨now, h', rfl, hafter⟩ :=
    yields_now_bind.1 ((yields_bind_of_silent fun _ _ _ => yields_contextOf).1 hy)
  refine ⟨now, h', rfl, ?_⟩
  rcases yields_bind.1 hafter with ⟨f, hkeep, rfl⟩ | ⟨h₁, ref, s₁, h₂, hkeep, hrest, rfl⟩
  · obtain rfl := silent_keepStart hkeep
    exact .inl ⟨f, hkeep, rfl⟩
  obtain rfl := silent_keepStart hkeep
  refine .inr ⟨ref, s₁, hkeep, ?_⟩
  rcases yields_lift_bind.1 hrest with ⟨f, hexpired, -, rfl, -⟩ | ⟨expired, hexpired, hrest⟩
  · exact .inl ⟨f, hexpired, rfl⟩
  cases expired with
  | true =>
    refine .inr (.inl ⟨hexpired, ?_⟩)
    unfold timeoutResult
    rcases yields_lift_bind.1 hrest with ⟨f, hwhole, rfl, rfl, rfl⟩ | ⟨seconds, hwhole, hrest⟩
    · rw [hwhole]
      exact ⟨rfl, rfl, rfl⟩
    · obtain ⟨rfl, rfl, rfl⟩ := yields_pure.1 hrest
      rw [hwhole]
      exact ⟨rfl, rfl, rfl⟩
  | false =>
    obtain ⟨answer, hpoll, -⟩ := poll_yields_iff.1 hrest
    exact .inr (.inr ⟨hexpired, answer, hpoll⟩)

/-- A call polls, or it ends in a fault or in a failure. -/
theorem stabilize_polls
    (hy : (stabilize isStabilized backoff recover resourceType e).Yields s h r s') :
    (∃ answer ref, Polls isStabilized backoff e s h answer ref s') ∨
      ∀ e', r = .ok e' → e'.status = .failed := by
  obtain ⟨now, h', rfl, ⟨f, -, rfl⟩ | ⟨ref, s₁, hkeep, ⟨f, -, rfl⟩ | ⟨-, -, -, rfl⟩ |
    ⟨hexpired, answer, hpoll⟩⟩⟩ := yields_stabilize hy
  · exact .inr nofun
  · exact .inr nofun
  · refine .inr fun e' he' => ?_
    unfold timeoutResult at he'
    cases hwhole : backoff.timeout.whole with
    | error f =>
      rw [hwhole] at he'
      cases he'
    | ok seconds =>
      rw [hwhole] at he'
      cases he'
      rfl
  · exact .inl ⟨answer, ref, .intro hkeep hexpired hpoll⟩

/-! ## Whether the chain goes on -/

/-- A poll lets the chain go on if the condition holds, and if it does not hold but the delay has no
whole second. -/
theorem pollResult_proceeds (hb : backoff.Admitted)
    (hrecover : ∀ e f e', recover e f = .ok e' → e'.outcome ≠ .ok .proceed) :
    (∃ e', pollResult backoff recover e answer = .ok e' ∧ e'.outcome = .ok .proceed) ↔
      answer = .ok true ∨ answer = .ok false ∧ (Number.int 1).le backoff.delay = false := by
  rcases answer with f | b
  · refine ⟨fun ⟨e', he', ho⟩ => absurd ho (hrecover e f e' he'), ?_⟩
    rintro (h | ⟨h, -⟩) <;> cases h
  · cases b with
    | true => exact ⟨fun _ => .inl rfl, fun _ => ⟨_, rfl, rfl⟩⟩
    | false =>
      refine ⟨fun ⟨e', he', ho⟩ => .inr ⟨rfl, ?_⟩, ?_⟩
      · rw [Bool.eq_false_iff]
        intro hone
        cases hd : backoff.delay.whole with
        | error f =>
          rw [pollResult, hd] at he'
          cases he'
        | ok seconds =>
          rw [pollResult, hd] at he'
          cases he'
          have hpos : 0 < seconds := Number.one_le_whole hone hd
          have hdelay : (Value.int seconds).isPositive = .ok false :=
            (Event.outcome_eq_proceed ho).2
          rw [Value.isPositive_int, decide_eq_true hpos] at hdelay
          cases hdelay
      · rintro (h | ⟨-, hlt⟩)
        · cases h
        · refine ⟨.defer e.model e.context (.int 0), ?_, rfl⟩
          rw [pollResult, Number.whole_eq_zero hb.nonneg hlt]
          rfl

/-- Stabilizing lets the chain go on exactly if the condition was polled in this call and holds,
whatever the condition, the event, the clock and the events for faults, as long as these do not let
the chain go on themselves. -/
def ContinuesWhenStable (backoff : Backoff) : Prop :=
  ∀ ⦃isStabilized : Value → Handler Bool⦄ ⦃recover : Recovery⦄ ⦃resourceType : String⦄ ⦃e : Event⦄
    ⦃s s' : Session⦄ ⦃h : History⦄ ⦃r : Except Fault Event⦄,
    (∀ e f e', recover e f = .ok e' → e'.outcome ≠ .ok .proceed) →
    (stabilize isStabilized backoff recover resourceType e).Yields s h r s' →
    ((∃ e', r = .ok e' ∧ e'.outcome = .ok .proceed) ↔
      ∃ ref, Polls isStabilized backoff e s h (.ok true) ref s')

/-- What lets the chain go on is a poll without a fault: one whose condition holds, and if the delay
is shorter than a second also one whose condition does not hold. -/
theorem stabilize_continues_iff (hb : backoff.Admitted)
    (hrecover : ∀ e f e', recover e f = .ok e' → e'.outcome ≠ .ok .proceed)
    (hy : (stabilize isStabilized backoff recover resourceType e).Yields s h r s') :
    (∃ e', r = .ok e' ∧ e'.outcome = .ok .proceed) ↔
      ∃ stable ref, Polls isStabilized backoff e s h (.ok stable) ref s' ∧
        (stable = true ∨ (Number.int 1).le backoff.delay = false) := by
  constructor
  · rintro ⟨e', rfl, ho⟩
    rcases stabilize_polls hy with ⟨answer, ref, hp⟩ | hfailed
    · obtain ⟨hresult, -⟩ := hy.unique hp.yields
      rcases (pollResult_proceeds hb hrecover).1 ⟨e', hresult, ho⟩ with rfl | ⟨rfl, hlt⟩
      · exact ⟨true, ref, hp, .inl rfl⟩
      · exact ⟨false, ref, hp, .inr hlt⟩
    · cases (Event.outcome_eq_proceed ho).1.symm.trans (hfailed e' rfl)
  · rintro ⟨stable, ref, hp, hlets⟩
    obtain ⟨rfl, -⟩ := hp.yields.unique hy
    refine (pollResult_proceeds hb hrecover).2 ?_
    cases stable with
    | true => exact .inl rfl
    | false => exact .inr ⟨rfl, hlets.resolve_left Bool.false_ne_true⟩

/-! ### Short delays -/

/-- A resource that is never stable. -/
def neverStable : Value → Handler Bool := fun _ => return false

/-- The event and the record at the begin of an operation. -/
def startEvent : Event := .progress (.map []) .session

def startSession : Session := { model := .map [], context := .initial .integration }

/-- The first poll of a resource that is never stable. -/
theorem polls_neverStable (backoff : Backoff) : ∃ s',
    Polls neverStable backoff startEvent startSession [.clock (.int 0)] (.ok false) .session s' :=
  ⟨_, .intro (yields_setField_session.2 ⟨rfl, .inr ⟨_, rfl, rfl, rfl⟩⟩) rfl
    (yields_pure.2 ⟨rfl, rfl, rfl⟩)⟩

theorem not_continuesWhenStable (hb : backoff.Admitted)
    (hlt : (Number.int 1).le backoff.delay = false) : ¬ ContinuesWhenStable backoff := by
  intro hall
  have hrecover : ∀ e f e', Provider.recoverByDefault e f = .ok e' → e'.outcome ≠ .ok .proceed := by
    intro e f e' he ho
    cases he
    cases (Event.outcome_eq_proceed ho).1
  obtain ⟨s', hp⟩ := polls_neverStable backoff
  have hy : (stabilize neverStable backoff Provider.recoverByDefault "T" startEvent).Yields
      startSession [.clock (.int 0)] _ s' := hp.yields
  obtain ⟨ref, hstable⟩ := (hall hrecover hy).1
    ((pollResult_proceeds hb hrecover).2 (.inr ⟨rfl, hlt⟩))
  cases hstable with
  | intro _ _ hpoll => cases (yields_pure.1 hpoll).2.1

/-- Under an admitted policy the chain goes on for stable resources only exactly if the delay is at
least one second. Under every admitted policy the chain goes on after a poll without a fault, unless
it found the resource not stable yet and the delay is at least one second. -/
theorem continuesWhenStable_iff (hb : backoff.Admitted) :
    (ContinuesWhenStable backoff ↔ (Number.int 1).le backoff.delay = true) ∧
      ∀ (isStabilized : Value → Handler Bool) (recover : Recovery) (resourceType : String)
        (e : Event) (s s' : Session) (h : History) (r : Except Fault Event),
        (∀ e f e', recover e f = .ok e' → e'.outcome ≠ .ok .proceed) →
        (stabilize isStabilized backoff recover resourceType e).Yields s h r s' →
        ((∃ e', r = .ok e' ∧ e'.outcome = .ok .proceed) ↔
          ∃ stable ref, Polls isStabilized backoff e s h (.ok stable) ref s' ∧
            (stable = true ∨ (Number.int 1).le backoff.delay = false)) := by
  refine ⟨⟨fun hall => ?_, fun hone => ?_⟩,
    fun _ _ _ _ _ _ _ _ hrecover hy => stabilize_continues_iff hb hrecover hy⟩
  · rw [← Bool.not_eq_false]
    exact fun hlt => not_continuesWhenStable hb hlt hall
  · intro isStabilized recover resourceType e s s' h r hrecover hy
    rw [stabilize_continues_iff hb hrecover hy]
    constructor
    · rintro ⟨stable, ref, hp, rfl | hlt⟩
      · exact ⟨ref, hp⟩
      · rw [hone] at hlt
        cases hlt
    · rintro ⟨ref, hp⟩
      exact ⟨true, ref, hp, .inl rfl⟩

/-- The policy without any field given polls every thirty seconds. -/
theorem continuesWhenStable_iff_default :
    Backoff.ofFields none none = .ok {} ∧ ContinuesWhenStable {} :=
  ⟨rfl, (continuesWhenStable_iff ⟨none, none, rfl⟩).1.2 (by decide)⟩

/-- Half a second. -/
def halfSecond : Number := .float (.finite (.ofOdd 1 1 rfl))

/-- A policy may ask for half a second, and then the chain goes on although the first poll has found
the resource not stable. -/
theorem not_forall_continuesWhenStable :
    (¬ ∀ backoff : Backoff, backoff.Admitted → ContinuesWhenStable backoff) ∧
      ∃ backoff s' e', Backoff.ofFields (some (.number halfSecond)) none = .ok backoff ∧
        Polls neverStable backoff startEvent startSession [.clock (.int 0)] (.ok false) .session
          s' ∧
        (stabilize neverStable backoff Provider.recoverByDefault "T" startEvent).Yields startSession
          [.clock (.int 0)] (.ok e') s' ∧
        e'.outcome = .ok .proceed := by
  have hb : Backoff.ofFields (some (.number halfSecond)) none = .ok ⟨halfSecond, .int (-1)⟩ := by
    rfl
  have hlt : (Number.int 1).le halfSecond = false := by decide
  obtain ⟨s', hp⟩ := polls_neverStable ⟨halfSecond, .int (-1)⟩
  refine ⟨fun hall => not_continuesWhenStable ⟨_, _, hb⟩ hlt (hall _ ⟨_, _, hb⟩), _, s', _, hb, hp,
    hp.yields, rfl⟩

end

end Provisioning
