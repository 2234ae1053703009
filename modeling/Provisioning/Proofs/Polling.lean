import Mathlib.Data.List.Chain
import Provisioning.Proofs.Footprint
import Provisioning.Proofs.Rounding
import Provisioning.Proofs.Stabilization

/-!
# How often a condition is polled

While a resource is not stable the operation is invoked again, each time after the delay that the
last event asked for (`PollingStep.Polling`). If the context declares the field for it, all these
rounds count from the same first poll (`Recorded`). Then every round is a poll that suspends the
operation for the whole seconds of the delay, until a round finds the time limit to be over: this
one fails without a poll.

For a limit of `T` seconds and a delay of `D` whole seconds there are at most `⌊T / D⌋ + 1` polls
(`polling_bounded`), because the `k`-th round after the first one starts at least `k * D` seconds
after it. What the policy computes must not fall below such a time where it is over the limit. It
does not if the difference of the readings is not rounded, or if they are floating-point numbers and
the limit is below `2 ^ 53` (`Counted`). Otherwise, and in a context without the field, there may be
more polls (`not_boundsPolls`).
-/

set_option autoImplicit false

namespace Provisioning

open Handler

/-! ## Rounds -/

/-- What a step that stabilizes is made of: its condition, its policy, the events for faults and the
type of the resource. -/
structure PollingStep where
  isStabilized : Value → Handler Bool
  backoff : Backoff
  recover : Recovery
  resourceType : String

/-- One invocation of a step that stabilizes: the model, the record and the reading of the clock
that it starts with, what it asks for after that, what it ends in and the record that it leaves. -/
structure Round where
  model : Value
  found : Session
  now : Number
  asked : History
  result : Except Fault Event
  left : Session

namespace Round

/-- The event that a round starts with. -/
def event (r : Round) : Event := .progress r.model .session

def history (r : Round) : History := .clock r.now :: r.asked

/-- A round suspends the operation for some seconds, without an error code. -/
def Suspends (r : Round) (seconds : Int) : Prop :=
  ∃ e, r.result = .ok e ∧ e.outcome = .ok .suspend ∧ e.delay = .int seconds ∧ e.code = none

/-- A round asks nothing more and fails because the time limit of some seconds is over. -/
def TimesOut (r : Round) (resourceType : String) (seconds : Int) : Prop :=
  r.asked = [] ∧ r.result = .ok (.failed r.model .session .notStabilized
    (.text (timeoutMessage resourceType seconds)))

/-- Between two readings of the clock at least a delay has passed. -/
def Waited (delay : Value) (before after : Number) : Prop :=
  ∃ n w t u, delay.number? = some n ∧ n.toRat? = some w ∧ before.toRat? = some t ∧
    after.toRat? = some u ∧ t + w ≤ u

/-- A round is followed by another one: it ends in progress, its delay passes, and its context
travels to the next round. -/
structure Follows (r next : Round) : Prop where
  waited : ∃ e, r.result = .ok e ∧ e.status = .inProgress ∧ Waited e.delay r.now next.now
  travelled : Context.ofValue r.left.context.kind r.left.context.toValue = .ok next.found.context

end Round

open Round

namespace PollingStep

/-- The step runs through a round. -/
def Runs (p : PollingStep) (r : Round) : Prop :=
  (stabilize p.isStabilized p.backoff p.recover p.resourceType r.event).Yields r.found r.history
    r.result r.left

/-- The condition is polled in a round, and answers. -/
def Answers (p : PollingStep) (r : Round) (answer : Except Fault Bool) : Prop :=
  ∃ ref, Polls p.isStabilized p.backoff r.event r.found r.history answer ref r.left

/-- The condition is polled in a round. -/
def Asks (p : PollingStep) (r : Round) : Prop := ∃ answer, p.Answers r answer

/-- Among some rounds the condition is polled in no more than a number. -/
def PollsAtMost (p : PollingStep) (rounds : List Round) (bound : Int) : Prop :=
  ∀ asking : List Round, asking.Sublist rounds → (∀ r ∈ asking, p.Asks r) →
    (asking.length : Int) ≤ bound

/-- Rounds of an operation whose resource does not become stable. -/
structure Polling (p : PollingStep) (rounds : List Round) : Prop where
  runs : ∀ r ∈ rounds, p.Runs r
  follows : rounds.IsChain Follows
  unstable : ∀ r ∈ rounds, ∀ answer, p.Answers r answer → answer = .ok false

end PollingStep

open PollingStep

/-! ## The time of the first poll -/

/-- A context of a kind has the time of the first poll. -/
structure Recorded (kind : ContextKind) (start : Number) (c : Context) : Prop where
  declares : kind.Declares c
  start : c.get? startField = some (.number start)

namespace Recorded

variable {kind : ContextKind} {start : Number} {c c' : Context}

theorem of_extends (h : Recorded kind start c) (he : c.Extends c') : Recorded kind start c' where
  declares := ⟨he.kind.trans h.declares.1, he.keys.trans h.declares.2⟩
  start := he.start _ h.start rfl

/-- The time survives the way to the next round in a field that the kind declares. -/
theorem travelled (h : Recorded kind start c) (hfield : kind.fields.has startField = true)
    (ht : Context.ofValue c.kind c.toValue = .ok c') : Recorded kind start c' := by
  rw [h.declares.1] at ht
  refine ⟨ContextKind.declares_of_ofValue ht, ?_⟩
  rw [h.declares.ofValue_toValue] at ht
  cases ht
  exact (h.declares.get?_travelled hfield).trans h.start

theorem stabilizationStart_eq (h : Recorded kind start c) :
    stabilizationStart (some c) = .number start := by
  rw [stabilizationStart, Option.bind_some, h.start, Option.getD_some]

end Recorded

/-! ## One round -/

section
variable {p : PollingStep} {kind : ContextKind} {start n : Number} {r : Round} {ops : List String}
  {answer : Except Fault Bool} {d T : Rat}

/-- A policy with a limit compares the elapsed time with it. -/
theorem Backoff.isExpired_of_elapsed {b : Backoff} {now : Number}
    (hlimit : b.timeout.lt (.int 0) = false)
    (hn : Backoff.elapsed (.number start) (.number now) = .ok n) :
    b.isExpired (.number start) (.number now) = .ok (b.timeout.lt n) := by
  unfold isExpired
  rw [hlimit, hn]
  rfl

namespace PollingStep

/-- Once the time is kept, a round polls exactly if the limit is not over. -/
theorem Runs.after_keepStart (hr : p.Runs r) {s : Session} {expired : Bool}
    (hkeep : (keepStart (stabilizationStart (some r.found.context)) r.now .session).Yields
      r.found [] (.ok .session) s)
    (hexpired : p.backoff.isExpired (stabilizationStart (some r.found.context)) (.number r.now) =
      .ok expired) :
    if expired then
      r.asked = [] ∧ r.result = timeoutResult p.backoff p.resourceType r.event ∧ ¬ p.Asks r
    else
      ∃ answer, p.Answers r answer ∧ (p.isStabilized r.model).Yields s r.asked answer r.left := by
  obtain ⟨now, asked, heq, hways⟩ := yields_stabilize hr
  cases heq
  rcases hways with ⟨f, hfault, -⟩ | ⟨ref, s₁, hkept, hways⟩
  · cases (hkeep.unique hfault).1
  obtain ⟨href, rfl⟩ := hkeep.unique hkept
  cases href
  rcases hways with ⟨f, hfault, -⟩ | ⟨hover, hasked, -, hresult⟩ | ⟨hunder, answer, hpoll⟩
  · cases hexpired.symm.trans hfault
  · cases hexpired.symm.trans hover
    refine ⟨hasked, hresult, fun ⟨answer, ref, hpolls⟩ => ?_⟩
    generalize hh : r.history = h at hpolls
    cases hpolls with
    | intro _ hunder _ =>
      cases hh
      cases hover.symm.trans hunder
  · cases hexpired.symm.trans hunder
    exact ⟨answer, ⟨.session, .intro hkeep hunder hpoll⟩, hpoll⟩

/-- The first round polls, and leaves a context with the time of this poll. -/
theorem Runs.begins (hr : p.Runs r) (hcondition : ∀ v, (p.isStabilized v).Within ops)
    (hdeclares : kind.Declares r.found.context)
    (hstart : stabilizationStart (some r.found.context) = .null) :
    p.Asks r ∧ Recorded kind r.now r.left.context := by
  have hkeep : (keepStart (stabilizationStart (some r.found.context)) r.now .session).Yields
      r.found [] (.ok .session)
      { r.found with context := r.found.context.put startField (.number r.now) } := by
    rw [hstart]
    exact yields_setField_session.2 ⟨rfl, .inr ⟨_, Context.set_of_not_isUnset rfl, rfl, rfl⟩⟩
  have hexpired : p.backoff.isExpired (stabilizationStart (some r.found.context))
      (.number r.now) = .ok false := by
    rw [hstart]
    rfl
  obtain ⟨answer, hanswer, hpoll⟩ := hr.after_keepStart hkeep hexpired
  refine ⟨⟨answer, hanswer⟩, Recorded.of_extends ⟨⟨?_, ?_⟩, ?_⟩ (hcondition _ hpoll).2⟩
  · exact (Context.kind_put ..).trans hdeclares.1
  · exact (Context.keys_put ..).trans hdeclares.2
  · exact Context.get?_put_self ..

/-- A round keeps the time of the first poll. -/
theorem Runs.recorded (hr : p.Runs r) (hcondition : ∀ v, (p.isStabilized v).Within ops)
    (hc : Recorded kind start r.found.context) : Recorded kind start r.left.context :=
  hc.of_extends (within_stabilize hcondition _ hr).2

theorem timeout_not_neg (hT : p.backoff.timeout.toRat? = some T) (hT0 : 0 ≤ T) :
    p.backoff.timeout.lt (.int 0) = false := by
  rw [Number.lt_eq_decide hT (q := 0) rfl, decide_eq_false (Rat.not_lt.2 hT0)]

/-- A later round polls if the elapsed time is within the limit. Else it fails and asks nothing. -/
theorem Runs.continues (hr : p.Runs r) (hc : Recorded kind start r.found.context)
    (hT : p.backoff.timeout.toRat? = some T) (hT0 : 0 ≤ T)
    (hn : Backoff.elapsed (.number start) (.number r.now) = .ok n) :
    if p.backoff.timeout.lt n then r.TimesOut p.resourceType T.floor ∧ ¬ p.Asks r
    else p.Asks r := by
  have hstart := hc.stabilizationStart_eq
  have hkeep : (keepStart (stabilizationStart (some r.found.context)) r.now .session).Yields
      r.found [] (.ok .session) r.found := by
    rw [hstart]
    exact yields_pure.2 ⟨rfl, rfl, rfl⟩
  have hexpired : p.backoff.isExpired (stabilizationStart (some r.found.context))
      (.number r.now) = .ok (p.backoff.timeout.lt n) := by
    rw [hstart]
    exact Backoff.isExpired_of_elapsed (timeout_not_neg hT hT0) hn
  have hways := hr.after_keepStart hkeep hexpired
  by_cases hover : p.backoff.timeout.lt n = true
  · rw [if_pos hover] at hways ⊢
    obtain ⟨hasked, hresult, hnot⟩ := hways
    rw [timeoutResult, Number.whole_eq_floor hT hT0] at hresult
    exact ⟨⟨hasked, hresult⟩, hnot⟩
  · rw [if_neg hover] at hways ⊢
    obtain ⟨answer, hanswer, -⟩ := hways
    exact ⟨answer, hanswer⟩

/-- A poll of a resource that is not stable yet suspends the operation for the whole seconds of the
delay. -/
theorem Answers.suspends (ha : p.Answers r (.ok false)) (hr : p.Runs r)
    (hd : p.backoff.delay.toRat? = some d) (hd1 : 1 ≤ d) : r.Suspends d.floor := by
  obtain ⟨ref, hpolls⟩ := ha
  obtain ⟨hresult, -⟩ := hr.unique hpolls.yields
  have hpos : 0 < d.floor := Int.lt_of_lt_of_le Int.one_pos (Rat.le_floor_iff.2 hd1)
  rw [pollResult, Number.whole_eq_floor hd (Std.le_trans (by decide) hd1)] at hresult
  refine ⟨_, hresult.symm, Event.outcome_defer ?_, rfl, rfl⟩
  rw [Value.isPositive_int, decide_eq_true hpos]

/-- A round that ends in progress is a poll. -/
theorem Runs.asks_of_inProgress {e : Event} (hr : p.Runs r) (he : r.result = .ok e)
    (hs : e.status = .inProgress) : p.Asks r := by
  rcases stabilize_polls hr with ⟨answer, ref, hpolls⟩ | hfailed
  · exact ⟨answer, ref, hpolls⟩
  · cases hs.symm.trans (hfailed e he)

end PollingStep

end

/-! ## Elapsed times -/

/-- The difference of two readings is computed without rounding. -/
def Exact (before after : Number) : Prop :=
  ∃ t u x, before.toRat? = some t ∧ after.toRat? = some u ∧ after.sub? before = some x ∧
    x.toRat? = some (u - t)

/-- The time between two readings counts well up to a limit: it is not rounded, or the readings are
floating-point numbers and the limit has no more integer bits than these have significant ones. -/
def Counted (T : Rat) (before after : Number) : Prop :=
  Exact before after ∨ T < pow2 Binary64.precision ∧ ∃ x y, before = .float x ∧ after = .float y

section
variable {before after x : Number} {t u T : Rat} {N : Nat}

/-- Integers are never rounded. -/
theorem exact_int (m n : Int) : Exact (.int m) (.int n) :=
  ⟨m, n, .int (n - m), Number.toRat?_int m, Number.toRat?_int n, rfl, by
    rw [Number.toRat?_int, Rat.intCast_sub]⟩

theorem exists_elapsed_of_sub? (hx : after.sub? before = some x) :
    ∃ n, Backoff.elapsed (.number before) (.number after) = .ok n :=
  ⟨_, by simp only [Backoff.elapsed, Value.number?, hx]; rfl⟩

/-- A difference of readings that is not negative is the elapsed time. -/
theorem elapsed_eq_of_sub? (hx : after.sub? before = some x) (hpos : x.lt (.int 0) = false) :
    Backoff.elapsed (.number before) (.number after) = .ok x := by
  simp only [Backoff.elapsed, Value.number?, hx, hpos, Bool.false_eq_true, if_false]

theorem Counted.exists_elapsed (h : Counted T before after) :
    ∃ n, Backoff.elapsed (.number before) (.number after) = .ok n := by
  rcases h with ⟨t, u, x, -, -, hx, -⟩ | ⟨-, x, y, rfl, rfl⟩
  · exact exists_elapsed_of_sub? hx
  · exact exists_elapsed_of_sub? rfl

/-- The difference of two readings that are some seconds over the limit apart is over the limit. -/
theorem Counted.exists_sub? (h : Counted T before after) (hT0 : 0 ≤ T)
    (ht : before.toRat? = some t) (hu : after.toRat? = some u) (hN : T < N) (hle : N ≤ u - t) :
    ∃ x q, after.sub? before = some x ∧ x.AtLeast q ∧ T < q := by
  rcases h with ⟨t', u', x, ht', hu', hx, hvalue⟩ | ⟨hT, a, b, rfl, rfl⟩
  · cases ht.symm.trans ht'
    cases hu.symm.trans hu'
    exact ⟨x, N, hx, .inr ⟨_, hvalue, hle⟩, hN⟩
  · have hpos : 0 < N := Rat.natCast_lt_natCast.1 (Std.lt_of_le_of_lt hT0 hN)
    -- a difference of more bits is not rounded below the least of them
    rcases Nat.le_total N (pow2 Binary64.precision) with hmax | hmax
    · exact ⟨_, N, rfl, Binary64.atLeast_sub hu ht hpos hmax hle, hN⟩
    · have hreached := Std.le_trans (Rat.natCast_le_natCast.2 hmax) hle
      exact ⟨_, pow2 Binary64.precision, rfl,
        Binary64.atLeast_sub hu ht (pow2_pos _) (Nat.le_refl _) hreached, hT⟩

/-- Readings that are some seconds over the limit apart are found to be over it. -/
theorem Counted.exceeds (h : Counted T before after) (hT0 : 0 ≤ T) (ht : before.toRat? = some t)
    (hu : after.toRat? = some u) (hN : T < N) (hle : N ≤ u - t) {limit : Number}
    (hlimit : limit.toRat? = some T) {n : Number}
    (hn : Backoff.elapsed (.number before) (.number after) = .ok n) : limit.lt n = true := by
  obtain ⟨x, q, hx, hq, hTq⟩ := h.exists_sub? hT0 ht hu hN hle
  have hpos : x.lt (.int 0) = false :=
    hq.lt_eq_false (Number.toRat?_int 0) (Std.le_of_lt (Std.lt_of_le_of_lt hT0 hTq))
  rw [elapsed_eq_of_sub? hx hpos] at hn
  cases hn
  exact hq.lt hlimit hTq

end

/-! ## Whole operations -/

/-- What is not the last one of a chain has a successor. -/
theorem exists_rel_of_mem_dropLast {α : Type} {R : α → α → Prop} {l : List α} (hl : l.IsChain R)
    {a : α} (ha : a ∈ l.dropLast) : ∃ b, R a b := by
  induction l with
  | nil => cases ha
  | cons b l ih =>
    cases l with
    | nil => cases ha
    | cons c l =>
      rw [List.isChain_cons_cons] at hl
      rw [List.dropLast_cons_cons] at ha
      rcases List.mem_cons.1 ha with rfl | ha
      · exact ⟨c, hl.1⟩
      · exact ih hl.2 ha

section
variable {p : PollingStep} {kind : ContextKind} {first r next : Round} {rest rounds : List Round}
  {ops : List String} {start : Number} {d t T : Rat} {D : Int} {k : Nat}

/-- All rounds after one that has recorded the time of the first poll have it, too. -/
theorem recorded_of_isChain (hchain : (r :: rest).IsChain Follows) (hruns : ∀ r ∈ rest, p.Runs r)
    (hcondition : ∀ v, (p.isStabilized v).Within ops)
    (hfield : kind.fields.has startField = true) (hc : Recorded kind start r.left.context) :
    ∀ r ∈ rest, Recorded kind start r.found.context ∧ Recorded kind start r.left.context := by
  induction rest generalizing r with
  | nil => exact fun _ h => absurd h List.not_mem_nil
  | cons next rest ih =>
    rw [List.isChain_cons_cons] at hchain
    have hfound := hc.travelled hfield hchain.1.travelled
    have hleft := (hruns next List.mem_cons_self).recorded hcondition hfound
    exact List.forall_mem_cons.2 ⟨⟨hfound, hleft⟩,
      ih hchain.2 (fun r hr => hruns r (List.mem_cons_of_mem _ hr)) hleft⟩

namespace PollingStep

/-- All rounds but the last poll. -/
theorem Polling.asks (hp : p.Polling rounds) : ∀ r ∈ rounds.dropLast, p.Asks r := by
  intro r hr
  obtain ⟨next, hnext⟩ := exists_rel_of_mem_dropLast hp.follows hr
  obtain ⟨e, he, hs, -⟩ := hnext.waited
  exact (hp.runs r (List.dropLast_subset _ hr)).asks_of_inProgress he hs

/-- Every round that polls suspends the operation for the whole seconds of the delay. -/
theorem Polling.suspends (hp : p.Polling rounds) (hd : p.backoff.delay.toRat? = some d)
    (hd1 : 1 ≤ d) : ∀ r ∈ rounds, p.Asks r → r.Suspends d.floor := by
  rintro r hr ⟨answer, hanswer⟩
  obtain rfl := hp.unstable r hr answer hanswer
  exact hanswer.suspends (hp.runs r hr) hd hd1

end PollingStep

/-! ### The number of polls -/

/-- A round starts at least a number of delays after a time. -/
def Round.Late (t : Rat) (D : Int) (k : Nat) (r : Round) : Prop :=
  ∃ u, r.now.toRat? = some u ∧ t + k * D ≤ u

theorem Round.Follows.late (h : r.Follows next) (hr : r.Late t D k) (hs : r.Suspends D) :
    next.Late t D (k + 1) := by
  obtain ⟨e, he, -, n, w, u, v, hn, hw, hu, hv, hle⟩ := h.waited
  obtain ⟨e', he', -, hdelay, -⟩ := hs
  obtain ⟨u', hu', hlate⟩ := hr
  cases he.symm.trans he'
  cases hu.symm.trans hu'
  rw [hdelay] at hn
  cases hn
  rw [Number.toRat?_int] at hw
  cases hw
  refine ⟨v, hv, ?_⟩
  calc t + (k + 1 : Nat) * D
      = t + k * D + D := by grind
    _ ≤ u + D := Rat.add_le_add_right.2 hlate
    _ ≤ v := hle

/-- If every round that polls is within the limit, so is the number of polls: the `k`-th round after
the first one is at least `k` delays late. -/
theorem pollsAtMost_of_isChain {bound : Int} (hchain : (r :: rest).IsChain Follows)
    (hasks : ∀ r' ∈ (r :: rest).dropLast, p.Asks r')
    (hsuspends : ∀ r' ∈ r :: rest, p.Asks r' → r'.Suspends D)
    (hbound : ∀ r' ∈ r :: rest, ∀ k : Nat, r'.Late t D k → p.Asks r' → (k : Int) ≤ bound)
    (hlate : r.Late t D k) (hk : (k : Int) ≤ bound + 1) :
    p.PollsAtMost (r :: rest) (bound + 1 - k) := by
  induction rest generalizing r k with
  | nil =>
    intro asking hsub hall
    cases hsub with
    | cons _ hrest =>
      rw [List.sublist_nil.1 hrest, List.length_nil]
      omega
    | cons_cons _ hrest =>
      have := hbound r List.mem_cons_self k hlate (hall r List.mem_cons_self)
      rw [List.sublist_nil.1 hrest, List.length_singleton]
      omega
  | cons next rest ih =>
    rw [List.isChain_cons_cons] at hchain
    rw [List.dropLast_cons_cons, List.forall_mem_cons] at hasks
    rw [List.forall_mem_cons] at hsuspends hbound
    have hwithin := hbound.1 k hlate hasks.1
    have hnext := ih hchain.2 hasks.2 hsuspends.2 hbound.2
      (hchain.1.late hlate (hsuspends.1 hasks.1)) (by omega)
    intro asking hsub hall
    cases hsub with
    | cons _ hrest =>
      have := hnext _ hrest hall
      omega
    | cons_cons _ hrest =>
      have := hnext _ hrest fun r hr => hall r (List.mem_cons_of_mem _ hr)
      rw [List.length_cons]
      omega

/-- A number of delays is at most as many as fit into the limit. -/
theorem natCast_le_floor_div (hD : 1 ≤ D) : (k : Int) ≤ (T / D).floor ↔ k * D ≤ T := by
  have hpos : (0 : Rat) < (D : Rat) := Rat.intCast_lt_intCast.2 hD
  rw [Rat.le_floor_iff, ← Rat.not_lt, Rat.div_lt_iff hpos, Rat.not_lt, Rat.intCast_natCast]

/-- A later round that polls is at most as many delays late as fit into the limit. -/
theorem PollingStep.Runs.late_le (hr : p.Runs r) (hasks : p.Asks r)
    (hc : Recorded kind first.now r.found.context)
    (hcounted : Counted T first.now r.now) (hT : p.backoff.timeout.toRat? = some T) (hT0 : 0 ≤ T)
    (hD : 1 ≤ D) (ht : first.now.toRat? = some t) (hlate : r.Late t D k) :
    (k : Int) ≤ (T / D).floor := by
  obtain ⟨u, hu, hle⟩ := hlate
  obtain ⟨n, hn⟩ := hcounted.exists_elapsed
  refine (natCast_le_floor_div hD).2 (Rat.not_lt.1 fun hover => ?_)
  obtain ⟨N, rfl⟩ := Int.eq_ofNat_of_zero_le (Int.le_trans Int.one_nonneg hD)
  rw [Rat.intCast_natCast] at hle hover
  have hexceeds : p.backoff.timeout.lt n = true :=
    hcounted.exceeds (N := k * N) hT0 ht hu (by grind) (by grind) hT hn
  have hfails := hr.continues hc hT hT0 hn
  rw [if_pos hexceeds] at hfails
  exact hfails.2 hasks

/-- The rounds of an operation poll at most once more than whole delays fit into the limit. -/
theorem PollingStep.Polling.pollsAtMost (hp : p.Polling (first :: rest))
    (hrecorded : ∀ r ∈ rest, Recorded kind first.now r.found.context)
    (hcounted : ∀ r ∈ rest, Counted T first.now r.now)
    (hd : p.backoff.delay.toRat? = some d) (hd1 : 1 ≤ d) (hT : p.backoff.timeout.toRat? = some T)
    (hT0 : 0 ≤ T) : p.PollsAtMost (first :: rest) ((T / d.floor).floor + 1) := by
  have hD : 1 ≤ d.floor := Rat.le_floor_iff.2 hd1
  have hnonneg : ((0 : Nat) : Int) ≤ (T / d.floor).floor :=
    (natCast_le_floor_div hD).2 (by grind)
  cases rest with
  | nil =>
    intro asking hsub _
    have := hsub.length_le
    rw [List.length_singleton] at this
    omega
  | cons next rest =>
    obtain ⟨e, -, -, n, w, t, u, -, -, ht, -⟩ := (List.isChain_cons_cons.1 hp.follows).1.waited
    have hbound : ∀ r ∈ first :: next :: rest, ∀ k : Nat, r.Late t d.floor k → p.Asks r →
        (k : Int) ≤ (T / d.floor).floor := by
      refine List.forall_mem_cons.2 ⟨fun k ⟨u, hu, hle⟩ _ => ?_, fun r hr k hlate hasks => ?_⟩
      · cases ht.symm.trans hu
        exact (natCast_le_floor_div hD).2 (by grind)
      · exact (hp.runs r (List.mem_cons_of_mem _ hr)).late_le hasks (hrecorded r hr) (hcounted r hr)
          hT hT0 hD ht hlate
    have hlate : first.Late t d.floor 0 := ⟨t, ht, by grind⟩
    have hmost := pollsAtMost_of_isChain hp.follows hp.asks (hp.suspends hd hd1) hbound hlate
      (by omega)
    rwa [Int.natCast_zero, Int.sub_zero] at hmost

end

/-! ## Resources that are never stable -/

/-- A step for a resource that is never stable. -/
def neverStableStep (backoff : Backoff) : PollingStep where
  isStabilized := neverStable
  backoff
  recover := Provider.recoverByDefault
  resourceType := "T"

theorem within_neverStable (v : Value) : (neverStable v).Within [] := .pure _

theorem declares_startSession : ContextKind.integration.Declares startSession.context := ⟨rfl, rfl⟩

/-- The round of the step at a reading of the clock. -/
def neverStableRound (backoff : Backoff) (found : Session) (reading : Number) : Round :=
  let program := (stabilize neverStable backoff Provider.recoverByDefault "T" startEvent).start
    found
  let asked := program.history Program.replay [.clock reading]
  let (result, left) := (program.run Program.replay [.clock reading]).1
  ⟨.map [], found, reading, asked.tail, result, left⟩

/-- The rounds of the step at some readings of the clock. -/
def neverStableRounds (backoff : Backoff) : Session → List Number → List Round
  | _, [] => []
  | found, reading :: readings =>
    let r := neverStableRound backoff found reading
    r :: neverStableRounds backoff { r.left with context := r.left.context.travelled } readings

theorem runs_neverStableRound (backoff : Backoff) (found : Session) (reading : Number) :
    (neverStableStep backoff).Runs (neverStableRound backoff found reading) :=
  Program.runs_history Program.replay
    ((stabilize neverStable backoff Provider.recoverByDefault "T" startEvent).start found)
    [.clock reading]

theorem runs_neverStableRounds (backoff : Backoff) (found : Session) (readings : List Number) :
    ∀ r ∈ neverStableRounds backoff found readings, (neverStableStep backoff).Runs r := by
  induction readings generalizing found with
  | nil => exact fun _ h => by cases h
  | cons reading readings ih =>
    exact List.forall_mem_cons.2 ⟨runs_neverStableRound backoff found reading, ih _⟩

theorem polling_neverStableRounds {backoff : Backoff} {found : Session} {readings : List Number}
    (hfollows : (neverStableRounds backoff found readings).IsChain Follows) :
    (neverStableStep backoff).Polling (neverStableRounds backoff found readings) where
  runs := runs_neverStableRounds backoff found readings
  follows := hfollows
  unstable := by
    rintro r - answer ⟨ref, hpolls⟩
    generalize r.history = h at hpolls
    cases hpolls with
    | intro _ _ hpoll => exact (yields_pure.1 hpoll).2.1

/-- A round with an event that asks for a delay is followed by one after it. -/
theorem Round.Follows.of_defer {r next : Round} {model : Value} {context : ContextRef} {n : Int}
    {t u : Rat} (hr : r.result = .ok (.defer model context (.int n)))
    (ht : r.now.toRat? = some t) (hu : next.now.toRat? = some u) (hle : t + n ≤ u)
    (htravelled : Context.ofValue r.left.context.kind r.left.context.toValue =
      .ok next.found.context) : Follows r next :=
  ⟨⟨_, hr, rfl, _, n, t, u, rfl, Number.toRat?_int n, ht, hu, hle⟩, htravelled⟩

/-- A number of seconds as a floating-point number. -/
def floatSeconds (n : Int) : Number := .float (.finite (Dyadic.ofInt n))

/-- A policy that polls every thirty seconds, up to thirty seconds. -/
def halfMinute : Backoff := ⟨floatSeconds 30, floatSeconds 30⟩

/-! ## The bound -/

/-- Polling is bounded by the policy, for a delay of at least one second and a limit. All rounds but
the last poll, the first one does in any case, and every poll suspends the operation for the whole
seconds of the delay. No round changes the time of the first poll. A later round polls if the
elapsed time is within the limit, and else it fails and asks nothing. If the clock counts well up to
the limit there is an elapsed time in every round, and at most one poll more than whole delays fit
into the limit. -/
theorem polling_bounded {p : PollingStep} {kind : ContextKind} {first : Round} {rest : List Round}
    {ops : List String} {d T : Rat} (hcondition : ∀ v, (p.isStabilized v).Within ops)
    (hp : p.Polling (first :: rest)) (hdeclares : kind.Declares first.found.context)
    (hfield : kind.fields.has startField = true)
    (hstart : stabilizationStart (some first.found.context) = .null)
    (hd : p.backoff.delay.toRat? = some d) (hd1 : 1 ≤ d)
    (hT : p.backoff.timeout.toRat? = some T) (hT0 : 0 ≤ T) :
    p.Asks first ∧ (∀ r ∈ (first :: rest).dropLast, p.Asks r) ∧
      (∀ r ∈ first :: rest, p.Asks r → r.Suspends d.floor) ∧
      (∀ r ∈ first :: rest, r.left.context.get? startField = some (.number first.now)) ∧
      (∀ r ∈ rest, ∀ n, Backoff.elapsed (.number first.now) (.number r.now) = .ok n →
        if p.backoff.timeout.lt n then r.TimesOut p.resourceType T.floor ∧ ¬ p.Asks r
        else p.Asks r) ∧
      ((∀ r ∈ rest, Counted T first.now r.now) →
        (∀ r ∈ rest, ∃ n, Backoff.elapsed (.number first.now) (.number r.now) = .ok n) ∧
          p.PollsAtMost (first :: rest) ((T / d.floor).floor + 1)) := by
  have hruns := List.forall_mem_cons.1 hp.runs
  obtain ⟨hasks, hleft⟩ := hruns.1.begins hcondition hdeclares hstart
  have hrecorded := recorded_of_isChain hp.follows hruns.2 hcondition hfield hleft
  refine ⟨hasks, hp.asks, hp.suspends hd hd1, ?_, ?_, fun hcounted => ⟨?_, ?_⟩⟩
  · exact List.forall_mem_cons.2 ⟨hleft.start, fun r hr => (hrecorded r hr).2.start⟩
  · exact fun r hr n hn => (hruns.2 r hr).continues (hrecorded r hr).1 hT hT0 hn
  · exact fun r hr => (hcounted r hr).exists_elapsed
  · exact hp.pollsAtMost (fun r hr => (hrecorded r hr).1) hcounted hd hd1 hT hT0

/-- A resource is polled at the start and after thirty seconds, and after sixty-one seconds the
operation fails. -/
theorem polling_bounded_halfMinute :
    Backoff.ofFields (some (.int 30)) (some (.int 30)) = .ok halfMinute ∧
      (neverStableStep halfMinute).PollsAtMost
        (neverStableRounds halfMinute startSession [.int 0, .int 30, .int 61]) 2 ∧
      ∃ r ∈ neverStableRounds halfMinute startSession [.int 0, .int 30, .int 61],
        r.TimesOut "T" 30 ∧ ¬ (neverStableStep halfMinute).Asks r := by
  have hp : (neverStableStep halfMinute).Polling
      (neverStableRounds halfMinute startSession [.int 0, .int 30, .int 61]) :=
    polling_neverStableRounds
      (.cons_cons (.of_defer rfl rfl rfl (by decide +kernel) rfl)
        (.cons_cons (.of_defer rfl rfl rfl (by decide +kernel) rfl) (.singleton _)))
  obtain ⟨-, -, -, -, hcontinues, hbounded⟩ :=
    polling_bounded (d := 30) (T := 30) within_neverStable hp declares_startSession rfl rfl rfl
      (by decide) rfl (by decide)
  obtain ⟨-, hmost⟩ := hbounded (List.forall_mem_cons.2 ⟨.inl (exact_int 0 30),
    List.forall_mem_cons.2 ⟨.inl (exact_int 0 61), fun _ h => absurd h List.not_mem_nil⟩⟩)
  rw [show ((30 : Rat) / ((30 : Rat).floor : Int)).floor + 1 = 2 by decide +kernel] at hmost
  exact ⟨rfl, hmost, _, List.mem_cons_of_mem _ (List.mem_cons_of_mem _ List.mem_cons_self),
    hcontinues _ (List.mem_cons_of_mem _ List.mem_cons_self) (.int 61) rfl⟩

/-! ## More polls -/

/-- A round ends in progress. -/
def Round.isInProgress (r : Round) : Bool :=
  match r.result with
  | .ok e => e.isInProgress
  | .error _ => false

/-- Rounds that all end in progress all poll. -/
theorem PollingStep.Polling.not_pollsAtMost {p : PollingStep} {rounds : List Round} {bound : Int}
    (hp : p.Polling rounds) (hall : ∀ r ∈ rounds, r.isInProgress = true)
    (hlt : bound < rounds.length) : ¬ p.PollsAtMost rounds bound := by
  refine fun hmost => Int.not_le.2 hlt (hmost rounds (List.Sublist.refl _) fun r hr => ?_)
  have hprogress := hall r hr
  unfold Round.isInProgress at hprogress
  split at hprogress
  · rename_i e he
    exact (hp.runs r hr).asks_of_inProgress he (of_decide_eq_true hprogress)
  · cases hprogress

/-- Under every policy with a delay of at least one second and a limit, rounds whose first one and
whose limit are of some kind poll at most once more than whole delays fit into the limit. -/
def BoundsPolls (admits : Round → Rat → Prop) : Prop :=
  ∀ ⦃p : PollingStep⦄ ⦃ops : List String⦄ ⦃first : Round⦄ ⦃rest : List Round⦄ ⦃d T : Rat⦄,
    p.backoff.Admitted → (∀ v, (p.isStabilized v).Within ops) → p.Polling (first :: rest) →
    stabilizationStart (some first.found.context) = .null →
    p.backoff.delay.toRat? = some d → 1 ≤ d → p.backoff.timeout.toRat? = some T → 0 ≤ T →
    admits first T → p.PollsAtMost (first :: rest) ((T / d.floor).floor + 1)

theorem not_boundsPolls_of {admits : Round → Rat → Prop} {b : Backoff} {d T : Rat}
    (found : Session) (reading : Number) (readings : List Number) (hb : b.Admitted)
    (hstart : stabilizationStart (some found.context) = .null)
    (hfollows : (neverStableRounds b found (reading :: readings)).IsChain Follows)
    (hd : b.delay.toRat? = some d) (hd1 : 1 ≤ d) (hT : b.timeout.toRat? = some T) (hT0 : 0 ≤ T)
    (hall : ∀ r ∈ neverStableRounds b found (reading :: readings), r.isInProgress = true)
    (hadmits : admits (neverStableRound b found reading) T)
    (hlt : (T / d.floor).floor + 1 <
      ((neverStableRounds b found (reading :: readings)).length : Int)) :
    ¬ BoundsPolls admits := by
  intro hbounds
  have hp := polling_neverStableRounds hfollows
  exact hp.not_pollsAtMost hall hlt
    (hbounds hb within_neverStable hp hstart hd hd1 hT hT0 hadmits)

/-- There may be more polls in a context that does not declare the field for the time of the first
poll. With the field there may be more of them if the limit takes more than 53 bits, and below that
if the clock changes from integers to floating-point numbers. -/
theorem not_boundsPolls :
    ¬ BoundsPolls (fun _ _ => True) ∧
      ¬ BoundsPolls (fun first _ => ContextKind.integration.Declares first.found.context) ∧
      ¬ BoundsPolls (fun first T =>
        ContextKind.integration.Declares first.found.context ∧ T < pow2 Binary64.precision) := by
  refine ⟨?_, ?_, ?_⟩
  -- every round takes its own poll for the first one
  · exact not_boundsPolls_of (b := halfMinute) (d := 30) (T := 30)
      ⟨.map [], .initial .plain⟩ (.int 0) [.int 30, .int 60]
      ⟨some (.int 30), some (.int 30), rfl⟩ rfl
      (.cons_cons (.of_defer rfl rfl rfl (by decide +kernel) rfl)
        (.cons_cons (.of_defer rfl rfl rfl (by decide +kernel) rfl) (.singleton _)))
      rfl (by decide) rfl (by decide) (by decide) trivial (by decide +kernel)
  -- the last difference is `2 ^ 53 + 1`, and is rounded to the limit
  · exact not_boundsPolls_of (b := ⟨floatSeconds 3002399751580331, floatSeconds 9007199254740992⟩)
      (d := 3002399751580331) (T := 9007199254740992) startSession (floatSeconds 1)
      [floatSeconds 3002399751580332, floatSeconds 6004799503160663, floatSeconds 9007199254740994]
      ⟨some (.number (floatSeconds 3002399751580331)),
        some (.number (floatSeconds 9007199254740992)), rfl⟩
      rfl
      (.cons_cons (.of_defer rfl rfl rfl (by decide +kernel) rfl)
        (.cons_cons (.of_defer rfl rfl rfl (by decide +kernel) rfl)
          (.cons_cons (.of_defer rfl rfl rfl (by decide +kernel) rfl) (.singleton _))))
      rfl (by decide) rfl (by decide) (by decide +kernel) declares_startSession (by decide +kernel)
  -- the start `2 ^ 53 + 3` is rounded up to the second reading
  · exact not_boundsPolls_of (b := ⟨floatSeconds 1, floatSeconds 0⟩) (d := 1) (T := 0)
      startSession (.int 9007199254740995) [floatSeconds 9007199254740996]
      ⟨some (.int 1), some (.int 0), rfl⟩ rfl
      (.cons_cons (.of_defer rfl rfl rfl (by decide +kernel) rfl) (.singleton _))
      rfl (by decide) rfl (by decide) (by decide +kernel)
      ⟨declares_startSession, by decide +kernel⟩ (by decide +kernel)

end Provisioning
