import Provisioning.Proofs.Chain

/-!
# What a chain starts

A chain is made of links, which are steps of which some are guarded by a flag. A trace follows a
chain from link to link and notes every start of a step (`Trace`): a guarded step is started only if
its flag is not set, and its flag is set once it has ended in an event that completes it.

The traces of a chain are what the chain can do (`chain_yields_iff`), whatever its steps do: they
may write to the record of the invocation, bring along contexts of their own, or return events
without a context. What the chain does, together with the steps that it starts, is a run of its
links (`Link.Run`).
-/

set_option autoImplicit false

namespace Provisioning

open Handler

/-! ## Links -/

/-- A step of a chain, with the flag that guards it if there is one. -/
structure Link where
  flag : Option String
  step : Step

namespace Link

/-- The step that a chain runs for a link. -/
def toStep (l : Link) : Step :=
  match l.flag with
  | some flag => executeOnce flag l.step
  | none => l.step

/-- The flags of the guarded steps, in their order. -/
def flags (links : List Link) : List String := links.filterMap (·.flag)

theorem mem_flags {links : List Link} {flag : String} :
    flag ∈ flags links ↔ ∃ l ∈ links, l.flag = some flag := List.mem_filterMap

theorem flags_append (links links' : List Link) :
    flags (links ++ links') = flags links ++ flags links' := List.filterMap_append

theorem flags_cons_some {l : Link} {flag : String} (hl : l.flag = some flag) (links : List Link) :
    flags (l :: links) = flag :: flags links := List.filterMap_cons_some hl

end Link

/-! ## Points -/

/-- Where a chain is: its last event, the record of the invocation, and the context of its own that
an event has brought along, if the last event with a context had one of its own. -/
structure Point where
  event : Event
  session : Session
  own : Option Context := none

namespace Point

variable {p : Point} {e : Event} {s s' : Session} {flag : String}

/-- The context that is known: that of the last event with a context. -/
def context (p : Point) : Context := p.own.getD p.session.context

/-- What is known agrees with the last event, if that has a context. -/
def Sound (p : Point) : Prop :=
  match p.event.context with
  | .none => True
  | .session => p.own = none
  | .own c => p.own = some c

/-- The point after a step has returned an event. -/
def next (p : Point) (e : Event) (s : Session) : Point where
  event := e
  session := s
  own :=
    match e.context with
    | .none => p.own
    | .session => none
    | .own c => some c

/-- The point with a flag set in the known context. -/
def mark (p : Point) (flag : String) : Point :=
  let c := p.context.put flag (.bool true)
  match p.own with
  | none => { p with session := { p.session with context := c } }
  | some _ =>
    { p with
      own := some c
      event :=
        match p.event.context with
        | .none => p.event
        | _ => { p.event with context := .own c } }

/-- The point after the step of a link has returned an event. -/
def after (p : Point) (l : Link) (e : Event) (s : Session) : Point :=
  match l.flag with
  | some flag => if e.completes then (p.next e s).mark flag else p.next e s
  | none => p.next e s

/-- What a guarded step reads of its flag. -/
def reads (p : Point) (flag : String) : Except Fault Value :=
  match p.event.context with
  | .none => .error (noContext flag)
  | _ => p.context.get flag

/-- The chain goes on to a link and starts its step. -/
def Starts (p : Point) (l : Link) : Prop :=
  p.event.outcome = .ok .proceed ∧
    ∀ flag, l.flag = some flag → ∃ v, p.reads flag = .ok v ∧ v.truthy = false

/-- The chain goes on to a link and skips its step. -/
def Skips (p : Point) (l : Link) : Prop :=
  p.event.outcome = .ok .proceed ∧
    ∃ flag v, l.flag = some flag ∧ p.reads flag = .ok v ∧ v.truthy = true

/-! ### The known context -/

theorem sound_next (p : Point) (e : Event) (s : Session) : (p.next e s).Sound := by
  unfold Sound next
  cases e.context <;> trivial

theorem context_mark (p : Point) (flag : String) :
    (p.mark flag).context = p.context.put flag (.bool true) := by
  unfold mark
  cases hown : p.own with
  | none => simp [context, hown]
  | some c => simp [context]

theorem Sound.mark (hp : p.Sound) (flag : String) : (p.mark flag).Sound := by
  unfold Sound at hp
  unfold Point.mark
  cases hown : p.own with
  | none =>
    rw [hown] at hp
    unfold Sound
    simpa only [hown] using hp
  | some c =>
    rw [hown] at hp
    unfold Sound
    cases hcontext : p.event.context with
    | none => simp only [hcontext]
    | session => simp [hcontext] at hp
    | own c' => rfl

theorem Sound.after (p : Point) (l : Link) (e : Event) (s : Session) : (p.after l e s).Sound := by
  unfold Point.after
  split
  · split
    · exact (sound_next p e s).mark _
    · exact sound_next p e s
  · exact sound_next p e s

/-- Setting a flag changes nothing about an event but its context. -/
theorem outcome_mark (p : Point) (flag : String) :
    (p.mark flag).event.outcome = p.event.outcome := by
  unfold mark
  cases p.own with
  | none => rfl
  | some c => dsimp only; split <;> rfl

theorem outcome_after (p : Point) (l : Link) (e : Event) (s : Session) :
    (p.after l e s).event.outcome = e.outcome := by
  unfold after
  split
  · split
    · exact outcome_mark _ _
    · rfl
  · rfl

/-! ### Reading and setting flags -/

theorem context_of_reads {v : Value} (h : p.reads flag = .ok v) : p.event.context ≠ .none := by
  intro hnone
  rw [reads, hnone] at h
  cases h

theorem get_of_reads {v : Value} (h : p.reads flag = .ok v) : p.context.get flag = .ok v := by
  unfold reads at h
  split at h
  · cases h
  · exact h

theorem Starts.not_marked {l : Link} (h : p.Starts l) (hl : l.flag = some flag) :
    ¬ p.context.Marked flag := by
  obtain ⟨v, hv, hfalse⟩ := h.2 flag hl
  rw [Context.marked_iff]
  rintro ⟨w, hw, htrue⟩
  rw [get_of_reads hv] at hw
  cases hw
  rw [hfalse] at htrue
  cases htrue

theorem Skips.marked {l : Link} (h : p.Skips l) :
    ∃ flag, l.flag = some flag ∧ p.context.Marked flag := by
  obtain ⟨-, flag, v, hl, hv, htrue⟩ := h
  exact ⟨flag, hl, Context.marked_iff.2 ⟨v, get_of_reads hv, htrue⟩⟩

/-- A guarded step reads its flag in the known context. -/
theorem yields_field (hp : p.Sound) {h : History} {r : Except Fault Value} :
    (field p.event.context flag).Yields p.session h r s' ↔
      h = [] ∧ r = p.reads flag ∧ s' = p.session := by
  unfold Sound at hp
  unfold reads context
  cases hcontext : p.event.context with
  | none =>
    unfold field contextOf
    rw [yields_pure_bind, yields_throw]
  | session =>
    rw [hcontext] at hp
    have hown : p.own = none := hp
    simp only [hown, yields_field_session, Option.getD_none]
  | own c =>
    rw [hcontext] at hp
    have hown : p.own = some c := hp
    unfold field contextOf
    simp only [hown, yields_pure_bind, yields_lift, Option.getD_some]

/-- A flag is set in a context of its own without a change of the record. -/
theorem yields_setField_own {c : Context} {h : History} {r : Except Fault ContextRef} :
    (setField (.own c) flag (.bool true)).Yields s h r s' ↔
      h = [] ∧ r = .ok (.own (c.put flag (.bool true))) ∧ s' = s := by
  unfold setField
  dsimp only
  rw [Context.set_of_not_isUnset rfl, yields_lift_bind]
  simp

/-- A flag is set in the context of the invocation by a change of the record. -/
theorem yields_setField_true {h : History} {r : Except Fault ContextRef} :
    (setField .session flag (.bool true)).Yields s h r s' ↔
      h = [] ∧ r = .ok .session ∧
        s' = { s with context := s.context.put flag (.bool true) } := by
  rw [yields_setField_session, Context.set_of_not_isUnset rfl]
  simp

/-- A guarded step that has completed sets its flag in the known context. -/
theorem yields_markDone (hp : p.Sound) (hcontext : p.event.context ≠ .none) {h : History}
    {r : Except Fault Event} :
    (markDone flag p.event e).Yields s h r s' ↔
      h = [] ∧ r = .ok ((p.next e s).mark flag).event ∧
        s' = ((p.next e s).mark flag).session := by
  unfold Sound at hp
  unfold markDone mark next context
  cases he : e.context with
  | none =>
    cases hbefore : p.event.context with
    | none => exact absurd hbefore hcontext
    | session =>
      rw [hbefore] at hp
      have hown : p.own = none := hp
      dsimp only
      rw [yields_bind_of_silent fun _ _ _ => yields_setField_true, yields_pure]
      simp only [hown, Option.getD_none]
    | own c =>
      rw [hbefore] at hp
      have hown : p.own = some c := hp
      dsimp only
      rw [yields_bind_of_silent fun _ _ _ => yields_setField_own, yields_pure]
      simp only [hown]
  | session =>
    have hsame : { e with context := .session } = e := by rw [← he]
    dsimp only
    rw [yields_bind_of_silent fun _ _ _ => yields_setField_true, yields_pure, hsame]
    simp only [Option.getD_none]
  | own c =>
    dsimp only
    rw [yields_bind_of_silent fun _ _ _ => yields_setField_own, yields_pure]
    simp only [Option.getD_some]

end Point

/-! ## Traces -/

/-- A start of the step of a link: the links that the chain had passed before, where the chain was,
what the step did, and where the chain is then. -/
structure Start where
  passed : List Link
  link : Link
  found : Point
  history : History
  result : Except Fault Event
  left : Point

/-- A chain that has passed some links goes on with others from a point, through a history and some
starts to a result, and is at a point then. -/
inductive Trace : List Link → Point → List Link → History → List Start → Except Fault Event →
    Point → Prop
  | ended {passed links : List Link} {p : Point} :
      (links = [] ∨ ∃ o, p.event.outcome = .ok o ∧ o ≠ .proceed) →
      Trace passed p links [] [] (.ok p.event) p
  | stuck {passed links : List Link} {p : Point} {l : Link} {f : Fault} :
      p.event.outcome = .error f → Trace passed p (l :: links) [] [] (.error f) p
  | unreadable {passed links : List Link} {p : Point} {l : Link} {flag : String} {f : Fault} :
      p.event.outcome = .ok .proceed → l.flag = some flag → p.reads flag = .error f →
      Trace passed p (l :: links) [] [] (.error f) p
  | skipped {passed links : List Link} {p p' : Point} {l : Link} {h : History}
      {starts : List Start} {r : Except Fault Event} :
      p.Skips l → Trace (passed ++ [l]) p links h starts r p' →
      Trace passed p (l :: links) h starts r p'
  | faulted {passed links : List Link} {p : Point} {l : Link} {h : History} {f : Fault}
      {s : Session} : p.Starts l → (l.step p.event).Yields p.session h (.error f) s →
      Trace passed p (l :: links) h
        [⟨passed, l, p, h, .error f, { p with session := s }⟩] (.error f) { p with session := s }
  | returned {passed links : List Link} {p p' : Point} {l : Link} {h₁ h₂ : History} {e : Event}
      {s : Session} {starts : List Start} {r : Except Fault Event} :
      p.Starts l → (l.step p.event).Yields p.session h₁ (.ok e) s →
      Trace (passed ++ [l]) (p.after l e s) links h₂ starts r p' →
      Trace passed p (l :: links) (h₁ ++ h₂) (⟨passed, l, p, h₁, .ok e, p.after l e s⟩ :: starts)
        r p'

/-! ### One link -/

section
variable {p : Point} {l : Link} {h : History} {r : Except Fault Event} {s' : Session}

/-- What an unguarded step and a guarded one that is started come to. -/
def Point.Leaves (p : Point) (l : Link) (h : History) (r : Except Fault Event) (s' : Session) :
    Prop :=
  (∃ f, (l.step p.event).Yields p.session h (.error f) s' ∧ r = .error f) ∨
    ∃ e s, (l.step p.event).Yields p.session h (.ok e) s ∧ r = .ok (p.after l e s).event ∧
      s' = (p.after l e s).session

theorem Point.leaves_of_unguarded (hl : l.flag = none) :
    (l.step p.event).Yields p.session h r s' ↔ p.Leaves l h r s' := by
  unfold Leaves after
  rw [hl]
  dsimp only
  constructor
  · intro hy
    cases r with
    | error f => exact .inl ⟨f, hy, rfl⟩
    | ok e => exact .inr ⟨e, s', hy, rfl, rfl⟩
  · rintro (⟨f, hy, rfl⟩ | ⟨e, s, hy, rfl, rfl⟩)
    · exact hy
    · exact hy

theorem Point.leaves_of_guarded (hp : p.Sound) (hcontext : p.event.context ≠ .none)
    {flag : String} (hl : l.flag = some flag) :
    (do
      let result ← l.step p.event
      if result.completes then markDone flag p.event result else return result :
        Handler Event).Yields p.session h r s' ↔ p.Leaves l h r s' := by
  unfold Leaves after
  rw [hl, yields_bind]
  dsimp only
  constructor
  · rintro (⟨f, hy, rfl⟩ | ⟨h₁, e, s, h₂, hy, hmark, rfl⟩)
    · exact .inl ⟨f, hy, rfl⟩
    · refine .inr ⟨e, s, ?_⟩
      split at hmark <;> rename_i hc
      · obtain ⟨rfl, rfl, rfl⟩ := (Point.yields_markDone hp hcontext).1 hmark
        rw [if_pos hc, List.append_nil]
        exact ⟨hy, rfl, rfl⟩
      · obtain ⟨rfl, rfl, rfl⟩ := yields_pure.1 hmark
        rw [if_neg hc, List.append_nil]
        exact ⟨hy, rfl, rfl⟩
  · rintro (⟨f, hy, rfl⟩ | ⟨e, s, hy, rfl, rfl⟩)
    · exact .inl ⟨f, hy, rfl⟩
    · refine .inr ⟨h, e, s, [], hy, ?_, (List.append_nil h).symm⟩
      split <;> rename_i hc
      · exact (Point.yields_markDone hp hcontext).2 ⟨rfl, rfl, rfl⟩
      · exact yields_pure.2 ⟨rfl, rfl, rfl⟩

/-- What the step that a chain runs for a link can do. -/
theorem Link.toStep_yields_iff (hp : p.Sound) (hproceed : p.event.outcome = .ok .proceed) :
    (l.toStep p.event).Yields p.session h r s' ↔
      (∃ flag f, l.flag = some flag ∧ p.reads flag = .error f ∧ h = [] ∧ r = .error f ∧
        s' = p.session) ∨
      (p.Skips l ∧ h = [] ∧ r = .ok p.event ∧ s' = p.session) ∨
      (p.Starts l ∧ p.Leaves l h r s') := by
  unfold toStep Point.Skips Point.Starts
  cases hl : l.flag with
  | none => simp [hproceed, Point.leaves_of_unguarded hl]
  | some flag =>
    unfold executeOnce
    cases hreads : p.reads flag with
    | error f =>
      rw [yields_bind]
      simp only [Point.yields_field hp, hreads, hproceed, reduceCtorEq]
      grind
    | ok v =>
      have hcontext := Point.context_of_reads hreads
      have hread : ∀ h₁ r₁ s₂, (field p.event.context flag).Yields p.session h₁ r₁ s₂ ↔
          h₁ = [] ∧ r₁ = .ok v ∧ s₂ = p.session := fun _ _ _ => by
        rw [Point.yields_field hp, hreads]
      rw [yields_bind_of_silent hread]
      cases htruthy : v.truthy with
      | true => simp [hproceed, hreads, htruthy]
      | false => simp [hproceed, hreads, htruthy, Point.leaves_of_guarded hp hcontext hl]

end

/-! ### Whole chains -/

/-- A chain that has no step left, or an event that does not let one run, does nothing more. -/
theorem chain_ended {e : Event} {steps : List Step} (s : Session)
    (hend : steps = [] ∨ ∃ o, e.outcome = .ok o ∧ o ≠ .proceed) :
    (chain e steps).Yields s [] (.ok e) s := by
  cases steps with
  | nil => exact yields_pure.2 ⟨rfl, rfl, rfl⟩
  | cons step steps =>
    obtain ⟨o, ho, hne⟩ := hend.resolve_left (List.cons_ne_nil _ _)
    refine yields_lift_bind.2 (.inr ⟨o, ho, ?_⟩)
    cases o with
    | proceed => exact absurd rfl hne
    | suspend => exact yields_pure.2 ⟨rfl, rfl, rfl⟩
    | terminal => exact yields_pure.2 ⟨rfl, rfl, rfl⟩

/-- A chain that goes on runs its next step, and goes on with the event of it. -/
theorem chain_cons_iff {e : Event} {step : Step} {steps : List Step} {s s' : Session} {h : History}
    {r : Except Fault Event} (ho : e.outcome = .ok .proceed) :
    (chain e (step :: steps)).Yields s h r s' ↔
      (∃ f, (step e).Yields s h (.error f) s' ∧ r = .error f) ∨
      ∃ h₁ e' s₁ h₂, (step e).Yields s h₁ (.ok e') s₁ ∧ (chain e' steps).Yields s₁ h₂ r s' ∧
        h = h₁ ++ h₂ := by
  refine ⟨chain_of_proceed ho, fun hy => ?_⟩
  exact yields_lift_bind.2 (.inr ⟨.proceed, ho, yields_bind.2 hy⟩)

/-- A trace is what the chain does. -/
theorem Trace.yields {links passed : List Link} {p p' : Point} {h : History} {starts : List Start}
    {r : Except Fault Event} (ht : Trace passed p links h starts r p') (hp : p.Sound) :
    (chain p.event (links.map Link.toStep)).Yields p.session h r p'.session := by
  induction ht with
  | ended hend =>
    exact chain_ended _ (hend.imp_left fun h => by rw [h]; rfl)
  | stuck hf => exact yields_lift_bind.2 (.inl ⟨_, hf, rfl, rfl, rfl⟩)
  | unreadable ho hl hf =>
    exact (chain_cons_iff ho).2 (.inl
      ⟨_, (Link.toStep_yields_iff hp ho).2 (.inl ⟨_, _, hl, hf, rfl, rfl, rfl⟩), rfl⟩)
  | skipped hskip _ ih =>
    have hstep := (Link.toStep_yields_iff hp hskip.1).2 (.inr (.inl ⟨hskip, rfl, rfl, rfl⟩))
    exact (chain_cons_iff hskip.1).2 (.inr ⟨_, _, _, _, hstep, ih hp, rfl⟩)
  | faulted hstart hy =>
    have hstep := (Link.toStep_yields_iff hp hstart.1).2
      (.inr (.inr ⟨hstart, .inl ⟨_, hy, rfl⟩⟩))
    exact (chain_cons_iff hstart.1).2 (.inl ⟨_, hstep, rfl⟩)
  | returned hstart hy _ ih =>
    have hstep := (Link.toStep_yields_iff hp hstart.1).2
      (.inr (.inr ⟨hstart, .inr ⟨_, _, hy, rfl, rfl⟩⟩))
    exact (chain_cons_iff hstart.1).2
      (.inr ⟨_, _, _, _, hstep, ih (.after _ _ _ _), rfl⟩)

/-- What a chain does has a trace. -/
theorem exists_trace {links passed : List Link} {p : Point} (hp : p.Sound) {h : History}
    {r : Except Fault Event} {s' : Session}
    (hy : (chain p.event (links.map Link.toStep)).Yields p.session h r s') :
    ∃ starts p', Trace passed p links h starts r p' ∧ p'.session = s' := by
  induction links generalizing passed p h with
  | nil =>
    obtain ⟨rfl, rfl, rfl⟩ := yields_pure.1 hy
    exact ⟨[], p, .ended (.inl rfl), rfl⟩
  | cons l links ih =>
    rcases yields_lift_bind.1 hy with ⟨f, hf, rfl, rfl, rfl⟩ | ⟨o, ho, -⟩
    · exact ⟨[], p, .stuck hf, rfl⟩
    by_cases hne : o = .proceed
    · subst hne
      rcases (chain_cons_iff ho).1 hy with ⟨f, hstep, rfl⟩ | ⟨h₁, e, s₁, h₂, hstep, hrest, rfl⟩
      · rcases (Link.toStep_yields_iff hp ho).1 hstep with
          ⟨flag, f', hl, hf, rfl, hr, rfl⟩ | ⟨-, -, hr, -⟩ |
            ⟨hstart, ⟨f', hbody, hr⟩ | ⟨e, s, -, hr, -⟩⟩
        · cases hr
          exact ⟨[], p, .unreadable ho hl hf, rfl⟩
        · cases hr
        · cases hr
          exact ⟨_, _, .faulted hstart hbody, rfl⟩
        · cases hr
      · rcases (Link.toStep_yields_iff hp ho).1 hstep with
          ⟨flag, f', -, -, -, hr, -⟩ | ⟨hskip, rfl, hr, rfl⟩ |
            ⟨hstart, ⟨f', -, hr⟩ | ⟨e', s, hbody, hr, rfl⟩⟩
        · cases hr
        · cases hr
          obtain ⟨starts, p', ht, hs⟩ := ih hp hrest
          exact ⟨starts, p', .skipped hskip ht, hs⟩
        · cases hr
        · cases hr
          obtain ⟨starts, p', ht, hs⟩ := ih (.after p l e' s) hrest
          exact ⟨_, p', .returned hstart hbody ht, hs⟩
    · obtain ⟨rfl, rfl, rfl⟩ := chain_of_outcome ho hne hy
      exact ⟨[], p, .ended (.inr ⟨o, ho, hne⟩), rfl⟩

/-- A chain that is at a point can do exactly what its traces from there say. -/
theorem chain_yields_iff {links passed : List Link} {p : Point} (hp : p.Sound) {h : History}
    {r : Except Fault Event} {s' : Session} :
    (chain p.event (links.map Link.toStep)).Yields p.session h r s' ↔
      ∃ starts p', Trace passed p links h starts r p' ∧ p'.session = s' :=
  ⟨exists_trace hp, by rintro ⟨starts, p', ht, rfl⟩; exact ht.yields hp⟩

/-- The chain of some links goes from a point through a history to a result, and starts some steps
on the way. -/
structure Link.Run (links : List Link) (p : Point) (h : History) (starts : List Start)
    (r : Except Fault Event) (p' : Point) : Prop where
  yields : (chain p.event (links.map Link.toStep)).Yields p.session h r p'.session
  trace : Trace [] p links h starts r p'

theorem Link.run_of_trace {links : List Link} {p p' : Point} {h : History} {starts : List Start}
    {r : Except Fault Event} (ht : Trace [] p links h starts r p') (hp : p.Sound) :
    Link.Run links p h starts r p' :=
  ⟨ht.yields hp, ht⟩

/-! ## Starts -/

/-- What holds of every start: the chain went on to it, and a guarded step that has completed has
its flag set. -/
structure Start.Valid (st : Start) : Prop where
  started : st.found.Starts st.link
  marked : ∀ e flag, st.result = .ok e → st.link.flag = some flag → e.completes = true →
    st.left.context.Marked flag

theorem Point.marked_after {p : Point} {l : Link} {e : Event} (s : Session) {flag : String}
    (hl : l.flag = some flag) (hc : e.completes = true) :
    (p.after l e s).context.Marked flag := by
  unfold after
  rw [hl]
  dsimp only
  rw [if_pos hc, context_mark]
  exact Context.marked_put _ _

/-- A step that has not completed leaves its event as it is. -/
theorem Point.event_after {p : Point} (l : Link) {e : Event} (s : Session)
    (hc : e.completes = false) : (p.after l e s).event = e := by
  unfold after
  rw [hc]
  split <;> rfl

namespace Trace

variable {passed links : List Link} {p p' : Point} {h : History} {starts : List Start}
  {r : Except Fault Event}

theorem valid (ht : Trace passed p links h starts r p') : ∀ st ∈ starts, st.Valid := by
  induction ht with
  | ended | stuck | unreadable => simp
  | skipped _ _ ih => exact ih
  | faulted hstart =>
    intro st hst
    obtain rfl := List.mem_singleton.1 hst
    exact ⟨hstart, fun e flag he => by cases he⟩
  | returned hstart _ _ ih =>
    intro st hst
    rcases List.mem_cons.1 hst with rfl | hst
    · refine ⟨hstart, fun e flag he hl hc => ?_⟩
      cases he
      exact Point.marked_after _ hl hc
    · exact ih st hst

/-- The links before a start are those that the chain has before it. -/
theorem passed_links (ht : Trace passed p links h starts r p') :
    ∀ st ∈ starts, ∃ rest, passed ++ links = st.passed ++ st.link :: rest := by
  induction ht with
  | ended | stuck | unreadable => simp
  | skipped _ _ ih => simpa only [List.append_assoc, List.singleton_append] using ih
  | faulted =>
    intro st hst
    obtain rfl := List.mem_singleton.1 hst
    exact ⟨_, rfl⟩
  | returned _ _ _ ih =>
    intro st hst
    rcases List.mem_cons.1 hst with rfl | hst
    · exact ⟨_, rfl⟩
    · simpa only [List.append_assoc, List.singleton_append] using ih st hst

/-- A chain ends in the event that it has at last. -/
theorem event_eq (ht : Trace passed p links h starts r p') {e : Event} (hr : r = .ok e) :
    p'.event = e := by
  induction ht with
  | ended => cases hr; rfl
  | stuck | unreadable | faulted => cases hr
  | skipped _ _ ih | returned _ _ _ ih => exact ih hr

/-- After the step of a start has returned an event, the chain goes on with the links that are left
from the point after it. -/
theorem rest (ht : Trace passed p links h starts r p') {before later : List Start} {st : Start}
    (hst : starts = before ++ st :: later) {e : Event} (he : st.result = .ok e) :
    ∃ s rest h₂, st.left = st.found.after st.link e s ∧
      passed ++ links = st.passed ++ st.link :: rest ∧
      Trace (st.passed ++ [st.link]) st.left rest h₂ later r p' := by
  induction ht generalizing before with
  | ended | stuck | unreadable => simp at hst
  | skipped _ _ ih => simpa only [List.append_assoc, List.singleton_append] using ih hst
  | faulted =>
    have hmem : st ∈ before ++ st :: later := List.mem_append_right _ List.mem_cons_self
    rw [← hst, List.mem_singleton] at hmem
    rw [hmem] at he
    cases he
  | @returned passed links p p' l h₁ h₂ e' s starts r _ _ ht ih =>
    cases before with
    | nil =>
      obtain ⟨rfl, rfl⟩ := List.cons.inj hst
      cases he
      exact ⟨s, links, h₂, rfl, rfl, ht⟩
    | cons first before =>
      obtain ⟨-, rfl⟩ := List.cons.inj hst
      simpa only [List.append_assoc, List.singleton_append] using ih rfl

/-- A chain starts nothing from a point whose event does not let it. -/
theorem of_outcome (ht : Trace passed p links h starts r p') {o : Outcome}
    (ho : p.event.outcome = .ok o) (hne : o ≠ .proceed) : starts = [] ∧ r = .ok p.event := by
  have hnot : p.event.outcome ≠ .ok .proceed := fun hproceed => by
    rw [ho, Except.ok.injEq] at hproceed
    exact hne hproceed
  cases ht with
  | ended => exact ⟨rfl, rfl⟩
  | stuck hf => rw [ho] at hf; cases hf
  | unreadable hproceed => exact absurd hproceed hnot
  | skipped hs => exact absurd hs.1 hnot
  | faulted hs => exact absurd hs.1 hnot
  | returned hs => exact absurd hs.1 hnot

/-- A chain that goes on starts the step of a link that has no guard. -/
theorem of_unguarded {l : Link} (ht : Trace passed p (l :: links) h starts r p')
    (ho : p.event.outcome = .ok .proceed) (hl : l.flag = none) :
    ∃ st later, starts = st :: later ∧ st.link = l := by
  cases ht with
  | ended hend =>
    obtain ⟨o, ho', hne⟩ := hend.resolve_left (List.cons_ne_nil _ _)
    rw [ho, Except.ok.injEq] at ho'
    exact absurd ho'.symm hne
  | stuck hf => rw [ho] at hf; cases hf
  | unreadable _ hl' => rw [hl] at hl'; cases hl'
  | skipped hs =>
    obtain ⟨-, flag, v, hl', -⟩ := hs
    rw [hl] at hl'
    cases hl'
  | faulted => exact ⟨_, _, rfl, rfl⟩
  | returned => exact ⟨_, _, rfl, rfl⟩

theorem sound (ht : Trace passed p links h starts r p') (hp : p.Sound) {e : Event}
    (hr : r = .ok e) : p'.Sound := by
  induction ht with
  | ended => exact hp
  | stuck | unreadable | faulted => cases hr
  | skipped _ _ ih => exact ih hp hr
  | returned _ _ _ ih => exact ih (.after _ _ _ _) hr

end Trace

end Provisioning
