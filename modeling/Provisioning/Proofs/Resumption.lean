import Mathlib.Data.List.Chain
import Provisioning.Proofs.Trace

/-!
# How a chain resumes

A handler that was suspended is invoked again on the model and the callback context of its last
event. Such a run (`Resumption`) goes on where it stopped: a step is started only when all guarded
steps before it are complete, a guarded step that has completed is not started again, and the flags
that are set are those of the first guarded steps (`Resumption.goes_on`).

The invariant of a chain on its way is `Reached`. From one start to the next, also across
invocations, only the flag of the step that was started changes (`Linked`).
-/

set_option autoImplicit false

namespace Provisioning

open Handler

/-! ## Flags -/

namespace Context

variable {c c' c'' : Context} {flags done pending : List String} {flag : String}

/-- The flags that are set are the first ones of a list. -/
def SetsPrefix (flags : List String) (c : Context) : Prop :=
  ∃ done, done <+: flags ∧ ∀ flag ∈ flags, c.Marked flag ↔ flag ∈ done

/-- Every flag before one that is set is set. -/
def InOrder (flags : List String) (c : Context) : Prop :=
  flags.Pairwise fun before flag => c.Marked flag → c.Marked before

/-- The same flags are set. -/
def SameFlags (flags : List String) (c c' : Context) : Prop :=
  ∀ flag ∈ flags, c'.Marked flag ↔ c.Marked flag

theorem InOrder.setsPrefix (h : c.InOrder flags) : c.SetsPrefix flags := by
  induction flags with
  | nil => exact ⟨[], List.prefix_rfl, by simp⟩
  | cons flag flags ih =>
    obtain ⟨hhead, htail⟩ := List.pairwise_cons.1 h
    by_cases hm : c.Marked flag
    · obtain ⟨done, hprefix, hdone⟩ := ih htail
      refine ⟨flag :: done, List.cons_prefix_cons.2 ⟨rfl, hprefix⟩, fun g hg => ?_⟩
      rcases List.mem_cons.1 hg with rfl | hg
      · exact ⟨fun _ => List.mem_cons_self, fun _ => hm⟩
      · rw [hdone g hg, List.mem_cons]
        refine ⟨.inr, ?_⟩
        rintro (hsame | hmem)
        · exact (hdone g hg).1 (hsame ▸ hm)
        · exact hmem
    · refine ⟨[], List.nil_prefix, fun g hg => ?_⟩
      simp only [List.not_mem_nil, iff_false]
      rcases List.mem_cons.1 hg with rfl | hg
      · exact hm
      · exact fun hmarked => hm (hhead g hg hmarked)

theorem inOrder_of_unset (h : ∀ flag ∈ flags, ¬ c.Marked flag) : c.InOrder flags :=
  List.pairwise_of_forall_mem_list fun _ _ flag hf hm => absurd hm (h flag hf)

/-- Flags of which the first ones are set and the last ones are not, with any one between. -/
theorem inOrder_of_split (hdone : ∀ flag ∈ done, c.Marked flag)
    (hpending : ∀ flag ∈ pending, ¬ c.Marked flag) : c.InOrder (done ++ flag :: pending) := by
  have hrest : c.InOrder pending := inOrder_of_unset hpending
  refine List.pairwise_append.2 ⟨?_, List.pairwise_cons.2 ⟨?_, hrest⟩, ?_⟩
  · exact List.pairwise_of_forall_mem_list fun f hf _ _ _ => hdone f hf
  · exact fun f hf hm => absurd hm (hpending f hf)
  · exact fun f hf _ _ _ => hdone f hf

/-- After a flag that is not set, none is set. -/
theorem InOrder.unset_after (h : c.InOrder (done ++ flag :: pending)) (hun : ¬ c.Marked flag) :
    ∀ f ∈ pending, ¬ c.Marked f := fun f hf hm =>
  hun ((List.pairwise_cons.1 (List.pairwise_append.1 h).2.1).1 f hf hm)

theorem InOrder.of_same (h : c.InOrder flags) (hs : SameFlags flags c c') : c'.InOrder flags :=
  List.Pairwise.imp_of_mem (fun {f g} hf hg hfg hm => (hs f hf).2 (hfg ((hs g hg).1 hm))) h

theorem SameFlags.refl (flags : List String) (c : Context) : SameFlags flags c c :=
  fun _ _ => Iff.rfl

theorem SameFlags.trans (h : SameFlags flags c c') (h' : SameFlags flags c' c'') :
    SameFlags flags c c'' := fun flag hf => (h' flag hf).trans (h flag hf)

end Context

open Context

/-! ## Starts -/

/-- A start ended in an event that neither is a failure nor asks for a retry. -/
def Start.Completed (st : Start) : Prop :=
  ∃ e, st.result = .ok e ∧ e.status ≠ .failed ∧ (e.status = .inProgress → e.code = none)

/-- A step minds its own flag: it hands on a context of the same kind in which no other flag has
changed, and it asks for a retry only with a delay. -/
structure Start.Minds (kind : ContextKind) (flags : List String) (st : Start) : Prop where
  declares : kind.Declares st.found.context → kind.Declares st.left.context
  others : ∀ flag ∈ flags, st.link.flag ≠ some flag →
    (st.left.context.Marked flag ↔ st.found.context.Marked flag)
  delayed : ∀ e, st.result = .ok e → e.status = .inProgress → e.code.isSome = true →
    e.delay.isPositive = .ok true

theorem Event.completes_iff (e : Event) :
    e.completes = true ↔ e.status ≠ .failed ∧ (e.status = .inProgress → e.code = none) := by
  unfold completes isFailed isInProgress
  cases e.code <;> simp

/-- A completed start of a guarded step leaves its flag set. -/
theorem Start.Valid.marked_of_completed {st : Start} (hv : st.Valid) (hc : st.Completed)
    {flag : String} (hl : st.link.flag = some flag) : st.left.context.Marked flag := by
  obtain ⟨e, he, hcompletes⟩ := hc
  exact hv.marked e flag he hl ((Event.completes_iff e).2 hcompletes)

section
variable {kind : ContextKind} {flags : List String}

/-- A flag that is set stays set when a step is started. -/
theorem Start.Minds.keeps {st : Start} (hm : st.Minds kind flags) (hv : st.Valid) {flag : String}
    (hf : flag ∈ flags) (hset : st.found.context.Marked flag) : st.left.context.Marked flag :=
  (hm.others flag hf fun hl => hv.started.not_marked hl hset).2 hset

/-! ## One invocation -/

/-- What holds where a chain has got to. -/
structure Reached (flags : List String) (passed : List Link) (p : Point) : Prop where
  order : p.context.InOrder flags
  passed : p.event.outcome = .ok .proceed → ∀ flag ∈ Link.flags passed, p.context.Marked flag

section
variable {passed links : List Link} {p p' : Point} {l : Link}

theorem Reached.skip (hr : Reached flags passed p) (hs : p.Skips l) :
    Reached flags (passed ++ [l]) p where
  order := hr.order
  passed ho flag hflag := by
    obtain ⟨own, hown, hm⟩ := hs.marked
    rw [Link.flags_append, List.mem_append, Link.flags_cons_some hown] at hflag
    rcases hflag with hflag | hflag
    · exact hr.passed ho flag hflag
    · rcases List.mem_cons.1 hflag with rfl | hflag
      · exact hm
      · cases hflag

/-- The flags are in order again after a start: only that of the step may have changed, and those
before it are set while those after it are not. -/
theorem Reached.left (hr : Reached flags passed p) (hs : p.Starts l)
    (hflags : flags = Link.flags passed ++ Link.flags (l :: links)) (hn : flags.Nodup)
    {c : Context} (hothers : ∀ flag ∈ flags, l.flag ≠ some flag →
      (c.Marked flag ↔ p.context.Marked flag)) : c.InOrder flags := by
  cases hl : l.flag with
  | none => exact hr.order.of_same fun flag hf => hothers flag hf (by simp [hl])
  | some own =>
    rw [Link.flags_cons_some hl] at hflags
    have horder := hr.order
    have hdone := hr.passed hs.1
    have hun := hs.not_marked hl
    subst hflags
    have hne : ∀ flag, flag ∈ Link.flags passed ∨ flag ∈ Link.flags links →
        l.flag ≠ some flag := by
      rintro flag hflag hsame
      rw [hl, Option.some.injEq] at hsame
      subst hsame
      rw [List.nodup_append, List.nodup_cons] at hn
      rcases hflag with hflag | hflag
      · exact hn.2.2 own hflag own List.mem_cons_self rfl
      · exact hn.2.1.1 hflag
    refine inOrder_of_split (fun flag hf => ?_) fun flag hf => ?_
    · exact (hothers flag (List.mem_append_left _ hf) (hne flag (.inl hf))).2 (hdone flag hf)
    · have hmem := List.mem_append_right (Link.flags passed) (List.mem_cons_of_mem own hf)
      rw [hothers flag hmem (hne flag (.inr hf))]
      exact horder.unset_after hun flag hf

/-- A chain that goes on after a step has completed it. -/
theorem Reached.next {e : Event} {s : Session} {h : History} (hr : Reached flags passed p)
    (hs : p.Starts l) (hflags : flags = Link.flags passed ++ Link.flags (l :: links))
    (hn : flags.Nodup)
    (hm : Start.Minds kind flags ⟨passed, l, p, h, .ok e, p.after l e s⟩) :
    Reached flags (passed ++ [l]) (p.after l e s) where
  order := hr.left hs hflags hn hm.others
  passed ho flag hflag := by
    rw [Point.outcome_after] at ho
    obtain ⟨hprogress, hdelay⟩ := Event.outcome_eq_proceed ho
    have hcompletes : e.completes = true := by
      refine (Event.completes_iff e).2 ⟨by simp [hprogress], fun _ => ?_⟩
      by_contra hcode
      have hpositive := hm.delayed e rfl hprogress (Option.isSome_iff_ne_none.2 hcode)
      rw [hdelay] at hpositive
      cases hpositive
    rw [Link.flags_append, List.mem_append] at hflag
    -- the flag is that of the step, which has completed, or one that was set before
    by_cases hown : l.flag = some flag
    · exact Point.marked_after s hown hcompletes
    · have hbefore : flag ∈ Link.flags passed := by
        refine hflag.resolve_right fun hmem => ?_
        obtain ⟨l', hl', hflag'⟩ := Link.mem_flags.1 hmem
        rw [List.mem_singleton.1 hl'] at hflag'
        exact hown hflag'
      have hmem : flag ∈ flags := by
        rw [hflags]
        exact List.mem_append_left _ hbefore
      exact (hm.others flag hmem hown).2 (hr.passed hs.1 flag hbefore)

variable {h : History} {starts : List Start} {r : Except Fault Event}

theorem Trace.reached (ht : Trace passed p links h starts r p') (hr : Reached flags passed p)
    (hflags : flags = Link.flags passed ++ Link.flags links) (hn : flags.Nodup)
    (hm : ∀ st ∈ starts, st.Minds kind flags) :
    (∀ st ∈ starts, Reached flags st.passed st.found ∧ st.left.context.InOrder flags) ∧
      p'.context.InOrder flags := by
  induction ht with
  | ended | stuck | unreadable => exact ⟨by simp, hr.order⟩
  | skipped hs _ ih =>
    refine ih (hr.skip hs) ?_ hm
    rw [hflags, ← Link.flags_append, ← Link.flags_append, List.append_assoc, List.singleton_append]
  | faulted hs =>
    have hleft := hr.left hs hflags hn (hm _ List.mem_cons_self).others
    refine ⟨fun st hst => ?_, hleft⟩
    obtain rfl := List.mem_singleton.1 hst
    exact ⟨hr, hleft⟩
  | returned hs _ _ ih =>
    have hnext := hr.next hs hflags hn (hm _ List.mem_cons_self)
    obtain ⟨hstarts, hend⟩ := ih hnext
      (by rw [hflags, ← Link.flags_append, ← Link.flags_append, List.append_assoc,
        List.singleton_append])
      fun st hst => hm st (List.mem_cons_of_mem _ hst)
    refine ⟨fun st hst => ?_, hend⟩
    rcases List.mem_cons.1 hst with rfl | hst
    · exact ⟨hr, hnext.order⟩
    · exact hstarts st hst

theorem Trace.declares (ht : Trace passed p links h starts r p') (hp : kind.Declares p.context)
    (hm : ∀ st ∈ starts, st.Minds kind flags) : kind.Declares p'.context := by
  induction ht with
  | ended | stuck | unreadable => exact hp
  | skipped _ _ ih => exact ih hp hm
  | faulted => exact (hm _ List.mem_cons_self).declares hp
  | returned _ _ _ ih =>
    exact ih ((hm _ List.mem_cons_self).declares hp) fun st hst =>
      hm st (List.mem_cons_of_mem _ hst)

end

/-! ## From start to start -/

/-- Between starts no flag changes, from a context before them to one after them. -/
inductive Linked (flags : List String) : Context → List Start → Context → Prop
  | nil {c c' : Context} : SameFlags flags c c' → Linked flags c [] c'
  | cons {c c' : Context} {st : Start} {starts : List Start} :
      SameFlags flags c st.found.context → Linked flags st.left.context starts c' →
      Linked flags c (st :: starts) c'

namespace Linked

variable {c c' c'' : Context} {starts starts' : List Start}

theorem of_same (hs : SameFlags flags c c') (hl : Linked flags c' starts c'') :
    Linked flags c starts c'' := by
  cases hl with
  | nil hs' => exact .nil (hs.trans hs')
  | cons hs' hl => exact .cons (hs.trans hs') hl

theorem append (hl : Linked flags c starts c') (hl' : Linked flags c' starts' c'') :
    Linked flags c (starts ++ starts') c'' := by
  induction hl with
  | nil hs => exact hl'.of_same hs
  | cons hs _ ih => exact .cons hs (ih hl')

variable (hv : ∀ st ∈ starts, st.Valid) (hm : ∀ st ∈ starts, st.Minds kind flags)
include hv hm

/-- A flag that is set is set at every later start. -/
theorem marked (hl : Linked flags c starts c') {flag : String} (hf : flag ∈ flags)
    (hset : c.Marked flag) : ∀ st ∈ starts, st.found.context.Marked flag := by
  induction hl with
  | nil => simp
  | @cons c c' st starts hs _ ih =>
    have hfound := (hs flag hf).2 hset
    have hleft := (hm st List.mem_cons_self).keeps (hv st List.mem_cons_self) hf hfound
    intro st' hst'
    rcases List.mem_cons.1 hst' with rfl | hst'
    · exact hfound
    · exact ih (fun st hst => hv st (List.mem_cons_of_mem _ hst))
        (fun st hst => hm st (List.mem_cons_of_mem _ hst)) hleft st' hst'

/-- A guarded step is not started again after it has completed. -/
theorem completed_once (hl : Linked flags c starts c')
    (hflags : ∀ st ∈ starts, ∀ flag, st.link.flag = some flag → flag ∈ flags) :
    starts.Pairwise fun st later => ∀ flag, st.link.flag = some flag → st.Completed →
      later.link.flag ≠ some flag := by
  induction hl with
  | nil => exact .nil
  | @cons c c' st starts hs hrest ih =>
    have hv' := fun st hst => hv st (List.mem_cons_of_mem _ hst)
    have hm' := fun st hst => hm st (List.mem_cons_of_mem _ hst)
    refine List.pairwise_cons.2 ⟨fun later hlater flag hl hc hagain => ?_,
      ih hv' hm' fun st hst => hflags st (List.mem_cons_of_mem _ hst)⟩
    have hset := (hv st List.mem_cons_self).marked_of_completed hc hl
    have hfound := hrest.marked hv' hm' (hflags st List.mem_cons_self flag hl) hset later hlater
    exact (hv later (List.mem_cons_of_mem _ hlater)).started.not_marked hagain hfound

end Linked

theorem Trace.linked {passed links : List Link} {p p' : Point} {h : History}
    {starts : List Start} {r : Except Fault Event} (ht : Trace passed p links h starts r p') :
    Linked flags p.context starts p'.context := by
  induction ht with
  | ended | stuck | unreadable => exact .nil (.refl _ _)
  | skipped _ _ ih => exact ih
  | faulted => exact .cons (.refl _ _) (.nil (.refl _ _))
  | returned _ _ _ ih => exact .cons (.refl _ _) ih

end

/-! ## Runs -/

/-- An invocation of a chain: its links, the model and the context that it starts on, the steps
that it starts, and where it ends. -/
structure Invocation where
  links : List Link
  model : Value
  context : Context
  starts : List Start
  result : Except Fault Event
  closing : Point

namespace Invocation

/-- Where an invocation begins. -/
def opening (i : Invocation) : Point where
  event := .progress i.model .session
  session := { model := i.model, context := i.context }

/-- The chain can do what the invocation says. -/
def Ran (i : Invocation) : Prop :=
  ∃ h, Link.Run i.links i.opening h i.starts i.result i.closing

theorem ran_of_trace {i : Invocation} {h : History}
    (ht : Trace [] i.opening i.links h i.starts i.result i.closing) : i.Ran :=
  ⟨h, Link.run_of_trace ht rfl⟩

/-- An invocation ends in progress, and the next one starts on the model of its event and on the
context of it, written to a document and read back. -/
def Resumes (kind : ContextKind) (i next : Invocation) : Prop :=
  ∃ e c, i.result = .ok e ∧ e.status = .inProgress ∧
    (e.settle i.closing.session.context).context = .own c ∧
    next.model = (if e.model.isNull then i.model else e.model) ∧
    Context.ofValue kind c.toValue = .ok next.context

end Invocation

/-- A run of a chain with guarded steps: it begins with no flag set, and every invocation goes on
from the one before. -/
structure Resumption (kind : ContextKind) (flags : List String) (run : List Invocation) : Prop where
  ran : ∀ i ∈ run, i.Ran
  guarded : ∀ i ∈ run, Link.flags i.links = flags
  opened : ∀ i ∈ run.head?, kind.Declares i.context ∧ ∀ flag ∈ flags, ¬ i.context.Marked flag
  resumed : run.IsChain (Invocation.Resumes kind)

section
variable {kind : ContextKind} {flags : List String} {i next : Invocation} {run : List Invocation}

/-- The context of a settled event is the one that is known. -/
theorem Point.Sound.settle {p : Point} (hp : p.Sound) {c : Context}
    (hc : (p.event.settle p.session.context).context = .own c) : c = p.context := by
  unfold Sound at hp
  unfold Event.settle at hc
  unfold context
  cases hcontext : p.event.context with
  | none => simp [hcontext] at hc
  | session =>
    rw [hcontext] at hp hc
    have hown : p.own = none := hp
    cases hc
    rw [hown, Option.getD_none]
  | own c' =>
    rw [hcontext] at hp hc
    have hown : p.own = some c' := hp
    rw [hown, Option.getD_some]
    rw [hcontext] at hc
    cases hc
    rfl

/-- No flag changes on the way to the next invocation. -/
theorem Invocation.Resumes.same (hres : i.Resumes kind next) (hran : i.Ran)
    (hdeclared : ∀ flag ∈ flags, kind.fields.has flag = true)
    (hclosing : kind.Declares i.closing.context) :
    SameFlags flags i.closing.context next.context ∧ kind.Declares next.context := by
  obtain ⟨e, c, hresult, -, hcontext, -, hread⟩ := hres
  obtain ⟨h, -, ht⟩ := hran
  have hevent := ht.event_eq hresult
  subst hevent
  obtain rfl := (ht.sound rfl hresult).settle hcontext
  rw [hclosing.ofValue_toValue, Except.ok.injEq] at hread
  rw [← hread]
  refine ⟨fun flag hf => ?_, hclosing⟩
  unfold Context.Marked
  rw [hclosing.get?_travelled (hdeclared flag hf)]

/-- What a whole run keeps, from a context with the flags in order on: every invocation begins and
ends with the flags in order, and so does every start; and no flag changes but by a start. -/
theorem resumption_keeps (hran : ∀ i ∈ run, i.Ran)
    (hguarded : ∀ i ∈ run, Link.flags i.links = flags)
    (hresumed : run.IsChain (Invocation.Resumes kind)) (hn : flags.Nodup)
    (hdeclared : ∀ flag ∈ flags, kind.fields.has flag = true)
    (hm : ∀ i ∈ run, ∀ st ∈ i.starts, st.Minds kind flags)
    (hopened : ∀ i ∈ run.head?, kind.Declares i.context ∧ i.context.InOrder flags) :
    (∀ i ∈ run, i.context.InOrder flags ∧ i.closing.context.InOrder flags ∧
      ∀ st ∈ i.starts, Reached flags st.passed st.found ∧ st.left.context.InOrder flags) ∧
    ∀ i ∈ run.head?, ∃ c, Linked flags i.context (run.flatMap (·.starts)) c := by
  induction run with
  | nil => simp
  | cons i run ih =>
    obtain ⟨h, -, ht⟩ := hran i List.mem_cons_self
    have hmi := hm i List.mem_cons_self
    obtain ⟨hdeclares, horder⟩ := hopened i rfl
    obtain ⟨hstarts, hclosing⟩ := ht.reached ⟨horder, fun _ _ hf => by cases hf⟩
      (hguarded i List.mem_cons_self).symm hn hmi
    have hran' := fun j hj => hran j (List.mem_cons_of_mem _ hj)
    have hguarded' := fun j hj => hguarded j (List.mem_cons_of_mem _ hj)
    have hm' := fun j hj => hm j (List.mem_cons_of_mem _ hj)
    have hnext : ∀ j ∈ run.head?, SameFlags flags i.closing.context j.context ∧
        kind.Declares j.context := fun j hj =>
      ((List.isChain_cons.1 hresumed).1 j hj).same (hran i List.mem_cons_self) hdeclared
        (ht.declares hdeclares hmi)
    obtain ⟨hall, hlinked⟩ := ih hran' hguarded' (List.isChain_cons.1 hresumed).2 hm'
      fun j hj => ⟨(hnext j hj).2, hclosing.of_same (hnext j hj).1⟩
    refine ⟨fun j hj => ?_, fun j hj => ?_⟩
    · rcases List.mem_cons.1 hj with rfl | hj
      · exact ⟨horder, hclosing, hstarts⟩
      · exact hall j hj
    · cases hj
      cases run with
      | nil =>
        have hown : Linked flags i.context i.starts i.closing.context := ht.linked
        exact ⟨_, by simpa using hown⟩
      | cons j run =>
        obtain ⟨c, hc⟩ := hlinked j rfl
        exact ⟨c, ht.linked.append (hc.of_same (hnext j rfl).1)⟩

/-- A chain resumes where it stopped. If no step touches the flag of another one and every retry
has a delay, then over any number of invocations a step is started only when the flags of all
guarded steps before it are set, a guarded step is not started again after it has ended in anything
but a failure or a retry, and the flags that are set are always those of the first guarded steps. -/
theorem Resumption.goes_on (hrun : Resumption kind flags run) (hn : flags.Nodup)
    (hdeclared : ∀ flag ∈ flags, kind.fields.has flag = true)
    (hm : ∀ i ∈ run, ∀ st ∈ i.starts, st.Minds kind flags) :
    (∀ i ∈ run, ∀ st ∈ i.starts, ∀ l ∈ st.passed, ∀ flag, l.flag = some flag →
      st.found.context.Marked flag) ∧
    ((run.flatMap (·.starts)).Pairwise fun st later => ∀ flag, st.link.flag = some flag →
      st.Completed → later.link.flag ≠ some flag) ∧
    ∀ i ∈ run, i.context.SetsPrefix flags ∧ i.closing.context.SetsPrefix flags ∧
      ∀ st ∈ i.starts, st.found.context.SetsPrefix flags ∧ st.left.context.SetsPrefix flags := by
  obtain ⟨hall, hlinked⟩ := resumption_keeps hrun.ran hrun.guarded hrun.resumed hn hdeclared hm
    fun i hi => ⟨(hrun.opened i hi).1, inOrder_of_unset (hrun.opened i hi).2⟩
  have hvalid : ∀ i ∈ run, ∀ st ∈ i.starts, st.Valid := fun i hi =>
    let ⟨_, hi⟩ := hrun.ran i hi
    hi.trace.valid
  refine ⟨fun i hi st hst l hl flag hflag => ?_, ?_, fun i hi => ?_⟩
  · exact ((hall i hi).2.2 st hst).1.passed (hvalid i hi st hst).started.1 flag
      (Link.mem_flags.2 ⟨l, hl, hflag⟩)
  · cases run with
    | nil => exact .nil
    | cons i rest =>
      obtain ⟨c, hc⟩ := hlinked i rfl
      have hminds : ∀ st ∈ (i :: rest).flatMap (·.starts), st.Minds kind flags := fun st hst =>
        let ⟨j, hj, hst⟩ := List.mem_flatMap.1 hst
        hm j hj st hst
      refine hc.completed_once (fun st hst => ?_) hminds fun st hst flag hl => ?_
      · obtain ⟨j, hj, hst⟩ := List.mem_flatMap.1 hst
        exact hvalid j hj st hst
      · obtain ⟨j, hj, hst⟩ := List.mem_flatMap.1 hst
        obtain ⟨h, -, ht⟩ := hrun.ran j hj
        obtain ⟨after, hlinks⟩ := ht.passed_links st hst
        rw [← hrun.guarded j hj]
        refine Link.mem_flags.2 ⟨st.link, ?_, hl⟩
        rw [show j.links = st.passed ++ st.link :: after from hlinks]
        exact List.mem_append_right _ List.mem_cons_self
  · obtain ⟨hopen, hclose, hstarts⟩ := hall i hi
    exact ⟨hopen.setsPrefix, hclose.setsPrefix, fun st hst =>
      ⟨(hstarts st hst).1.order.setsPrefix, (hstarts st hst).2.setsPrefix⟩⟩

end

/-! ### A run of two steps -/

namespace TwoSteps

/-- A context with the flags of two steps. -/
def kind : ContextKind where
  className := "TwoStepsCallbackContext"
  fields := [("prepared", .bool false), ("applied", .bool false)]

/-- A step that is complete, but asks for time. -/
def prepare : Link := ⟨some "prepared", fun e => return .defer e.model e.context (.int 5)⟩

/-- A step that ends the operation. -/
def apply : Link := ⟨some "applied", fun e => return .success e.model e.context⟩

def opened : Point where
  event := .progress .null .session
  session := { model := .null, context := .initial kind }

def suspended : Point :=
  opened.after prepare (.defer .null .session (.int 5)) opened.session

def resumed : Point where
  event := .progress .null .session
  session := { model := .null, context := suspended.context.travelled }

def finished : Point := resumed.after apply (.success .null .session) resumed.session

/-- The first invocation starts the first step and is suspended. -/
def first : Invocation where
  links := [prepare, apply]
  model := .null
  context := .initial kind
  starts := [⟨[], prepare, opened, [], .ok (.defer .null .session (.int 5)), suspended⟩]
  result := .ok suspended.event
  closing := suspended

/-- The second one skips that step and starts the other. -/
def second : Invocation where
  links := [prepare, apply]
  model := .null
  context := suspended.context.travelled
  starts := [⟨[prepare], apply, resumed, [], .ok (.success .null .session), finished⟩]
  result := .ok finished.event
  closing := finished

theorem ran_first : first.Ran := by
  have hstart : opened.Starts prepare :=
    ⟨rfl, fun flag hl => by cases hl; exact ⟨.bool false, rfl, rfl⟩⟩
  exact Invocation.ran_of_trace (.returned hstart (yields_pure.2 ⟨rfl, rfl, rfl⟩)
    (.ended (.inr ⟨.suspend, rfl, by decide⟩)))

theorem ran_second : second.Ran := by
  have hskip : resumed.Skips prepare := ⟨rfl, "prepared", .bool true, rfl, rfl, rfl⟩
  have hstart : resumed.Starts apply :=
    ⟨rfl, fun flag hl => by cases hl; exact ⟨.bool false, rfl, rfl⟩⟩
  exact Invocation.ran_of_trace
    (.skipped hskip (.returned hstart (yields_pure.2 ⟨rfl, rfl, rfl⟩) (.ended (.inl rfl))))

theorem resumption : Resumption kind ["prepared", "applied"] [first, second] where
  ran := by simp [ran_first, ran_second]
  guarded := by simp [first, second, Link.flags, prepare, apply]
  opened := by
    rintro i ⟨⟩
    refine ⟨⟨rfl, rfl⟩, ?_⟩
    simp [Context.Marked, first, Context.initial, kind, Context.get?, Value.truthy]
  resumed := List.isChain_pair.2 ⟨suspended.event, suspended.context, rfl, rfl, rfl, rfl, rfl⟩

/-- Both steps leave the flag of the other one alone. -/
theorem minds : ∀ i ∈ [first, second], ∀ st ∈ i.starts, st.Minds kind ["prepared", "applied"] := by
  have hother {l : Link} {own flag : String} (hl : l.flag = some own)
      (hne : l.flag ≠ some flag) : flag ≠ own := fun h => hne (by rw [hl, h])
  simp only [List.forall_mem_cons, first, second]
  refine ⟨⟨⟨fun _ => ⟨rfl, rfl⟩, fun flag _ hne => ?_, ?_⟩, by simp⟩,
    ⟨⟨fun _ => ⟨rfl, rfl⟩, fun flag _ hne => ?_, ?_⟩, by simp⟩, by simp⟩
  · exact Context.marked_put_of_ne opened.context (hother rfl hne) (.bool true)
  · rintro e ⟨⟩ - hcode
    cases hcode
  · exact Context.marked_put_of_ne resumed.context (hother rfl hne) (.bool true)
  · rintro e ⟨⟩ hprogress
    cases hprogress

theorem goes_on_twoSteps :
    (Resumption kind ["prepared", "applied"] [first, second] ∧ ["prepared", "applied"].Nodup ∧
      (∀ flag ∈ ["prepared", "applied"], kind.fields.has flag = true) ∧
      ∀ i ∈ [first, second], ∀ st ∈ i.starts, st.Minds kind ["prepared", "applied"]) ∧
    ((∀ i ∈ [first, second], ∀ st ∈ i.starts, ∀ l ∈ st.passed, ∀ flag, l.flag = some flag →
      st.found.context.Marked flag) ∧
    (([first, second].flatMap (·.starts)).Pairwise fun st later => ∀ flag,
      st.link.flag = some flag → st.Completed → later.link.flag ≠ some flag) ∧
    ∀ i ∈ [first, second], i.context.SetsPrefix ["prepared", "applied"] ∧
      i.closing.context.SetsPrefix ["prepared", "applied"] ∧
      ∀ st ∈ i.starts, st.found.context.SetsPrefix ["prepared", "applied"] ∧
        st.left.context.SetsPrefix ["prepared", "applied"]) :=
  have hdistinct : ["prepared", "applied"].Nodup := by decide
  have hdeclared : ∀ flag ∈ ["prepared", "applied"], kind.fields.has flag = true := by decide
  ⟨⟨resumption, hdistinct, hdeclared, minds⟩, resumption.goes_on hdistinct hdeclared minds⟩

end TwoSteps

end Provisioning
