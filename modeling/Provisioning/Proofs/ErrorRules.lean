import Provisioning.Integration.Rules
import Provisioning.ParameterGroup.Rules
import Provisioning.Proofs.Entries
import Provisioning.Proofs.Reading

/-!
# Which verdicts a rule set can give

The verdict on a fault is that of one of the rules, or the default one; rules for codes count only
for a fault that carries a code (`RuleSet.Answers.classifyCaught`). So what all rules of a set have
in common is true of its verdicts: the rules for integrations fail or come back after the delay that
they were made for (`Integration.classify_cases`), those for parameter groups always fail
(`ParameterGroup.classify_cases`).
-/

set_option autoImplicit false

namespace Provisioning

/-- The rules for codes have one property, all other rules have another one. -/
structure Rules.Answers (r : Rules) (P Q : ErrorStatus → Prop) : Prop where
  codes : ∀ e ∈ r.codes, P e.2
  classes : ∀ e ∈ r.classes, Q e.2
  predicates : ∀ e ∈ r.predicates, Q e.2

namespace RuleSet

/-- The rules of all levels for codes have one property, all other rules have another one. -/
def Answers (s : RuleSet) (P Q : ErrorStatus → Prop) : Prop := ∀ r ∈ s.levels, r.Answers P Q

namespace Answers

variable {P Q : ErrorStatus → Prop} {s : RuleSet}

theorem empty : empty.Answers P Q := by
  intro r hr
  obtain rfl := List.mem_singleton.1 hr
  constructor <;> intro e he <;> cases he

theorem own (h : s.Answers P Q) : s.own.Answers P Q := h _ List.mem_cons_self

theorem extend (h : s.Answers P Q) : s.extend.Answers P Q := by
  intro r hr
  rcases List.mem_cons.1 hr with rfl | hr
  · constructor <;> intro e he <;> cases he
  · exact h r hr

theorem withCodes (h : s.Answers P Q) {status : ErrorStatus} (hstatus : P status)
    (codes : List String) : (s.withCodes status codes).Answers P Q := by
  intro r hr
  rcases List.mem_cons.1 hr with rfl | hr
  · refine ⟨fun e he => ?_, h.own.classes, h.own.predicates⟩
    rcases Entries.mem_merge_value he with he | he
    · exact h.own.codes e he
    · rw [he]; exact hstatus
  · exact h r (List.mem_cons_of_mem _ hr)

theorem withClasses (h : s.Answers P Q) {status : ErrorStatus} (hstatus : Q status)
    (classes : List String) : (s.withClasses status classes).Answers P Q := by
  intro r hr
  rcases List.mem_cons.1 hr with rfl | hr
  · refine ⟨h.own.codes, fun e he => ?_, h.own.predicates⟩
    rcases Entries.mem_merge_value he with he | he
    · exact h.own.classes e he
    · rw [he]; exact hstatus
  · exact h r (List.mem_cons_of_mem _ hr)

end Answers

end RuleSet

theorem exists_of_firstAnswer {α : Type} {ask : α → Except Fault (Option ErrorStatus)}
    {rules : List α} {status : ErrorStatus} (h : firstAnswer ask rules = .ok (some status)) :
    ∃ rule ∈ rules, ask rule = .ok (some status) := by
  induction rules with
  | nil => cases h
  | cons rule rules ih =>
    obtain ⟨answer, hask, h⟩ := bind_eq_ok.1 h
    cases answer with
    | some status' =>
      cases h
      exact ⟨rule, List.mem_cons_self, hask⟩
    | none =>
      obtain ⟨rule', hmem, hask'⟩ := ih h
      exact ⟨rule', List.mem_cons_of_mem _ hmem, hask'⟩

theorem exists_of_firstAnswer_error {α : Type} {ask : α → Except Fault (Option ErrorStatus)}
    {rules : List α} {f : Fault} (h : firstAnswer ask rules = .error f) :
    ∃ rule ∈ rules, ask rule = .error f := by
  induction rules with
  | nil => cases h
  | cons rule rules ih =>
    rcases bind_eq_error.1 h with h | ⟨answer, -, h⟩
    · exact ⟨rule, List.mem_cons_self, h⟩
    · cases answer with
      | some status => cases h
      | none =>
        obtain ⟨rule', hmem, hask⟩ := ih h
        exact ⟨rule', List.mem_cons_of_mem _ hmem, hask⟩

/-- The answer of one rule set level is that of one of its rules. -/
theorem Rules.mem_of_find {r : Rules} {error : Caught} {status : ErrorStatus}
    (h : r.find error = .ok (some status)) :
    (error.code.isNull = false ∧ ∃ e ∈ r.codes, e.2 = status) ∨
      (∃ e ∈ r.classes, e.2 = status) ∨ ∃ e ∈ r.predicates, e.2 = status := by
  obtain ⟨ask, hask, h⟩ := exists_of_firstAnswer h
  simp only [List.mem_cons, List.not_mem_nil, or_false] at hask
  rcases hask with rfl | rfl | rfl
  · unfold byCode at h
    split at h
    · cases h
    · rename_i hnull
      obtain ⟨-, -, h⟩ := bind_eq_ok.1 h
      obtain ⟨k, hk, -⟩ := Entries.mem_of_get?_eq_some (pure_eq_ok.1 h)
      exact .inl ⟨by simpa using hnull, (k, status), hk, rfl⟩
  · unfold byClass at h
    obtain ⟨name, -, hname⟩ := List.exists_of_findSome?_eq_some (Except.ok.inj h)
    obtain ⟨k, hk, -⟩ := Entries.mem_of_get?_eq_some hname
    exact .inr (.inl ⟨(k, status), hk, rfl⟩)
  · obtain ⟨⟨p, status'⟩, hmem, h⟩ := exists_of_firstAnswer h
    obtain ⟨b, -, h⟩ := bind_eq_ok.1 h
    cases b with
    | false => cases h
    | true =>
      cases h
      exact .inr (.inr ⟨_, hmem, rfl⟩)

/-- A rule set level without predicates finds nothing for a fault only if it cannot look up its
code. -/
theorem Rules.find_eq_error {r : Rules} (hp : r.predicates = []) {error : Caught} {f : Fault}
    (h : r.find error = .error f) : error.code.checkKey = .error f := by
  obtain ⟨ask, hask, h⟩ := exists_of_firstAnswer_error h
  simp only [List.mem_cons, List.not_mem_nil, or_false] at hask
  rcases hask with rfl | rfl | rfl
  · unfold byCode at h
    split at h
    · cases h
    · exact (bind_eq_error.1 h).resolve_right fun ⟨_, _, h⟩ => by cases h
  · cases h
  · rw [byPredicate, hp] at h
    cases h

/-- The verdict on an error is the default one, or that of a rule; of a rule for a code only if the
error carries one. -/
theorem RuleSet.Answers.classifyCaught {P Q : ErrorStatus → Prop} {s : RuleSet}
    (h : s.Answers P Q) {error : Caught} {verdict : Verdict}
    (hv : s.classifyCaught error = .ok verdict) :
    verdict = defaultVerdict ∨ ∃ status : ErrorStatus, status.resolve error.fault = .ok verdict ∧
      (Q status ∨ P status ∧ error.code.isNull = false) := by
  obtain ⟨answer, hfind, hv⟩ := bind_eq_ok.1 hv
  cases answer with
  | none => exact .inl (pure_eq_ok.1 hv).symm
  | some status =>
    refine .inr ⟨status, hv, ?_⟩
    obtain ⟨rules, hr, hfind⟩ := exists_of_firstAnswer hfind
    rcases Rules.mem_of_find hfind with ⟨hnull, e, he, rfl⟩ | ⟨e, he, rfl⟩ | ⟨e, he, rfl⟩
    · exact .inr ⟨(h rules hr).codes e he, hnull⟩
    · exact .inl ((h rules hr).classes e he)
    · exact .inl ((h rules hr).predicates e he)

/-- No rule of a rule set is a predicate. -/
def RuleSet.Plain (s : RuleSet) : Prop := ∀ r ∈ s.levels, r.predicates = []

theorem RuleSet.Plain.extend {s : RuleSet} (h : s.Plain) : s.extend.Plain :=
  List.forall_mem_cons.2 ⟨rfl, h⟩

theorem RuleSet.Plain.withCodes {s : RuleSet} (h : s.Plain) (status : ErrorStatus)
    (codes : List String) : (s.withCodes status codes).Plain :=
  List.forall_mem_cons.2 ⟨h s.own List.mem_cons_self, fun r hr => h r (List.mem_cons_of_mem _ hr)⟩

/-- Without predicates there is no verdict on an error only if its code cannot be looked up, or if a
rule cannot resolve its answer. -/
theorem RuleSet.Answers.classifyCaught_eq_error {P : ErrorStatus → Prop} {s : RuleSet}
    (hplain : s.Plain) (h : s.Answers P P) {error : Caught} {f : Fault}
    (hf : s.classifyCaught error = .error f) :
    error.code.checkKey = .error f ∨
      ∃ status : ErrorStatus, P status ∧ status.resolve error.fault = .error f := by
  rcases bind_eq_error.1 hf with hfind | ⟨answer, hfind, hf⟩
  · obtain ⟨r, hr, hfind⟩ := exists_of_firstAnswer_error hfind
    exact .inl (Rules.find_eq_error (hplain r hr) hfind)
  · cases answer with
    | none => cases hf
    | some status =>
      obtain ⟨r, hr, hfind⟩ := exists_of_firstAnswer hfind
      refine .inr ⟨status, ?_, hf⟩
      rcases Rules.mem_of_find hfind with ⟨-, e, he, rfl⟩ | ⟨e, he, rfl⟩ | ⟨e, he, rfl⟩
      · exact (h r hr).codes e he
      · exact (h r hr).classes e he
      · exact (h r hr).predicates e he

/-! ## The rules of the providers -/

theorem Resolution.resolve_of (fault : Fault) (x : Except Fault ErrorStatus) :
    (Resolution.of x).resolve fault = x >>= (·.resolve fault) := by
  cases x <;> rfl

/-- The message decides which of the two answers gives the verdict. -/
theorem ErrorStatus.resolve_ifMessageContains (text : String) (present absent : ErrorStatus)
    (fault : Fault) : (ifMessageContains text present absent).resolve fault =
      (Value.text text).occursIn fault.message >>= fun found =>
        if found then present.resolve fault else absent.resolve fault := by
  have hresolve : (ifMessageContains text present absent).resolve fault = (Resolution.of do
      if ← (Value.text text).occursIn fault.message then return present
      else return absent).resolve fault := rfl
  rw [hresolve, Resolution.resolve_of]
  cases (Value.text text).occursIn fault.message with
  | error f => rfl
  | ok found => cases found <;> rfl

/-- Whatever the fault, the verdict is to fail. -/
def ErrorStatus.Fails (status : ErrorStatus) : Prop :=
  ∀ fault verdict, status.resolve fault = .ok verdict → ∃ code, verdict = .failWith code

/-- Whatever the fault, the verdict is to fail or to come back after a delay. -/
def ErrorStatus.FailsOrRetries (delay : Value) (status : ErrorStatus) : Prop :=
  ∀ fault verdict, status.resolve fault = .ok verdict →
    (∃ code, verdict = .failWith code) ∨ verdict = .retry delay

/-- Asking for the verdict may meet a fault, but no refusal of the service. -/
def ErrorStatus.Codeless (status : ErrorStatus) : Prop :=
  ∀ fault, Provisioning.Codeless (status.resolve fault)

theorem fails_failWith (code : ErrorCode) : (ErrorStatus.failWith code).Fails :=
  fun _ _ h => ⟨code, (Except.ok.inj h).symm⟩

theorem fails_failWithOwnCode : failWithOwnCode.Fails := by
  intro fault verdict h
  cases fault <;> exact ⟨_, (Except.ok.inj h).symm⟩

theorem failsOrRetries_retryIfMessageContains (text : String) (delay : Value) :
    (Integration.retryIfMessageContains text delay).FailsOrRetries delay := by
  intro fault verdict h
  rw [Integration.retryIfMessageContains, ErrorStatus.resolve_ifMessageContains] at h
  obtain ⟨b, -, h⟩ := bind_eq_ok.1 h
  cases b with
  | true => exact .inr (Except.ok.inj h).symm
  | false => exact .inl ⟨_, (Except.ok.inj h).symm⟩

theorem codeless_failWith (code : ErrorCode) : (ErrorStatus.failWith code).Codeless :=
  fun _ => .ok _

theorem codeless_failWithOwnCode : failWithOwnCode.Codeless := by
  intro fault
  cases fault <;> exact .ok _

theorem codeless_retryIfMessageContains (text : String) (delay : Value) :
    (Integration.retryIfMessageContains text delay).Codeless := by
  intro fault
  rw [Integration.retryIfMessageContains, ErrorStatus.resolve_ifMessageContains]
  refine (Value.codeless_occursIn _ _).bind fun b => ?_
  cases b <;> exact .ok _

section
variable {P Q : ErrorStatus → Prop}

/-- What is true of every way to fail is true of the rules that all resources share. -/
theorem answers_serviceRules (hp : ∀ code, P (.failWith code)) (hq : ∀ code, Q (.failWith code))
    (hown : Q failWithOwnCode) : serviceRules.Answers P Q :=
  RuleSet.Answers.empty
    |>.withCodes (hp _) _
    |>.withCodes (hp _) _
    |>.withCodes (hp _) _
    |>.withCodes (hp _) _
    |>.withClasses (hq _) _
    |>.withClasses (hq _) _
    |>.withClasses hown _

theorem Integration.answers_rules (delay : Value) (hp : ∀ code, P (.failWith code))
    (hretry : ∀ text, P (retryIfMessageContains text delay)) (hq : ∀ code, Q (.failWith code))
    (hown : Q failWithOwnCode) : (Integration.rules delay).Answers P Q :=
  (answers_serviceRules hp hq hown).extend
    |>.withCodes (hp _) _
    |>.withCodes (hp _) _
    |>.withCodes (hp _) _
    |>.withCodes (hp _) _
    |>.withCodes (hretry _) _
    |>.withCodes (hretry _) _

theorem ParameterGroup.answers_rules (hp : ∀ code, P (.failWith code))
    (hq : ∀ code, Q (.failWith code)) (hown : Q failWithOwnCode) :
    ParameterGroup.rules.Answers P Q :=
  (answers_serviceRules hp hq hown).extend
    |>.withCodes (hp _) _
    |>.withCodes (hp _) _
    |>.withCodes (hp _) _
    |>.withCodes (hp _) _

end

/-- A fault of an integration fails, or comes back after the delay; the latter only if it carries a
code of the service. -/
theorem Integration.classify_cases {delay : Value} {fault : Fault} {verdict : Verdict}
    (h : (Integration.rules delay).classify fault = .ok verdict) :
    (∃ code, verdict = .failWith code) ∨
      verdict = .retry delay ∧ fault.serviceCode.isNull = false := by
  have hanswers : (rules delay).Answers (ErrorStatus.FailsOrRetries delay) ErrorStatus.Fails :=
    answers_rules delay (fun code _ _ h => .inl (fails_failWith code _ _ h))
      (failsOrRetries_retryIfMessageContains · delay) fails_failWith fails_failWithOwnCode
  rcases hanswers.classifyCaught h with rfl | ⟨status, hv, hstatus | ⟨hstatus, hnull⟩⟩
  · exact .inl ⟨_, rfl⟩
  · exact .inl (hstatus fault verdict hv)
  · exact (hstatus fault verdict hv).imp_right (⟨·, hnull⟩)

/-- A fault of a parameter group fails. -/
theorem ParameterGroup.classify_cases {fault : Fault} {verdict : Verdict}
    (h : ParameterGroup.rules.classify fault = .ok verdict) :
    ∃ code, verdict = .failWith code := by
  rcases (answers_rules fails_failWith fails_failWith fails_failWithOwnCode).classifyCaught h with
    rfl | ⟨status, hv, hstatus | ⟨hstatus, -⟩⟩
  · exact ⟨_, rfl⟩
  · exact hstatus fault verdict hv
  · exact hstatus fault verdict hv

theorem Integration.plain_rules (delay : Value) : (Integration.rules delay).Plain :=
  List.forall_mem_cons.2 ⟨rfl, List.forall_mem_cons.2 ⟨rfl, fun _ hr => absurd hr List.not_mem_nil⟩⟩

theorem ParameterGroup.plain_rules : ParameterGroup.rules.Plain :=
  List.forall_mem_cons.2 ⟨rfl, List.forall_mem_cons.2 ⟨rfl, fun _ hr => absurd hr List.not_mem_nil⟩⟩

/-- Classifying a fault may meet another fault, but no refusal of the service. -/
theorem RuleSet.Answers.codeless_classify {s : RuleSet} (hplain : s.Plain)
    (h : s.Answers ErrorStatus.Codeless ErrorStatus.Codeless) (fault : Fault) :
    Codeless (s.classify fault) := fun f hf => by
  rcases h.classifyCaught_eq_error hplain hf with hkey | ⟨status, hstatus, hf⟩
  · exact Value.codeless_checkKey _ f hkey
  · exact hstatus fault f hf

theorem Integration.codeless_classify (delay : Value) (fault : Fault) :
    Codeless ((Integration.rules delay).classify fault) :=
  (answers_rules delay codeless_failWith (codeless_retryIfMessageContains · delay)
    codeless_failWith codeless_failWithOwnCode).codeless_classify (plain_rules delay) fault

end Provisioning
