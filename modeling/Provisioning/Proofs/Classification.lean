import Provisioning.Proofs.Event
import Provisioning.Proofs.RuleSets

/-!
# Which errors get which verdict

The rules of a provider are those that every resource shares and, in front of them, its own rules
for codes of the service. An error without a code is one that only the shared rules know, so a
handler fault fails with its own code under each provider (`classifyCaught_handler`); an error that
no rule of any level is for gets the default verdict (`RuleSet.Plain.classifyCaught_unknown`).

Of the rules for integrations only those of the two conflicts that pass on their own can ask to come
back. `Integration.classifyCaught_retry_iff` says for which errors they do; every other error fails.
-/

set_option autoImplicit false

namespace Provisioning

/-! ## Rules for codes -/

namespace RuleSet

variable {s : RuleSet} {error : Caught}

/-- A rule for codes of the service answers for an error with one of them. -/
theorem findCaught_withCodes_of_mem (status : ErrorStatus) {codes : List String} {code : String}
    (hcode : error.code = .text code) (hmem : code ∈ codes) :
    (s.withCodes status codes).findCaught error = .ok (some status) := by
  refine findCaught_register_of_decides (r := .codes status (codes.map .text)) (.code ?_ ?_ ?_)
  · rw [hcode]; rfl
  · rw [hcode]; rfl
  · rw [hcode]
    exact List.any_eq_true.2 ⟨.text code, List.mem_map_of_mem hmem, BEq.rfl⟩

/-- A rule for codes of the service does not count for an error with another code or with none. -/
theorem findCaught_withCodes_of_not_mem (status : ErrorStatus) {codes : List String}
    (hcode : ∀ code ∈ codes, error.code ≠ .text code) :
    (s.withCodes status codes).findCaught error = s.findCaught error := by
  refine findCaught_register_of_spares (r := .codes status (codes.map .text)) (.otherCode ?_)
  rw [List.any_eq_false]
  intro key hkey hsame
  obtain ⟨code, hmem, rfl⟩ := List.mem_map.1 hkey
  exact hcode code hmem (Value.beq_text_iff.1 (BEq.symm hsame))

/-- No rule for codes counts for an error without a code. -/
theorem findCaught_withCodes_of_null (status : ErrorStatus) (codes : List String)
    (hnull : error.code = .null) :
    (s.withCodes status codes).findCaught error = s.findCaught error :=
  findCaught_withCodes_of_not_mem status fun _ _ hcode => nomatch hnull.symm.trans hcode

/-- A rule for error classes answers for an error without a code if one of its classes comes before
every class that has a rule already. -/
theorem findCaught_withClasses_of_nearest (status : ErrorStatus)
    {classes before after : List String} {name : String} (hnull : error.code = .null)
    (hlineage : error.lineage = before ++ name :: after) (hname : name ∈ classes)
    (hbefore : ∀ c ∈ before, ¬(s.withClasses status classes).own.classes.has c = true) :
    (s.withClasses status classes).findCaught error = .ok (some status) := by
  have hcode : s.own.byCode error = .ok none := by rw [Rules.byCode, hnull]; rfl
  refine findCaught_register_of_decides (r := .classes status classes)
    (.nearestClass hcode hlineage hname fun c hc => ?_)
  have hnone := Entries.get?_eq_none_iff.2 (Bool.eq_false_iff.2 (hbefore c hc))
  have hget := @Registration.get?_register_classes s status classes c
  rw [register, hnone] at hget
  split at hget
  · cases hget
  · exact ⟨Entries.get?_eq_none_iff.1 hget.symm, ‹_›⟩

/-- A code that cannot be looked up keeps the error from a verdict. -/
theorem classifyCaught_of_not_isKey (hkey : error.code.isKey = false) :
    s.classifyCaught error =
      .error (.wrongType ("unhashable type: '" ++ error.code.kind ++ "'")) := by
  have hnull : error.code.isNull = false := by
    cases hcode : error.code <;> first | rfl | (rw [hcode] at hkey; cases hkey)
  have hfind : s.own.find error =
      .error (.wrongType ("unhashable type: '" ++ error.code.kind ++ "'")) := by
    refine Rules.find_of_byCode_error ?_
    simp only [Rules.byCode, hnull, Value.checkKey, hkey]
    rfl
  rw [classifyCaught, findCaught_eq, hfind]
  rfl

/-! ## Errors that no rule is for -/

/-- A rule set has a rule for a code. -/
def KnowsCode (s : RuleSet) (code : Value) : Prop := ∃ r ∈ s.levels, r.codes.has code = true

/-- A rule set has a rule for an error class. -/
def KnowsClass (s : RuleSet) (name : String) : Prop := ∃ r ∈ s.levels, r.classes.has name = true

theorem firstAnswer_eq_none {α : Type} {ask : α → Except Fault (Option ErrorStatus)}
    {rules : List α} (h : ∀ rule ∈ rules, ask rule = .ok none) :
    firstAnswer ask rules = .ok none := by
  induction rules with
  | nil => rfl
  | cons rule rules ih =>
    obtain ⟨hrule, hrules⟩ := List.forall_mem_cons.1 h
    rw [firstAnswer, hrule]
    exact ih hrules

/-- Without predicates, an error whose code can be looked up and that no rule is for gets the
default verdict. -/
theorem Plain.classifyCaught_unknown (hplain : s.Plain) (hkey : error.code.isKey = true)
    (hcode : ¬s.KnowsCode error.code) (hclass : ∀ name ∈ error.lineage, ¬s.KnowsClass name) :
    s.classifyCaught error = .ok defaultVerdict := by
  have hfind : s.findCaught error = .ok none := by
    refine firstAnswer_eq_none fun r hr => firstAnswer_eq_none fun ask hask => ?_
    simp only [List.mem_cons, List.not_mem_nil, or_false] at hask
    rcases hask with rfl | rfl | rfl
    · have hnone : r.codes.get? error.code = none :=
        Entries.get?_eq_none_iff.2 (Bool.eq_false_iff.2 fun hhas => hcode ⟨r, hr, hhas⟩)
      unfold Rules.byCode
      split
      · rfl
      · rw [Value.checkKey, if_pos hkey, hnone]
        rfl
    · refine congrArg _ (List.findSome?_eq_none_iff.2 fun name hname => ?_)
      exact Entries.get?_eq_none_iff.2
        (Bool.eq_false_iff.2 fun hhas => hclass name hname ⟨r, hr, hhas⟩)
    · rw [Rules.byPredicate, hplain r hr]
      rfl
  rw [classifyCaught, hfind]
  rfl

end RuleSet

/-! ## Handler faults -/

/-- The error classes that the shared rules are for. -/
theorem serviceRules_knowsClass_iff {name : String} : serviceRules.KnowsClass name ↔
    name ∈ ["ParamValidationError", "ConnectionError", "HTTPClientError",
      HandlerFault.baseClass] := by
  have hhas : serviceRules.own.classes.has name = true ↔
      name ∈ ["ParamValidationError", "ConnectionError", "HTTPClientError",
        HandlerFault.baseClass] := by
    rw [Entries.has_eq_any_keys, List.any_eq_true]
    simp only [beq_iff_eq, exists_eq_right]
    rfl
  rw [← hhas]
  refine ⟨fun ⟨r, hr, hname⟩ => ?_, fun h => ⟨_, List.mem_singleton_self _, h⟩⟩
  rwa [List.mem_singleton.1 hr] at hname

/-- An error of a handler, of the class of all handler faults or of one below it, which carries no
code and has no class on the way there that the shared rules are for. -/
structure Caught.HandledBy (error : Caught) (fault : HandlerFault) : Prop where
  code : error.code = .null
  fault : error.fault = .handler fault
  lineage : ∃ before after, error.lineage = before ++ HandlerFault.baseClass :: after ∧
    ∀ name ∈ before, ¬serviceRules.KnowsClass name

theorem HandlerFault.handledBy (f : HandlerFault) : (Fault.caught (.handler f)).HandledBy f where
  code := rfl
  fault := rfl
  lineage := by
    by_cases hbase : f.className = baseClass
    · refine ⟨[], [rootClass], ?_, nofun⟩
      show f.lineage ++ [rootClass] = _
      rw [lineage, if_pos hbase]
      rfl
    · refine ⟨[f.className], [rootClass], ?_, fun name hname => ?_⟩
      · show f.lineage ++ [rootClass] = _
        rw [lineage, if_neg hbase]
        rfl
      · rw [List.mem_singleton.1 hname, serviceRules_knowsClass_iff]
        cases f with
        | other => exact absurd rfl hbase
        | _ => simp [className, baseClass]

theorem serviceRules_findCaught_handler {error : Caught} {fault : HandlerFault}
    (h : error.HandledBy fault) : serviceRules.findCaught error = .ok (some failWithOwnCode) := by
  obtain ⟨before, after, hlineage, hbefore⟩ := h.lineage
  refine RuleSet.findCaught_withClasses_of_nearest _ h.code hlineage (List.mem_singleton_self _)
    fun name hname hknown => hbefore name hname ⟨_, List.mem_singleton_self _, hknown⟩

/-- A handler fault fails with its own code under the rules of a provider: the shared rules and
rules for codes. -/
theorem classifyCaught_handler {s : RuleSet} {error : Caught} {fault : HandlerFault}
    (h : error.HandledBy fault) (hs : s.findCaught error = serviceRules.findCaught error) :
    s.classifyCaught error = .ok (.failWith fault.code) := by
  rw [RuleSet.classifyCaught, hs, serviceRules_findCaught_handler h]
  show failWithOwnCode.resolve error.fault = _
  rw [h.fault]
  rfl

theorem ParameterGroup.classify_handler (fault : HandlerFault) :
    rules.classify (.handler fault) = .ok (.failWith fault.code) := by
  refine classifyCaught_handler fault.handledBy ?_
  have hnull : (Fault.caught (.handler fault)).code = .null := rfl
  simp only [rules, RuleSet.findCaught_withCodes_of_null _ _ hnull, RuleSet.findCaught_extend]

theorem ParameterGroup.recover_handler (e : Event) (fault : HandlerFault) :
    recover e (.handler fault) =
      .ok (.failed e.model e.context fault.code (Fault.message (.handler fault))) :=
  Event.ofFault_handler (classify_handler fault) e

namespace Integration

variable {delay : Value} {error : Caught}

/-! ## Integrations -/

/-- The conflicts that pass on their own: the code of the service, and the text that tells them in
the message from the conflicts of this code that stay. -/
def passingConflicts : List (String × String) :=
  [("IntegrationConflictOperationFault", conflictMessage),
   ("InvalidIntegrationStateFault", invalidStateMessage)]

/-- The rules for integrations without those of the conflicts that may pass. -/
def lastingRules : RuleSet :=
  serviceRules.extend
    |>.withCodes (.failWith .alreadyExists) ["IntegrationAlreadyExistsFault"]
    |>.withCodes (.failWith .notFound) ["IntegrationNotFoundFault"]
    |>.withCodes (.failWith .serviceLimitExceeded) ["IntegrationQuotaExceededFault"]
    |>.withCodes (.failWith .accessDenied) ["KMSKeyNotAccessibleFault"]

theorem rules_eq (delay : Value) : rules delay =
    ((lastingRules.withCodes (retryIfMessageContains conflictMessage delay)
      ["IntegrationConflictOperationFault"]).withCodes
        (retryIfMessageContains invalidStateMessage delay) ["InvalidIntegrationStateFault"]) := rfl

theorem findCaught_handler {fault : HandlerFault} (h : error.HandledBy fault) :
    (rules delay).findCaught error = serviceRules.findCaught error := by
  simp only [rules, RuleSet.findCaught_withCodes_of_null _ _ h.code, RuleSet.findCaught_extend]

theorem classify_handler (delay : Value) (fault : HandlerFault) :
    (rules delay).classify (.handler fault) = .ok (.failWith fault.code) :=
  classifyCaught_handler fault.handledBy (findCaught_handler fault.handledBy)

theorem recover_handler (s : Settings) (e : Event) (fault : HandlerFault) :
    recover s e (.handler fault) =
      .ok (.failed e.model e.context fault.code (Fault.message (.handler fault))) :=
  Event.ofFault_handler (classify_handler s.callbackDelay fault) e

/-- For the codes of the two conflicts the message decides. -/
theorem findCaught_conflict {conflict : String × String} (hmem : conflict ∈ passingConflicts)
    (hcode : error.code = .text conflict.1) : (rules delay).findCaught error =
      .ok (some (retryIfMessageContains conflict.2 delay)) := by
  rw [rules_eq]
  simp only [passingConflicts, List.mem_cons, List.not_mem_nil, or_false] at hmem
  rcases hmem with rfl | rfl
  · rw [RuleSet.findCaught_withCodes_of_not_mem,
      RuleSet.findCaught_withCodes_of_mem _ hcode (List.mem_singleton_self _)]
    simp [hcode]
  · exact RuleSet.findCaught_withCodes_of_mem _ hcode (List.mem_singleton_self _)

/-- For every other error those two rules do not count. -/
theorem findCaught_other
    (hcode : ∀ conflict ∈ passingConflicts, error.code ≠ .text conflict.1) :
    (rules delay).findCaught error = lastingRules.findCaught error := by
  obtain ⟨hbusy, hinvalid, -⟩ : error.code ≠ .text "IntegrationConflictOperationFault" ∧
      error.code ≠ .text "InvalidIntegrationStateFault" ∧ True := by
    simpa [passingConflicts] using hcode
  rw [rules_eq, RuleSet.findCaught_withCodes_of_not_mem _ (by simpa using hinvalid),
    RuleSet.findCaught_withCodes_of_not_mem _ (by simpa using hbusy)]

/-- What is true of every way to fail is true of the lasting rules. -/
theorem answers_lastingRules {P : ErrorStatus → Prop} (hp : ∀ code, P (.failWith code))
    (hown : P failWithOwnCode) : lastingRules.Answers P P :=
  (answers_serviceRules hp hp hown).extend
    |>.withCodes (hp _) _
    |>.withCodes (hp _) _
    |>.withCodes (hp _) _
    |>.withCodes (hp _) _

theorem plain_lastingRules : lastingRules.Plain :=
  List.forall_mem_cons.2 ⟨rfl, List.forall_mem_cons.2 ⟨rfl, fun _ hr => absurd hr List.not_mem_nil⟩⟩

/-- The lasting rules always fail. -/
theorem fails_of_lastingRules {verdict : Verdict}
    (h : lastingRules.classifyCaught error = .ok verdict) : ∃ code, verdict = .failWith code := by
  rcases (answers_lastingRules fails_failWith fails_failWithOwnCode).classifyCaught h with
    rfl | ⟨status, hv, hstatus | ⟨hstatus, -⟩⟩
  · exact ⟨_, rfl⟩
  · exact hstatus error.fault verdict hv
  · exact hstatus error.fault verdict hv

/-- The lasting rules have a verdict on every error whose code can be looked up. -/
theorem exists_of_lastingRules (hkey : error.code.isKey = true) :
    ∃ verdict, lastingRules.classifyCaught error = .ok verdict := by
  have hanswers := answers_lastingRules
    (P := fun status => ∀ fault, ∃ verdict, status.resolve fault = .ok verdict)
    (fun code _ => ⟨.failWith code, rfl⟩) fun fault => by cases fault <;> exact ⟨_, rfl⟩
  cases hverdict : lastingRules.classifyCaught error with
  | ok verdict => exact ⟨verdict, rfl⟩
  | error f =>
    rcases hanswers.classifyCaught_eq_error plain_lastingRules hverdict with h | ⟨_, hends, h⟩
    · rw [Value.checkKey, if_pos hkey] at h
      cases h
    · obtain ⟨verdict, hv⟩ := hends error.fault
      rw [hv] at h
      cases h

/-- The verdict on an error that has the code of a conflict depends on the text of the conflict in
its message. -/
theorem classifyCaught_conflict {conflict : String × String} (hmem : conflict ∈ passingConflicts)
    (hcode : error.code = .text conflict.1) : (rules delay).classifyCaught error =
      (Value.text conflict.2).occursIn error.fault.message >>= fun found =>
        .ok (if found then .retry delay else .failWith .resourceConflict) := by
  rw [RuleSet.classifyCaught, findCaught_conflict hmem hcode]
  show (retryIfMessageContains conflict.2 delay).resolve error.fault = _
  rw [retryIfMessageContains, ErrorStatus.resolve_ifMessageContains]
  congr 1
  funext found
  cases found <;> rfl

theorem classifyCaught_other
    (hcode : ∀ conflict ∈ passingConflicts, error.code ≠ .text conflict.1) :
    (rules delay).classifyCaught error = lastingRules.classifyCaught error := by
  rw [RuleSet.classifyCaught, RuleSet.classifyCaught, findCaught_other hcode]

/-- An error reports a conflict that passes on its own: it has the code and the text of one. -/
def Passes (error : Caught) : Prop :=
  ∃ conflict ∈ passingConflicts, error.code = .text conflict.1 ∧
    (Value.text conflict.2).occursIn error.fault.message = .ok true

/-- An error is retried exactly if it reports a conflict that passes on its own, and only after the
delay of the rules. -/
theorem classifyCaught_retry_iff {wait : Value} :
    (rules delay).classifyCaught error = .ok (.retry wait) ↔ wait = delay ∧ Passes error := by
  constructor
  · intro h
    by_cases hcode : ∃ conflict ∈ passingConflicts, error.code = .text conflict.1
    · obtain ⟨conflict, hmem, hcode⟩ := hcode
      rw [classifyCaught_conflict hmem hcode] at h
      obtain ⟨found, hfound, h⟩ := bind_eq_ok.1 h
      cases found with
      | false => cases h
      | true =>
        cases h
        exact ⟨rfl, conflict, hmem, hcode, hfound⟩
    · rw [classifyCaught_other fun conflict hmem h => hcode ⟨conflict, hmem, h⟩] at h
      obtain ⟨code, hfails⟩ := fails_of_lastingRules h
      cases hfails
  · rintro ⟨rfl, conflict, hmem, hcode, hfound⟩
    rw [classifyCaught_conflict hmem hcode, hfound]
    rfl

/-- No error of an integration is ignored. -/
theorem classifyCaught_ne_ignore : (rules delay).classifyCaught error ≠ .ok .ignore := by
  intro h
  have hanswers : (rules delay).Answers (ErrorStatus.FailsOrRetries delay) ErrorStatus.Fails :=
    answers_rules delay (fun code _ _ h => .inl (fails_failWith code _ _ h))
      (failsOrRetries_retryIfMessageContains · delay) fails_failWith fails_failWithOwnCode
  rcases hanswers.classifyCaught h with hv | ⟨status, hv, hstatus | ⟨hstatus, -⟩⟩
  · cases hv
  · obtain ⟨code, hfails⟩ := hstatus error.fault _ hv
    cases hfails
  · rcases hstatus error.fault _ hv with ⟨code, hfails⟩ | hretries
    · cases hfails
    · cases hretries

/-- There is a verdict on an error exactly if its code can be looked up and, if this is the code of
a conflict that may pass, its message can be searched. -/
theorem exists_classifyCaught_iff : (∃ verdict, (rules delay).classifyCaught error = .ok verdict) ↔
    error.code.isKey = true ∧ ∀ conflict ∈ passingConflicts, error.code = .text conflict.1 →
      ∃ found, (Value.text conflict.2).occursIn error.fault.message = .ok found := by
  constructor
  · rintro ⟨verdict, h⟩
    refine ⟨?_, fun conflict hmem hcode => ?_⟩
    · cases hkey : error.code.isKey with
      | true => rfl
      | false =>
        rw [RuleSet.classifyCaught_of_not_isKey hkey] at h
        cases h
    · rw [classifyCaught_conflict hmem hcode] at h
      obtain ⟨found, hfound, -⟩ := bind_eq_ok.1 h
      exact ⟨found, hfound⟩
  · rintro ⟨hkey, hsearch⟩
    by_cases hcode : ∃ conflict ∈ passingConflicts, error.code = .text conflict.1
    · obtain ⟨conflict, hmem, hcode⟩ := hcode
      obtain ⟨found, hfound⟩ := hsearch conflict hmem hcode
      rw [classifyCaught_conflict hmem hcode, hfound]
      exact ⟨_, rfl⟩
    · rw [classifyCaught_other fun conflict hmem h => hcode ⟨conflict, hmem, h⟩]
      exact exists_of_lastingRules hkey

/-- A fault reports a conflict that passes on its own exactly if it is a refusal of the service with
the code and the text of one. -/
theorem passes_caught_iff {fault : Fault} : Passes fault.caught ↔
    ∃ refusal, fault = .service refusal ∧ ∃ conflict ∈ passingConflicts,
      refusal.code = some (.text conflict.1) ∧
        (Value.text conflict.2).occursIn fault.message = .ok true := by
  constructor
  · rintro ⟨conflict, hmem, hcode, hfound⟩
    cases fault with
    | service refusal =>
      refine ⟨refusal, rfl, conflict, hmem, ?_, hfound⟩
      have hsent : refusal.code.getD .null = .text conflict.1 := hcode
      cases hc : refusal.code with
      | none => rw [hc] at hsent; cases hsent
      | some code => rw [hc] at hsent; exact congrArg some hsent
    | _ => cases hcode
  · rintro ⟨refusal, rfl, conflict, hmem, hcode, hfound⟩
    refine ⟨conflict, hmem, ?_, hfound⟩
    show refusal.code.getD .null = _
    rw [hcode]
    rfl

/-- The verdicts on errors of an integration. An error, of whatever class, is retried exactly if it
reports a conflict that passes on its own, only after the delay of the rules, and is never ignored.
There is a verdict unless a code or a message does not have the shape to be asked about. An error of
a handler fails with its own code, and one that no rule is for is an internal failure. -/
theorem classify_verdicts (delay : Value) :
    (∀ error wait, (rules delay).classifyCaught error = .ok (.retry wait) ↔
      wait = delay ∧ Passes error) ∧
    (∀ error, (rules delay).classifyCaught error ≠ .ok .ignore) ∧
    (∀ error, (∃ verdict, (rules delay).classifyCaught error = .ok verdict) ↔
      error.code.isKey = true ∧ ∀ conflict ∈ passingConflicts, error.code = .text conflict.1 →
        ∃ found, (Value.text conflict.2).occursIn error.fault.message = .ok found) ∧
    (∀ error fault, error.HandledBy fault →
      (rules delay).classifyCaught error = .ok (.failWith fault.code)) ∧
    (∀ error, error.code.isKey = true → ¬(rules delay).KnowsCode error.code →
      (∀ name ∈ error.lineage, ¬(rules delay).KnowsClass name) →
      (rules delay).classifyCaught error = .ok (.failWith .internalFailure)) ∧
    (∀ fault wait, (rules delay).classify fault = .ok (.retry wait) ↔ wait = delay ∧
      ∃ refusal, fault = .service refusal ∧ ∃ conflict ∈ passingConflicts,
        refusal.code = some (.text conflict.1) ∧
          (Value.text conflict.2).occursIn fault.message = .ok true) ∧
    ∀ fault, (rules delay).classify (.handler fault) = .ok (.failWith fault.code) :=
  ⟨fun _ _ => classifyCaught_retry_iff, fun _ => classifyCaught_ne_ignore,
    fun _ => exists_classifyCaught_iff,
    fun _ _ h => classifyCaught_handler h (findCaught_handler h),
    fun _ => (plain_rules delay).classifyCaught_unknown,
    fun _ _ => classifyCaught_retry_iff.trans (and_congr_right' passes_caught_iff),
    classify_handler delay⟩

/-- A warehouse that is busy, as a class of its own below the refusals of the service, and an error
of the interpreter. -/
theorem classify_verdicts_busyWarehouse :
    let busy : Caught :=
      { code := .text "IntegrationConflictOperationFault"
        lineage := ["IntegrationConflictOperationFault", "ClientError", rootClass]
        fault := .service ⟨some (.text "IntegrationConflictOperationFault"),
          some (.text conflictMessage), "CreateIntegration", none⟩ }
    (rules (.int 6)).classifyCaught busy = .ok (.retry (.int 6)) ∧
      (rules (.int 6)).classifyCaught (Fault.ofClass "TimeoutError" "late").caught =
        .ok (.failWith .internalFailure) := by
  obtain ⟨hretry, -, -, -, hunknown, -, -⟩ := classify_verdicts (.int 6)
  have htruthy : (Value.text conflictMessage).truthy = true := by decide +kernel
  refine ⟨(hretry _ _).2 ⟨rfl, _, List.mem_cons_self, rfl, ?_⟩, hunknown _ rfl ?_ ?_⟩
  · simp only [Fault.message, Value.orElse, htruthy, if_true, Value.occursIn, Text.contains_self]
  · rintro ⟨r, hr, hhas⟩
    revert r
    decide
  · rintro name hname ⟨r, hr, hhas⟩
    revert r name
    decide

end Integration

end Provisioning
