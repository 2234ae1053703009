import Provisioning.Proofs.Classification
import Provisioning.Proofs.ParameterGroup.Rollback
import Provisioning.Proofs.Wording

/-!
# Parameters are checked first and changed in full batches

What a change of parameters does is stated in terms of the reports of the service alone: the last
report about a parameter counts (`reportOf`). The mapping that is read from the pages says the same
(`Reads.of_listed`), so does every question that is put to it.

If a declared parameter is unknown or cannot be changed to its value, nothing is changed
(`validate_invalid`). Else the parameters that are no longer declared are reset and those that
differ are set, in batches that are full but for the last ones (`Batched`). The requests are sent
one after another until one is refused (`SentInOrder`), and a refusal ends the operation
(`parameterStep_sends`).
-/

set_option autoImplicit false

namespace Provisioning

/-- The batches of a list: none is empty or larger than the size, and all but the last are full. -/
structure Batched {α : Type} (size : Nat) (items : List α) (parts : List (List α)) : Prop where
  joined : parts.flatten = items
  bounded : ∀ part ∈ parts, 1 ≤ part.length ∧ part.length ≤ size
  full : ∀ part ∈ parts.dropLast, part.length = size

theorem batched_batches {α : Type} {size : Nat} (hsize : 0 < size) (items : List α) :
    Batched size items (batches size items) where
  joined := flatten_batches size items
  bounded _ hpart :=
    ⟨List.length_pos_iff.2 (ne_nil_of_mem_batches hpart), length_le_of_mem_batches hsize hpart⟩
  full _ hpart := length_of_mem_dropLast_batches hsize hpart

/-! ## Requests one after another -/

/-- Requests are sent in order until one is refused: what is exchanged, and what this ends in. -/
inductive SentInOrder : List Call → History → Except Fault Unit → Prop
  | done : SentInOrder [] [] (.ok ())
  | accepted {request : Call} {requests : List Call} {response : Value} {h : History}
      {result : Except Fault Unit} : SentInOrder requests h result →
      SentInOrder (request :: requests) (.called request (.ok response) :: h) result
  | refused {request : Call} {requests : List Call} {fault : Fault} :
      SentInOrder (request :: requests) [.called request (.error fault)] (.error fault)

namespace Handler

/-- Sends a request of which only the acceptance counts. -/
def send (request : Call) : Handler Unit := do
  let _ ← call request.operation request.arguments

variable {s s' : Session} {h : History} {request : Call} {requests : List Call}
  {r : Except Fault Unit}

theorem yields_send (hy : (send request).Yields s h r s') :
    ∃ answer, h = [.called request answer] ∧ r = answer.map (fun _ => ()) ∧ s' = s := by
  rcases yields_bind.1 hy with ⟨f, hcall, rfl⟩ | ⟨h₁, response, s₁, h₂, hcall, hpure, rfl⟩
  · obtain ⟨rfl, rfl⟩ := yields_call.1 hcall
    exact ⟨.error f, rfl, rfl, rfl⟩
  · obtain ⟨rfl, rfl⟩ := yields_call.1 hcall
    obtain ⟨rfl, rfl, rfl⟩ := yields_pure.1 hpure
    exact ⟨.ok response, rfl, rfl, rfl⟩

theorem sentInOrder_of_yields (hy : (requests.forM send).Yields s h r s') :
    SentInOrder requests h r ∧ s' = s := by
  induction requests generalizing s h with
  | nil =>
    obtain ⟨rfl, rfl, rfl⟩ := yields_pure.1 hy
    exact ⟨.done, rfl⟩
  | cons request requests ih =>
    rcases yields_bind.1 hy with ⟨f, hsend, rfl⟩ | ⟨h₁, _, s₁, h₂, hsend, hrest, rfl⟩
    · obtain ⟨answer, rfl, hanswer, rfl⟩ := yields_send hsend
      cases answer with
      | ok response => cases hanswer
      | error fault =>
        cases hanswer
        exact ⟨.refused, rfl⟩
    · obtain ⟨answer, rfl, hanswer, rfl⟩ := yields_send hsend
      cases answer with
      | error fault => cases hanswer
      | ok response =>
        obtain ⟨hsends, rfl⟩ := ih hrest
        exact ⟨.accepted hsends, rfl⟩

end Handler

namespace ParameterGroup

open Handler

/-! ## Reports -/

/-- A report about one parameter. -/
abbrev Report := Entries String Value

/-- Whether a field of a report is a text. -/
def Report.shows (report : Report) (field text : String) : Bool :=
  (report.get? field).any (· == .text text)

/-- Pages list reports, each of which names its parameter. -/
def Listed (answers : List Answer) (reports : List Report) : Prop :=
  (∃ pages : List (Value × List Report), answers = pages.map (fun p => .ok p.1) ∧
      (∀ p ∈ pages, Family.PageOf p.1 (p.2.map .map)) ∧ pages.flatMap (·.2) = reports) ∧
    ∀ report ∈ reports, ∃ name, report.get? "ParameterName" = some (.text name)

section
variable (reports : List Report)

/-- The report about a parameter: of several ones the last. -/
def reportOf (name : String) : Option Report :=
  reports.reverse.find? fun report => report.shows "ParameterName" name

/-- Whether a parameter has a declared value already. -/
def hasValue (name : String) (value : Value) : Bool :=
  (reportOf reports name).any fun report => report.shows "ParameterValue" value.display

/-- Whether a parameter is reported as one that cannot be changed; else it can be. -/
def isFixed (name : String) : Bool :=
  (reportOf reports name).any fun report => (report.get? "IsModifiable").any (!·.truthy)

/-- How a change of a parameter is applied. -/
def methodOf (name : String) : String :=
  if (reportOf reports name).any fun report => report.shows "ApplyType" "dynamic" then "immediate"
  else "pending-reboot"

/-- The declared names without a report. -/
def unknown (after : Entries String Value) : List String :=
  after.keys.filter fun name => (reportOf reports name).isNone

/-- The declared parameters that cannot be changed to their values. -/
def readOnly (after : Entries String Value) : Entries String Value :=
  after.filter fun p => isFixed reports p.1 && !hasValue reports p.1 p.2

/-- A declared parameter is unknown, or cannot be changed to its value. -/
def Invalid (after : Entries String Value) : Prop :=
  ∃ p ∈ after, reportOf reports p.1 = none ∨
    (isFixed reports p.1 = true ∧ hasValue reports p.1 p.2 = false)

/-- What is said about such parameters; unknown ones go first. -/
def complaint (after : Entries String Value) : String :=
  if (unknown reports after).isEmpty then
    "Invalid / Unmodifiable / Unsupported DB Parameter: "
      ++ String.intercalate ", " (readOnly reports after).keys
  else "Invalid / Unsupported DB Parameter: " ++ String.intercalate ", " (unknown reports after)

/-- The declared parameters with another value than the reported one. -/
def changed (after : Entries String Value) : Entries String Value :=
  after.filter fun p => !hasValue reports p.1 p.2

/-- The names that are no longer declared. -/
def dropped (before after : Entries String Value) : List String :=
  before.keys.filter fun name => !after.has name

/-- The request that resets some parameters of a group. -/
def resetRequest (group : Value) (names : List String) : Call :=
  ⟨"reset_db_parameter_group",
    itemsOf group (names.map fun name => resetItem (.text name) (methodOf reports name))⟩

/-- The request that sets some parameters of a group. -/
def setRequest (group : Value) (parameters : Entries String Value) : Call :=
  ⟨"modify_db_parameter_group",
    itemsOf group (parameters.map fun p => setItem p.1 p.2 (methodOf reports p.1))⟩

/-- What is read from the reports says the same as the reports. -/
def Reads (current : Reported) : Prop :=
  ∀ name, current.get? (.text name) = (reportOf reports name).map .map

end

variable {reports : List Report} {before after : Entries String Value} {current : Reported}
  {group : Value} {e : Event} {s s' : Session} {h : History}

theorem Report.get_beq_text (report : Report) (field text : String) :
    ((report.get? field).getD .null == .text text) = report.shows field text := by
  unfold shows
  cases report.get? field with
  | none => exact Bool.eq_false_iff.2 fun h => nomatch Value.beq_text_iff.1 h
  | some v => rfl

/-! ## Reading the reports -/

theorem reportOf_cons (report : Report) (name : String) :
    reportOf (report :: reports) name =
      (reportOf reports name).or
        (if report.shows "ParameterName" name then some report else none) := by
  unfold reportOf
  rw [List.reverse_cons, List.find?_append]
  congr 1
  cases hshows : report.shows "ParameterName" name <;> simp [hshows]

/-- Reading a report puts it in the place of an earlier one about the same parameter. -/
theorem get?_foldlM_addReported (current : Reported)
    (hnames : ∀ report ∈ reports, ∃ name, report.get? "ParameterName" = some (.text name)) :
    ∃ read, (reports.map .map).foldlM addReported current = .ok read ∧
      ∀ name, read.get? (.text name) =
        ((reportOf reports name).map .map).or (current.get? (.text name)) := by
  induction reports generalizing current with
  | nil => exact ⟨current, rfl, fun _ => rfl⟩
  | cons report reports ih =>
    obtain ⟨⟨own, hown⟩, hnames⟩ := List.forall_mem_cons.1 hnames
    have hadd : addReported current (.map report) =
        .ok (current.insert (.text own) (.map report)) := by
      simp [addReported, Value.require, hown, Value.checkKey, Value.isKey, bind, Except.bind, pure,
        Except.pure]
    obtain ⟨read, hread, hget⟩ := ih (current.insert (.text own) (.map report)) hnames
    refine ⟨read, ?_, fun name => ?_⟩
    · rw [List.map_cons, List.foldlM_cons, hadd]
      exact hread
    · rw [hget, Entries.get?_insert, reportOf_cons, Value.text_beq_text, Report.shows, hown,
        Option.any_some, Value.text_beq_text]
      cases reportOf reports name with
      | some later => rfl
      | none => cases own == name <;> rfl

/-- Whatever the pages list can be read. -/
theorem Reads.of_listed {answers : List Answer} (hl : Listed answers reports) :
    ∃ current, answers.foldlM addPage [] = .ok current ∧ Reads reports current := by
  obtain ⟨⟨pages, rfl, hpages, hflat⟩, hnames⟩ := hl
  obtain ⟨read, hread, hget⟩ := get?_foldlM_addReported [] hnames
  refine ⟨read, ?_, fun name => ?_⟩
  · have hlisted : (pages.map fun p => (p.1, p.2.map Value.map)).map
        (fun p => (.ok p.1 : Answer)) = pages.map fun p => .ok p.1 := List.map_map
    rw [← hlisted, Family.foldlM_addPage, List.flatMap_map, ← List.map_flatMap, hflat, hread]
    intro p hp
    obtain ⟨page, hpage, rfl⟩ := List.mem_map.1 hp
    exact hpages page hpage
  · rw [hget]
    exact Option.or_none

/-! ## What is asked of the reports -/

namespace Reads

theorem has_eq (hr : Reads reports current) (name : String) :
    current.has (.text name) = (reportOf reports name).isSome := by
  rw [Entries.has_eq_isSome, hr, Option.isSome_map]

theorem differs_eq (hr : Reads reports current) {name : String} {report : Report}
    (hreport : reportOf reports name = some report) (value : Value) :
    differs current name value = .ok (!hasValue reports name value) := by
  unfold differs hasValue
  rw [hr, hreport, Option.any_some, ← report.get_beq_text]
  rfl

theorem isModifiable_eq (hr : Reads reports current) {name : String} {report : Report}
    (hreport : reportOf reports name = some report) :
    isModifiable current name = .ok (!isFixed reports name) := by
  unfold isModifiable isFixed
  rw [hr, hreport, Option.any_some]
  change Except.ok ((report.get? "IsModifiable").getD (.bool true)).truthy = _
  cases report.get? "IsModifiable" with
  | none => rfl
  | some v => rw [Option.any_some, Bool.not_not]; rfl

/-- A parameter without a report is not applied at once. -/
theorem applyMethod_eq (hr : Reads reports current) (name : String) :
    applyMethod (.text name) current = .ok (methodOf reports name) := by
  have happly : ∀ report : Report, (do
      return if (← (Value.map report).get "ApplyType") == .text "dynamic" then "immediate"
        else "pending-reboot" : Except Fault String) =
      .ok (if report.shows "ApplyType" "dynamic" then "immediate" else "pending-reboot") := by
    intro report
    rw [← report.get_beq_text]
    rfl
  unfold applyMethod methodOf
  rw [hr]
  cases reportOf reports name with
  | none => exact happly []
  | some report =>
    simp only [Option.map_some, Option.getD_some, Value.orElse_map, Option.any_some]
    exact happly report

/-! ## The validation -/

theorem unknown_eq (hr : Reads reports current) :
    (after.keys.map Value.text).filterM (fun name => do
      name.checkKey
      return !current.has name : Value → Except Fault Bool) =
    .ok ((unknown reports after).map .text) := by
  rw [filterM_of_forall_ok (q := fun name => !current.has name), List.filter_map]
  · unfold unknown
    congr 2
    refine List.filter_congr fun name _ => ?_
    rw [Function.comp_apply, hr.has_eq, Option.not_isSome]
  · intro v hv
    obtain ⟨name, -, rfl⟩ := List.mem_map.1 hv
    rfl

theorem readOnly_eq (hr : Reads reports current)
    (hknown : ∀ p ∈ after, ∃ report, reportOf reports p.1 = some report) :
    after.filterM (fun (name, value) => do
      if ← isModifiable current name then return false else differs current name value) =
    .ok (readOnly reports after) := by
  refine filterM_of_forall_ok fun p hp => ?_
  obtain ⟨report, hreport⟩ := hknown p hp
  simp only [hr.isModifiable_eq hreport, hr.differs_eq hreport]
  cases isFixed reports p.1 <;> rfl

end Reads

theorem joinNames_text (names : List String) :
    joinNames (names.map .text) = .ok (String.intercalate ", " names) := by
  unfold joinNames
  refine bind_eq_ok.2 ⟨names, ?_, rfl⟩
  rw [List.zipIdx_map, List.mapM_map]
  exact (mapM_of_forall_ok (g := Prod.fst) fun _ _ => rfl).trans
    (congrArg Except.ok (List.zipIdx_map_fst 0 names))

/-- The fault of a change that is not valid. -/
def refusal (reports : List Report) (after : Entries String Value) : Fault :=
  .handler (.invalidRequest (.text (complaint reports after)) none)

theorem exists_report (hunknown : unknown reports after = []) :
    ∀ p ∈ after, ∃ report, reportOf reports p.1 = some report := by
  intro p hp
  have hnone := List.filter_eq_nil_iff.1 hunknown p.1 (List.mem_map_of_mem hp)
  exact Option.ne_none_iff_exists'.1 fun h => hnone (by rw [h]; rfl)

theorem not_invalid_iff :
    ¬ Invalid reports after ↔ unknown reports after = [] ∧ readOnly reports after = [] := by
  simp only [Invalid, unknown, readOnly, List.filter_eq_nil_iff, Entries.keys, List.forall_mem_map,
    Option.isNone_iff_eq_none, Bool.and_eq_true, Bool.not_eq_true', not_exists, not_and, not_or]
  exact ⟨fun h => ⟨fun p hp => (h p hp).1, fun p hp => (h p hp).2⟩,
    fun h p hp => ⟨h.1 p hp, h.2 p hp⟩⟩

/-- A valid change passes. -/
theorem validate_valid (hr : Reads reports current) (hvalid : ¬ Invalid reports after) :
    validate (.map after) current = .ok () := by
  obtain ⟨hunknown, hreadOnly⟩ := not_invalid_iff.1 hvalid
  refine bind_eq_ok.2 ⟨_, rfl, bind_eq_ok.2 ⟨_, hr.unknown_eq, ?_⟩⟩
  rw [hunknown, List.map_nil, if_pos List.isEmpty_nil]
  refine bind_eq_ok.2 ⟨_, rfl, bind_eq_ok.2
    ⟨_, hr.readOnly_eq (exists_report hunknown), ?_⟩⟩
  rw [hreadOnly, if_pos List.isEmpty_nil]
  rfl

/-- Unknown parameters are complained about before those that cannot be changed are looked for. -/
theorem validate_invalid (hr : Reads reports current) (hinvalid : Invalid reports after) :
    validate (.map after) current = .error (refusal reports after) := by
  refine bind_eq_error.2 (.inr ⟨_, rfl, bind_eq_error.2 (.inr ⟨_, hr.unknown_eq, ?_⟩)⟩)
  cases hunknown : unknown reports after with
  | cons name names =>
    rw [List.map_cons, List.isEmpty_cons, if_neg Bool.false_ne_true]
    refine bind_eq_error.2 (.inr ⟨_, joinNames_text (name :: names), ?_⟩)
    rw [refusal, complaint, hunknown]
    rfl
  | nil =>
    have hreadOnly : readOnly reports after ≠ [] := fun h =>
      not_invalid_iff.2 ⟨hunknown, h⟩ hinvalid
    rw [List.map_nil, if_pos List.isEmpty_nil]
    refine bind_eq_error.2 (.inr ⟨_, rfl, bind_eq_error.2 (.inr
      ⟨_, hr.readOnly_eq (exists_report hunknown), ?_⟩)⟩)
    rw [if_neg (by simpa using hreadOnly), refusal, complaint, hunknown]
    rfl

/-! ## The requests -/

theorem toReset_eq (before after : Entries String Value) :
    toReset (.map before) (.map after) = .ok ((dropped before after).map .text) := by
  refine bind_eq_ok.2 ⟨_, rfl, ?_⟩
  rw [filterM_of_forall_ok (q := fun name => !after.any fun p => name == .text p.1),
    List.filter_map]
  · unfold dropped
    congr 2
    refine List.filter_congr fun name _ => ?_
    simp only [Function.comp_apply, Entries.has, Value.text_beq_text, BEq.comm (a := name)]
  · intro v hv
    obtain ⟨name, -, rfl⟩ := List.mem_map.1 hv
    rfl

theorem toModify_eq (hr : Reads reports current)
    (hknown : ∀ p ∈ after, ∃ report, reportOf reports p.1 = some report) :
    toModify (.map after) current = .ok (changed reports after) := by
  refine bind_eq_ok.2 ⟨after, rfl, filterM_of_forall_ok fun p hp => ?_⟩
  obtain ⟨report, hreport⟩ := hknown p hp
  exact hr.differs_eq hreport p.2

theorem changeCall_reset (hr : Reads reports current) (names : List String) :
    changeCall "reset_db_parameter_group" group (parametersToReset (names.map .text) current) =
      send (resetRequest reports group names) := by
  have hitems : parametersToReset (names.map .text) current =
      .ok (names.map fun name => resetItem (.text name) (methodOf reports name)) := by
    rw [parametersToReset, List.mapM_map]
    refine mapM_of_forall_ok fun name _ => ?_
    rw [Function.comp_apply, parameterToReset, hr.applyMethod_eq]
    rfl
  rw [hitems]
  rfl

theorem changeCall_set (hr : Reads reports current) (parameters : Entries String Value) :
    changeCall "modify_db_parameter_group" group (parametersToSet parameters current) =
      send (setRequest reports group parameters) := by
  have hitems : parametersToSet parameters current =
      .ok (parameters.map fun p => setItem p.1 p.2 (methodOf reports p.1)) := by
    refine mapM_of_forall_ok fun p _ => ?_
    rw [parameterToSet, hr.applyMethod_eq]
    rfl
  rw [hitems]
  rfl

/-- All requests of a change, in order. -/
def requests (reports : List Report) (group : Value) (before after : Entries String Value) :
    List Call :=
  (batches maxParametersPerRequest (dropped before after)).map (resetRequest reports group) ++
    (batches maxParametersPerRequest (changed reports after)).map (setRequest reports group)

theorem changeCalls_eq (hr : Reads reports current) (before after : Entries String Value) :
    ((do
      (batches maxParametersPerRequest ((dropped before after).map .text)).forM fun names =>
        changeCall "reset_db_parameter_group" group (parametersToReset names current)
      (batches maxParametersPerRequest (changed reports after)).forM fun parameters =>
        changeCall "modify_db_parameter_group" group (parametersToSet parameters current)) :
      Handler Unit) = (requests reports group before after).forM send := by
  have hreset : (fun names : List String => changeCall "reset_db_parameter_group" group
      (parametersToReset (names.map .text) current)) = fun names =>
        send (resetRequest reports group names) := funext (changeCall_reset hr)
  have hset : (fun parameters => changeCall "modify_db_parameter_group" group
      (parametersToSet parameters current)) = fun parameters =>
        send (setRequest reports group parameters) := funext (changeCall_set hr)
  simp only [requests, batches_map, List.forM_eq_forM, List.forM_append, List.forM_map, hreset,
    hset]

/-- A change reads the reports; if it is not valid it ends there, else it sends its requests. -/
theorem changeParameters_yields {r : Except Fault Unit}
    (hy : (changeParameters group (.map before) (.map after)).Yields s h r s') :
    ∃ answers made,
      h = .paged ⟨"describe_db_parameters", [("DBParameterGroupName", group)]⟩ answers :: made ∧
      ∀ reports, Listed answers reports →
        (Invalid reports after → made = [] ∧ r = .error (refusal reports after) ∧ s' = s) ∧
        (¬ Invalid reports after →
          SentInOrder (requests reports group before after) made r ∧ s' = s) := by
  unfold changeParameters at hy
  rcases yields_bind.1 hy with ⟨f, hfetch, rfl⟩ | ⟨h₁, current, s₁, made, hfetch, hrest, rfl⟩
  · obtain ⟨answers, rfl, hfault, rfl⟩ := fetchParameters_cases hfetch
    refine ⟨answers, [], rfl, fun reports hl => ?_⟩
    -- what is listed can be read
    obtain ⟨current, hcurrent, -⟩ := Reads.of_listed hl
    cases hfault.trans hcurrent
  obtain ⟨answers, rfl, hread, rfl⟩ := fetchParameters_cases hfetch
  refine ⟨answers, made, rfl, fun reports hl => ?_⟩
  obtain ⟨_, hcurrent, hr⟩ := Reads.of_listed hl
  cases hread.trans hcurrent
  refine ⟨fun hinvalid => ?_, fun hvalid => ?_⟩
  · rw [validate_invalid hr hinvalid] at hrest
    exact yields_throw.1 hrest
  · have hknown := exists_report (not_invalid_iff.1 hvalid).1
    rw [validate_valid hr hvalid, lift_ok_bind, toReset_eq, lift_ok_bind, toModify_eq hr hknown,
      lift_ok_bind, changeCalls_eq hr] at hrest
    exact sentInOrder_of_yields hrest

/-! ## Changing parameters -/

theorem complaint_ne_empty (reports : List Report) (after : Entries String Value) :
    complaint reports after ≠ "" := by
  unfold complaint
  split <;> exact fun h => absurd (String.append_eq_empty_iff.1 h).1 (by decide)

/-- A change that is not valid is reported as an invalid request, with the complaint. -/
theorem recover_refusal (e : Event) (reports : List Report) (after : Entries String Value) :
    recover e (refusal reports after) =
      .ok (.failed e.model e.context .invalidRequest (.text (complaint reports after))) := by
  have hmessage : (refusal reports after).message = .text (complaint reports after) :=
    Fault.message_handler (complaint_ne_empty reports after)
  rw [← hmessage]
  exact recover_handler e _

/-- A fault whose code can be looked up ends the operation. -/
theorem exists_recover {f : Fault} (hcode : f.serviceCode.isKey = true) (e : Event) :
    ∃ code, recover e f = .ok (.failed e.model e.context code f.message) := by
  cases hrecover : recover e f with
  | ok e' =>
    obtain ⟨code, rfl⟩ := recover_cases hrecover
    exact ⟨code, rfl⟩
  | error f' =>
    rcases bind_eq_error.1 hrecover with hclassify | ⟨verdict, -, hrest⟩
    · exact absurd hclassify (classify_ne_error hcode f')
    · cases verdict <;> cases hrest

/-- Before anything is changed, the parameters are checked against what is reported: a declared
parameter that is unknown, or that cannot be changed to its value, is an invalid request, and
nothing more is sent. Else the dropped parameters are reset and the changed ones are set, in order
and each of them once, at most twenty at a time and as many as that in all requests of a kind but
the last. The requests are sent up to the first one that is refused; a refusal fails the operation,
and without one the event is handed on unchanged. -/
theorem parameterStep_sends {r : Except Fault Event} (hne : before ≠ [] ∨ after ≠ [])
    (hgroup : e.model.require "DBParameterGroupName" = .ok group)
    (hy : (parameterStep (.map before) (.map after) e).Yields s h r s') :
    ∃ answers made,
      h = .paged ⟨"describe_db_parameters", [("DBParameterGroupName", group)]⟩ answers :: made ∧
      ∀ reports, Listed answers reports →
        (Invalid reports after → made = [] ∧
          r = .ok (.failed e.model e.context .invalidRequest (.text (complaint reports after)))) ∧
        (¬ Invalid reports after → ∃ resets sets result,
          Batched 20 (dropped before after) resets ∧ Batched 20 (changed reports after) sets ∧
          SentInOrder (resets.map (resetRequest reports group) ++
            sets.map (setRequest reports group)) made result ∧
          (result = .ok () → r = .ok e ∧ s' = s) ∧
          ∀ f, result = .error f → f.serviceCode.isKey = true →
            ∃ code, r = .ok (.failed e.model e.context code f.message)) := by
  have hdeclared : ¬ ((!(Value.map before).truthy && !(Value.map after).truthy) = true) := by
    rcases hne with hne | hne <;> simp [Value.truthy, hne]
  unfold parameterStep at hy
  rw [if_neg hdeclared, hgroup, lift_ok_bind] at hy
  obtain ⟨h₁, result, s₁, h₂, hchange, hrest, rfl⟩ := yields_attempt_bind.1 hy
  obtain ⟨answers, made, rfl, hcases⟩ := changeParameters_yields hchange
  have hend : h₂ = [] ∧ s' = s₁ ∧ (result = .ok () → r = .ok e) ∧
      ∀ f, result = .error f → r = recover e f := by
    cases result with
    | ok =>
      obtain ⟨hnone, hsame, hleft⟩ := yields_pure.1 hrest
      refine ⟨hnone, hleft, fun _ => hsame, fun f hf => ?_⟩
      cases hf
    | error f =>
      obtain ⟨hnone, hsame, hleft⟩ := yields_lift.1 hrest
      refine ⟨hnone, hleft, fun hok => ?_, fun f' hf => ?_⟩
      · cases hok
      · cases hf
        exact hsame
  obtain ⟨rfl, rfl, hkept, hfailed⟩ := hend
  refine ⟨answers, made, List.append_nil _, fun reports hl =>
    ⟨fun hinvalid => ?_, fun hvalid => ?_⟩⟩
  · obtain ⟨hmade, hresult, -⟩ := (hcases reports hl).1 hinvalid
    exact ⟨hmade, (hfailed _ hresult).trans (recover_refusal e reports after)⟩
  · obtain ⟨hsends, hsame⟩ := (hcases reports hl).2 hvalid
    refine ⟨_, _, result, batched_batches (by decide) _, batched_batches (by decide) _, hsends,
      fun hok => ⟨hkept hok, hsame⟩, fun f hf hcode => ?_⟩
    rw [hfailed f hf]
    exact exists_recover hcode e

/-! ## A change that is refused at a batch -/

/-- The names of more parameters than one request may have. -/
def manyNames : List String :=
  ["p0", "p1", "p2", "p3", "p4", "p5", "p6", "p7", "p8", "p9", "p10",
   "p11", "p12", "p13", "p14", "p15", "p16", "p17", "p18", "p19", "p20"]

/-- The parameters before a change that drops all of them. -/
def manyParameters : Entries String Value := manyNames.map fun name => (name, .int 1)

/-- The one parameter that is declared afterwards. -/
def workMem : Entries String Value := [("work_mem", .int 64)]

/-- The report about this parameter. -/
def workMemReport : Report :=
  [("ParameterName", .text "work_mem"), ("ParameterValue", .text "4"), ("IsModifiable", .bool true),
   ("ApplyType", .text "dynamic")]

/-- The page with the report. -/
def workMemPage : Value := .map [("Parameters", .list [.map workMemReport])]

/-- A service that refuses the second request to reset parameters. -/
def refusingService : Script :=
  { replies := [("paginate:describe_db_parameters", [.pages [.ok workMemPage]]),
      ("reset_db_parameter_group",
        [.answer (.ok (.map [])), .answer (.error Family.busyGroup)])] }

/-- What is sent: twenty parameters are reset, and then the last one. -/
def refusedResets : History :=
  [.called (resetRequest [workMemReport] (.text "tuned") (manyNames.take 20)) (.ok (.map [])),
   .called (resetRequest [workMemReport] (.text "tuned") (manyNames.drop 20))
    (.error Family.busyGroup)]

/-- The second reset is refused, so that the declared parameter is not set any more. -/
theorem parameterStep_sends_refused :
    (manyParameters ≠ [] ∨ workMem ≠ []) ∧
      Family.tuningEvent.model.require "DBParameterGroupName" = .ok (.text "tuned") ∧
      ∃ e', (parameterStep (.map manyParameters) (.map workMem) Family.tuningEvent).Yields
          Family.tuningSession
          (.paged ⟨"describe_db_parameters", [("DBParameterGroupName", .text "tuned")]⟩
            [.ok workMemPage] :: refusedResets) (.ok e') Family.tuningSession ∧
        e'.status = .failed ∧ Listed [.ok workMemPage] [workMemReport] ∧
        ¬ Invalid [workMemReport] workMem ∧ ∃ resets sets result,
          Batched 20 (dropped manyParameters workMem) resets ∧
          Batched 20 (changed [workMemReport] workMem) sets ∧
          SentInOrder (resets.map (resetRequest [workMemReport] (.text "tuned")) ++
            sets.map (setRequest [workMemReport] (.text "tuned"))) refusedResets result := by
  have hne : manyParameters ≠ [] ∨ workMem ≠ [] := .inr (List.cons_ne_nil _ _)
  have hrun : ∃ e', (parameterStep (.map manyParameters) (.map workMem) Family.tuningEvent).Yields
      Family.tuningSession
      (.paged ⟨"describe_db_parameters", [("DBParameterGroupName", .text "tuned")]⟩
        [.ok workMemPage] :: refusedResets) (.ok e') Family.tuningSession ∧
      e'.status = .failed := by
    with_unfolding_all
      exact ⟨_, Program.runs_history Script.environment _ refusingService, rfl⟩
  obtain ⟨e', hy, hfailed⟩ := hrun
  have hlisted : Listed [.ok workMemPage] [workMemReport] :=
    ⟨⟨[(workMemPage, [workMemReport])], rfl, List.forall_mem_singleton.2 ⟨_, rfl, rfl⟩, rfl⟩,
      List.forall_mem_singleton.2 ⟨_, rfl⟩⟩
  have hvalid : ¬ Invalid [workMemReport] workMem :=
    not_invalid_iff.2 ⟨by with_unfolding_all rfl, by with_unfolding_all rfl⟩
  obtain ⟨answers, made, hsame, hcases⟩ := parameterStep_sends hne rfl hy
  cases hsame
  obtain ⟨resets, sets, result, hresets, hsets, hsends, -⟩ := (hcases _ hlisted).2 hvalid
  exact ⟨hne, rfl, e', hy, hfailed, hlisted, hvalid, resets, sets, result, hresets, hsets, hsends⟩

end ParameterGroup

end Provisioning
