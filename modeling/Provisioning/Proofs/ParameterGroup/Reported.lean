import Provisioning.Proofs.ParameterGroup.Batching
import Provisioning.Proofs.ParameterGroup.Parameters

/-!
# Which of the names that are sent are reported

A change of parameters sends the names of parameters, and the service knows those that it reports.
The parameters that are set have been checked to be reported, but those that are reset are taken
from the previous ones, which have not been.

`ParameterGroup.sendsOnlyReported_iff`: only reported names are sent exactly if the change is not
valid, so that it sends nothing, or all dropped parameters are reported. So the way back from a
change that was refused because it declared an unknown parameter sends this parameter
(`ParameterGroup.not_forall_sendsOnlyReported`).
-/

set_option autoImplicit false

namespace Provisioning

/-- The names of the parameters in a request that changes them. -/
def Call.parameterNames (c : Call) : List Value :=
  match c.arguments.get? "Parameters" with
  | some (.list items) => items.filterMap fun
    | .map fields => Entries.get? fields "ParameterName"
    | _ => none
  | _ => []

namespace SentInOrder

variable {requests : List Call} {h : History} {result : Except Fault Unit}

/-- What has been sent are requests. -/
theorem mem_requests (hsent : SentInOrder requests h result) :
    ∀ x ∈ h, ∃ request ∈ requests, ∃ answer, x = .called request answer := by
  induction hsent with
  | done => exact fun _ hx => absurd hx List.not_mem_nil
  | accepted _ ih =>
    refine List.forall_mem_cons.2 ⟨⟨_, List.mem_cons_self, _, rfl⟩, fun x hx => ?_⟩
    obtain ⟨request, hrequest, hcalled⟩ := ih x hx
    exact ⟨request, List.mem_cons_of_mem _ hrequest, hcalled⟩
  | refused =>
    exact List.forall_mem_singleton.2 ⟨_, List.mem_cons_self, _, rfl⟩

/-- Without a refusal all requests are sent. -/
theorem called_of_accepted (hsent : SentInOrder requests h result)
    (haccepted : ∀ request f, .called request (.error f) ∉ h) :
    ∀ request ∈ requests, ∃ answer, .called request answer ∈ h := by
  induction hsent with
  | done => exact fun _ hrequest => absurd hrequest List.not_mem_nil
  | accepted _ ih =>
    refine List.forall_mem_cons.2 ⟨⟨_, List.mem_cons_self⟩, fun request hrequest => ?_⟩
    obtain ⟨answer, hcalled⟩ := ih
      (fun request f hmem => haccepted request f (List.mem_cons_of_mem _ hmem)) request hrequest
    exact ⟨answer, List.mem_cons_of_mem _ hcalled⟩
  | refused => exact absurd List.mem_cons_self (haccepted _ _)

end SentInOrder

theorem exists_batch_of_mem {α : Type} {items : List α} {x : α} (size : Nat) (hx : x ∈ items) :
    ∃ part ∈ batches size items, x ∈ part :=
  List.mem_flatten.1 ((flatten_batches size items).symm ▸ hx)

namespace ParameterGroup

open Handler

variable {reports : List Report} {before after : Entries String Value} {group : Value} {e : Event}
  {s s' : Session} {h : History} {r : Except Fault Event}

/-! ## Names in requests -/

theorem parameterNames_itemsOf {α : Type} {operation : String} {items : List α} {item : α → Value}
    {name : α → String} (hitem : ∀ a, ∃ fields : Entries String Value, item a = .map fields ∧
      fields.get? "ParameterName" = some (.text (name a))) :
    (Call.mk operation (itemsOf group (items.map item))).parameterNames =
      items.map fun a => .text (name a) := by
  have hlist : (itemsOf group (items.map item)).get? "Parameters" =
      some (.list (items.map item)) := rfl
  simp only [Call.parameterNames, hlist, List.filterMap_map]
  rw [← List.filterMap_eq_map]
  congr 1
  funext a
  obtain ⟨fields, hfields, hname⟩ := hitem a
  simp only [Function.comp_apply, hfields, hname]

theorem parameterNames_resetRequest (names : List String) :
    (resetRequest reports group names).parameterNames = names.map .text :=
  parameterNames_itemsOf fun _ => ⟨_, rfl, rfl⟩

theorem parameterNames_setRequest (parameters : Entries String Value) :
    (setRequest reports group parameters).parameterNames =
      parameters.map fun p => .text p.1 :=
  parameterNames_itemsOf fun _ => ⟨_, rfl, rfl⟩

/-- The requests of a change send the names that are dropped and those that are changed. -/
theorem mem_parameterNames_requests {v : Value} :
    (∃ request ∈ requests reports group before after, v ∈ request.parameterNames) ↔
      (∃ name ∈ dropped before after, v = .text name) ∨
        ∃ p ∈ changed reports after, v = .text p.1 := by
  constructor
  · rintro ⟨request, hrequest, hv⟩
    rcases List.mem_append.1 hrequest with hrequest | hrequest
    · obtain ⟨names, hnames, rfl⟩ := List.mem_map.1 hrequest
      rw [parameterNames_resetRequest] at hv
      obtain ⟨name, hname, rfl⟩ := List.mem_map.1 hv
      exact .inl ⟨name, mem_of_mem_batches hnames hname, rfl⟩
    · obtain ⟨parameters, hparameters, rfl⟩ := List.mem_map.1 hrequest
      rw [parameterNames_setRequest] at hv
      obtain ⟨p, hp, rfl⟩ := List.mem_map.1 hv
      exact .inr ⟨p, mem_of_mem_batches hparameters hp, rfl⟩
  · rintro (⟨name, hname, rfl⟩ | ⟨p, hp, rfl⟩)
    · obtain ⟨names, hnames, hname⟩ := exists_batch_of_mem maxParametersPerRequest hname
      refine ⟨resetRequest reports group names,
        List.mem_append_left _ (List.mem_map_of_mem hnames), ?_⟩
      rw [parameterNames_resetRequest]
      exact List.mem_map_of_mem hname
    · obtain ⟨parameters, hparameters, hp⟩ := exists_batch_of_mem maxParametersPerRequest hp
      refine ⟨setRequest reports group parameters,
        List.mem_append_right _ (List.mem_map_of_mem hparameters), ?_⟩
      rw [parameterNames_setRequest]
      exact List.mem_map_of_mem (f := fun p => Value.text p.1) hp

/-! ## What is sent -/

/-- Every report names its parameter. -/
def Named (reports : List Report) : Prop :=
  ∀ report ∈ reports, ∃ name, report.get? "ParameterName" = some (.text name)

/-- The name of a parameter that the service reports. -/
def IsReported (reports : List Report) (v : Value) : Prop :=
  ∃ name report, v = .text name ∧ reportOf reports name = some report

/-- A change of the parameters of a group sends no name but those that the service reports, however
the service answers otherwise. -/
def SendsOnlyReported (reports : List Report) (before after : Entries String Value) : Prop :=
  ∀ ⦃e : Event⦄ ⦃s : Session⦄ ⦃h : History⦄ ⦃r : Except Fault Event⦄ ⦃s' : Session⦄,
    (parameterStep (.map before) (.map after) e).Yields s h r s' →
    (∀ request answers, .paged request answers ∈ h → Listed answers reports) →
    ∀ request answer, .called request answer ∈ h →
      ∀ v ∈ request.parameterNames, IsReported reports v

/-- Nothing is asked if there are no parameters or no group; else the parameters are changed. -/
theorem parameterStep_yields
    (hy : (parameterStep (.map before) (.map after) e).Yields s h r s') :
    h = [] ∧ (before = [] ∧ after = [] ∨
        ∀ group, e.model.require "DBParameterGroupName" ≠ .ok group) ∨
      ∃ group result s₁,
        (changeParameters group (.map before) (.map after)).Yields s h result s₁ := by
  unfold parameterStep at hy
  split at hy
  · rename_i hnone
    obtain ⟨rfl, -, -⟩ := yields_pure.1 hy
    exact .inl ⟨rfl, .inl (by simpa [Value.truthy] using hnone)⟩
  · rcases yields_lift_bind.1 hy with ⟨f, hf, rfl, -, -⟩ | ⟨group, -, hy⟩
    · exact .inl ⟨rfl, .inr fun group hgroup => by cases hf.symm.trans hgroup⟩
    · obtain ⟨h₁, result, s₁, h₂, hchange, hrest, rfl⟩ := yields_attempt_bind.1 hy
      have hnone : h₂ = [] := by
        cases result with
        | ok => exact (yields_pure.1 hrest).1
        | error f => exact (yields_lift.1 hrest).1
      rw [hnone, List.append_nil]
      exact .inr ⟨group, result, s₁, hchange⟩

/-- A change sends the requests that its reports lead to, or none if it is not valid. -/
theorem mem_requests_of_called
    (hy : (parameterStep (.map before) (.map after) e).Yields s h r s')
    (hlisted : ∀ request answers, .paged request answers ∈ h → Listed answers reports)
    {request : Call} {answer : Answer} (hcalled : .called request answer ∈ h) :
    ¬ Invalid reports after ∧ ∃ group, request ∈ requests reports group before after := by
  rcases parameterStep_yields hy with ⟨rfl, -⟩ | ⟨group, result, s₁, hchange⟩
  · cases hcalled
  obtain ⟨answers, made, rfl, hcases⟩ := changeParameters_yields hchange
  obtain ⟨hinvalid, hvalid⟩ := hcases reports (hlisted _ _ List.mem_cons_self)
  have hmade := (List.mem_cons.1 hcalled).resolve_left nofun
  have hnot : ¬ Invalid reports after := fun h => by
    rw [(hinvalid h).1] at hmade
    cases hmade
  obtain ⟨request', hrequest, answer', hsame⟩ := (hvalid hnot).1.mem_requests _ hmade
  cases hsame
  exact ⟨hnot, group, hrequest⟩

/-! ## A service that accepts everything -/

/-- A service that reports parameters on one page and accepts every change. -/
def acceptingService (reports : List Report) : Program.Environment Unit where
  call _ _ := (.ok (.map []), ())
  pages _ _ := ([.ok (.map [("Parameters", .list (reports.map .map))])], ())
  clock _ := (.int 0, ())
  sleep _ _ := (.ok (), ())

theorem listed_acceptingService
    (hnames : Named reports) :
    Listed ((acceptingService reports).pages ⟨"describe_db_parameters", []⟩ ()).1 reports := by
  let page : Value := .map [("Parameters", .list (reports.map .map))]
  have hpage : Family.PageOf page (reports.map .map) := by
    refine ⟨_, rfl, ?_⟩
    cases reports <;> rfl
  exact ⟨⟨[(page, reports)], rfl, List.forall_mem_singleton.2 hpage, List.append_nil _⟩, hnames⟩

/-- A change that is valid can send all of its requests. -/
theorem exists_called_of_valid
    (hnames : Named reports)
    (hvalid : ¬ Invalid reports after) (hne : before ≠ [] ∨ after ≠ []) :
    ∃ (e : Event) (s : Session) (h : History) (r : Except Fault Event) (s' : Session),
      (parameterStep (.map before) (.map after) e).Yields s h r s' ∧
      (∀ request answers, .paged request answers ∈ h → Listed answers reports) ∧
      ∃ group, ∀ request ∈ requests reports group before after,
        ∃ answer, .called request answer ∈ h := by
  let program := (parameterStep (.map before) (.map after) Family.tuningEvent).start
    Family.tuningSession
  have hy : (parameterStep (.map before) (.map after) Family.tuningEvent).Yields
      Family.tuningSession (program.history (acceptingService reports) ()) _ _ :=
    Program.runs_history (acceptingService reports) program ()
  have hlisted : ∀ request answers,
      .paged request answers ∈ program.history (acceptingService reports) () →
        Listed answers reports := fun request answers hmem => by
    obtain ⟨_, rfl⟩ := Program.paged_of_mem_history _ _ hmem
    exact listed_acceptingService hnames
  refine ⟨_, _, _, _, _, hy, hlisted, ?_⟩
  rcases parameterStep_yields hy with ⟨-, hnone | hgroup⟩ | ⟨group, result, s₁, hchange⟩
  · exact absurd hnone fun ⟨hbefore, hafter⟩ => hne.elim (· hbefore) (· hafter)
  · exact absurd rfl (hgroup (.text "tuned"))
  refine ⟨group, ?_⟩
  obtain ⟨answers, made, hhistory, hcases⟩ := changeParameters_yields hchange
  rw [hhistory] at hlisted ⊢
  have haccepted : ∀ request f, .called request (.error f) ∉ made := fun request f hmem => by
    have hcalled : .called request (.error f) ∈ program.history (acceptingService reports) () :=
      hhistory ▸ List.mem_cons_of_mem _ hmem
    obtain ⟨_, hanswer⟩ := Program.answered_of_mem_history program () hcalled
    cases hanswer
  intro request hrequest
  obtain ⟨answer, hcalled⟩ := ((hcases reports (hlisted _ _ List.mem_cons_self)).2
    hvalid).1.called_of_accepted haccepted request hrequest
  exact ⟨answer, List.mem_cons_of_mem _ hcalled⟩

/-! ## Only reported names -/

/-- A valid change that drops an unreported parameter can send its name. -/
theorem not_sendsOnlyReported
    (hnames : Named reports)
    (hvalid : ¬ Invalid reports after) {name : String} (hname : name ∈ dropped before after)
    (hnone : reportOf reports name = none) : ¬ SendsOnlyReported reports before after := by
  intro hsends
  have hne : before ≠ [] := fun h => by
    rw [h] at hname
    cases hname
  obtain ⟨e, s, h, r, s', hy, hlisted, group, hcalled⟩ :=
    exists_called_of_valid hnames hvalid (.inl hne)
  obtain ⟨request, hrequest, hv⟩ := mem_parameterNames_requests.2 (.inl ⟨name, hname, rfl⟩)
  obtain ⟨answer, hcalled⟩ := hcalled request hrequest
  obtain ⟨name', report, hsame, hreport⟩ := hsends hy hlisted request answer hcalled _ hv
  cases hsame
  cases hnone.symm.trans hreport

/-- A change sends only names that the service reports exactly if it is not valid or all parameters
that it drops are reported. -/
theorem sendsOnlyReported_iff
    (hnames : Named reports) :
    SendsOnlyReported reports before after ↔
      Invalid reports after ∨
        ∀ name ∈ dropped before after, ∃ report, reportOf reports name = some report := by
  constructor
  · intro hsends
    by_cases hinvalid : Invalid reports after
    · exact .inl hinvalid
    · refine .inr fun name hname => Option.ne_none_iff_exists'.1 fun hnone => ?_
      exact not_sendsOnlyReported hnames hinvalid hname hnone hsends
  · intro hreported e s h r s' hy hlisted request answer hcalled v hv
    obtain ⟨hvalid, group, hrequest⟩ := mem_requests_of_called hy hlisted hcalled
    rcases mem_parameterNames_requests.1 ⟨request, hrequest, hv⟩ with
      ⟨name, hname, rfl⟩ | ⟨p, hp, rfl⟩
    · obtain ⟨report, hreport⟩ := hreported.resolve_left hvalid name hname
      exact ⟨name, report, rfl, hreport⟩
    · -- what is set is declared, and so it has been checked
      obtain ⟨report, hreport⟩ :=
        exists_report (not_invalid_iff.1 hvalid).1 p (List.mem_filter.1 hp).1
      exact ⟨p.1, report, rfl, hreport⟩

/-- A parameter that the service does not know. -/
def misspelt : Entries String Value := [("wrok_mem", .int 64)]

theorem named_workMemReport : Named [workMemReport] := List.forall_mem_singleton.2 ⟨_, rfl⟩

theorem invalid_misspelt : Invalid [workMemReport] misspelt :=
  ⟨_, List.mem_cons_self, .inl (by with_unfolding_all rfl)⟩

theorem valid_workMem : ¬ Invalid [workMemReport] workMem :=
  not_invalid_iff.2 ⟨by with_unfolding_all rfl, by with_unfolding_all rfl⟩

/-- To drop a parameter that is reported sends no other name, and to declare one that is not
reported sends none. -/
theorem sendsOnlyReported_iff_workMem :
    Named [workMemReport] ∧ SendsOnlyReported [workMemReport] workMem [] ∧
      SendsOnlyReported [workMemReport] workMem misspelt := by
  refine ⟨named_workMemReport, (sendsOnlyReported_iff named_workMemReport).2 (.inr ?_),
    (sendsOnlyReported_iff named_workMemReport).2 (.inl invalid_misspelt)⟩
  exact List.forall_mem_singleton.2 ⟨workMemReport, by with_unfolding_all rfl⟩

/-- Not every change sends only reported names, not even one that takes back a change that was
refused because it declared an unknown parameter. -/
theorem not_forall_sendsOnlyReported :
    (¬ ∀ reports before after, Named reports → SendsOnlyReported reports before after) ∧
    ¬ ∀ reports before after, Named reports → unknown reports after ≠ [] →
      SendsOnlyReported reports after before := by
  have hdropped : "wrok_mem" ∈ dropped misspelt workMem := by
    with_unfolding_all exact List.mem_cons_self
  have hback : ¬ SendsOnlyReported [workMemReport] misspelt workMem :=
    not_sendsOnlyReported named_workMemReport valid_workMem hdropped (by with_unfolding_all rfl)
  refine ⟨fun h => hback (h _ _ _ named_workMemReport),
    fun h => hback (h _ _ _ named_workMemReport ?_)⟩
  with_unfolding_all exact List.cons_ne_nil _ _

end ParameterGroup

end Provisioning
