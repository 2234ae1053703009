import Provisioning.Proofs.ParameterGroup.Store
import Provisioning.Script

/-!
# A failed change of parameters can be undone

The way back from the desired to the previous parameters reads the present values again, so it does
not matter how far the way there got. A parameter that is declared in neither is never touched
(`Family.unchanged`); if a change ends without a fault, every declared parameter has its declared
value (`Family.declared_settles`), and every parameter that was declared before and no longer is has
its default (`Family.dropped_settles`). Together they say that the way back restores all values
(`Family.rollback`).
-/

set_option autoImplicit false

namespace Provisioning.ParameterGroup

open Handler

variable {previous desired group : Value} {s s' : Session} {h : History} {e e' : Event}

/-! ## A change that ends without a fault -/

theorem changeCall_ok {operation : String} {parameters : Except Fault (List Value)}
    (hy : (changeCall operation group parameters).Yields s h (.ok ()) s') :
    ∃ items response, parameters = .ok items ∧
      .called ⟨operation, itemsOf group items⟩ (.ok response) ∈ h := by
  obtain ⟨items, hitems, hy⟩ := yields_lift_bind_ok.1 hy
  obtain ⟨h₁, response, s₁, h₂, hcall, -, rfl⟩ := yields_bind_ok.1 hy
  obtain ⟨rfl, -⟩ := yields_call.1 hcall
  exact ⟨items, response, hitems, List.mem_cons_self⟩

theorem exists_mem_batches {α : Type} (size : Nat) {items : List α} {a : α} (ha : a ∈ items) :
    ∃ batch ∈ batches size items, a ∈ batch := by
  rw [← flatten_batches size items] at ha
  exact List.mem_flatten.1 ha

/-- If one request after another changes all things, in batches, then the item of each of them was
in one that was accepted. -/
theorem changeCalls_ok {α : Type} {operation : String} {size : Nat} {things : List α}
    {item : α → Except Fault Value} {u : PUnit}
    (hy : ((batches size things).forM fun batch =>
      changeCall operation group (batch.mapM item)).Yields s h (.ok u) s') {a : α}
    (ha : a ∈ things) :
    ∃ items v response, item a = .ok v ∧ v ∈ items ∧
      .called ⟨operation, itemsOf group items⟩ (.ok response) ∈ h := by
  obtain ⟨batch, hbatch, hmem⟩ := exists_mem_batches size ha
  obtain ⟨_, _, _, hcall, hsame⟩ := exists_of_yields_forM hy hbatch
  obtain ⟨items, response, hitems, hcalled⟩ := changeCall_ok hcall
  obtain ⟨v, hv, hread⟩ := exists_mem_of_mapM hitems hmem
  exact ⟨items, v, response, hread, hv, hsame _ hcalled⟩

/-- What a change that ends without a fault has done: it has read what the service reports, and then
every reset and every modification was accepted. -/
theorem changeParameters_ok
    (hy : (changeParameters group previous desired).Yields s h (.ok ()) s') :
    ∃ current reset modify h₁ s₁ h₂, (fetchParameters group).Yields s h₁ (.ok current) s₁ ∧
      h = h₁ ++ h₂ ∧ toReset previous desired = .ok reset ∧
      toModify desired current = .ok modify ∧
      (∀ name ∈ reset, ∃ items method response, resetItem name method ∈ items ∧
        .called ⟨"reset_db_parameter_group", itemsOf group items⟩ (.ok response) ∈ h₂) ∧
      ∀ p ∈ modify, ∃ items method response, setItem p.1 p.2 method ∈ items ∧
        .called ⟨"modify_db_parameter_group", itemsOf group items⟩ (.ok response) ∈ h₂ := by
  obtain ⟨h₁, current, s₁, h₂, hfetch, hrest, rfl⟩ := yields_bind_ok.1 hy
  obtain ⟨-, -, hrest⟩ := yields_lift_bind_ok.1 hrest
  obtain ⟨reset, hreset, hrest⟩ := yields_lift_bind_ok.1 hrest
  obtain ⟨modify, hmodify, hrest⟩ := yields_lift_bind_ok.1 hrest
  obtain ⟨h₃, _, s₂, h₄, hresets, hmodifies, rfl⟩ := yields_bind_ok.1 hrest
  refine ⟨current, reset, modify, h₁, s₁, h₃ ++ h₄, hfetch, rfl, hreset, hmodify,
    fun name hname => ?_, fun p hp => ?_⟩
  · obtain ⟨items, v, response, hread, hv, hcalled⟩ := changeCalls_ok hresets hname
    obtain ⟨method, -, hread⟩ := bind_eq_ok.1 hread
    obtain rfl := pure_eq_ok.1 hread
    exact ⟨items, method, response, hv, List.mem_append_left h₄ hcalled⟩
  · obtain ⟨items, v, response, hread, hv, hcalled⟩ := changeCalls_ok hmodifies hp
    obtain ⟨method, -, hread⟩ := bind_eq_ok.1 hread
    obtain rfl := pure_eq_ok.1 hread
    exact ⟨items, method, response, hv, List.mem_append_right h₃ hcalled⟩

theorem truthy_of_declared {parameters name : Value} (h : Declared parameters name) :
    parameters.truthy = true := by
  obtain ⟨names, hnames, hmem⟩ := h
  cases parameters with
  | text t =>
    cases hnames
    obtain ⟨c, hc, -⟩ := List.mem_map.1 hmem
    have hne : t ≠ "" := by
      rintro rfl
      cases hc
    simp [Value.truthy, hne]
  | list items =>
    cases hnames
    simp [Value.truthy, List.ne_nil_of_mem hmem]
  | map entries =>
    cases hnames
    have hne : entries ≠ [] := by
      rintro rfl
      cases hmem
    simp [Value.truthy, hne]
  | _ => cases hnames

/-- The step does nothing if no parameters are declared before and after, and it ends without a
fault only if the change does. -/
theorem parameterStep_ok (hy : (parameterStep previous desired e).Yields s h (.ok e') s')
    (hdone : e'.status ≠ .failed) :
    (previous.truthy = false ∧ desired.truthy = false) ∨
      ∃ group, (changeParameters group previous desired).Yields s h (.ok ()) s' := by
  unfold parameterStep at hy
  split at hy
  · next hempty => exact .inl (by simpa using hempty)
  · obtain ⟨group, -, hy⟩ := yields_lift_bind_ok.1 hy
    obtain ⟨h₁, answer, s₁, h₂, hchange, hy, rfl⟩ := yields_attempt_bind.1 hy
    cases answer with
    | error f =>
      obtain ⟨rfl, hrecover, rfl⟩ := yields_lift.1 hy
      obtain ⟨code, rfl⟩ := recover_cases hrecover.symm
      exact absurd rfl hdone
    | ok =>
      obtain ⟨rfl, -, rfl⟩ := yields_pure.1 hy
      rw [List.append_nil]
      exact .inr ⟨group, hchange⟩

/-- Then a parameter that is declared before or after makes the step change something. -/
theorem parameterStep_changes (hy : (parameterStep previous desired e).Yields s h (.ok e') s')
    (hdone : e'.status ≠ .failed) {name : Value}
    (hdeclared : Declared previous name ∨ Declared desired name) :
    ∃ group, (changeParameters group previous desired).Yields s h (.ok ()) s' := by
  refine (parameterStep_ok hy hdone).resolve_left fun ⟨hprevious, hdesired⟩ => ?_
  rcases hdeclared with hd | hd
  · rw [truthy_of_declared hd] at hprevious
    cases hprevious
  · rw [truthy_of_declared hd] at hdesired
    cases hdesired

namespace Family

variable {ι : Type} {f : Family ι} {w w' : Values ι} {i : ι} {r : Except Fault Event}

/-- A parameter that is declared neither before nor after keeps its value, however the step ends. -/
theorem unchanged (hy : (parameterStep previous desired e).Yields s h r s')
    (hs : Served f.Answers w h w') (hprevious : ¬ Declared previous (.text (f.name i)))
    (hdesired : ¬ Declared desired (.text (f.name i))) : w' i = w i := by
  have hgives : f.GivesOnly h i (w i) := by
    intro x hx request hrequest v hv
    rcases hv.of_request (asks_parameterStep e hy x hx request hrequest) with
      ⟨-, hbefore, -⟩ | ⟨value, hvalue, -⟩
    · exact absurd hbefore hprevious
    · exact absurd hvalue.declared hdesired
  exact hgives.keeps hs rfl

/-- If the step ends without a fault, a parameter that is no longer declared has its default. -/
theorem dropped_settles (hy : (parameterStep previous desired e).Yields s h (.ok e') s')
    (hdone : e'.status ≠ .failed) (hs : Served f.Answers w h w')
    (hprevious : Declared previous (.text (f.name i)))
    (hdesired : ¬ Declared desired (.text (f.name i))) : w' i = f.default i := by
  have hgives : f.GivesOnly h i (f.default i) := by
    intro x hx request hrequest v hv
    rcases hv.of_request (asks_parameterStep e hy x hx request hrequest) with
      ⟨rfl, -⟩ | ⟨value, hvalue, -⟩
    · rfl
    · exact absurd hvalue.declared hdesired
  obtain ⟨group, hchange⟩ := parameterStep_changes hy hdone (.inl hprevious)
  obtain ⟨current, reset, modify, h₁, s₁, h₂, -, rfl, hreset, hmodify, hresets, -⟩ :=
    changeParameters_ok hchange
  obtain ⟨names, hnames, hasked, hmem⟩ := toReset_eq_ok hreset
  obtain ⟨entries, rfl, -⟩ := toModify_eq_ok hmodify
  obtain ⟨names', hnames', hname⟩ := hprevious
  rw [hnames] at hnames'
  cases hnames'
  obtain ⟨b, hb⟩ := hasked _ hname
  have hnot : b = false := by
    cases b with
    | false => rfl
    | true => exact absurd (declared_of_occursIn hb) hdesired
  subst hnot
  obtain ⟨items, method, response, hitem, hcalled⟩ := hresets _ ((hmem _).2 ⟨hname, hb⟩)
  exact hgives.arrives hs (List.mem_append_right h₁ hcalled) (gives_reset hitem)

/-- If the step ends without a fault, a declared parameter has its declared value. -/
theorem declared_settles (hy : (parameterStep previous desired e).Yields s h (.ok e') s')
    (hdone : e'.status ≠ .failed) (hs : Served f.Answers w h w')
    (hdesired : Declared desired (.text (f.name i))) {v : Option String}
    (hvalues : ∀ value, DeclaredAs desired (f.name i) value → some value.display = v) :
    w' i = v := by
  have hgives : f.GivesOnly h i v := by
    intro x hx request hrequest u hu
    rcases hu.of_request (asks_parameterStep e hy x hx request hrequest) with
      ⟨-, -, hnot⟩ | ⟨value, hvalue, rfl⟩
    · exact absurd hdesired hnot
    · exact hvalues value hvalue
  obtain ⟨group, hchange⟩ := parameterStep_changes hy hdone (.inr hdesired)
  obtain ⟨current, reset, modify, h₁, s₁, h₂, hfetch, rfl, -, hmodify, -, hsets⟩ :=
    changeParameters_ok hchange
  obtain ⟨entries, rfl, hasked, hmem⟩ := toModify_eq_ok hmodify
  obtain ⟨k, hk, hkey⟩ := declared_map_iff.1 hdesired
  cases hkey
  obtain ⟨⟨_, value⟩, hentry, rfl⟩ := List.mem_map.1 hk
  have hvalue : some value.display = v := hvalues value ⟨entries, rfl, hentry⟩
  obtain ⟨w₁, hs₁, hs₂⟩ := served_append_iff.1 hs
  obtain ⟨rfl, hknown⟩ := fetched hfetch hs₁
  obtain ⟨b, hb⟩ := hasked _ hentry
  cases b with
  | false =>
    -- the parameter has the value already, and keeps it
    have hnow : w₁ i = v := (((hknown i).differs hb).1 rfl).trans hvalue
    exact hgives.keeps hs hnow
  | true =>
    obtain ⟨items, method, response, hitem, hcalled⟩ := hsets _ ((hmem _).2 ⟨hentry, hb⟩)
    rw [← hvalue] at hgives ⊢
    exact hgives.arrives hs (List.mem_append_right h₁ hcalled) (gives_set hitem)

/-- A change of parameters can be undone, however it has ended: from the values of the previous
parameters it leads to some values, and if the change back ends without a fault, all values are as
they were. -/
theorem rollback {s₁ s₁' s₂ s₂' : Session} {h₁ h₂ : History} {e₁ e₂ e₂' : Event}
    {w₀ w₁ w₂ : Values ι} (hstart : f.Holds previous w₀)
    (hthere : (parameterStep previous desired e₁).Yields s₁ h₁ r s₁')
    (hserved : Served f.Answers w₀ h₁ w₁)
    (hback : (parameterStep desired previous e₂).Yields s₂ h₂ (.ok e₂') s₂')
    (hdone : e₂'.status ≠ .failed) (hserved' : Served f.Answers w₁ h₂ w₂) : w₂ = w₀ := by
  funext i
  obtain ⟨hvalues, hdefault⟩ := hstart i
  by_cases hprevious : Declared previous (.text (f.name i))
  · exact declared_settles hback hdone hserved' hprevious fun value hv => (hvalues value hv).symm
  rw [hdefault hprevious]
  by_cases hdesired : Declared desired (.text (f.name i))
  · exact dropped_settles hback hdone hserved' hdesired hprevious
  · rw [unchanged hback hserved' hdesired hprevious, unchanged hthere hserved hprevious hdesired,
      hdefault hprevious]

/-! ## A change that is refused in the middle -/

/-- The parameters of a small family. -/
inductive Tuned
  | maxConnections
  | workMem
  deriving DecidableEq

/-- A family with two parameters, of which one has no default. -/
def tuning : Family Tuned where
  name
    | .maxConnections => "max_connections"
    | .workMem => "work_mem"
  name_injective := by
    intro i j h
    cases i <;> cases j <;> first | rfl | simp at h
  default
    | .maxConnections => some "50"
    | .workMem => none
  modifiable _ := true
  applyType
    | .maxConnections => "static"
    | .workMem => "dynamic"

/-- The parameters before the change. -/
def connectionsOnly : Value := .map [("max_connections", .int 100)]

/-- The parameters that the change would lead to. -/
def memoryOnly : Value := .map [("work_mem", .int 64)]

/-- The values before the change. -/
def connectionValues : Values Tuned
  | .maxConnections => some "100"
  | .workMem => none

/-- The values when the change has been refused: the parameter that is dropped has its default, and
the other one is set all the same. -/
def halfwayValues : Values Tuned
  | .maxConnections => some "50"
  | .workMem => some "64"

/-- A service that reports some values and gives an answer to the request that sets parameters. -/
def tuningService (w : Values Tuned) (answer : Answer) : Script :=
  { replies := [("paginate:describe_db_parameters",
        [.pages [tuning.page [.maxConnections, .workMem] w]]),
      ("modify_db_parameter_group", [.answer answer])] }

/-- The event that the steps start from. -/
def tuningEvent : Event := .progress (.map [("DBParameterGroupName", .text "tuned")]) .session

/-- A refusal because the group is being changed otherwise. -/
def busyGroup : Fault :=
  .service { code := some (.text "InvalidDBParameterGroupState")
             message := some (.text "The group is busy."), operation := "ModifyDBParameterGroup" }

/-- The record of an invocation for the group. -/
def tuningSession : Session := ⟨tuningEvent.model, .initial .parameterGroup⟩

/-- The exchanges of a change that resets one parameter and sets the other one. -/
def tuningHistory (w : Values Tuned) (dropped kept : Tuned) (value : Value)
    (methods : String × String) (answer : Answer) : History :=
  [.paged ⟨"describe_db_parameters", [("DBParameterGroupName", .text "tuned")]⟩
      [tuning.page [.maxConnections, .workMem] w],
    .called ⟨"reset_db_parameter_group", itemsOf (.text "tuned")
      [resetItem (.text (tuning.name dropped)) methods.1]⟩ (.ok (.map [])),
    .called ⟨"modify_db_parameter_group", itemsOf (.text "tuned")
      [setItem (tuning.name kept) value methods.2]⟩ answer]

/-- The change that is refused in the middle. -/
def tuningThere : History :=
  tuningHistory connectionValues .maxConnections .workMem (.int 64) ("pending-reboot", "immediate")
    (.error busyGroup)

/-- The change back. -/
def tuningBack : History :=
  tuningHistory halfwayValues .workMem .maxConnections (.int 100) ("immediate", "pending-reboot")
    (.ok (.map []))

theorem holds_connectionValues : tuning.Holds connectionsOnly connectionValues := by
  intro i
  cases i with
  | maxConnections =>
    refine ⟨?_, fun hnot => absurd (declared_map_iff.2 ⟨_, List.mem_cons_self, rfl⟩) hnot⟩
    rintro value ⟨entries, hentries, hmem⟩
    cases hentries
    obtain ⟨-, rfl⟩ := Prod.mk.inj (List.mem_singleton.1 hmem)
    decide +kernel
  | workMem =>
    refine ⟨?_, fun _ => rfl⟩
    rintro value ⟨entries, hentries, hmem⟩
    cases hentries
    obtain ⟨hname, -⟩ := Prod.mk.inj (List.mem_singleton.1 hmem)
    exact absurd hname (by decide)

/-- Whatever it is answered, such a change may have been made. -/
theorem serves_tuningHistory (w : Values Tuned) (dropped kept : Tuned) (value : Value)
    (methods : String × String) (answer : Answer) :
    Served tuning.Answers w (tuningHistory w dropped kept value methods answer)
      fun i => if i = kept then some value.display else
        if i = dropped then tuning.default dropped else w i :=
  .cons (.paged fun _ _ => reportedBy_page (by decide) (fun i => by cases i <;> decide) w)
    (.cons (.one fun _ _ => gives_resetItem) (.cons (.one fun _ _ => gives_setItem) .nil))

theorem serves_tuningThere : Served tuning.Answers connectionValues tuningThere halfwayValues := by
  have hvalues : (fun i => if i = .workMem then some (Value.int 64).display else
      if i = .maxConnections then tuning.default .maxConnections else connectionValues i) =
        halfwayValues := by
    funext i
    cases i <;> decide +kernel
  rw [← hvalues]
  exact serves_tuningHistory ..

/-- The change fails after it has dropped a parameter and set another one, and the change back
restores both. -/
theorem rollback_tuning :
    tuning.Holds connectionsOnly connectionValues ∧ halfwayValues ≠ connectionValues ∧
      ∃ e₁ w₂,
        (parameterStep connectionsOnly memoryOnly tuningEvent).Yields tuningSession tuningThere
          (.ok e₁) tuningSession ∧ e₁.status = .failed ∧
        Served tuning.Answers connectionValues tuningThere halfwayValues ∧
        (parameterStep memoryOnly connectionsOnly tuningEvent).Yields tuningSession tuningBack
          (.ok tuningEvent) tuningSession ∧ tuningEvent.status ≠ .failed ∧
        Served tuning.Answers halfwayValues tuningBack w₂ ∧ w₂ = connectionValues := by
  have hthere : ∃ e₁, (parameterStep connectionsOnly memoryOnly tuningEvent).Yields tuningSession
      tuningThere (.ok e₁) tuningSession ∧ e₁.status = .failed := by
    with_unfolding_all
      exact ⟨_, Program.runs_history Script.environment _
        (tuningService connectionValues (.error busyGroup)), rfl⟩
  have hback : (parameterStep memoryOnly connectionsOnly tuningEvent).Yields tuningSession
      tuningBack (.ok tuningEvent) tuningSession := by
    with_unfolding_all
      exact Program.runs_history Script.environment _
        (tuningService halfwayValues (.ok (.map [])))
  obtain ⟨e₁, hthere, hfailed⟩ := hthere
  have hbackServed := serves_tuningHistory halfwayValues .workMem .maxConnections (.int 100)
    ("immediate", "pending-reboot") (.ok (.map []))
  have hhalfway : halfwayValues ≠ connectionValues := fun h =>
    absurd (congrFun h .workMem) (by decide)
  exact ⟨holds_connectionValues, hhalfway, e₁, _, hthere, hfailed, serves_tuningThere, hback,
    by decide, hbackServed, rollback holds_connectionValues hthere serves_tuningThere hback
      (by decide) hbackServed⟩

end Family

end Provisioning.ParameterGroup
