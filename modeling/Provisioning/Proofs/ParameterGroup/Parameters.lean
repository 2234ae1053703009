import Provisioning.ParameterGroup.Provider
import Provisioning.Proofs.Asking

/-!
# What changing parameters asks for

Parameters that are no longer declared are reset, and declared ones are set
(`ParameterRequest`); whatever the service reports or answers, no request touches any other
parameter (`asks_parameterStep`).
-/

set_option autoImplicit false

namespace Provisioning.ParameterGroup

open Handler

/-- A name is among those that a document of parameters declares. -/
def Declared (parameters name : Value) : Prop :=
  ∃ names, parameters.iterate = .ok names ∧ name ∈ names

/-- A parameter of a request that resets it. -/
def resetItem (name : Value) (method : String) : Value :=
  .map [("ParameterName", name), ("ApplyMethod", .text method)]

/-- A parameter of a request that sets it to a declared value. -/
def setItem (name : String) (value : Value) (method : String) : Value :=
  .map [("ParameterName", .text name), ("ParameterValue", .text value.display),
    ("ApplyMethod", .text method)]

/-- The arguments of a request that changes some parameters of a group. -/
def itemsOf (group : Value) (items : List Value) : Entries String Value :=
  [("DBParameterGroupName", group), ("Parameters", .list items)]

/-- The requests on the way from the previous to the desired parameters; none is empty. -/
inductive ParameterRequest (previous desired : Value) : Call → Prop
  | read (arguments : Entries String Value) :
      ParameterRequest previous desired ⟨"describe_db_parameters", arguments⟩
  | reset {group : Value} {items : List Value} : items ≠ [] →
      (∀ item ∈ items, ∃ name method, item = resetItem name method ∧ Declared previous name ∧
        ¬ Declared desired name) →
      ParameterRequest previous desired ⟨"reset_db_parameter_group", itemsOf group items⟩
  | set {group : Value} {items : List Value} : items ≠ [] →
      (∀ item ∈ items, ∃ name value method, item = setItem name value method ∧
        ∃ entries, desired = .map entries ∧ (name, value) ∈ entries) →
      ParameterRequest previous desired ⟨"modify_db_parameter_group", itemsOf group items⟩

theorem declared_map_iff {entries : Entries String Value} {name : Value} :
    Declared (.map entries) name ↔ ∃ k ∈ entries.keys, name = .text k := by
  constructor
  · rintro ⟨names, hnames, hmem⟩
    cases hnames
    obtain ⟨k, hk, rfl⟩ := List.mem_map.1 hmem
    exact ⟨k, hk, rfl⟩
  · rintro ⟨k, hk, rfl⟩
    exact ⟨_, rfl, List.mem_map_of_mem hk⟩

/-! ## What is to be changed -/

section
variable {previous desired : Value} {current : Reported}

/-- A name that does not occur in a mapping is not declared there. -/
theorem not_declared_of_occursIn {name : Value} {entries : Entries String Value}
    (h : name.occursIn (.map entries) = .ok false) : ¬ Declared (.map entries) name := by
  rw [declared_map_iff]
  rintro ⟨k, hk, rfl⟩
  obtain ⟨e, he, rfl⟩ := List.mem_map.1 hk
  have hany := pure_eq_ok.1 h
  rw [List.any_eq_false] at hany
  exact hany e he BEq.rfl

theorem declared_of_occursIn {name : String} {entries : Entries String Value}
    (h : (Value.text name).occursIn (.map entries) = .ok true) :
    Declared (.map entries) (.text name) := by
  have hany := pure_eq_ok.1 h
  obtain ⟨e, he, hname⟩ := List.any_eq_true.1 hany
  rw [Value.text_beq_text, beq_iff_eq] at hname
  exact declared_map_iff.2 ⟨name, hname ▸ List.mem_map_of_mem he, rfl⟩

theorem toReset_eq_ok {reset : List Value} (h : toReset previous desired = .ok reset) :
    ∃ names, previous.iterate = .ok names ∧
      (∀ name ∈ names, ∃ b, name.occursIn desired = .ok b) ∧
      ∀ name, name ∈ reset ↔ name ∈ names ∧ name.occursIn desired = .ok false := by
  obtain ⟨names, hnames, h⟩ := bind_eq_ok.1 h
  obtain ⟨hasked, hmem⟩ := filterM_eq_ok h
  refine ⟨names, hnames, fun name hname => ?_, fun name => ?_⟩
  · obtain ⟨b, hb⟩ := hasked name hname
    obtain ⟨occurs, hoccurs, -⟩ := bind_eq_ok.1 hb
    exact ⟨occurs, hoccurs⟩
  · rw [hmem, bind_eq_ok]
    refine and_congr_right fun _ => ⟨?_, fun h => ⟨false, h, rfl⟩⟩
    rintro ⟨occurs, hoccurs, hnot⟩
    cases occurs with
    | false => exact hoccurs
    | true => cases hnot

theorem toModify_eq_ok {modify : Entries String Value} (h : toModify desired current = .ok modify) :
    ∃ entries, desired = .map entries ∧
      (∀ e ∈ entries, ∃ b, differs current e.1 e.2 = .ok b) ∧
      ∀ e, e ∈ modify ↔ e ∈ entries ∧ differs current e.1 e.2 = .ok true := by
  obtain ⟨entries, hentries, h⟩ := bind_eq_ok.1 h
  obtain ⟨hasked, hmem⟩ := filterM_eq_ok h
  exact ⟨entries, Value.entriesFor_eq_ok.1 hentries, hasked, hmem⟩

theorem mem_parametersToReset {names items : List Value}
    (h : parametersToReset names current = .ok items) {item : Value} (hitem : item ∈ items) :
    ∃ name ∈ names, ∃ method, item = resetItem name method := by
  obtain ⟨name, hname, hread⟩ := exists_of_mem_mapM h hitem
  obtain ⟨method, -, hread⟩ := bind_eq_ok.1 hread
  exact ⟨name, hname, method, (pure_eq_ok.1 hread).symm⟩

theorem mem_parametersToSet {parameters : Entries String Value} {items : List Value}
    (h : parametersToSet parameters current = .ok items) {item : Value} (hitem : item ∈ items) :
    ∃ e ∈ parameters, ∃ method, item = setItem e.1 e.2 method := by
  obtain ⟨e, he, hread⟩ := exists_of_mem_mapM h hitem
  obtain ⟨method, -, hread⟩ := bind_eq_ok.1 hread
  exact ⟨e, he, method, (pure_eq_ok.1 hread).symm⟩

theorem mem_of_mem_batches {α : Type} {size : Nat} {items b : List α} (hb : b ∈ batches size items)
    {a : α} (ha : a ∈ b) : a ∈ items := by
  rw [← flatten_batches size items]
  exact List.mem_flatten_of_mem hb ha

end

/-! ## Requests -/

section
variable {previous desired : Value}

theorem asks_changeParameters (group : Value) :
    (changeParameters group previous desired).Asks (ParameterRequest previous desired) := by
  have hwithin : (fetchParameters group).Within ["describe_db_parameters"] :=
    (Within.pages List.mem_cons_self _).bind fun _ => .lift _
  have hfetch : (fetchParameters group).Asks (ParameterRequest previous desired) := by
    refine hwithin.asks fun c hc => ?_
    obtain ⟨operation, arguments⟩ := c
    obtain rfl := List.mem_singleton.1 hc
    exact .read arguments
  have hchange : ∀ operation parameters,
      (∀ items, parameters = .ok items →
        ParameterRequest previous desired ⟨operation, itemsOf group items⟩) →
      (changeCall operation group parameters).Asks (ParameterRequest previous desired) :=
    fun operation parameters hitems => .lift_bind fun items h =>
      (Asks.call (hitems items h)).bind fun _ => .idle (.pure _)
  refine hfetch.bind fun current => .lift_bind fun _ _ => .lift_bind fun reset hreset =>
    .lift_bind fun modify hmodify => ?_
  obtain ⟨names, hnames, -, hreset⟩ := toReset_eq_ok hreset
  obtain ⟨entries, rfl, -, hmodify⟩ := toModify_eq_ok hmodify
  refine (Asks.forM fun batch hbatch => ?_).bind fun _ => .forM fun batch hbatch => ?_
  · refine hchange _ _ fun items hitems => .reset
      (ne_nil_of_mapM hitems (ne_nil_of_mem_batches hbatch)) fun item hitem => ?_
    obtain ⟨name, hname, method, rfl⟩ := mem_parametersToReset hitems hitem
    obtain ⟨hmem, hgone⟩ := (hreset name).1 (mem_of_mem_batches hbatch hname)
    exact ⟨name, method, rfl, ⟨names, hnames, hmem⟩, not_declared_of_occursIn hgone⟩
  · refine hchange _ _ fun items hitems => .set
      (ne_nil_of_mapM hitems (ne_nil_of_mem_batches hbatch)) fun item hitem => ?_
    obtain ⟨e, he, method, rfl⟩ := mem_parametersToSet hitems hitem
    exact ⟨e.1, e.2, method, rfl, entries, rfl, ((hmodify e).1 (mem_of_mem_batches hbatch he)).1⟩

/-- Bringing the parameters up to date resets previous ones that are not desired, and sets desired
ones. -/
theorem asks_parameterStep :
    (parameterStep previous desired).Asks (ParameterRequest previous desired) := by
  intro e
  unfold parameterStep
  split
  · exact .idle (.pure _)
  · refine .lift_bind fun group _ => (asks_changeParameters group).attempt.bind fun answer => ?_
    split
    · exact .idle (.lift _)
    · exact .idle (.pure _)

end

end Provisioning.ParameterGroup
