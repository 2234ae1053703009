import Provisioning.Proofs.ParameterGroup.Ending
import Provisioning.Proofs.Reinvocation
import Provisioning.Proofs.Wording

/-!
# One invocation of the provider of parameter groups is enough

Every event of the provider ends the operation (`ParameterGroup.handle_ends`). So the executor
invokes it once, and its run is this one invocation (`Executor.loop_eq_execute`): it makes no pause
and it does not run out of invocations.

What else may end such a run is a fault. The faults of reading the payload are no timeouts, and
neither is that of a fault whose code cannot be looked up (`ParameterGroup.untimed_recover`). The
provider hands on what says that an action is not there; no error class with a name says this and is
a timeout (`Fault.not_timeout_of_notImplemented`).
-/

set_option autoImplicit false

namespace Provisioning

/-! ## Faults that are no timeouts -/

/-- An error class that is no ancestor of others is in the lineage of no class but itself. -/
theorem eq_of_mem_lineageOf {className name : String} (hroot : className ≠ rootClass)
    (habove : ∀ entry ∈ ancestors, className ∉ entry.2) (h : className ∈ lineageOf name) :
    className = name := by
  unfold lineageOf at h
  split at h
  · exact List.mem_singleton.1 h
  · rcases List.mem_cons.1 h with hname | h
    · exact hname
    rcases List.mem_append.1 h with h | h
    · cases hlookup : ancestors.lookup name with
      | none =>
        rw [hlookup] at h
        cases h
      | some above =>
        rw [hlookup] at h
        obtain ⟨before, after, hsplit, -⟩ := List.lookup_eq_some_iff.1 hlookup
        have hmem : (name, above) ∈ ancestors := hsplit ▸ List.mem_append_right _ List.mem_cons_self
        exact absurd h (habove _ hmem)
    · exact absurd (List.mem_singleton.1 h) hroot

/-- No error class with a name is one of timeouts and one of actions that are not there. -/
theorem Fault.not_timeout_of_notImplemented {f : Fault} {name : String}
    (hname : f.lineage = lineageOf name) (hnot : f.isA "NotImplementedError" = true) :
    f.isA "TimeoutError" = false := by
  rw [isA, hname, List.contains_iff_mem] at hnot
  rw [isA, hname, Bool.eq_false_iff, ne_eq, List.contains_iff_mem]
  intro htimeout
  have hne : "NotImplementedError" ≠ "TimeoutError" := by decide
  exact hne ((eq_of_mem_lineageOf (by decide) (by decide) hnot).trans
    (eq_of_mem_lineageOf (by decide) (by decide) htimeout).symm)

/-- What is read may be missing or of the wrong kind, but no such fault is a timeout. -/
def Untimed {α : Type} (x : Except Fault α) : Prop :=
  ∀ f, x = .error f → f.isA "TimeoutError" = false

namespace Untimed

variable {α β : Type}

theorem ok (a : α) : Untimed (.ok a : Except Fault α) := fun _ h => by cases h

theorem error {f : Fault} (hf : f.isA "TimeoutError" = false) :
    Untimed (.error f : Except Fault α) := fun _ h => by cases h; exact hf

theorem bind {x : Except Fault α} {f : α → Except Fault β} (hx : Untimed x)
    (hf : ∀ a, Untimed (f a)) : Untimed (x >>= f) := fun e h => by
  rcases bind_eq_error.1 h with h | ⟨a, -, h⟩
  · exact hx e h
  · exact hf a e h

end Untimed

namespace Value

variable (v : Value) (key : String)

theorem untimed_entriesFor (method : String) : Untimed (v.entriesFor method) := by
  unfold entriesFor
  split
  · exact .ok _
  · exact .error rfl

theorem untimed_get : Untimed (v.get key) := (untimed_entriesFor v _).bind fun _ => .ok _

theorem untimed_require : Untimed (v.require key) := by
  unfold require
  split
  · split
    · exact .ok _
    · exact .error rfl
  all_goals exact .error rfl

theorem untimed_checkKey : Untimed v.checkKey := by
  unfold checkKey
  split
  · exact .ok _
  · exact .error rfl

end Value

theorem Action.untimed_ofValue (v : Value) : Untimed (ofValue v) := by
  unfold ofValue
  split
  · unfold ofText
    split
    · exact .ok _
    · dsimp only
      split
      · exact .ok _
      · exact .error rfl
  · exact .error rfl

/-- A payload that is no request is no timeout. -/
theorem Request.untimed_ofPayload (payload : Value) (token : String) :
    Untimed (ofPayload payload token) := by
  have hget := fun (v : Value) key => v.untimed_get key
  exact (payload.untimed_require _).bind fun data => (hget _ _).bind fun credentials =>
    (hget _ _).bind fun _ => (hget _ _).bind fun _ => (hget _ _).bind fun _ =>
    (hget _ _).bind fun _ => (hget _ _).bind fun _ => (hget _ _).bind fun _ =>
    (payload.untimed_require _).bind fun _ => (Action.untimed_ofValue _).bind fun _ =>
    (hget _ _).bind fun _ => (hget _ _).bind fun _ => (payload.untimed_require _).bind fun _ =>
    (hget _ _).bind fun _ => (hget _ _).bind fun _ => (hget _ _).bind fun _ =>
    (hget _ _).bind fun _ => (hget _ _).bind fun _ => (hget _ _).bind fun _ =>
    (hget _ _).bind fun _ => (hget _ _).bind fun _ => (hget _ _).bind fun _ => .ok _

theorem Provider.untimed_openSession (p : Provider) (r : Request) : Untimed (p.openSession r) := by
  refine Untimed.bind ?_ fun _ => .ok _
  unfold Context.ofValue
  split
  · exact (Value.untimed_entriesFor _ _).bind fun _ => .ok _
  · exact .ok _

namespace ParameterGroup

open Handler Executor

variable {s : Settings} {r : Request} {sess sess' : Session} {h : History}
  {result : Except Fault Event}

/-- There is no event only for a fault whose code cannot be looked up. -/
theorem untimed_recover (e : Event) (f : Fault) : Untimed (recover e f) := by
  refine Untimed.bind (fun f' hf' => ?_) fun verdict => by cases verdict <;> exact .ok _
  rcases (answers_rules (fun _ => resolves_settled _) (fun _ => resolves_settled _)
    resolves_failWithOwnCode).classifyCaught_eq_error plain_rules hf' with
    hkey | ⟨status, hstatus, hf'⟩
  · exact Value.untimed_checkKey _ f' hkey
  · exact absurd hf' (hstatus f')

/-! ## Invocations -/

/-- An event of the provider ends the operation. -/
theorem handle_ends {e : Event} (hrun : ((provider s).handle r sess).Runs h (.ok e, sess')) :
    e.Over := by
  obtain ⟨e', hserve, rfl⟩ := Provider.exists_served hrun
  rw [Event.Over, Event.settle_status]
  rcases Provider.serve_cases hserve with ⟨_, hact, he⟩ | ⟨f, -, he | he⟩
  · cases he
    exact ends_act hact
  · cases he
  · exact recover_ends he.symm

/-- An invocation makes no pause, and if it ends in a fault that is a timeout, this fault says that
there is no such action. -/
theorem handle_untimed (hrun : ((provider s).handle r sess).Runs h (result, sess')) :
    h.pauses = [] ∧ ∀ f, result = .error f → f.isA "TimeoutError" = true →
      f.isA "NotImplementedError" = true := by
  obtain ⟨served, hserve, hresult⟩ := Provider.handle_runs_iff.1 hrun
  refine ⟨?_, fun f hf htimeout => ?_⟩
  · obtain ⟨res, hact⟩ := Provider.exists_acted hserve
    exact History.pauses_eq_nil_of_within (within_act hact).1
  · cases served with
    | ok e =>
      rw [hf] at hresult
      cases hresult
    | error f' =>
      rw [hf] at hresult
      cases hresult
      refine (Provider.serve_error hserve).resolve_right ?_
      rintro ⟨e, f', hrecover⟩
      rw [untimed_recover e f' f hrecover] at htimeout
      cases htimeout

section
variable {token : String} {clients clients' : ClientFactory} {payload : Value}

/-- A turn of the executor makes no pause, and if it ends in a fault that is a timeout, this fault
says that there is no such action. -/
theorem execute_untimed
    (hrun : (execute (provider s) token clients payload).Runs h (result, clients')) :
    h.pauses = [] ∧ ∀ f, result = .error f → f.isA "TimeoutError" = true →
      f.isA "NotImplementedError" = true := by
  unfold execute at hrun
  dsimp only at hrun
  split at hrun
  · rename_i fault hopened
    obtain ⟨rfl, hresult⟩ := Program.runs_done_iff.1 hrun
    cases hresult
    have huntimed := (Request.untimed_ofPayload payload token).bind fun r =>
      ((provider s).untimed_openSession r).bind fun session => Untimed.ok (r, session)
    refine ⟨rfl, fun f hf htimeout => ?_⟩
    cases hf
    rw [huntimed _ hopened] at htimeout
    cases htimeout
  · obtain ⟨h₁, ⟨handled, left⟩, h₂, hhandle, hdone, rfl⟩ := Program.runs_bind_iff.1 hrun
    obtain ⟨rfl, hresult⟩ := Program.runs_done_iff.1 hdone
    cases hresult
    rw [List.append_nil]
    exact handle_untimed hhandle

/-- An event of a turn of the executor ends the operation. -/
theorem execute_ends {e : Event}
    (hrun : (execute (provider s) token clients payload).Runs h (.ok e, clients')) : e.Over := by
  have ht : Turn.Runs ⟨payload, token, h, .ok e⟩ (provider s) clients clients' := hrun
  rcases ht.cases with ⟨f, hf, -⟩ | ⟨r, sess, sess', hhandles⟩
  · cases hf
  · exact handle_ends hhandles.runs

end

/-- Whatever is asked of it and whatever the service answers, the provider never suspends an
operation. So a deployment is one invocation, however many there may be: it makes no pause, and it
ends in no timeout but one that the service itself calls an action that is not there, for which no
error class has a name. -/
theorem never_suspends (s : Settings) :
    (∀ r sess h e sess', ((provider s).handle r sess).Runs h (.ok e, sess') → e.Over) ∧
      ∀ (load : Value → Except Fault Provider) (tokens : Tokens) (invocations : Value) (n : Int)
        (clients : ClientFactory) (payload type : Value),
        payload.require "resourceType" = .ok type → load type = .ok (provider s) →
        invocations.toInteger = .ok n → 1 ≤ n →
        deploy load tokens invocations clients payload =
            execute (provider s) tokens.first clients payload ∧
          ∀ h result clients',
            (deploy load tokens invocations clients payload).Runs h (result, clients') →
            h.pauses = [] ∧ (∀ e, result = .ok e → e.Over) ∧
            ∀ f, result = .error f → f.isA "TimeoutError" = true →
              f.isA "NotImplementedError" = true ∧ ∀ name, f.lineage ≠ lineageOf name := by
  refine ⟨fun _ _ _ _ _ => handle_ends, ?_⟩
  intro load tokens invocations n clients payload type htype hload hn hpos
  have honce : deploy load tokens invocations clients payload =
      execute (provider s) tokens.first clients payload := by
    obtain ⟨left, hleft⟩ := Nat.exists_eq_succ_of_ne_zero (by omega : n.toNat ≠ 0)
    rw [deploy_eq_loop htype hload hn, hleft]
    exact loop_eq_execute fun _ _ _ => execute_ends
  refine ⟨honce, fun h result clients' hrun => ?_⟩
  rw [honce] at hrun
  obtain ⟨hpauses, huntimed⟩ := execute_untimed hrun
  refine ⟨hpauses, fun e he => execute_ends (he ▸ hrun), fun f hf htimeout => ?_⟩
  have hnot := huntimed f hf htimeout
  refine ⟨hnot, fun name hname => ?_⟩
  rw [Fault.not_timeout_of_notImplemented hname hnot] at htimeout
  cases htimeout

/-- A payload for a parameter group. -/
def groupPayload : Value :=
  .map [("action", .text "Add"), ("resourceType", .text typeName),
    ("requestData", .map [("logicalResourceId", .text "Tuned"),
      ("resourceProperties", .map [("DBParameterGroupName", .text "tuned"),
        ("Family", .text "postgres16"), ("Description", .text "Tuned")])])]

/-- A service that throttles the creation of parameter groups. -/
def busyService : Script :=
  { replies := [("create_db_parameter_group", [.answer (.error (.service
      { code := some (.text "Throttling"), message := some (.text "Rate exceeded")
        operation := "CreateDBParameterGroup" }))])] }

/-- Throttling fails the operation, too: the executor does not use its ten invocations. -/
theorem never_suspends_busy :
    groupPayload.require "resourceType" = .ok (.text typeName) ∧
      (Value.int 10).toInteger = .ok 10 ∧ (1 : Int) ≤ 10 ∧
      deploy (fun _ => .ok (provider {})) "token" (.int 10) { config := {} } groupPayload =
        execute (provider {}) "token" { config := {} } groupPayload ∧
      (deploy (fun _ => .ok (provider {})) "token" (.int 10) { config := {} }
        groupPayload |>.history Script.environment busyService).pauses = [] ∧
      ((deploy (fun _ => .ok (provider {})) "token" (.int 10) { config := {} }
        groupPayload).run Script.environment busyService).1.1.toOption.map (·.code) =
          some (some .throttling) := by
  obtain ⟨honce, hruns⟩ := (never_suspends {}).2 (fun _ => .ok (provider {})) "token" (.int 10) 10
    { config := {} } groupPayload (.text typeName) rfl rfl rfl (by decide)
  obtain ⟨hpauses, -⟩ := hruns _ _ _ (Program.runs_history Script.environment _ busyService)
  refine ⟨rfl, rfl, by decide, honce, hpauses, ?_⟩
  decide +kernel

end ParameterGroup

end Provisioning
