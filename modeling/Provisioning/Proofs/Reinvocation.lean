import Mathlib.Data.List.Chain
import Provisioning.Proofs.Deployment
import Provisioning.Proofs.Keeping

/-!
# Reinvocation

A run of the executor is a deployment: one turn after another, each but the last in progress and
each with a token of its own, with the pause between two of them for which the event of the first
one asks (`Executor.loop_reinvokes`). The executor stops at the first result that is no event in
progress and hands it on, and it stops with a timeout when all turns that it may take are in
progress. It also stops at a pause that is refused (`Executor.Ends`).

Nothing is assumed about the provider. Its handlers may ask their surroundings for anything, so
that it may answer the same request differently in each turn. Neither is anything assumed about the
tokens that are drawn for a payload without one.
-/

set_option autoImplicit false

namespace Provisioning

/-! ## Faults of the executor -/

/-- The message of an event whose status is outside the contract. -/
def invalidStatusMessage (status subject : String) : String :=
  "Invalid OperationStatus (" ++ status ++ ") returned for " ++ subject

/-- The message of a resource that is not finished after all invocations. -/
def outOfInvocationsMessage (invocations : Value) (subject : String) : String :=
  "Resource handling for " ++ subject ++ " did not finish after " ++ invocations.display
    ++ " invocations."

section
variable {payload next : Value} {e : Event} {subject status : String}

theorem failWith_ok {α : Type} (fault : Fault) : failWith (α := α) (.ok fault) = .error fault := rfl

theorem failWith_invalidStatus {α : Type} (h : payloadSubject payload = .ok subject) :
    failWith (α := α) (invalidStatus status payload) =
      .error (.badValue (invalidStatusMessage status subject)) := by
  rw [show invalidStatus status payload = .ok (.badValue (invalidStatusMessage status subject)) from
    bind_eq_ok.2 ⟨subject, h, rfl⟩, failWith_ok]

theorem failWith_outOfInvocations {α : Type} {invocations : Value}
    (h : payloadSubject payload = .ok subject) :
    failWith (α := α) (outOfInvocations invocations payload) =
      .error (.ofClass "TimeoutError" (outOfInvocationsMessage invocations subject)) := by
  rw [show outOfInvocations invocations payload = .ok (.ofClass "TimeoutError"
    (outOfInvocationsMessage invocations subject)) from bind_eq_ok.2 ⟨subject, h, rfl⟩, failWith_ok]

/-- A payload with a request names its resource. -/
theorem exists_payloadSubject {type : Value} {data : Entries String Value}
    (hdata : payload.require "requestData" = .ok (.map data))
    (htype : payload.require "resourceType" = .ok type) :
    ∃ subject, payloadSubject payload = .ok subject :=
  ⟨_, bind_eq_ok.2 ⟨_, hdata, bind_eq_ok.2 ⟨_, rfl, bind_eq_ok.2 ⟨_, htype, rfl⟩⟩⟩⟩

theorem Continues.require_requestData (h : Continues payload e next) :
    ∃ data, next.require "requestData" = .ok (.map data) := by
  obtain ⟨_, _, fields', data', -, -, rfl, hdata', -⟩ := h
  exact ⟨data', Value.require_eq_ok.2 ⟨fields', rfl, hdata'⟩⟩

theorem Continues.require_resourceType (h : Continues payload e next) :
    next.require "resourceType" = payload.require "resourceType" := by
  obtain ⟨fields, _, fields', _, rfl, -, rfl, -, -, -, hfields, -⟩ := h
  simp only [Value.require, hfields "resourceType" (by decide) (by decide)]

/-- The next payload is about the same resource. -/
theorem Continues.payloadSubject_eq (h : Continues payload e next) :
    payloadSubject next = payloadSubject payload := by
  have htype := h.require_resourceType
  obtain ⟨fields, data, fields', data', rfl, hdata, rfl, hdata', -, -, -, hkept⟩ := h
  have hid : (Value.map data').get "logicalResourceId" = (Value.map data).get "logicalResourceId" :=
    congrArg (fun v : Option Value => Except.ok (v.getD .null))
      (hkept "logicalResourceId" (by decide))
  unfold payloadSubject
  rw [htype, Value.require_eq_ok.2 ⟨fields, rfl, hdata⟩,
    Value.require_eq_ok.2 ⟨fields', rfl, hdata'⟩]
  simp only [bind, Except.bind, hid]

end

namespace Executor

/-! ## One turn -/

variable {p : Provider} {clients clients' : ClientFactory} {payload type : Value}
  {turns : List Turn} {t : Turn} {e : Event} {h : History} {tokens : Tokens}
  {invocations : Value} {left : Nat} {result : Except Fault Event} {rested : Except Fault Unit}

namespace Turn

/-- The pause after a turn: as long as its event asks for if it is in progress. -/
def pause (t : Turn) (rested : Except Fault Unit) : History :=
  (t.inProgress?.map (Exchange.slept ·.delay rested)).toList

/-- The executor ends in a result after a turn that is not in progress. -/
inductive Concludes (t : Turn) : Except Fault Event → Prop
  | finished {e : Event} : t.result = .ok e → e.Over → Concludes t (.ok e)
  | invalid {e : Event} {status : String} : t.result = .ok e → e.status = .invalid status →
      Concludes t (failWith (invalidStatus status t.payload))
  | failed {f : Fault} : t.result = .error f → Concludes t (.error f)

theorem Concludes.not_inProgress (h : t.Concludes result) : ¬ t.InProgress e := by
  rintro ⟨he, hs⟩
  cases h with
  | finished he' hover =>
    cases he'.symm.trans he
    exact hover.ne_inProgress hs
  | invalid he' hs' =>
    cases he'.symm.trans he
    cases hs'.symm.trans hs
  | failed hf => cases hf.symm.trans he

theorem pause_of_inProgress (he : t.InProgress e) : t.pause rested = [.slept e.delay rested] := by
  rw [pause, inProgress?_eq_some.2 he]
  rfl

theorem pause_of_concludes (h : t.Concludes result) : t.pause rested = [] := by
  unfold pause
  cases he : t.inProgress? with
  | none => rfl
  | some e => exact absurd (inProgress?_eq_some.1 he) h.not_inProgress

theorem pauses_pause (t : Turn) (rested : Except Fault Unit) :
    (t.pause rested).pauses = (t.inProgress?.map (·.delay)).toList := by
  unfold pause
  cases t.inProgress? <;> rfl

/-- A turn that ends in an event had a request to handle. -/
theorem Runs.request (ht : t.Runs p clients clients') (he : t.result = .ok e) :
    ∃ fields data : Entries String Value, t.payload = .map fields ∧
      fields.get? "requestData" = some (.map data) := by
  rcases ht.cases with ⟨f, hf, -⟩ | ⟨r, s, s', hhandles⟩
  · cases hf.symm.trans he
  · obtain ⟨asked, -, hasked, -⟩ := hhandles.requests
    obtain ⟨fields, data, -, hpayload, hdata, -⟩ := Request.ofPayload_parts hasked
    exact ⟨fields, data, hpayload, hdata⟩

end Turn

/-- The executor runs through one turn. If the turn is in progress, it makes a pause and goes on
with the next payload, unless the pause is refused, and else it ends. -/
theorem loop_cases
    (hrun : (loop p tokens invocations (left + 1) clients payload).Runs h (result, clients')) :
    ∃ (t : Turn) (made : ClientFactory), t.payload = payload ∧ t.token = tokens.first ∧
      t.Runs p clients made ∧
      ((h = t.history ∧ t.Concludes result) ∨
        ∃ e next rested rest, t.InProgress e ∧ nextPayload t.payload e = .ok next ∧
          Continues t.payload e next ∧ h = t.history ++ .slept e.delay rested :: rest ∧
          ((∃ f, rested = .error f ∧ rest = [] ∧ result = .error f) ∨ rested = .ok () ∧
            (loop p tokens.rest invocations left made next).Runs rest (result, clients'))) := by
  obtain ⟨h₁, ⟨first, made⟩, h₂, hfirst, hrest, rfl⟩ := Program.runs_bind_iff.1 hrun
  have ht : Turn.Runs ⟨payload, tokens.first, h₁, first⟩ p clients made := hfirst
  refine ⟨_, made, rfl, rfl, ht, ?_⟩
  have hends : ∀ {last : Except Fault Event},
      (Program.done (last, made)).Runs h₂ (result, clients') →
      Turn.Concludes ⟨payload, tokens.first, h₁, first⟩ last →
      h₁ ++ h₂ = h₁ ∧ Turn.Concludes ⟨payload, tokens.first, h₁, first⟩ result := by
    intro last hdone hlast
    obtain ⟨rfl, hresult⟩ := Program.runs_done_iff.1 hdone
    obtain rfl := (Prod.mk.inj hresult).1
    exact ⟨List.append_nil _, hlast⟩
  cases first with
  | error f => exact .inl (hends hrest (.failed rfl))
  | ok e =>
    dsimp only at hrest
    split at hrest
    · rename_i hs
      exact .inl (hends hrest (.finished rfl (.inl hs)))
    · rename_i hs
      exact .inl (hends hrest (.finished rfl (.inr hs)))
    · rename_i hs
      exact .inl (hends hrest (.invalid rfl hs))
    · rename_i hs
      obtain ⟨fields, data, hpayload, hdata⟩ := ht.request rfl
      dsimp only at hpayload
      subst hpayload
      obtain ⟨next, hnext, hcontinues⟩ := nextPayload_continues hdata e
      rw [hnext] at hrest
      cases hrest with
      | @sleep _ _ rested rest _ hloop =>
        refine .inr ⟨e, next, rested, rest, ⟨rfl, hs⟩, hnext, hcontinues, rfl, ?_⟩
        cases rested with
        | error f =>
          obtain ⟨rfl, hresult⟩ := Program.runs_done_iff.1 hloop
          exact .inl ⟨f, rfl, rfl, (Prod.mk.inj hresult).1⟩
        | ok => exact .inr ⟨rfl, hloop⟩

/-! ## Whole runs -/

/-- What happens in turns and in the pauses after them. All pauses are over before the next turn;
`rested` is what becomes of the one after the last turn. -/
def exchanges (rested : Except Fault Unit) : List Turn → History
  | [] => []
  | [t] => t.history ++ t.pause rested
  | t :: next :: turns => t.history ++ t.pause (.ok ()) ++ exchanges rested (next :: turns)

/-- The turns of a run of the executor on a payload: every turn but the last is in progress, the
payload of the next one continues its payload, and between the two the executor makes the pause that
its event asks for and nothing else. Each turn has the token that is drawn for it. A pause is
refused only after the last turn. -/
structure Reinvokes (p : Provider) (tokens : Tokens) (clients : ClientFactory) (payload : Value)
    (turns : List Turn) (rested : Except Fault Unit) (h : History) : Prop where
  deploys : Deploys p clients payload turns
  token : ∀ i t, turns[i]? = some t → t.token = tokens i
  first : ∀ t, turns.head? = some t → t.payload = payload
  continues : turns.IsChain fun t next => ∃ e, t.InProgress e ∧ Continues t.payload e next.payload
  history : h = exchanges rested turns
  refused : ∀ f, rested = .error f → ∃ t ∈ turns.getLast?, ∃ e, t.InProgress e

/-- How the executor ends after some turns for a payload, of which it may take up to `limit`. -/
structure Ends (invocations : Value) (limit : Nat) (payload : Value) (turns : List Turn)
    (rested : Except Fault Unit) (result : Except Fault Event) : Prop where
  finished : ∀ t ∈ turns, ∀ e, t.result = .ok e → e.Over → result = .ok e
  invalid : ∀ t ∈ turns, ∀ e status, t.result = .ok e → e.status = .invalid status →
    ∃ subject, payloadSubject payload = .ok subject ∧
      result = .error (.badValue (invalidStatusMessage status subject))
  failed : ∀ t ∈ turns, ∀ f, t.result = .error f → result = .error f
  refused : ∀ f, rested = .error f → result = .error f
  unfinished : rested = .ok () → (∀ t ∈ turns, ∃ e, t.InProgress e) → turns.length = limit ∧
    ((turns = [] → ∃ data, payload.require "requestData" = .ok (.map data)) →
      ∃ subject, payloadSubject payload = .ok subject ∧
        result = .error (.ofClass "TimeoutError" (outOfInvocationsMessage invocations subject)))

theorem Ends.none (htype : payload.require "resourceType" = .ok type) :
    Ends invocations 0 payload [] (.ok ()) (failWith (outOfInvocations invocations payload)) := by
  refine ⟨List.forall_mem_nil _, List.forall_mem_nil _, List.forall_mem_nil _, nofun,
    fun _ _ => ⟨rfl, fun hdata => ?_⟩⟩
  obtain ⟨data, hdata⟩ := hdata rfl
  obtain ⟨subject, hsubject⟩ := exists_payloadSubject hdata htype
  exact ⟨subject, hsubject, failWith_outOfInvocations hsubject⟩

theorem Ends.last (ht : t.Runs p clients clients')
    (htype : t.payload.require "resourceType" = .ok type) (hresult : t.Concludes result) :
    Ends invocations (left + 1) t.payload [t] (.ok ()) result := by
  refine ⟨?_, ?_, ?_, nofun, fun _ hall => ?_⟩
  · rintro _ (_ | ⟨_, ⟨⟩⟩) e he hover
    cases hresult with
    | finished he' => rw [← he', he]
    | invalid he' hs =>
      cases he'.symm.trans he
      rcases hover with hover | hover <;> cases hs.symm.trans hover
    | failed hf => cases hf.symm.trans he
  · rintro _ (_ | ⟨_, ⟨⟩⟩) e status he hs
    cases hresult with
    | finished he' hover =>
      cases he'.symm.trans he
      rcases hover with hover | hover <;> cases hs.symm.trans hover
    | invalid he' hs' =>
      cases he'.symm.trans he
      cases hs'.symm.trans hs
      obtain ⟨fields, data, hpayload, hdata⟩ := ht.request he
      obtain ⟨subject, hsubject⟩ :=
        exists_payloadSubject (Value.require_eq_ok.2 ⟨fields, hpayload, hdata⟩) htype
      exact ⟨subject, hsubject, failWith_invalidStatus hsubject⟩
    | failed hf => cases hf.symm.trans he
  · rintro _ (_ | ⟨_, ⟨⟩⟩) f hf
    cases hresult with
    | finished he => cases he.symm.trans hf
    | invalid he => cases he.symm.trans hf
    | failed hf' => rw [← hf', hf]
  · obtain ⟨e, he⟩ := hall t List.mem_cons_self
    exact absurd he hresult.not_inProgress

/-- A pause that is refused ends the run, however many invocations are left. -/
theorem Ends.stopped (f : Fault) : Ends invocations left payload [] (.error f) (.error f) :=
  ⟨List.forall_mem_nil _, List.forall_mem_nil _, List.forall_mem_nil _,
    fun _ hf => by cases hf; rfl, fun hrested => by cases hrested⟩

/-- A turn in progress counts as one invocation, and leaves the end to the turns that follow. -/
theorem Ends.again {next : Value} (he : t.InProgress e) (hnext : Continues t.payload e next)
    (hends : Ends invocations left next turns rested result) :
    Ends invocations (left + 1) t.payload (t :: turns) rested result := by
  have hsubject := hnext.payloadSubject_eq
  refine ⟨List.forall_mem_cons.2 ⟨fun e' he' hover => ?_, hends.finished⟩,
    List.forall_mem_cons.2 ⟨fun e' status he' hs => ?_, hsubject ▸ hends.invalid⟩,
    List.forall_mem_cons.2 ⟨fun f hf => ?_, hends.failed⟩, hends.refused, fun hrested hall => ?_⟩
  · cases he.1.symm.trans he'
    exact absurd he.2 hover.ne_inProgress
  · cases he.1.symm.trans he'
    cases he.2.symm.trans hs
  · cases he.1.symm.trans hf
  · obtain ⟨hlength, htimeout⟩ :=
      hends.unfinished hrested fun t ht => hall t (List.mem_cons_of_mem _ ht)
    exact ⟨congrArg (· + 1) hlength, fun _ =>
      hsubject ▸ htimeout fun _ => hnext.require_requestData⟩

theorem token_nil : ∀ i t', ([] : List Turn)[i]? = some t' → t'.token = tokens i :=
  fun _ _ hi => by cases hi

/-- The tokens of turns are drawn in order. -/
theorem token_cons (htoken : t.token = tokens.first)
    (hrest : ∀ i t', turns[i]? = some t' → t'.token = tokens.rest i) :
    ∀ i t', (t :: turns)[i]? = some t' → t'.token = tokens i
  | 0, _, hi => by cases hi; exact htoken
  | i + 1, t', hi => hrest i t' hi

theorem Reinvokes.none : Reinvokes p tokens clients payload [] (.ok ()) [] where
  deploys := .stopped
  token := token_nil
  first _ h := by cases h
  continues := .nil
  history := rfl
  refused _ hf := by cases hf

theorem Reinvokes.last (ht : t.Runs p clients clients') (htoken : t.token = tokens.first)
    (hresult : t.Concludes result) :
    Reinvokes p tokens clients t.payload [t] (.ok ()) t.history where
  deploys := .ended ht
  token := token_cons htoken token_nil
  first _ h := by cases h; rfl
  continues := .singleton _
  history := by rw [exchanges, Turn.pause_of_concludes hresult, List.append_nil]
  refused := nofun

/-- The first turn is in progress, and the pause after it is refused. -/
theorem Reinvokes.disturbed {next : Value} (ht : t.Runs p clients clients')
    (htoken : t.token = tokens.first) (he : t.InProgress e)
    (hpayload : nextPayload t.payload e = .ok next) (f : Fault) :
    Reinvokes p tokens clients t.payload [t] (.error f)
      (t.history ++ [.slept e.delay (.error f)]) where
  deploys := .again ht he hpayload .stopped
  token := token_cons htoken token_nil
  first _ h := by cases h; rfl
  continues := .singleton _
  history := by rw [exchanges, Turn.pause_of_inProgress he]
  refused _ _ := ⟨t, rfl, e, he⟩

theorem Reinvokes.again {next : Value} {rest : History} (ht : t.Runs p clients clients')
    (htoken : t.token = tokens.first) (he : t.InProgress e)
    (hpayload : nextPayload t.payload e = .ok next) (hnext : Continues t.payload e next)
    (hrest : Reinvokes p tokens.rest clients' next turns rested rest) :
    Reinvokes p tokens clients t.payload (t :: turns) rested
      (t.history ++ .slept e.delay (.ok ()) :: rest) where
  deploys := .again ht he hpayload hrest.deploys
  token := token_cons htoken hrest.token
  first _ h := by cases h; rfl
  continues := by
    cases turns with
    | nil => exact .singleton _
    | cons t' turns =>
      exact .cons_cons ⟨e, he, (hrest.first t' rfl).symm ▸ hnext⟩ hrest.continues
  history := by
    cases turns with
    | nil =>
      -- the pause is over, since there is no later turn after which one may be refused
      cases rested with
      | error f =>
        obtain ⟨_, hlast, -⟩ := hrest.refused f rfl
        cases hlast
      | ok => rw [hrest.history, exchanges, exchanges, Turn.pause_of_inProgress he]
    | cons t' turns =>
      rw [hrest.history, exchanges, Turn.pause_of_inProgress he, List.append_assoc]
      rfl
  refused f hf := by
    obtain ⟨t', hlast, hprogress⟩ := hrest.refused f hf
    cases turns with
    | nil => cases hlast
    | cons => exact ⟨t', by rwa [List.getLast?_cons_cons], hprogress⟩

/-- The executor goes through turns, one after another, up to its limit. -/
theorem loop_reinvokes (htype : payload.require "resourceType" = .ok type)
    (hrun : (loop p tokens invocations left clients payload).Runs h (result, clients')) :
    ∃ turns rested, Reinvokes p tokens clients payload turns rested h ∧ turns.length ≤ left ∧
      Ends invocations left payload turns rested result := by
  induction left generalizing tokens clients payload h with
  | zero =>
    obtain ⟨rfl, hresult⟩ := Program.runs_done_iff.1 hrun
    cases hresult
    exact ⟨[], .ok (), .none, Nat.le_refl _, .none htype⟩
  | succ left ih =>
    obtain ⟨t, made, rfl, htoken, ht, ⟨rfl, hresult⟩ |
      ⟨e, next, rested, rest, he, hpayload, hnext, rfl,
        ⟨f, rfl, rfl, rfl⟩ | ⟨rfl, hloop⟩⟩⟩ := loop_cases hrun
    · exact ⟨[t], .ok (), .last ht htoken hresult, by simp, .last ht htype hresult⟩
    · exact ⟨[t], .error f, .disturbed ht htoken he hpayload f, by simp,
        .again he hnext (.stopped f)⟩
    · obtain ⟨turns, rested, hturns, hlength, hends⟩ :=
        ih (hnext.require_resourceType.trans htype) hloop
      exact ⟨t :: turns, rested, hturns.again ht htoken he hpayload hnext,
        Nat.succ_le_succ hlength, hends.again he hnext⟩

theorem deploy_eq_loop {load : Value → Except Fault Provider} {n : Int}
    (htype : payload.require "resourceType" = .ok type) (hload : load type = .ok p)
    (hn : invocations.toInteger = .ok n) :
    deploy load tokens invocations clients payload =
      loop p tokens invocations n.toNat clients payload := by
  simp only [deploy, htype, hload, hn, bind, Except.bind, pure, Except.pure]

/-- If a provider ends an operation in its first turn, whatever happens, then this turn is the whole
run of the executor. -/
theorem loop_eq_execute
    (hover : ∀ h e made, (execute p tokens.first clients payload).Runs h (.ok e, made) → e.Over) :
    loop p tokens invocations (left + 1) clients payload =
      execute p tokens.first clients payload := by
  refine Program.bind_eq_self fun h (result, made) hrun => ?_
  cases result with
  | error f => rfl
  | ok e => rcases hover h e made hrun with hs | hs <;> simp only [hs]

/-- The executor pauses for the delays of the events in progress, in order, as far as the handlers
make no pauses of their own. -/
theorem Reinvokes.pauses (hturns : Reinvokes p tokens clients payload turns rested h)
    (hidle : ∀ t ∈ turns, t.history.pauses = []) :
    h.pauses = turns.filterMap fun t => t.inProgress?.map (·.delay) := by
  have hturn : ∀ t : Turn, t.history.pauses = [] → ∀ rested : Except Fault Unit,
      (t.history ++ t.pause rested).pauses = (t.inProgress?.map (·.delay)).toList := by
    intro t ht rested
    rw [History.pauses_append, ht, List.nil_append, Turn.pauses_pause]
  rw [hturns.history, List.filterMap_eq_flatMap_toList]
  clear hturns
  induction turns with
  | nil => rfl
  | cons t turns ih =>
    obtain ⟨ht, hrest⟩ := List.forall_mem_cons.1 hidle
    cases turns with
    | nil => rw [exchanges, hturn t ht, List.flatMap_cons, List.flatMap_nil, List.append_nil]
    | cons next turns =>
      rw [exchanges, History.pauses_append, hturn t ht, ih hrest]
      rfl

/-- If no pause is refused, neither is the one after the last turn. -/
theorem Reinvokes.rested_eq (hturns : Reinvokes p tokens clients payload turns rested h)
    (hpauses : ∀ seconds f, .slept seconds (.error f) ∉ h) : rested = .ok () := by
  cases rested with
  | ok => rfl
  | error f =>
    obtain ⟨t, hlast, e, he⟩ := hturns.refused f rfl
    refine absurd ?_ (hpauses e.delay f)
    rw [hturns.history]
    clear hturns hpauses
    induction turns with
    | nil => cases hlast
    | cons first turns ih =>
      cases turns with
      | nil =>
        obtain rfl : first = t := Option.some.inj hlast
        rw [exchanges, Turn.pause_of_inProgress he]
        exact List.mem_append_right _ (List.mem_singleton_self _)
      | cons next turns =>
        rw [List.getLast?_cons_cons] at hlast
        exact List.mem_append_right _ (ih hlast)

/-- The executor invokes a provider again and again, up to a number of invocations, whatever the
provider answers each time, whatever the surroundings answer its handlers, and whatever tokens are
drawn for the invocations. It makes the pauses that the events ask for, and if none of them is
refused, only the provider and the number of invocations decide how it ends. -/
theorem deploy_reinvokes {load : Value → Except Fault Provider} {n : Int}
    (htype : payload.require "resourceType" = .ok type) (hload : load type = .ok p)
    (hn : invocations.toInteger = .ok n)
    (hrun : (deploy load tokens invocations clients payload).Runs h (result, clients')) :
    ∃ turns rested, Reinvokes p tokens clients payload turns rested h ∧
      turns.length ≤ n.toNat ∧ Ends invocations n.toNat payload turns rested result ∧
      ((∀ seconds f, .slept seconds (.error f) ∉ h) → rested = .ok ()) ∧
      ((∀ t ∈ turns, t.history.pauses = []) →
        h.pauses = turns.filterMap fun t => t.inProgress?.map (·.delay)) := by
  rw [deploy_eq_loop htype hload hn] at hrun
  obtain ⟨turns, rested, hturns, hlength, hends⟩ := loop_reinvokes htype hrun
  exact ⟨turns, rested, hturns, hlength, hends, hturns.rested_eq, hturns.pauses⟩

/-- A provider whose resource takes ten seconds: what it answers depends on the time. It records the
token of the request. -/
def slow : Provider where
  name := "SlowProvider"
  type := "Test::Slow::Resource"
  contextKind := .plain
  act r := do
    let model := .map [("Token", r.token)]
    if (← Handler.now).lt (.int 10) then return .defer model .session (.int 5)
    else return .success model
  recover := Provider.recoverByDefault

/-- A payload for this provider, without a token. -/
def slowPayload : Value :=
  .map [("action", .text "Add"), ("resourceType", .text slow.type),
    ("requestData", .map [("logicalResourceId", .text "Slow"),
      ("resourceProperties", .map [("Name", .text "slow")])])]

/-- Tokens that are all different. -/
def slowTokens : Tokens := fun n => "token-" ++ toString n

/-- The deployment of this payload, with up to four invocations. -/
def slowDeployment : Program (Except Fault Event × ClientFactory) :=
  deploy (fun _ => .ok slow) slowTokens (.int 4) { config := {} } slowPayload

/-- The resource is there after two pauses, so that the fourth invocation is not made. The third one
has the third token. -/
theorem deploy_reinvokes_slow :
    slowPayload.require "resourceType" = .ok (.text slow.type) ∧
      (Value.int 4).toInteger = .ok 4 ∧ ∃ e turns,
      (slowDeployment.run Script.environment {}).1.1 = .ok e ∧ e.status = .success ∧
      (e.model == .map [("Token", .text (slowTokens 2))]) = true ∧
      Reinvokes slow slowTokens { config := {} } slowPayload turns (.ok ())
        (slowDeployment.history Script.environment {}) ∧
      turns.length ≤ 4 ∧ Ends (.int 4) 4 slowPayload turns (.ok ()) (.ok e) ∧
      (slowDeployment.history Script.environment {}).pauses.map Value.display = ["5", "5"] := by
  have hevent : (slowDeployment.run Script.environment {}).1.1.toOption.map
      (fun e => (e.status, e.model == .map [("Token", .text (slowTokens 2))])) =
        some (.success, true) := by
    decide +kernel
  have hpauses : (slowDeployment.history Script.environment {}).pauses.map Value.display =
      ["5", "5"] := by
    decide +kernel
  have hrested : ∀ seconds f,
      .slept seconds (.error f) ∉ slowDeployment.history Script.environment {} := by
    intro seconds f hmem
    obtain ⟨script, hrefused⟩ := Program.gives_of_mem_history _ _ hmem
    cases hrefused
  have hrun := Program.runs_history Script.environment slowDeployment {}
  generalize slowDeployment.run Script.environment {} = out at hrun hevent
  obtain ⟨⟨result, made⟩, script⟩ := out
  cases result with
  | error f => cases hevent
  | ok e =>
    have htype : slowPayload.require "resourceType" = .ok (.text slow.type) := rfl
    obtain ⟨turns, rested, hturns, hlength, hends, hover, -⟩ :=
      deploy_reinvokes (p := slow) (n := 4) htype rfl rfl hrun
    obtain rfl := hover hrested
    obtain ⟨hstatus, hmodel⟩ := Prod.mk.inj (Option.some.inj hevent)
    exact ⟨htype, rfl, e, turns, rfl, hstatus, hmodel, hturns, hlength, hends, hpauses⟩

end Executor

end Provisioning
