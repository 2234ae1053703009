import Provisioning.Proofs.Once

/-!
# Deployments

A deployment is what the executor makes of a payload: it invokes a provider, and it invokes it again
with the model and the context of every event in progress (`Executor.Deploys`). A payload without a
token gets a new one in each invocation, so that the requests of a deployment may differ in theirs.

From one invocation to the next the record of the invocation goes through the event and the payload
(`Executor.Resumes`). What an invocation keeps of it is kept over the whole deployment
(`Executor.Deploys.forall_turns`): so the context only grows (`Executor.Deploys.remembers`).
An environment makes a deployment of a payload (`Executor.deploys_deployment`).
-/

set_option autoImplicit false

namespace Provisioning

open Handler

/-! ## What an event carries -/

namespace Context

variable {c c' c'' : Context} {field : String}

/-- The value of a field in the document that a context travels as; null if there is none. -/
def sent (c : Context) (field : String) : Value := (c.declared.get? field).getD .null

/-- What is set in the document of one context is set in that of another one, which has the same
time of the first poll. -/
structure Remembered (c c' : Context) : Prop where
  grows : ∀ field, isUnset (c.sent field) = false → isUnset (c'.sent field) = false
  start : (c.sent startField).isNull = false → c'.sent startField = c.sent startField

theorem Remembered.refl (c : Context) : c.Remembered c := ⟨fun _ h => h, fun _ => rfl⟩

theorem Remembered.trans (h : c.Remembered c') (h' : c'.Remembered c'') : c.Remembered c'' where
  grows field hs := h'.grows field (h.grows field hs)
  start hs := by
    have hsame := h.start hs
    exact (h'.start (by rw [hsame]; exact hs)).trans hsame

theorem remembered_travelled (c : Context) : c.Remembered c.travelled :=
  ⟨fun _ h => h, fun _ => rfl⟩

theorem get?_of_sent {v : Value} (hv : c.sent field = v) (hnull : v.isNull = false) :
    c.declared.get? field = some v ∧ c.get? field = some v := by
  unfold sent at hv
  cases hget : c.declared.get? field with
  | none =>
    rw [hget] at hv
    subst hv
    cases hnull
  | some u =>
    rw [hget] at hv
    obtain rfl : u = v := hv
    exact ⟨rfl, by simp [get?, hget]⟩

theorem sent_of_get? (hf : c.declared.has field = true) {v : Value} (hv : c.get? field = some v) :
    c.sent field = v := by
  rw [Entries.has_eq_isSome] at hf
  obtain ⟨u, hu⟩ := Option.isSome_iff_exists.1 hf
  simp only [get?, hu, Option.some_or, Option.some.injEq] at hv
  simp [sent, hu, hv]

theorem get_eq_sent (hf : c.declared.has field = true) : c.get field = .ok (c.sent field) := by
  rw [Entries.has_eq_isSome] at hf
  obtain ⟨v, hv⟩ := Option.isSome_iff_exists.1 hf
  simp [get, get?, sent, hv]

theorem not_isNull_of_not_isUnset {v : Value} (h : isUnset v = false) : v.isNull = false := by
  cases v with
  | null => cases h
  | _ => rfl

/-- A context is remembered by what extends it. -/
theorem Extends.remembered (h : c.Extends c') : c.Remembered c' := by
  have hdeclared : ∀ {field v}, c.declared.get? field = some v → c'.declared.has field = true := by
    intro field v hv
    rw [Entries.has_eq_any_keys, h.keys, ← Entries.has_eq_any_keys, Entries.has_eq_isSome, hv]
    rfl
  refine ⟨fun field hset => ?_, fun hnull => ?_⟩
  · obtain ⟨hsent, hget⟩ := get?_of_sent rfl (not_isNull_of_not_isUnset hset)
    obtain ⟨v, hv, hset'⟩ := h.grows field ⟨_, hget, hset⟩
    rw [sent_of_get? (hdeclared hsent) hv]
    exact hset'
  · obtain ⟨hsent, hget⟩ := get?_of_sent rfl hnull
    exact sent_of_get? (hdeclared hsent) (h.start _ hget hnull)

end Context

/-- The value of a field in the context that an event carries; null if it carries none. -/
def Event.carried (e : Event) (field : String) : Value :=
  (e.ownContext?.map (·.sent field)).getD .null

/-- What is set in the context of one event is set in that of another one, which has the same time
of the first poll. -/
structure Event.RememberedBy (e e' : Event) : Prop where
  grows : ∀ field, isUnset (e.carried field) = false → isUnset (e'.carried field) = false
  start : (e.carried startField).isNull = false → e'.carried startField = e.carried startField

theorem Event.carried_of_own {e : Event} {c : Context} (he : e.context = .own c) (field : String) :
    e.carried field = c.sent field := by
  simp [carried, ownContext?, he]

theorem Context.Remembered.event {c c' : Context} (h : c.Remembered c') {e e' : Event}
    (he : e.context = .own c) (he' : e'.context = .own c') : e.RememberedBy e' := by
  refine ⟨fun field => ?_, ?_⟩
  · rw [Event.carried_of_own he, Event.carried_of_own he']
    exact h.grows field
  · rw [Event.carried_of_own he, Event.carried_of_own he']
    exact h.start

/-! ## Payloads -/

namespace Value

theorem require_eq_ok {v x : Value} {key : String} :
    v.require key = .ok x ↔ ∃ entries : Entries String Value, v = .map entries ∧
      entries.get? key = some x := by
  cases v with
  | map entries =>
    simp only [require, map.injEq, exists_eq_left']
    cases Entries.get? entries key <;> simp
  | _ => simp [require]

end Value

/-- What a request takes from its payload. -/
theorem Request.ofPayload_parts {payload : Value} {token : String} {r : Request}
    (h : ofPayload payload token = .ok r) :
    ∃ (fields data : Entries String Value) (action : Value), payload = .map fields ∧
      fields.get? "requestData" = some (.map data) ∧
      fields.get? "resourceType" = some r.resourceType ∧
      fields.get? "action" = some action ∧ Action.ofValue action = .ok r.action ∧
      r.desired = ((data.get? "resourceProperties").getD .null).orElse (.map []) ∧
      r.customContext = ((fields.get? "callbackContext").getD .null).orElse (.map []) := by
  obtain ⟨data, hdata, h⟩ := bind_eq_ok.1 h
  obtain ⟨credentials, -, h⟩ := bind_eq_ok.1 h
  obtain ⟨accessKeyId, -, h⟩ := bind_eq_ok.1 h
  obtain ⟨sessionToken, -, h⟩ := bind_eq_ok.1 h
  obtain ⟨secretAccessKey, -, h⟩ := bind_eq_ok.1 h
  obtain ⟨region, -, h⟩ := bind_eq_ok.1 h
  obtain ⟨clientRequestToken, -, h⟩ := bind_eq_ok.1 h
  obtain ⟨bearerToken, -, h⟩ := bind_eq_ok.1 h
  obtain ⟨name, hname, h⟩ := bind_eq_ok.1 h
  obtain ⟨action, haction, h⟩ := bind_eq_ok.1 h
  obtain ⟨properties, hproperties, h⟩ := bind_eq_ok.1 h
  obtain ⟨logicalId, -, h⟩ := bind_eq_ok.1 h
  obtain ⟨resourceType, htype, h⟩ := bind_eq_ok.1 h
  obtain ⟨context, hcontext, h⟩ := bind_eq_ok.1 h
  obtain ⟨systemTags, -, h⟩ := bind_eq_ok.1 h
  obtain ⟨previousSystemTags, -, h⟩ := bind_eq_ok.1 h
  obtain ⟨stackTags, -, h⟩ := bind_eq_ok.1 h
  obtain ⟨previousStackTags, -, h⟩ := bind_eq_ok.1 h
  obtain ⟨nextToken, -, h⟩ := bind_eq_ok.1 h
  obtain ⟨previous, -, h⟩ := bind_eq_ok.1 h
  obtain ⟨stackId, -, h⟩ := bind_eq_ok.1 h
  obtain ⟨accountId, -, h⟩ := bind_eq_ok.1 h
  obtain rfl := pure_eq_ok.1 h
  obtain ⟨fields, rfl, hfield⟩ := Value.require_eq_ok.1 hdata
  obtain ⟨_, hsame, hnamed⟩ := Value.require_eq_ok.1 hname
  cases hsame
  obtain ⟨_, hsame, htyped⟩ := Value.require_eq_ok.1 htype
  cases hsame
  obtain ⟨_, hsame, rfl⟩ := Value.get_eq_ok.1 hcontext
  cases hsame
  obtain ⟨entries, rfl, rfl⟩ := Value.get_eq_ok.1 hproperties
  exact ⟨fields, entries, name, rfl, hfield, htyped, hnamed, haction, rfl, rfl⟩

theorem Event.orElse_ownContext (e : Event) :
    ((e.ownContext?.map Context.toValue).getD (.map [])).orElse (.map []) =
      (e.ownContext?.map Context.toValue).getD (.map []) := by
  cases e.ownContext? with
  | none => rfl
  | some c => exact Value.orElse_map c.declared

/-- What of a payload changes for the next invocation: the callback context is that of the event,
and the properties of the resource are its model if it has one. -/
def Continues (payload : Value) (e : Event) (next : Value) : Prop :=
  ∃ fields data fields' data' : Entries String Value,
    payload = .map fields ∧ fields.get? "requestData" = some (.map data) ∧
    next = .map fields' ∧ fields'.get? "requestData" = some (.map data') ∧
    fields'.get? "callbackContext" = some ((e.ownContext?.map Context.toValue).getD (.map [])) ∧
    data'.get? "resourceProperties" =
      (if e.model.isNull then data.get? "resourceProperties" else some e.model) ∧
    (∀ key, key ≠ "callbackContext" → key ≠ "requestData" → fields'.get? key = fields.get? key) ∧
    ∀ key, key ≠ "resourceProperties" → data'.get? key = data.get? key

/-- Where there is a request there is a next payload. -/
theorem nextPayload_continues {fields data : Entries String Value}
    (hdata : fields.get? "requestData" = some (.map data)) (e : Event) :
    ∃ next, nextPayload (.map fields) e = .ok next ∧ Continues (.map fields) e next := by
  have hkeep : ∀ (m : Entries String Value) {written key : String} (v : Value),
      key ≠ written → (m.insert written v).get? key = m.get? key := by
    intro m written key v hne
    rw [Entries.get?_insert, if_neg (by simpa using hne.symm)]
  have hdata' := (hkeep fields ((e.ownContext?.map Context.toValue).getD (.map []))
    (by decide : "requestData" ≠ "callbackContext")).trans hdata
  by_cases hnull : e.model.isNull
  · refine ⟨_, bind_eq_ok.2 ⟨_, rfl, if_pos hnull⟩, fields, data, _, data, rfl, hdata, rfl, hdata',
      Entries.get?_insert_self _ _ _, (if_pos hnull).symm, fun key hne _ => hkeep _ _ hne,
      fun _ _ => rfl⟩
  · have hold : (Value.map (fields.insert "callbackContext"
        ((e.ownContext?.map Context.toValue).getD (.map [])))).require "requestData" =
          .ok (.map data) := Value.require_eq_ok.2 ⟨_, rfl, hdata'⟩
    refine ⟨_, bind_eq_ok.2 ⟨_, rfl, (if_neg hnull).trans (bind_eq_ok.2 ⟨_, hold,
      bind_eq_ok.2 ⟨_, rfl, rfl⟩⟩)⟩, fields, data, _, _, rfl, hdata, rfl,
      Entries.get?_insert_self _ _ _, ?_, ?_, fun key hcontext hrequest => ?_,
      fun key hne => hkeep _ _ hne⟩
    · rw [hkeep _ _ (by decide), Entries.get?_insert_self]
    · rw [Entries.get?_insert_self, if_neg hnull]
    · rw [hkeep _ _ hrequest, hkeep _ _ hcontext]

/-- The request of the next payload: the context of the event, and its model if it has one. -/
theorem nextPayload_request {payload payload' : Value} {e : Event} {token token' : String}
    {r r' : Request} (hnext : nextPayload payload e = .ok payload')
    (hr : Request.ofPayload payload token = .ok r)
    (hr' : Request.ofPayload payload' token' = .ok r') :
    r'.action = r.action ∧
      r'.desired = (if e.model.isNull then r.desired else e.model.orElse (.map [])) ∧
      r'.customContext = (e.ownContext?.map Context.toValue).getD (.map []) := by
  obtain ⟨fields, data, action, rfl, hdata, -, haction, hof, hdesired, -⟩ :=
    Request.ofPayload_parts hr
  obtain ⟨fields', data', action', rfl, hdata', -, haction', hof', hdesired', hcustom'⟩ :=
    Request.ofPayload_parts hr'
  obtain ⟨_, hok, _, _, _, next, hsame, hold, hsame', hnextData, hnextContext, hnextModel, hkept,
    -⟩ := nextPayload_continues hdata e
  cases hok.symm.trans hnext
  cases hsame
  cases hsame'
  cases hold.symm.trans hdata
  cases hnextData.symm.trans hdata'
  have hnextAction := hkept "action" (by decide) (by decide)
  rw [haction', haction] at hnextAction
  cases hnextAction
  refine ⟨Except.ok.inj (hof'.symm.trans hof), ?_, ?_⟩
  · rw [hdesired', hnextModel, hdesired]
    split <;> rfl
  · rw [hcustom', hnextContext, Option.getD_some, e.orElse_ownContext]

/-- What can be wrong with the parts of a client is no refusal of the service. -/
theorem ClientFactory.codeless_getAttribute (clients : ClientFactory) (name : String)
    (params : ClientParams) : Codeless (clients.getAttribute name params) := by
  have hkeys : ∀ entries : Entries String Value, Codeless (entries.forM fun e => e.2.checkKey) := by
    intro entries
    induction entries with
    | nil => exact .ok _
    | cons entry entries ih => exact (Value.codeless_checkKey _).bind fun _ => ih
  unfold getAttribute
  split
  · exact .error rfl
  · refine (hkeys _).bind fun _ => ?_
    split <;> exact .ok _

namespace Executor

/-! ## Turns -/

/-- One invocation of a provider by the executor. -/
structure Turn where
  payload : Value
  token : String
  history : History
  result : Except Fault Event

variable {p : Provider} {clients clients' : ClientFactory} {payload : Value} {turns : List Turn}
  {t : Turn} {r : Request} {s s' : Session} {e : Event} {h : History}

namespace Turn

/-- The executor runs through a turn. -/
def Runs (t : Turn) (p : Provider) (clients clients' : ClientFactory) : Prop :=
  (execute p t.token clients t.payload).Runs t.history (t.result, clients')

/-- A turn ends in an event in progress. -/
def InProgress (t : Turn) (e : Event) : Prop := t.result = .ok e ∧ e.status = .inProgress

/-- The request of a turn is that of its payload, with a client if one can be had. -/
def Requests (t : Turn) (r : Request) : Prop :=
  ∃ asked client, Request.ofPayload t.payload t.token = .ok asked ∧ Codeless client ∧
    r = { asked with client }

/-- A turn handles a request, from the record that this opens to the one that is left. -/
structure Handles (t : Turn) (p : Provider) (r : Request) (s s' : Session) : Prop where
  requests : t.Requests r
  opens : p.openSession r = .ok s
  runs : (p.handle r s).Runs t.history (t.result, s')

/-- A turn has no request to handle, or it handles it. -/
theorem Runs.cases (ht : t.Runs p clients clients') :
    (∃ f, t.result = .error f ∧ t.history = []) ∨ ∃ r s s', t.Handles p r s s' := by
  unfold Runs execute at ht
  dsimp only at ht
  split at ht
  · obtain ⟨hh, hresult⟩ := Program.runs_done_iff.1 ht
    exact .inl ⟨_, (Prod.mk.inj hresult).1, hh⟩
  · rename_i r s hopened
    obtain ⟨asked, hasked, hrest⟩ := bind_eq_ok.1 hopened
    obtain ⟨_, hsession, hsame⟩ := bind_eq_ok.1 hrest
    cases hsame
    obtain ⟨h₁, ⟨result, s'⟩, h₂, hhandle, hdone, hh⟩ := Program.runs_bind_iff.1 ht
    obtain ⟨rfl, hresult⟩ := Program.runs_done_iff.1 hdone
    obtain rfl := (Prod.mk.inj hresult).1
    rw [List.append_nil] at hh
    subst hh
    cases hclient : clients.getAttribute "rds" r.clientParams with
    | ok made =>
      rw [hclient] at hhandle
      exact .inr ⟨_, s, s', ⟨r, .ok (), hasked, .ok _, rfl⟩, hsession, hhandle⟩
    | error f =>
      rw [hclient] at hhandle
      have hcodeless := ClientFactory.codeless_getAttribute clients "rds" r.clientParams f hclient
      exact .inr ⟨_, s, s', ⟨r, .error f, hasked, .error hcodeless, rfl⟩, hsession, hhandle⟩

end Turn

/-! ## From one turn to the next -/

section
variable {settings : Settings}

/-- The record of the next turn: the model of the event, if it has one, and the declared fields of
the context that was left. -/
structure Resumes (s s' : Session) (e : Event) (next : Session) : Prop where
  context : next.context = s'.context.travelled
  model : next.model = if e.model.isNull then s.model else e.model.orElse (.map [])

/-- A turn extends the context, and its event in progress carries the context that is left. -/
theorem Turn.Handles.extends (hp : p ∈ providers settings) (ht : t.Handles p r s s') :
    s.context.Extends s'.context ∧ ∀ e, t.InProgress e → e.context = .own s'.context := by
  obtain ⟨flag, hguards⟩ := Provider.exists_guards hp (by decide : "create_integration" ∈ _)
  obtain ⟨-, -, hextends, hnext⟩ := hguards.handle ht.runs
  exact ⟨hextends, fun e he => (hnext e he.1 he.2).1⟩

theorem Turn.Handles.declares (hp : p ∈ providers settings) (ht : t.Handles p r s s') :
    p.Declares s'.context :=
  (Provider.declares_of_ofValue (Provider.openSession_eq_ok.1 ht.opens).2).extends
    (ht.extends hp).1

/-- An event in progress carries the declared fields of the context that is left. -/
theorem Turn.Handles.get_eq_carried (hp : p ∈ providers settings) (ht : t.Handles p r s s')
    (he : t.InProgress e) {field : String} (hf : p.contextKind.fields.has field = true) :
    s'.context.get field = .ok (e.carried field) := by
  rw [Event.carried_of_own ((ht.extends hp).2 e he), Context.get_eq_sent]
  rw [Entries.has_eq_any_keys, (ht.declares hp).2, ← Entries.has_eq_any_keys]
  exact hf

/-- The next turn finds the declared fields of the context as this one has left them. -/
theorem Turn.Handles.get_next (hp : p ∈ providers settings) (ht : t.Handles p r s s')
    {next : Session} (hr : Resumes s s' e next) {field : String}
    (hf : p.contextKind.fields.has field = true) :
    next.context.get field = s'.context.get field := by
  rw [hr.context]
  exact (ht.declares hp).get_travelled hf

/-- The next turn starts on the model of the event if this is a document with properties. -/
theorem Resumes.model_eq {next : Session} (hr : Resumes s s' e next) {key : String} {v : Value}
    (hget : e.model.get key = .ok v) : next.model = e.model := by
  obtain ⟨entries, hm, -⟩ := Value.get_eq_ok.1 hget
  rw [hr.model, hm]
  exact Value.orElse_map entries

theorem Turn.Handles.resumes {t' : Turn} {r' : Request} {next left : Session}
    (hp : p ∈ providers settings) (ht : t.Handles p r s s') (he : t.InProgress e)
    (hpayload : nextPayload t.payload e = .ok t'.payload) (ht' : t'.Handles p r' next left) :
    r'.action = r.action ∧ Resumes s s' e next := by
  obtain ⟨asked, client, hasked, -, rfl⟩ := ht.requests
  obtain ⟨asked', client', hasked', -, rfl⟩ := ht'.requests
  obtain ⟨haction, hdesired, hcustom⟩ := nextPayload_request hpayload hasked hasked'
  obtain ⟨hmodel, -⟩ := Provider.openSession_eq_ok.1 ht.opens
  obtain ⟨hmodel', hcontext'⟩ := Provider.openSession_eq_ok.1 ht'.opens
  dsimp only at hmodel hmodel' hcontext'
  refine ⟨haction, ?_, ?_⟩
  · rw [hcustom, Event.ownContext?, (ht.extends hp).2 e he, Option.map_some, Option.getD_some,
      ContextKind.Declares.ofValue_toValue (ht.declares hp)] at hcontext'
    exact (Except.ok.inj hcontext').symm
  · rw [hmodel', hdesired, hmodel]

/-! ## Whole deployments -/

/-- The turns of a deployment: a provider is invoked for a payload, and again for the next payload
after an event in progress. A deployment may stop before any turn. -/
inductive Deploys (p : Provider) : ClientFactory → Value → List Turn → Prop
  | stopped {clients : ClientFactory} {payload : Value} : Deploys p clients payload []
  | ended {clients clients' : ClientFactory} {t : Turn} : t.Runs p clients clients' →
      Deploys p clients t.payload [t]
  | again {clients clients' : ClientFactory} {t : Turn} {e : Event} {payload : Value}
      {turns : List Turn} : t.Runs p clients clients' → t.InProgress e →
      nextPayload t.payload e = .ok payload → Deploys p clients' payload turns →
      Deploys p clients t.payload (t :: turns)

/-- The turns of a deployment begin with its payload. -/
theorem Deploys.payload_of_head? (hd : Deploys p clients payload turns)
    (ht : turns.head? = some t) : t.payload = payload := by
  cases hd with
  | stopped => cases ht
  | ended => cases ht; rfl
  | again => cases ht; rfl

/-- What holds of the first record, and of each record that a turn hands on if it holds of its own,
holds of the records of all turns. -/
theorem Deploys.forall_turns {I : Request → Session → Prop} {P : Turn → Prop}
    (hp : p ∈ providers settings) (hd : Deploys p clients payload turns)
    (hidle : ∀ t f, t.result = .error f → t.history = [] → P t)
    (hturn : ∀ t ∈ turns, ∀ r s s', t.Handles p r s s' → I r s → P t)
    (hkeep : ∀ t ∈ turns, ∀ r s s' e r' next, t.Handles p r s s' → t.InProgress e → I r s →
      r'.action = r.action → Resumes s s' e next → I r' next)
    (hfirst : ∀ t r s s', turns.head? = some t → t.Handles p r s s' → I r s) :
    ∀ t ∈ turns, P t := by
  induction hd with
  | stopped => exact fun t ht => by cases ht
  | ended hrun =>
    refine List.forall_mem_singleton.2 ?_
    rcases hrun.cases with ⟨f, hf, hh⟩ | ⟨r, s, s', hhandles⟩
    · exact hidle _ f hf hh
    · exact hturn _ List.mem_cons_self r s s' hhandles (hfirst _ _ _ _ rfl hhandles)
  | @again clients clients' t e payload turns hrun he hpayload hrest ih =>
    rcases hrun.cases with ⟨f, hf, -⟩ | ⟨r, s, s', hhandles⟩
    · rw [he.1] at hf
      cases hf
    have hI := hfirst _ _ _ _ rfl hhandles
    refine List.forall_mem_cons.2 ⟨hturn _ List.mem_cons_self r s s' hhandles hI, ?_⟩
    refine ih (fun t ht => hturn t (List.mem_cons_of_mem _ ht))
      (fun t ht => hkeep t (List.mem_cons_of_mem _ ht)) fun t' r' next left hhead ht' => ?_
    have hsame := hrest.payload_of_head? hhead
    obtain ⟨haction, hresumes⟩ := hhandles.resumes hp he (hsame ▸ hpayload) ht'
    exact hkeep t List.mem_cons_self r s s' e r' next hhandles he hI haction hresumes

/-- What relates the record that a turn leaves to the next one, and then to each record that a turn
hands on, relates the turns. -/
theorem Deploys.pairwise {I : Request → Session → Prop} {J : Session → Request → Session → Prop}
    {R : Turn → Turn → Prop} (hp : p ∈ providers settings)
    (hd : Deploys p clients payload turns)
    (hidle : ∀ (t later : Turn) f, later.result = .error f → R t later)
    (hturn : ∀ (t : Turn) r s s' (later : Turn) r₁ s₁ s₂, t.Handles p r s s' → I r s →
      later.Handles p r₁ s₁ s₂ → J s' r₁ s₁ → R t later)
    (hkeep : ∀ t ∈ turns, ∀ r s s' e r' next, t.Handles p r s s' → t.InProgress e →
      r'.action = r.action → Resumes s s' e next →
      (I r s → I r' next ∧ J s' r' next) ∧ ∀ left, J left r s → J left r' next)
    (hfirst : ∀ t r s s', turns.head? = some t → t.Handles p r s s' → I r s) :
    turns.Pairwise R := by
  induction hd with
  | stopped => exact .nil
  | ended => exact List.pairwise_singleton _ _
  | @again clients clients' t e payload turns hrun he hpayload hrest ih =>
    rcases hrun.cases with ⟨f, hf, -⟩ | ⟨r, s, s', hhandles⟩
    · rw [he.1] at hf
      cases hf
    have hI := hfirst _ _ _ _ rfl hhandles
    have hnext : ∀ t' r' next left, turns.head? = some t' → t'.Handles p r' next left →
        I r' next ∧ J s' r' next := fun t' r' next left hhead ht' => by
      have hsame := hrest.payload_of_head? hhead
      obtain ⟨haction, hresumes⟩ := hhandles.resumes hp he (hsame ▸ hpayload) ht'
      exact (hkeep t List.mem_cons_self r s s' e r' next hhandles he haction hresumes).1 hI
    refine List.pairwise_cons.2 ⟨?_, ih (fun t ht => hkeep t (List.mem_cons_of_mem _ ht))
      fun t' r' next left hhead ht' => (hnext t' r' next left hhead ht').1⟩
    -- the turns that follow start with the record that this one leaves
    refine hrest.forall_turns hp (I := J s') (fun later f hf _ => hidle t later f hf)
      (fun later _ r₁ s₁ s₂ hlater hJ => hturn t r s s' later r₁ s₁ s₂ hhandles hI hlater hJ)
      (fun later hmem r₁ s₁ s₂ e' r₂ next hlater he' hJ haction hresumes =>
        (hkeep later (List.mem_cons_of_mem _ hmem) r₁ s₁ s₂ e' r₂ next hlater he' haction
          hresumes).2 s' hJ)
      fun t' r' next left hhead ht' => (hnext t' r' next left hhead ht').2

/-- What the context of an event in progress has set is set in that of every later one, and the time
of the first poll stays what it is. -/
def Remembers (turns : List Turn) : Prop :=
  turns.Pairwise fun t later => ∀ e e', t.InProgress e → later.InProgress e' → e.RememberedBy e'

theorem Deploys.remembers (hp : p ∈ providers settings) (hd : Deploys p clients payload turns) :
    Remembers turns := by
  refine hd.pairwise hp (I := fun _ _ => True)
    (J := fun left _ s => left.context.Remembered s.context)
    (fun t later f hf e e' _ he' => ?_)
    (fun t r s s' later r₁ s₁ s₂ ht _ hlater hJ e e' he he' => ?_)
    (fun t _ r s s' e r' next ht he _ hresumes => ?_) fun _ _ _ _ _ _ => trivial
  · rw [he'.1] at hf
    cases hf
  · exact (hJ.trans (hlater.extends hp).1.remembered).event ((ht.extends hp).2 e he)
      ((hlater.extends hp).2 e' he')
  · have hnext : s'.context.Remembered next.context := by
      rw [hresumes.context]
      exact s'.context.remembered_travelled
    exact ⟨fun _ => ⟨trivial, hnext⟩, fun left hJ =>
      (hJ.trans (ht.extends hp).1.remembered).trans hnext⟩

end

/-! ## Deployments in an environment -/

/-- The event in progress that a turn ends in, if it does. -/
def Turn.inProgress? (t : Turn) : Option Event :=
  match t.result with
  | .error _ => none
  | .ok e => if e.status = .inProgress then some e else none

theorem Turn.inProgress?_eq_some : t.inProgress? = some e ↔ t.InProgress e := by
  unfold inProgress? InProgress
  cases t.result with
  | error f => simp
  | ok e' =>
    simp only [Option.ite_none_right_eq_some, Option.some.injEq, Except.ok.injEq]
    exact ⟨fun ⟨hs, he⟩ => ⟨he, he ▸ hs⟩, fun ⟨he, hs⟩ => ⟨he ▸ hs, he⟩⟩

section
variable {σ : Type}

/-- The deployment of a payload in an environment, with a token for each turn. It is over with the
tokens, or with the first turn that does not end in an event in progress. -/
def deployment (env : Program.Environment σ) (p : Provider) :
    List String → ClientFactory → Value → σ → List Turn
  | [], _, _, _ => []
  | token :: tokens, clients, payload, state =>
    let program := execute p token clients payload
    let ((result, clients), state') := program.run env state
    let t : Turn := ⟨payload, token, program.history env state, result⟩
    t :: match t.inProgress?.map (nextPayload payload) with
      | some (.ok payload) => deployment env p tokens clients payload state'
      | _ => []

theorem deploys_deployment (env : Program.Environment σ) (p : Provider) (tokens : List String)
    (clients : ClientFactory) (payload : Value) (state : σ) :
    Deploys p clients payload (deployment env p tokens clients payload state) := by
  induction tokens generalizing clients payload state with
  | nil => exact .stopped
  | cons token tokens ih =>
    have ht : Turn.Runs ⟨payload, token, _, _⟩ p clients _ :=
      Program.runs_history env (execute p token clients payload) state
    unfold deployment
    dsimp only
    split
    · rename_i next hnext
      obtain ⟨e, he, hnext⟩ := Option.map_eq_some_iff.1 hnext
      exact .again ht (Turn.inProgress?_eq_some.1 he) hnext (ih ..)
    · exact .ended ht

/-- What was called in a deployment has been answered by the environment. -/
theorem answered_of_mem_deployment {env : Program.Environment σ} {tokens : List String} {state : σ}
    {c : Call} {a : Answer} (ht : t ∈ deployment env p tokens clients payload state)
    (hmem : .called c a ∈ t.history) : ∃ state', a = (env.call c state').1 := by
  induction tokens generalizing clients payload state with
  | nil => cases ht
  | cons token tokens ih =>
    unfold deployment at ht
    rcases List.mem_cons.1 ht with rfl | ht
    · exact Program.answered_of_mem_history _ _ hmem
    · split at ht
      · exact ih ht
      · cases ht

end

end Executor

end Provisioning
