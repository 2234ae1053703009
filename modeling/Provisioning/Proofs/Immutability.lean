import Provisioning.Proofs.Classification
import Provisioning.Proofs.Integration.Update
import Provisioning.Proofs.ParameterGroup.Invocation
import Provisioning.Proofs.ParameterGroup.Steps

/-!
# Properties that an update cannot change

An update is refused before it asks for anything if it wants another value for a property that
cannot change than the previous model has. The identifiers that the desired model leaves empty are
taken over from the previous one, and taking them over twice is the same as doing it once
(`takenOver_of_takenOver`). So an update that was admitted once is admitted in every invocation for
it, whose model is the one that an earlier invocation has returned (`UpdateGuard.Sound.reaches`).

What the check is compared with is the same update without it (`UpdateGuard.carryOut`).
-/

set_option autoImplicit false

namespace Provisioning

open Handler

/-! ## Taking over identifiers -/

/-- A property of a model; null if it is absent. -/
def propertyOf (m : Entries String Value) (key : String) : Value := (m.get? key).getD .null

/-- A value, or the one before if only that says something. -/
def filledFrom (before own : Value) : Value :=
  if own.truthy = false ∧ before.truthy = true then before else own

/-- A property of the desired model once the identifiers that it leaves empty are taken over from
the previous one. -/
def takenOver (identifiers : List String) (previous desired : Entries String Value)
    (key : String) : Value :=
  if key ∈ identifiers then filledFrom (propertyOf previous key) (propertyOf desired key)
  else propertyOf desired key

theorem filledFrom_filledFrom (before own : Value) :
    filledFrom before (filledFrom before own) = filledFrom before own := by
  unfold filledFrom
  split
  · simp
  · rfl

/-- A model that has taken over identifiers takes over no more of them. -/
theorem takenOver_of_takenOver {identifiers : List String} {previous m m' : Entries String Value}
    (h : ∀ key, propertyOf m' key = takenOver identifiers previous m key) (key : String) :
    takenOver identifiers previous m' key = takenOver identifiers previous m key := by
  unfold takenOver
  rw [h, takenOver]
  split
  · exact filledFrom_filledFrom _ _
  · rfl

namespace Integration

variable {previous m : Entries String Value}

theorem exists_inherit (previous m : Entries String Value) (key : String) :
    ∃ m' : Entries String Value, inherit (.map previous) (.map m) key = .ok (.map m') ∧
      ∀ k, propertyOf m' k = takenOver [key] previous m k := by
  have hown : (Value.map m).get key = .ok (propertyOf m key) := rfl
  have hbefore : (Value.map previous).get key = .ok (propertyOf previous key) := rfl
  have hkept : ¬((propertyOf m key).truthy = false ∧ (propertyOf previous key).truthy = true) →
      ∀ k, propertyOf m k = takenOver [key] previous m k := by
    intro hnot k
    rw [takenOver]
    by_cases hk : k = key
    · rw [if_pos (List.mem_singleton.2 hk), hk, filledFrom, if_neg hnot]
    · rw [if_neg (by simpa using hk)]
  cases howned : (propertyOf m key).truthy with
  | true => exact ⟨m, bind_eq_ok.2 ⟨_, hown, by rw [if_pos howned]; rfl⟩, hkept (by simp [howned])⟩
  | false =>
    cases hgiven : (propertyOf previous key).truthy with
    | false =>
      refine ⟨m, bind_eq_ok.2 ⟨_, hown, ?_⟩, hkept (by simp [hgiven])⟩
      rw [if_neg (by simp [howned]), hbefore]
      exact if_neg (by simp [hgiven])
    | true =>
      refine ⟨m.insert key (propertyOf previous key), bind_eq_ok.2 ⟨_, hown, ?_⟩, fun k => ?_⟩
      · rw [if_neg (by simp [howned]), hbefore]
        exact if_pos hgiven
      · unfold takenOver
        rw [propertyOf, Entries.get?_insert]
        by_cases hk : k = key
        · subst hk
          simp [filledFrom, howned, hgiven]
        · simp [hk, Ne.symm hk, propertyOf]

/-- Taking over several identifiers, one after another. -/
theorem exists_inherit_all (identifiers : List String) (previous m : Entries String Value) :
    ∃ m' : Entries String Value,
      identifiers.foldlM (inherit (.map previous)) (.map m) = .ok (.map m') ∧
        ∀ k, propertyOf m' k = takenOver identifiers previous m k := by
  induction identifiers generalizing m with
  | nil => exact ⟨m, rfl, fun _ => rfl⟩
  | cons key identifiers ih =>
    obtain ⟨m₁, hfirst, hm₁⟩ := exists_inherit previous m key
    obtain ⟨m', hrest, hm'⟩ := ih m₁
    refine ⟨m', bind_eq_ok.2 ⟨_, hfirst, hrest⟩, fun k => ?_⟩
    rw [hm', takenOver, takenOver, hm₁, takenOver]
    by_cases hk : k = key
    · subst hk
      simp [filledFrom_filledFrom]
    · simp [hk]

/-- The check fails with the properties that differ, in the order of the check. -/
theorem requireUnchanged_eq (type : String) (keys : List String)
    (m previous : Entries String Value) :
    requireUnchanged type keys (.map m) (.map previous) =
      let changed := keys.filter fun key => !(propertyOf m key == propertyOf previous key)
      if changed = [] then .ok () else .error (.handler (.notUpdatable type changed)) := by
  have hdiffering : differing keys (.map m) (.map previous) =
      .ok (keys.filter fun key => !(propertyOf m key == propertyOf previous key)) :=
    filterM_of_forall_ok fun _ _ => rfl
  rw [requireUnchanged, hdiffering]
  cases keys.filter fun key => !(propertyOf m key == propertyOf previous key) <;> rfl

end Integration

/-! ## Guarded updates -/

/-- How a provider guards its updates: which properties cannot change, which identifiers a model
takes over from the previous one, and what an update does with and without the check. -/
structure UpdateGuard where
  provider : Provider
  createOnly : List String
  identifiers : List String
  update : Request → Handler Event
  carryOut : Request → Handler Event

namespace UpdateGuard

variable {g : UpdateGuard} {r r' : Request} {previous m : Entries String Value} {context : Context}

/-- The properties that an update wants another value for although they cannot change, in their
order. -/
def forbidden (g : UpdateGuard) (previous desired : Entries String Value) : List String :=
  g.createOnly.filter fun key =>
    !(takenOver g.identifiers previous desired key == propertyOf previous key)

/-- What is forbidden depends on the properties once the identifiers are taken over. -/
theorem forbidden_congr {m' : Entries String Value}
    (h : ∀ key, takenOver g.identifiers previous m' key = takenOver g.identifiers previous m key) :
    g.forbidden previous m' = g.forbidden previous m := by
  simp only [forbidden, h]

/-- The previous model of a request; the empty one if there is none. -/
def Follows (r : Request) (previous : Entries String Value) : Prop :=
  r.previous.orElse (.map []) = .map previous

/-- The provider without the check. -/
def unchecked (g : UpdateGuard) : Provider :=
  { g.provider with
    act := fun r =>
      if r.action = .update then lift r.client >>= fun _ => g.carryOut r else g.provider.act r }

/-- The update compares the properties that cannot change before it asks for anything: it fails with
those that differ, and does what it does without the check if there are none. -/
structure Sound (g : UpdateGuard) : Prop where
  act {r : Request} (haction : r.action = .update) :
    g.provider.act r = lift r.client >>= fun _ => g.update r
  checks {r : Request} {previous : Entries String Value} (m : Entries String Value)
    (context : Context) (hprevious : Follows r previous) :
    ∃ model, (g.update r).start ⟨.map m, context⟩ =
      if g.forbidden previous m = [] then (g.carryOut r).start ⟨.map m, context⟩
      else .done (.error (.handler (.notUpdatable g.provider.type (g.forbidden previous m))),
        ⟨model, context⟩)
  recovers (e : Event) (fault : HandlerFault) : g.provider.recover e (.handler fault) =
    .ok (.failed e.model e.context fault.code (Fault.message (.handler fault)))
  /-- An invocation that asks for another one returns a model that has taken over no more than the
  one it was started on. -/
  returns {r : Request} {previous m : Entries String Value} {h : History} {e : Event}
    (haction : r.action = .update) (hdesired : r.desired = .map m) (hprevious : Follows r previous)
    (hadmitted : g.forbidden previous m = []) (hinv : g.provider.Invokes r h (.ok e))
    (hstatus : e.status = .inProgress) :
    ∃ m', e.model = .map m' ∧
      ∀ key, takenOver g.identifiers previous m' key = takenOver g.identifiers previous m key

/-- The message for an update that is forbidden. -/
def refusal (type : String) (properties : List String) : String :=
  "Resource of type '" ++ type ++ "' cannot update create-only properties: "
    ++ String.intercalate ", " properties

theorem refusal_ne_empty (type : String) (properties : List String) :
    refusal type properties ≠ "" := by
  intro h
  have hprefix := (String.append_eq_empty_iff.1 h).1
  have hstart := (String.append_eq_empty_iff.1 (String.append_eq_empty_iff.1 hprefix).1).1
  exact absurd hstart (by decide)

theorem message_notUpdatable (type : String) (properties : List String) :
    (Fault.handler (.notUpdatable type properties)).message = .text (refusal type properties) :=
  Fault.message_handler (refusal_ne_empty type properties)

/-- A forbidden update asks for nothing. It fails with the properties that it may not change, if a
client of the service can be had at all. -/
theorem Sound.refuses (hg : g.Sound) (haction : r.action = .update)
    (hprevious : Follows r previous) (hforbidden : g.forbidden previous m ≠ []) :
    ∃ result sess', g.provider.handle r ⟨.map m, context⟩ = .done (result, sess') ∧
      (r.client = .ok () → ∃ e, result = .ok e ∧ e.status = .failed ∧
        e.code = some .notUpdatable ∧
        e.message = .text (refusal g.provider.type (g.forbidden previous m))) := by
  have hstart := start_lift_bind (f := fun _ => g.update r) r.client ⟨.map m, context⟩
  rw [← hg.act haction] at hstart
  cases hclient : r.client with
  | error f =>
    rw [hclient] at hstart
    exact ⟨_, _, Provider.handle_of_fault hstart, nofun⟩
  | ok =>
    obtain ⟨model, hupdate⟩ := hg.checks m context hprevious
    rw [if_neg hforbidden] at hupdate
    rw [hclient] at hstart
    refine ⟨_, _, Provider.handle_of_fault (hstart.trans hupdate), fun _ => ?_⟩
    have hclass : (Fault.handler (.notUpdatable g.provider.type (g.forbidden previous m))).isA
        "NotImplementedError" = false := rfl
    rw [if_neg (by rw [hclass]; decide), hg.recovers, message_notUpdatable]
    exact ⟨_, rfl, rfl, rfl, Event.message_failed (refusal_ne_empty _ _)⟩

/-- An update that is admitted is admitted in every invocation of its run. -/
theorem Sound.reaches (hg : g.Sound) (haction : r.action = .update) (hdesired : r.desired = .map m)
    (hprevious : Follows r previous) (hadmitted : g.forbidden previous m = [])
    (hreach : g.provider.Reaches r r') : r'.action = .update ∧ Follows r' previous ∧
      ∃ m', r'.desired = .map m' ∧ g.forbidden previous m' = [] := by
  -- the request stays the same but for the model and the context that an invocation returns
  induction hreach with
  | start => exact ⟨haction, hprevious, m, hdesired, hadmitted⟩
  | again _ hinv hstatus ih =>
    obtain ⟨haction', hprevious', m', hdesired', hadmitted'⟩ := ih
    obtain ⟨m'', hmodel, hsame⟩ :=
      hg.returns haction' hdesired' hprevious' hadmitted' hinv hstatus
    refine ⟨haction', hprevious', m'', ?_, (forbidden_congr hsame).trans hadmitted'⟩
    rw [Request.resume, hmodel]
    rfl

/-- The check makes no difference to an invocation whose update it admits. -/
theorem Sound.handle_eq (hg : g.Sound) (haction : r.action = .update)
    (hprevious : Follows r previous) (hadmitted : g.forbidden previous m = []) :
    g.provider.handle r ⟨.map m, context⟩ = g.unchecked.handle r ⟨.map m, context⟩ := by
  have hact : g.unchecked.act r = lift r.client >>= fun _ => g.carryOut r := if_pos haction
  refine Provider.handle_congr ?_ rfl
  rw [hg.act haction, hact, start_lift_bind, start_lift_bind]
  cases r.client with
  | error f => rfl
  | ok =>
    obtain ⟨model, hupdate⟩ := hg.checks m context hprevious
    exact hupdate.trans (if_pos hadmitted)

end UpdateGuard

/-! ## Integrations -/

namespace Integration

variable {s : Settings} {r : Request} {previous m : Entries String Value} {sess sess' : Session}
  {h : History} {res : Except Fault Event}

/-- What an update of an integration does once it is admitted. -/
def carryOut (s : Settings) (r : Request) : Handler Event := do
  let previous := r.previous.orElse (.map [])
  setModel (← lift (["IntegrationArn", "IntegrationName"].foldlM (inherit previous) (← model)))
  let previousTags ← lift (r.previousTags previous)
  let desiredTags ← lift (r.desiredTags (← model))
  chain (.progress (← model) .session) (updateSteps s r previousTags desiredTags)

theorem start_update (s : Settings) (r : Request) (sess : Session) : (update s r).start sess =
    (lift (requireUnchanged typeName createOnlyProperties sess.model
      (r.previous.orElse (.map []))) >>= fun _ => carryOut s r).start sess := rfl

/-- How updates of integrations are guarded. -/
def updateGuard (s : Settings) : UpdateGuard where
  provider := provider s
  createOnly := createOnlyProperties
  identifiers := ["IntegrationArn", "IntegrationName"]
  update := update s
  carryOut := carryOut s

theorem act_update (haction : r.action = .update) :
    (provider s).act r = lift r.client >>= fun _ => update s r := by
  show (lift _ >>= fun _ => _) = _
  rw [haction]

/-- An integration takes over none of the properties that cannot change. -/
theorem forbidden_updateGuard (previous desired : Entries String Value) :
    (updateGuard s).forbidden previous desired = createOnlyProperties.filter fun key =>
      !(propertyOf desired key == propertyOf previous key) := by
  refine List.filter_congr fun key hkey => ?_
  have hown : key ∉ ["IntegrationArn", "IntegrationName"] := by
    have hnone : ∀ key ∈ createOnlyProperties, key ∉ ["IntegrationArn", "IntegrationName"] := by
      decide
    exact hnone key hkey
  rw [takenOver]
  exact congrArg (fun value => !(value == propertyOf previous key)) (if_neg hown)

theorem checks_updateGuard (m : Entries String Value) (context : Context)
    (hprevious : UpdateGuard.Follows r previous) :
    ∃ model, (update s r).start ⟨.map m, context⟩ =
      if (updateGuard s).forbidden previous m = [] then (carryOut s r).start ⟨.map m, context⟩
      else .done (.error (.handler (.notUpdatable typeName ((updateGuard s).forbidden previous m))),
        ⟨model, context⟩) := by
  refine ⟨.map m, ?_⟩
  rw [start_update, hprevious, requireUnchanged_eq, forbidden_updateGuard]
  exact start_check _ _ _ _

/-- What an admitted update ends in is no refusal of the service. -/
theorem codeless_carryOut : (carryOut s r).Raises (·.isRefusal = false) := by
  have hmodel : model.Raises (·.isRefusal = false) := Raises.get.bind fun _ => .pure _
  refine hmodel.bind fun m =>
    Raises.bind (.lift (Codeless.foldlM (codeless_inherit _) _ m)) fun _ =>
    (Raises.modify _).bind fun _ => Raises.bind (.lift (r.codeless_previousTags _)) fun before =>
    hmodel.bind fun _ => Raises.bind (.lift (r.codeless_desiredTags _)) fun after =>
    hmodel.bind fun _ => raises_chain (forall_mem_updateSteps ?_ codeless_stabilizeStep ?_
      codeless_readStep) _
  · exact codeless_executeOnce _ (codeless_modifyStep _)
  · exact codeless_executeOnce _ (codeless_tagStep before.codeless_all after.codeless_all)

/-- An admitted update that asks for another invocation returns the model with the identifiers that
it has taken over. -/
theorem carryOut_returns {context : Context} {e : Event}
    (hprevious : UpdateGuard.Follows r previous)
    (hy : (carryOut s r).Yields ⟨.map m, context⟩ h (.ok e) sess')
    (hstatus : e.status = .inProgress) : ∃ m', e.model = .map m' ∧ ∀ key,
      propertyOf m' key = takenOver ["IntegrationArn", "IntegrationName"] previous m key := by
  obtain ⟨m', hm', hproperties⟩ :=
    exists_inherit_all ["IntegrationArn", "IntegrationName"] previous m
  unfold carryOut at hy
  dsimp only at hy
  rw [yields_model_bind, hprevious, hm', lift_ok_bind, yields_setModel_bind] at hy
  obtain ⟨previousTags, -, hy⟩ := yields_lift_bind_ok.1 hy
  rw [yields_model_bind] at hy
  obtain ⟨desiredTags, -, hy⟩ := yields_lift_bind_ok.1 hy
  rw [yields_model_bind] at hy
  exact ⟨m', (keeps_updateSteps hy).of_inProgress hstatus, hproperties⟩

/-- An update that asks for another invocation returns the model that it was started on, or that one
with the identifiers that it has taken over. -/
theorem returns_updateGuard {e : Event} (haction : r.action = .update)
    (hdesired : r.desired = .map m) (hprevious : UpdateGuard.Follows r previous)
    (hadmitted : (updateGuard s).forbidden previous m = [])
    (hinv : (provider s).Invokes r h (.ok e)) (hstatus : e.status = .inProgress) :
    ∃ m', e.model = .map m' ∧ ∀ key,
      takenOver ["IntegrationArn", "IntegrationName"] previous m' key =
        takenOver ["IntegrationArn", "IntegrationName"] previous m key := by
  obtain ⟨⟨_, context⟩, sess', hopen, hrun⟩ := hinv
  obtain ⟨rfl, -⟩ := Provider.openSession_eq_ok.1 hopen
  obtain ⟨res, hact, hawaits⟩ := handle_awaits hrun
  obtain ⟨hnot, hawaits⟩ := hawaits e rfl hstatus
  rw [act_update haction, hdesired] at hact
  rcases yields_lift_bind.1 hact with ⟨f, -, -, rfl, rfl⟩ | ⟨-, -, hupdate⟩
  -- without a client the model stays as it was; the refusal of one may be worth another try
  · exact ⟨m, hawaits.symm, fun _ => rfl⟩
  obtain ⟨model, hchecks⟩ := checks_updateGuard (s := s) m context hprevious
  rw [if_pos hadmitted] at hchecks
  have hcarry : (carryOut s r).Yields ⟨.map m, context⟩ h res sess' := by
    unfold Yields
    rw [← hchecks]
    exact hupdate
  cases res with
  | error f => exact absurd (Fault.serviceCode_eq_null (codeless_carryOut hcarry)) hnot
  | ok e'' =>
    obtain ⟨hprogress, -, hmodel⟩ := hawaits
    obtain ⟨m', hm', hproperties⟩ := carryOut_returns hprevious hcarry hprogress
    exact ⟨m', hmodel.symm.trans hm', takenOver_of_takenOver hproperties⟩

theorem sound_updateGuard : (updateGuard s).Sound where
  act := act_update
  checks := checks_updateGuard
  recovers := recover_handler s
  returns := returns_updateGuard

end Integration

/-! ## Parameter groups -/

namespace ParameterGroup

open Integration (inherit exists_inherit requireUnchanged requireUnchanged_eq)

variable {s : Settings} {r : Request} {previous m : Entries String Value} {h : History} {e : Event}

/-- What an update of a parameter group does on the model that has taken over the name. -/
def carryOutOn (r : Request) (model : Value) : Handler Event := do
  let previous := r.previous.orElse (.map [])
  let previousTags ← lift (r.previousTags previous)
  let desiredTags ← lift (r.desiredTags model)
  chain (.progress model .session)
    [parametersOnce (parametersOf previous) (parametersOf model),
     executeOnce "update_tags_complete" (tagStep previousTags.all desiredTags.all),
     readStep]

/-- What an update of a parameter group does once it is admitted. -/
def carryOut (r : Request) : Handler Event := do
  setModel (← lift (inherit (r.previous.orElse (.map [])) (← model) "DBParameterGroupName"))
  carryOutOn r (← model)

/-- How updates of parameter groups are guarded. -/
def updateGuard (s : Settings) : UpdateGuard where
  provider := provider s
  createOnly := createOnlyProperties
  identifiers := ["DBParameterGroupName"]
  update := update
  carryOut := carryOut

theorem act_update (haction : r.action = .update) :
    (provider s).act r = lift r.client >>= fun _ => update r := by
  show (lift _ >>= fun _ => _) = _
  rw [haction]

/-- A parameter group takes over its name before the properties are compared. -/
theorem checks_updateGuard (m : Entries String Value) (context : Context)
    (hprevious : UpdateGuard.Follows r previous) :
    ∃ model, (update r).start ⟨.map m, context⟩ =
      if (updateGuard s).forbidden previous m = [] then (carryOut r).start ⟨.map m, context⟩
      else .done (.error (.handler (.notUpdatable typeName ((updateGuard s).forbidden previous m))),
        ⟨model, context⟩) := by
  obtain ⟨m', hm', hproperties⟩ := exists_inherit previous m "DBParameterGroupName"
  have hupdate : (update r).start ⟨.map m, context⟩ =
      (lift (requireUnchanged typeName createOnlyProperties (.map m') (.map previous)) >>=
        fun _ => carryOutOn r (.map m')).start ⟨.map m', context⟩ := by
    unfold update carryOutOn
    dsimp only
    rw [start_model_bind, hprevious, hm', lift_ok_bind]
    rfl
  have hcarry : (carryOut r).start ⟨.map m, context⟩ =
      (carryOutOn r (.map m')).start ⟨.map m', context⟩ := by
    unfold carryOut
    rw [start_model_bind, hprevious, hm', lift_ok_bind]
    rfl
  have hforbidden : (updateGuard s).forbidden previous m = createOnlyProperties.filter fun key =>
      !(propertyOf m' key == propertyOf previous key) := by
    simp only [hproperties]
    rfl
  refine ⟨.map m', ?_⟩
  rw [hupdate, hcarry, hforbidden, requireUnchanged_eq]
  exact start_check _ _ _ _

/-- Every event of an update ends the operation. -/
theorem sound_updateGuard : (updateGuard s).Sound where
  act := act_update
  checks := checks_updateGuard
  recovers := recover_handler
  returns _ _ _ _ hinv hstatus := by
    obtain ⟨_, _, -, hrun⟩ := hinv
    exact absurd hstatus (handle_ends hrun).ne_inProgress

end ParameterGroup

/-! ## Both providers -/

/-- How the providers guard their updates. -/
def updateGuards (s : Settings) : List UpdateGuard :=
  [Integration.updateGuard s, ParameterGroup.updateGuard s]

/-- There is a guard for each provider. -/
theorem map_provider_updateGuards (s : Settings) :
    (updateGuards s).map (·.provider) = providers s := rfl

theorem sound_of_mem_updateGuards {s : Settings} {g : UpdateGuard} (hg : g ∈ updateGuards s) :
    g.Sound := by
  rw [updateGuards, List.mem_cons, List.mem_singleton] at hg
  rcases hg with rfl | rfl
  · exact Integration.sound_updateGuard
  · exact ParameterGroup.sound_updateGuard

/-- An update that wants another value for a property that cannot change asks for nothing: it fails
with all those properties in its message, unless not even a client of the service can be had. An
update that wants none of this is carried out as if there were no check, in this invocation and in
every later one of its run. What counts is the desired model with the identifiers that it leaves
empty taken over, as far as the previous model has them. -/
theorem updates_guarded {s : Settings} {g : UpdateGuard} (hg : g ∈ updateGuards s) {r : Request}
    {previous m : Entries String Value} (haction : r.action = .update)
    (hdesired : r.desired = .map m) (hprevious : UpdateGuard.Follows r previous) :
    (g.forbidden previous m ≠ [] → ∀ context, ∃ result sess',
      g.provider.handle r ⟨r.desired, context⟩ = .done (result, sess') ∧
        (r.client = .ok () → ∃ e, result = .ok e ∧ e.status = .failed ∧
          e.code = some .notUpdatable ∧ e.message =
            .text (UpdateGuard.refusal g.provider.type (g.forbidden previous m)))) ∧
    (g.forbidden previous m = [] → ∀ r', g.provider.Reaches r r' →
      ∃ m', r'.desired = .map m' ∧ UpdateGuard.Follows r' previous ∧
        g.forbidden previous m' = [] ∧ ∀ context,
          g.provider.handle r' ⟨r'.desired, context⟩ =
            g.unchecked.handle r' ⟨r'.desired, context⟩) := by
  have hsound := sound_of_mem_updateGuards hg
  refine ⟨fun hforbidden context => ?_, fun hadmitted r' hreach => ?_⟩
  · rw [hdesired]
    exact hsound.refuses haction hprevious hforbidden
  · obtain ⟨haction', hprevious', m', hdesired', hadmitted'⟩ :=
      hsound.reaches haction hdesired hprevious hadmitted hreach
    refine ⟨m', hdesired', hprevious', hadmitted', fun context => ?_⟩
    rw [hdesired']
    exact hsound.handle_eq haction' hprevious' hadmitted'

/-- An update of a parameter group to another family, which leaves the name open. -/
def familyUpdate : Request where
  action := .update
  desired := .map [("DBParameterGroupName", .text ""), ("Family", .text "postgres16")]
  previous := .map [("DBParameterGroupName", .text "tuned"), ("Family", .text "postgres15")]

/-- Another family is refused. An integration may have other tags, also in the second invocation. -/
theorem updates_guarded_familyUpdate :
    (∃ result sess', (ParameterGroup.provider {}).handle familyUpdate
        ⟨familyUpdate.desired, .initial .parameterGroup⟩ = .done (result, sess') ∧
      ∃ e, result = .ok e ∧ e.status = .failed ∧ e.code = some .notUpdatable ∧
        e.message = .text ("Resource of type 'AWS::RDS::DBParameterGroup' cannot update "
          ++ "create-only properties: Family")) ∧
    ∃ h e, (Integration.provider {}).Invokes Integration.productionUpdate h (.ok e) ∧
      e.status = .inProgress ∧ ∀ context,
        (Integration.provider {}).handle (Integration.productionUpdate.resume e)
            ⟨(Integration.productionUpdate.resume e).desired, context⟩ =
          (Integration.updateGuard {}).unchecked.handle (Integration.productionUpdate.resume e)
            ⟨(Integration.productionUpdate.resume e).desired, context⟩ := by
  constructor
  · have hg : ParameterGroup.updateGuard {} ∈ updateGuards {} := by simp [updateGuards]
    have hforbidden : (ParameterGroup.updateGuard {}).forbidden
        [("DBParameterGroupName", .text "tuned"), ("Family", .text "postgres15")]
        [("DBParameterGroupName", .text ""), ("Family", .text "postgres16")] = ["Family"] := rfl
    obtain ⟨result, sess', hhandle, hevent⟩ :=
      (updates_guarded hg (r := familyUpdate) rfl rfl rfl).1 (by rw [hforbidden]; simp)
        (.initial .parameterGroup)
    obtain ⟨e, he, hstatus, hcode, hmessage⟩ := hevent rfl
    rw [hforbidden] at hmessage
    exact ⟨result, sess', hhandle, e, he, hstatus, hcode, hmessage.trans (congrArg _ (by decide))⟩
  · have hg : Integration.updateGuard {} ∈ updateGuards {} := by simp [updateGuards]
    have hfirst : (Integration.provider {}).Invokes Integration.productionUpdate _ _ :=
      ⟨⟨Integration.productionUpdate.desired, .initial .integration⟩, _, rfl,
        Program.runs_history Script.environment _
          (Integration.tagService (.ok (.map [])) (.error Integration.notYetValid))⟩
    obtain ⟨_, -, -, -, hcarried⟩ :=
      (updates_guarded hg (r := Integration.productionUpdate) rfl rfl rfl).2 rfl _
        (.again .start hfirst rfl)
    exact ⟨_, _, hfirst, rfl, hcarried⟩

end Provisioning
