import Provisioning.Executor
import Provisioning.Script
import Provisioning.Proofs.Integration.Steps
import Provisioning.Proofs.ParameterGroup.Footprint
import Provisioning.Proofs.ParameterGroup.Parameters
import Provisioning.Proofs.ParameterGroup.Steps
import Provisioning.Proofs.Run
import Provisioning.Proofs.TagDiff
import Provisioning.Proofs.Tagging

/-!
# Destructive requests are confined

A request that destroys something is made by the action that is for it alone, and takes back nothing
but what was declared before and is no longer wanted (`Provider.Invokes.confined`): tags are removed
by their keys, parameters are reset by their names.
-/

set_option autoImplicit false

namespace Provisioning

open Handler
open History (Requests)

/-! ## What may be asked for -/

/-- The operations that change or take back something that was there before. -/
def destructiveOperations : List String :=
  ["delete_integration", "delete_db_parameter_group", "modify_integration",
   "remove_tags_from_resource", "reset_db_parameter_group", "modify_db_parameter_group"]

/-- The operations that only look. -/
def lookOperations : List String :=
  ["describe_integrations", "describe_db_parameter_groups", "list_tags_for_resource"]

namespace Request

variable {r : Request}

/-- The keys of a request to remove tags: those that the flat tags had before and no longer have,
each of them once, and at least one. -/
def DropsTags (r : Request) (arguments : Entries String Value) : Prop :=
  ∃ arn before after keys, r.tagsBefore = .ok before ∧ r.tagsAfter r.desired = .ok after ∧
    arguments = [("ResourceName", arn), ("TagKeys", .list keys)] ∧
    keys = before.flat.keys.filter (fun k => !after.flat.has k) ∧ keys ≠ [] ∧
    keys.Pairwise fun a b => (a == b) = false

/-- The names of a request to reset parameters: they were declared before, and no longer are. -/
def DropsParameters (r : Request) (arguments : Entries String Value) : Prop :=
  ∃ group before after items,
    ParameterGroup.parametersOf (r.previous.orElse (.map [])) = .ok before ∧
    ParameterGroup.parametersOf r.desired = .ok after ∧
    arguments = ParameterGroup.itemsOf group items ∧
    ∀ item ∈ items, ∃ name method, item = ParameterGroup.resetItem name method ∧
      ParameterGroup.Declared before name ∧ ¬ ParameterGroup.Declared after name

/-- The names and values of a request to set parameters: they are declared. -/
def SetsParameters (r : Request) (arguments : Entries String Value) : Prop :=
  ∃ group entries items, ParameterGroup.parametersOf r.desired = .ok (.map entries) ∧
    arguments = ParameterGroup.itemsOf group items ∧
    ∀ item ∈ items, ∃ name value method, item = ParameterGroup.setItem name value method ∧
      (name, value) ∈ entries

/-- What the handler of a request may ask the service for. -/
structure Permits (r : Request) (c : Call) : Prop where
  looks : r.action = .read ∨ r.action = .list → c.operation ∈ lookOperations
  deletes : c.operation = "delete_integration" ∨ c.operation = "delete_db_parameter_group" →
    r.action = .delete
  modifies : c.operation = "modify_integration" → r.action = .update
  removes : c.operation = "remove_tags_from_resource" → r.action = .update ∧ r.DropsTags c.arguments
  resets : c.operation = "reset_db_parameter_group" →
    r.action = .update ∧ r.DropsParameters c.arguments
  sets : c.operation = "modify_db_parameter_group" →
    (r.action = .create ∨ r.action = .update) ∧ r.SetsParameters c.arguments

/-- What destroys nothing is permitted to every action that does not only look. -/
theorem permits_of_harmless {c : Call} (hop : c.operation ∉ destructiveOperations)
    (hlook : r.action = .read ∨ r.action = .list → c.operation ∈ lookOperations) : r.Permits c := by
  have hne : ∀ op ∈ destructiveOperations, c.operation ≠ op := fun op hmem h => hop (h ▸ hmem)
  simp only [destructiveOperations, List.forall_mem_cons] at hne
  obtain ⟨hi, hg, hmodify, hremove, hreset, hset, -⟩ := hne
  exact ⟨hlook, fun h => absurd h (by simp [hi, hg]), fun h => absurd h hmodify,
    fun h => absurd h hremove, fun h => absurd h hreset, fun h => absurd h hset⟩

/-- A handler that keeps to harmless operations asks for what is permitted. -/
theorem permits_of_mem {ops : List String} (hops : ∀ op ∈ ops, op ∉ destructiveOperations)
    (hlook : r.action = .read ∨ r.action = .list → ∀ op ∈ ops, op ∈ lookOperations) (c : Call)
    (hc : c.operation ∈ ops) : r.Permits c :=
  permits_of_harmless (hops _ hc) fun h => hlook h _ hc

/-- A request to delete is permitted to the action that deletes. -/
theorem permits_of_delete {c : Call} (ha : r.action = .delete)
    (hop : c.operation = "delete_integration" ∨ c.operation = "delete_db_parameter_group") :
    r.Permits c := by
  rcases hop with hop | hop <;>
    exact ⟨by simp [ha], fun _ => ha, by simp [hop], by simp [hop], by simp [hop], by simp [hop]⟩

/-- The tags that a difference removes are those that are no longer wanted. -/
theorem dropsTags_diff {before after : TagSet} (hbefore : r.tagsBefore = .ok before)
    (hafter : r.tagsAfter r.desired = .ok after) (hsystem : before.system.Distinct) {arn : Value}
    (hne : (TagSet.diff before after).1.isEmpty = false) :
    r.DropsTags
      [("ResourceName", arn), ("TagKeys", .list (TagSet.diff before after).1.flat.keys)] := by
  have hcongr : ∀ a b : Value, (a == b) = true → (!after.flat.has a) = !after.flat.has b :=
    fun a b h => TagSet.not_has_congr after.flat a b h
  have hflat : (TagSet.diff before after).1.flat =
      before.flat.filter fun e => !after.flat.has e.1 := by
    rw [TagSet.diff_eq]
    exact TagSet.flat_filtered hcongr before
  refine ⟨arn, before, after, _, hbefore, hafter, rfl, ?_, ?_, ?_⟩
  · rw [hflat, Entries.keys, Entries.keys, List.filter_map]
    rfl
  · intro h
    rw [Entries.keys, List.map_eq_nil_iff, TagSet.flat_eq_nil_iff, hne] at h
    cases h
  · have hdistinct : before.flat.Distinct := TagSet.distinct_flat hsystem
    rw [hflat, Entries.keys, List.pairwise_map]
    exact Entries.distinct_filter hdistinct _

/-- The tags of the system before a request come from a document, so no key is there twice. -/
theorem distinct_tagsBefore
    (hsystem : ∀ entries : Entries String Value,
      r.previousSystemTags = .map entries → entries.Distinct) {before : TagSet}
    (hbefore : r.tagsBefore = .ok before) : before.system.Distinct := by
  obtain ⟨sources, hsources, hall⟩ := bind_eq_ok.1 hbefore
  obtain ⟨resource, -, hsources⟩ := bind_eq_ok.1 hsources
  obtain rfl := pure_eq_ok.1 hsources
  obtain ⟨system, hread, hall⟩ := bind_eq_ok.1 hall
  obtain ⟨stack, -, hall⟩ := bind_eq_ok.1 hall
  obtain rfl := pure_eq_ok.1 hall
  obtain ⟨entries, hentries, hread⟩ := bind_eq_ok.1 hread
  obtain rfl := pure_eq_ok.1 hread
  have hmap : r.previousSystemTags = .map entries := by
    cases hv : r.previousSystemTags with
    | map _ => rw [hv] at hentries; cases hentries; rfl
    | _ => rw [hv] at hentries; cases hentries
  refine List.pairwise_map.2 ((hsystem entries hmap).imp fun h => ?_)
  rwa [Value.text_beq_text]

end Request

/-! ## Tags -/

section
variable {r : Request} {fetchArn : Step} {rules : Option RuleSet} {arnField : String}

/-- An update brings the tags up to date by what is permitted. -/
theorem asks_updateTags_of_update (ha : r.action = .update)
    (hsystem : ∀ entries : Entries String Value,
      r.previousSystemTags = .map entries → entries.Distinct)
    {before after : TagSet} (hbefore : r.tagsBefore = .ok before)
    (hafter : r.tagsAfter r.desired = .ok after)
    (hfetch : fetchArn.Asks r.Permits) :
    (updateTags before after rules arnField fetchArn).Asks r.Permits := by
  have hnever : ¬ (r.action = .read ∨ r.action = .list) := by rw [ha]; decide
  refine asks_updateTags hfetch (fun c hc => ?_) fun arn hne => ?_
  · exact Request.permits_of_harmless (by rw [hc]; decide) fun h => absurd h hnever
  · exact ⟨fun h => absurd h hnever, fun h => absurd h (by simp), fun h => absurd h (by simp),
      fun _ => ⟨ha, Request.dropsTags_diff hbefore hafter
        (Request.distinct_tagsBefore hsystem hbefore) hne⟩,
      fun h => absurd h (by simp), fun h => absurd h (by simp)⟩

/-- A resource that has been created gets its tags without any being removed. -/
theorem within_updateTags_empty {ops : List String} (hop : "add_tags_to_resource" ∈ ops)
    (desired : TagSet) (hfetch : ∀ e, (fetchArn e).Within ops) (e : Event) :
    (updateTags .empty desired rules arnField fetchArn e).Within ops := by
  have hchange : ∀ e, (changeTags .empty desired rules arnField e).Within ops := by
    refine fun e => (Within.field _ _).bind fun arn =>
      (Within.bind (.pure _) fun _ => within_addTags hop _ _).attempt.bind fun answer => ?_
    split
    · exact .lift _
    · exact .pure _
  unfold updateTags
  rw [TagSet.diff_empty]
  dsimp only
  split
  · exact .pure _
  · refine (Within.field _ _).bind fun arn => ?_
    split
    · exact (hfetch e).bind fun e' => within_chain (by simpa using hchange) e'
    · exact hchange e

end

/-! ## Integrations -/

namespace Integration

variable {s : Settings} {r : Request} {sess sess' : Session} {h : History}
  {res : Except Fault Event}

/-- The operations of a creation. -/
def createOperations : List String :=
  ["describe_integrations", "create_integration", "add_tags_to_resource"]

theorem within_create_harmless : (create s r).Within createOperations := by
  have hdescribe : "describe_integrations" ∈ createOperations := by simp [createOperations]
  refine Within.model.bind fun m => (Within.lift _).bind fun tags => Within.model.bind fun m' =>
    within_chain (List.forall_mem_cons.2 ⟨within_nameStep, List.forall_mem_cons.2 ⟨?_,
      List.forall_mem_cons.2 ⟨?_, List.forall_mem_cons.2 ⟨?_, List.forall_mem_cons.2 ⟨?_,
        by simp⟩⟩⟩⟩⟩) _
  · exact within_executeOnce _ (within_createStep hdescribe (by simp [createOperations]) tags)
  · refine within_executeOnce _ fun e => ?_
    rw [tagStep, lift_ok_bind]
    exact (Within.lift _).bind fun desired =>
      within_updateTags_empty (by simp [createOperations]) desired (within_fetchArn hdescribe) e
  · exact within_stabilize (within_isActive hdescribe)
  · exact within_readStep hdescribe

/-- Whatever an update does to an integration is permitted. -/
theorem requests_update (ha : r.action = .update)
    (hsystem : ∀ entries : Entries String Value,
      r.previousSystemTags = .map entries → entries.Distinct)
    (hdesired : sess.model = r.desired) (hy : (update s r).Yields sess h res sess') :
    Requests r.Permits h := by
  have hnever : ¬ (r.action = .read ∨ r.action = .list) := by rw [ha]; decide
  have hdescribe : ∀ c : Call, c.operation ∈ ["describe_integrations"] → r.Permits c :=
    Request.permits_of_mem (by decide) fun h => absurd h hnever
  have hmodify : ∀ c : Call, c.operation ∈ ["modify_integration"] → r.Permits c := by
    intro c hc
    have hop := List.mem_singleton.1 hc
    exact ⟨fun h => absurd h hnever, by simp [hop], fun _ => ha, by simp [hop], by simp [hop],
      by simp [hop]⟩
  rcases update_cases hy with ⟨f, -, rfl, -⟩ | ⟨previousTags, desiredTags, m, hsame, hprevious,
    hwanted, hchain⟩
  · exact History.requests_nil
  refine asks_chain (forall_mem_updateSteps ?_ ?_ ?_ ?_) _ hchain
  · exact fun e => asks_executeOnce _ ((within_modifyStep List.mem_cons_self _ e).asks hmodify)
  · exact fun e => (within_stabilize (within_isActive List.mem_cons_self) e).asks hdescribe
  · refine fun e => asks_executeOnce _ (.lift_bind fun before hbefore => .lift_bind fun after
      hafter => asks_updateTags_of_update ha hsystem ?_ ?_
        (fun e => (within_fetchArn List.mem_cons_self e).asks hdescribe) e)
    · rw [Request.tagsBefore, hprevious]
      exact hbefore
    · rw [Request.tagsAfter, ← hdesired, ← hsame, hwanted]
      exact hafter
  · exact fun e => (within_readStep List.mem_cons_self e).asks hdescribe

/-- Whatever an action asks for an integration is permitted. -/
theorem requests_act (hsystem : ∀ entries : Entries String Value,
      r.previousSystemTags = .map entries → entries.Distinct)
    (hdesired : sess.model = r.desired) (hy : ((provider s).act r).Yields sess h res sess') :
    Requests r.Permits h := by
  have hwithin : ((provider s).act r).Within (actOperations r.action) := within_act
  cases ha : r.action with
  | create =>
    rcases yields_lift_bind.1 hy with ⟨f, -, rfl, -, -⟩ | ⟨-, -, hy⟩
    · exact History.requests_nil
    rw [ha] at hy
    exact within_create_harmless.asks (Request.permits_of_mem (by decide) (by simp [ha])) hy
  | read =>
    rw [ha] at hwithin
    exact hwithin.asks (Request.permits_of_mem (by decide) fun _ => by decide) hy
  | update =>
    rcases yields_lift_bind.1 hy with ⟨f, -, rfl, -, -⟩ | ⟨-, -, hy⟩
    · exact History.requests_nil
    rw [ha] at hy
    exact requests_update ha hsystem hdesired hy
  | delete =>
    rw [ha] at hwithin
    refine hwithin.asks (fun c hc => ?_) hy
    have hop : c.operation = "describe_integrations" ∨ c.operation = "delete_integration" := by
      simpa [actOperations] using hc
    rcases hop with hop | hop
    · exact Request.permits_of_harmless (by rw [hop]; decide) (by simp [ha])
    · exact Request.permits_of_delete ha (.inl hop)
  | list =>
    rw [ha] at hwithin
    exact hwithin.asks (Request.permits_of_mem (by decide) fun _ => by decide) hy

end Integration

/-! ## Parameter groups -/

namespace ParameterGroup

variable {s : Settings} {r : Request} {sess sess' : Session} {h : History}
  {res : Except Fault Event}

/-- Bringing the parameters up to date asks for what is permitted: a creation has none to reset. -/
theorem asks_parametersOnce {previous : Except Fault Value}
    (ha : r.action = .create ∧ previous = .ok (.map []) ∨
      r.action = .update ∧ previous = parametersOf (r.previous.orElse (.map []))) :
    (parametersOnce previous (parametersOf r.desired)).Asks r.Permits := by
  have hnever : ¬ (r.action = .read ∨ r.action = .list) := by
    rcases ha with ⟨ha, -⟩ | ⟨ha, -⟩ <;> rw [ha] <;> decide
  refine fun e => asks_executeOnce _ (.lift_bind fun before hbefore =>
    .lift_bind fun after hafter => fun _ _ _ _ hy x hx c hc => ?_)
  cases asks_parameterStep e hy x hx c hc with
  | read arguments =>
    exact Request.permits_of_harmless (c := ⟨_, arguments⟩) (by simp [destructiveOperations])
      fun h => absurd h hnever
  | @reset group items hne hitems =>
    rcases ha with ⟨ha, hnone⟩ | ⟨ha, hprevious⟩
    · rw [hnone] at hbefore
      cases hbefore
      obtain ⟨item, hitem⟩ := List.exists_mem_of_ne_nil items hne
      obtain ⟨name, method, -, ⟨names, hnames, hmem⟩, -⟩ := hitems item hitem
      cases hnames
      cases hmem
    · exact ⟨fun h => absurd h hnever, by simp, by simp, by simp,
        fun _ => ⟨ha, group, before, after, items, hprevious ▸ hbefore, hafter, rfl, hitems⟩,
        by simp⟩
  | @set group items hne hitems =>
    have haction : r.action = .create ∨ r.action = .update := ha.imp And.left And.left
    refine ⟨fun h => absurd h hnever, by simp, by simp, by simp, by simp, fun _ =>
      ⟨haction, ?_⟩⟩
    obtain ⟨item, hitem⟩ := List.exists_mem_of_ne_nil items hne
    obtain ⟨-, -, -, -, entries, rfl, -⟩ := hitems item hitem
    refine ⟨group, entries, items, hafter, rfl, fun item hitem => ?_⟩
    obtain ⟨name, value, method, hread, _, hentries, hmem⟩ := hitems item hitem
    cases hentries
    exact ⟨name, value, method, hread, hmem⟩

/-- What is harmless for a creation or an update. -/
theorem permits_of_mem {ops : List String} (ha : r.action = .create ∨ r.action = .update)
    (hops : ∀ op ∈ ops, op ∉ destructiveOperations) (c : Call) (hc : c.operation ∈ ops) :
    r.Permits c :=
  Request.permits_of_mem hops (fun h => by rcases ha with ha | ha <;> simp [ha] at h) c hc

theorem requests_create (ha : r.action = .create) (hdesired : sess.model = r.desired)
    (hy : (create s r).Yields sess h res sess') : Requests r.Permits h := by
  rcases create_cases hy with ⟨f, -, rfl⟩ | ⟨tags, m, -, -, hchain⟩
  · exact History.requests_nil
  rw [hdesired] at hchain
  have hread : ∀ c : Call, c.operation ∈ readOperations → r.Permits c :=
    permits_of_mem (.inl ha) (by decide)
  refine asks_chain (List.forall_mem_cons.2 ⟨?_, List.forall_mem_cons.2 ⟨?_,
    List.forall_mem_cons.2 ⟨?_, List.forall_mem_cons.2 ⟨?_, by simp⟩⟩⟩⟩) _ hchain
  · have hcreate : ∀ e, (createStep s tags e).Within
        ["describe_db_parameter_groups", "create_db_parameter_group"] :=
      within_createStep List.mem_cons_self (by simp) tags
    exact fun e => asks_executeOnce _ ((hcreate e).asks (permits_of_mem (.inl ha) (by decide)))
  · have htags : ∀ e, (tagStep (.ok .empty) tags.withoutSystem e).Within
        ["describe_db_parameter_groups", "add_tags_to_resource"] := by
      intro e
      rw [tagStep, lift_ok_bind]
      exact (Within.lift _).bind fun desired =>
        within_updateTags_empty (by simp) desired (within_fetchArn List.mem_cons_self) e
    exact fun e => asks_executeOnce _ ((htags e).asks (permits_of_mem (.inl ha) (by decide)))
  · exact asks_parametersOnce (.inl ⟨ha, rfl⟩)
  · exact fun e => (within_readStep (fun _ h => h) e).asks hread

theorem requests_update (ha : r.action = .update)
    (hsystem : ∀ entries : Entries String Value,
      r.previousSystemTags = .map entries → entries.Distinct)
    (hdesired : sess.model = r.desired) (hy : (update r).Yields sess h res sess') :
    Requests r.Permits h := by
  rcases update_cases hy with ⟨f, -, rfl⟩ | ⟨previousTags, desiredTags, m, hprevious, hwanted,
    hchain⟩
  · exact History.requests_nil
  rw [hdesired] at hchain hwanted
  have hread : ∀ c : Call, c.operation ∈ readOperations → r.Permits c :=
    permits_of_mem (.inr ha) (by decide)
  refine asks_chain (List.forall_mem_cons.2 ⟨?_, List.forall_mem_cons.2 ⟨?_,
    List.forall_mem_cons.2 ⟨?_, by simp⟩⟩⟩) _ hchain
  · exact asks_parametersOnce (.inr ⟨ha, rfl⟩)
  · refine fun e => asks_executeOnce _ (.lift_bind fun before hbefore => .lift_bind fun after
      hafter => asks_updateTags_of_update ha hsystem ?_ ?_
        (fun e => (within_fetchArn (by simp [readOperations]) e).asks hread) e)
    · rw [Request.tagsBefore, hprevious]
      exact hbefore
    · rw [Request.tagsAfter, hwanted]
      exact hafter
  · exact fun e => (within_readStep (fun _ h => h) e).asks hread

/-- Whatever an action asks for a parameter group is permitted. -/
theorem requests_act (hsystem : ∀ entries : Entries String Value,
      r.previousSystemTags = .map entries → entries.Distinct)
    (hdesired : sess.model = r.desired) (hy : ((provider s).act r).Yields sess h res sess') :
    Requests r.Permits h := by
  have hwithin : ((provider s).act r).Within (actOperations r.action) := within_act
  cases ha : r.action with
  | create =>
    rcases yields_lift_bind.1 hy with ⟨f, -, rfl, -, -⟩ | ⟨-, -, hy⟩
    · exact History.requests_nil
    rw [ha] at hy
    exact requests_create ha hdesired hy
  | read =>
    rw [ha] at hwithin
    exact hwithin.asks (Request.permits_of_mem (by decide) fun _ => by decide) hy
  | update =>
    rcases yields_lift_bind.1 hy with ⟨f, -, rfl, -, -⟩ | ⟨-, -, hy⟩
    · exact History.requests_nil
    rw [ha] at hy
    exact requests_update ha hsystem hdesired hy
  | delete =>
    rw [ha] at hwithin
    exact hwithin.asks (fun c hc => Request.permits_of_delete ha (.inr (List.mem_singleton.1 hc)))
      hy
  | list =>
    rw [ha] at hwithin
    exact hwithin.asks (Request.permits_of_mem (by decide) fun _ => by decide) hy

end ParameterGroup

/-! ## Invocations -/

namespace Provider

variable {p : Provider} {r : Request} {h : History} {result : Except Fault Event}

/-- Over one invocation of either provider, whatever the service answers, every request is one that
the action may make: only what was declared before and is no longer wanted is taken back. -/
theorem Invokes.confined {s : Settings} (hp : p ∈ providers s)
    (hsystem : ∀ entries : Entries String Value,
      r.previousSystemTags = .map entries → entries.Distinct)
    (hinv : p.Invokes r h result) : Requests r.Permits h := by
  obtain ⟨sess, sess', hopen, hhandle⟩ := hinv
  have hdesired := (openSession_eq_ok.1 hopen).1
  obtain ⟨res, hserve, -⟩ := handle_runs_iff.1 hhandle
  obtain ⟨res, hact⟩ := exists_acted hserve
  simp only [providers, List.mem_cons, List.not_mem_nil, or_false] at hp
  rcases hp with rfl | rfl
  · exact Integration.requests_act hsystem hdesired hact
  · exact ParameterGroup.requests_act hsystem hdesired hact

/-- A request to give up a parameter and a tag of a parameter group. -/
def retirement : Request :=
  { action := .update
    desired := .map [("DBParameterGroupName", .text "tuned"),
      ("Parameters", .map [("max_connections", .int 100)])]
    previous := .map [("DBParameterGroupName", .text "tuned"),
      ("Parameters", .map [("max_connections", .int 100), ("work_mem", .int 64)]),
      ("Tags", .list [tagValue (.text "team") (.text "data")])] }

/-- A service that has the parameter group as it was. -/
def retirementService : Script :=
  { replies :=
      [("paginate:describe_db_parameters", [.pages [.ok (.map [("Parameters", .list
          [.map [("ParameterName", .text "max_connections"), ("ParameterValue", .text "100")],
           .map [("ParameterName", .text "work_mem"), ("ParameterValue", .text "64")]])])]]),
       ("describe_db_parameter_groups", [.answer (.ok (.map [("DBParameterGroups", .list
          [.map [("DBParameterGroupName", .text "tuned"),
            ("DBParameterGroupArn", .text "arn:tuned")]])]))])] }

/-- The parameter is reset and the tag is removed, and both are permitted. -/
theorem confined_retirement :
    ParameterGroup.provider {} ∈ providers {} ∧
      (∀ entries : Entries String Value,
        retirement.previousSystemTags = .map entries → entries.Distinct) ∧
      ∃ h result, (ParameterGroup.provider {}).Invokes retirement h result ∧
        (∃ e ∈ h, e.calls "reset_db_parameter_group" = true) ∧
        (∃ e ∈ h, e.calls "remove_tags_from_resource" = true) ∧ Requests retirement.Permits h := by
  have hp : ParameterGroup.provider {} ∈ providers {} := by simp [providers]
  have hsystem : ∀ entries : Entries String Value,
      retirement.previousSystemTags = .map entries → entries.Distinct := by
    intro entries h
    cases h
    exact Entries.distinct_nil
  have hinv : (ParameterGroup.provider {}).Invokes retirement _ _ :=
    ⟨⟨retirement.desired, .initial .parameterGroup⟩, _, rfl,
      Program.runs_history Script.environment _ retirementService⟩
  exact ⟨hp, hsystem, _, _, hinv, by decide +kernel, by decide +kernel, hinv.confined hp hsystem⟩

end Provider

end Provisioning
