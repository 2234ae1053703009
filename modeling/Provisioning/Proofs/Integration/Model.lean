import Provisioning.Proofs.Entries
import Provisioning.Proofs.Integration.Remote
import Provisioning.Proofs.Naming
import Provisioning.Proofs.TagSet

/-!
# Models of integrations and their tags

What the models that a create request goes through have in common: which integration they identify
and which tags they declare. A generated name changes neither (`SameBut`); what a look-up found
replaces both (`get_merge`).
-/

set_option autoImplicit false

namespace Provisioning

/-! ## Declared tags -/

/-- The tags that a request wants on the resource of a model, apart from the system tags. -/
def Request.wanted (r : Request) (m : Value) : Except Fault Tags := do
  return (← (← r.desiredTags m).withoutSystem).flat

/-- Models that declare the same tags want the same tags. -/
theorem Request.wanted_congr (r : Request) {m m' v : Value} (h : m.get "Tags" = .ok v)
    (h' : m'.get "Tags" = .ok v) : r.wanted m = r.wanted m' := by
  simp only [wanted, desiredTags, modelTags_of_get h, modelTags_of_get h']

theorem Request.wanted_eq_ok {r : Request} {m : Value} {tags : TagSources} {wanted : TagSet}
    (hsources : r.desiredTags m = .ok tags) (hwanted : tags.withoutSystem = .ok wanted) :
    r.wanted m = .ok wanted.flat := by
  simp only [Request.wanted, hsources, hwanted, bind, pure, Except.bind, Except.pure]

/-- The tags that are wanted come from the stack and from what the model declares. -/
theorem Request.exists_of_wanted {r : Request} {m : Value} {wanted : Tags}
    (h : r.wanted m = .ok wanted) : ∃ stack declared, modelTags m = .ok declared ∧
      wanted = TagSet.flat { stack := stack, resource := declared } := by
  obtain ⟨tags, htags, h⟩ := bind_eq_ok.1 h
  obtain ⟨declared, hdeclared, htags⟩ := bind_eq_ok.1 htags
  cases pure_eq_ok.1 htags
  obtain ⟨set, hset, h⟩ := bind_eq_ok.1 h
  obtain ⟨stack, -, hset⟩ := bind_eq_ok.1 hset
  cases pure_eq_ok.1 hset
  exact ⟨stack, declared, hdeclared, (pure_eq_ok.1 h).symm⟩

theorem Request.distinct_wanted {r : Request} {m : Value} {wanted : Tags}
    (h : r.wanted m = .ok wanted) : wanted.Distinct := by
  obtain ⟨stack, declared, -, rfl⟩ := exists_of_wanted h
  exact TagSet.distinct_flat Entries.distinct_nil

theorem SameBut.wanted {field : String} {m m' : Value} (h : SameBut field m m')
    (hfield : "Tags" ≠ field) (r : Request) : r.wanted m' = r.wanted m := by
  simp only [Request.wanted, h.desiredTags hfield]

namespace Integration

/-! ## Identifying an integration -/

/-- A model with an ARN is looked up by it. -/
theorem identifier_of_arn {m known id : Value} (harn : m.get "IntegrationArn" = .ok known)
    (hknown : known.truthy = true) (hid : identifier m = .ok id) : id = known := by
  obtain ⟨arn, harn', hid⟩ := bind_eq_ok.1 hid
  obtain ⟨name, -, hid⟩ := bind_eq_ok.1 hid
  rw [harn] at harn'
  cases harn'
  rw [← pure_eq_ok.1 hid, Value.orElse, if_pos hknown]

/-! ## Entries that are not null -/

/-- Dropping what is null from entries with distinct keys drops it from the look-ups. -/
theorem lookup_present {entries : Entries String Value} (hd : entries.Distinct) (key : String) :
    (present entries).get? key = (entries.get? key).filter fun v => !v.isNull :=
  Entries.get?_filter hd (p := fun e => !e.2.isNull) (fun _ _ _ _ => rfl) key

/-! ## What a look-up finds -/

/-- A model takes over the reported properties, the time of creation and the tags. -/
theorem modelOf_eq_ok {entries : Entries String Value} {model : Value}
    (hm : modelOf (.map entries) = .ok model) :
    ∃ created : Entries String Value, (∀ e ∈ created, e.1 = "CreateTime") ∧ created.Distinct ∧
      model = .map (entries.filter (fun e => reportedProperties.contains e.1) ++ created
        ++ (entries.get? "Tags").toList.map (("Tags", ·))) := by
  obtain ⟨_, hentries, hm⟩ := bind_eq_ok.1 hm
  cases hentries
  obtain ⟨createTime, -, hm⟩ := bind_eq_ok.1 hm
  refine ⟨_, ?_, ?_, (pure_eq_ok.1 hm).symm⟩
  · intro e he
    split at he
    · rw [List.mem_singleton.1 he]
    · cases he
  · split
    · exact List.pairwise_singleton _ _
    · exact Entries.distinct_nil

theorem get?_reported (entries : Entries String Value) (key : String) :
    Entries.get? (entries.filter fun e => reportedProperties.contains e.1) key =
      if reportedProperties.contains key then entries.get? key else none :=
  Entries.get?_filter_keys (p := reportedProperties.contains) (fun a b h => by rw [eq_of_beq h]) _ _

/-- The model of a record has the reported properties of the record. -/
theorem modelOf_get? {record model v : Value} {key : String}
    (hkey : reportedProperties.contains key = true) (hv : record.get key = .ok v)
    (hnull : v.isNull = false) (hm : modelOf record = .ok model) :
    ∃ found : Entries String Value, model = .map found ∧ found.get? key = some v := by
  obtain ⟨entries, rfl, -⟩ := Value.get_eq_ok.1 hv
  obtain ⟨created, -, -, rfl⟩ := modelOf_eq_ok hm
  refine ⟨_, rfl, ?_⟩
  rw [Entries.get?_append, Entries.get?_append, get?_reported, if_pos hkey,
    Value.get?_of_get hv hnull]
  rfl

/-- The model of a record declares no property twice. -/
theorem distinct_of_modelOf {entries found : Entries String Value} (hd : entries.Distinct)
    (hm : modelOf (.map entries) = .ok (.map found)) : found.Distinct := by
  obtain ⟨created, hcreated, hdcreated, hmodel⟩ := modelOf_eq_ok hm
  cases hmodel
  have htags : ∀ e ∈ (entries.get? "Tags").toList.map (("Tags", ·)), e.1 = "Tags" := by
    intro e he
    obtain ⟨tags, -, rfl⟩ := List.mem_map.1 he
    rfl
  have hreported : ∀ e ∈ entries.filter (fun e => reportedProperties.contains e.1),
      e.1 ≠ "CreateTime" ∧ e.1 ≠ "Tags" := by
    intro e he
    have hmem := (List.mem_filter.1 he).2
    constructor <;> intro hkey <;> rw [hkey] at hmem <;> exact absurd hmem (by decide)
  refine List.pairwise_append.2 ⟨List.pairwise_append.2
    ⟨Entries.distinct_filter hd _, hdcreated, fun a ha b hb => ?_⟩, ?_, fun a ha b hb => ?_⟩
  · rw [hcreated b hb, beq_eq_false_iff_ne]
    exact (hreported a ha).1
  · cases entries.get? "Tags" with
    | none => exact .nil
    | some tags => exact List.pairwise_singleton _ _
  · rw [htags b hb, beq_eq_false_iff_ne]
    rcases List.mem_append.1 ha with ha | ha
    · exact (hreported a ha).2
    · rw [hcreated a ha]
      show "CreateTime" ≠ "Tags"
      decide

/-- The model of a record has the ARN and the tags that the record shows. -/
theorem Shows.model {record model : Value} {arn : String} {tags : Tags}
    (hs : Shows record arn tags) (hm : modelOf record = .ok model) :
    ∃ found : Entries String Value, model = .map found ∧ found.Distinct ∧
      found.get? "IntegrationArn" = some (.text arn) ∧ found.get? "Tags" = some (tagList tags) := by
  obtain ⟨⟨entries, rfl, hd⟩, harn, htags⟩ := hs
  obtain ⟨found, rfl, hfound⟩ := modelOf_get? (by decide) harn rfl hm
  have hdistinct := distinct_of_modelOf hd hm
  have htags := Value.get?_of_get htags rfl
  obtain ⟨created, hcreated, -, hmodel⟩ := modelOf_eq_ok hm
  cases hmodel
  have hnotags : created.get? "Tags" = none :=
    Entries.get?_eq_none_of_ne (a := "Tags") (fun e he => by rw [hcreated e he]; rfl) BEq.rfl
  refine ⟨_, rfl, hdistinct, hfound, ?_⟩
  rw [Entries.get?_append, Entries.get?_append, get?_reported, hnotags, htags]
  rfl

/-- The tags that a request wants for a record cover those that the record shows. -/
theorem Shows.has_wanted {record : Value} {arn : String} {tags wanted : Tags} {r : Request}
    (hs : Shows record arn tags) (hw : r.wanted record = .ok wanted) {k : Value}
    (hk : tags.has k = true) : wanted.has k = true := by
  obtain ⟨stack, declared, hdeclared, rfl⟩ := Request.exists_of_wanted hw
  rw [Request.modelTags_of_get hs.tags] at hdeclared
  cases Tags.ofValue_tagList hdeclared
  simp [TagSet.flat, Entries.has_merge, Entries.ofList, hk]

/-- A model that is merged over with a found one has the properties of that. -/
theorem get_merge {entries found : Entries String Value} (hd : found.Distinct) {key : String}
    {v : Value} (hv : found.get? key = some v) :
    (Value.map (entries.merge found)).get key = .ok v := by
  refine Value.get_eq_ok.2 ⟨_, rfl, ?_⟩
  rw [Entries.get?_merge _ hd, hv]
  rfl

end Integration

end Provisioning
