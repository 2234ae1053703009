import Provisioning.ParameterGroup.Model
import Provisioning.Proofs.Integration.Model

/-!
# Creating and reading back

The service keeps what a create request says, and shows it in a look-up with an ARN and a status.
The model that is read from there has the properties that the request carried, and no other one but
the ARN: the list of what is written and the list of what is read agree, property by property, so a
resource that nobody touched shows no drift.

Both kinds of resource write a request as a list of properties from which the absent ones are
dropped, so a request is known by its look-ups (`lookup_present`).
-/

set_option autoImplicit false

namespace Provisioning

/-- A record in which the service shows what a request said, with an ARN and a status added, in any
order. -/
def Echoes (request : Entries String Value) (arnKey : String) (arn status : Value)
    (record : Entries String Value) : Prop :=
  ∀ key, record.get? key = Entries.get? (request ++ [(arnKey, arn), ("Status", status)]) key

theorem Echoes.get? {request record : Entries String Value} {arnKey key : String}
    {arn status : Value} (h : Echoes request arnKey arn status record) (harn : key ≠ arnKey)
    (hstatus : key ≠ "Status") : record.get? key = request.get? key := by
  rw [h key, Entries.get?_append]
  simp [Ne.symm harn, Ne.symm hstatus]

/-- Properties that are made for keys are found under these keys. -/
theorem Entries.get?_map_keys (keys : List String) (value : String → Value) (key : String) :
    Entries.get? (keys.map fun k => (k, value k)) key =
      if keys.contains key then some (value key) else none := by
  induction keys with
  | nil => rfl
  | cons k keys ih =>
    rw [List.map_cons, Entries.get?_cons, ih, List.contains_cons]
    by_cases hk : k = key
    · simp [hk]
    · simp [hk, Ne.symm hk]

namespace Integration

/-- The properties of an integration that a create request carries. -/
def declarable : List String :=
  ["SourceArn", "TargetArn", "IntegrationName", "KMSKeyId", "AdditionalEncryptionContext",
   "Description", "DataFilter"]

/-- Whether a create request carries a value of a property: a context if it is not empty, any other
one unless it is null. -/
def carries (key : String) (v : Value) : Bool :=
  if key = "AdditionalEncryptionContext" then v.truthy else !v.isNull

/-- The model of an integration that is there as a model declared it, with its tags and its ARN and
nothing else. -/
structure AsDeclared (m : Entries String Value) (tags : TagSet) (arn : Value)
    (found : Entries String Value) : Prop where
  declared : ∀ key ∈ declarable, ∀ v,
    found.get? key = some v ↔ m.get? key = some v ∧ carries key v = true
  tags : found.get? "Tags" =
    if tags.flat.isEmpty then none else some (.list (Tags.toList tags.flat))
  arn : found.get? "IntegrationArn" = some arn
  nothingElse : ∀ key, key ∉ declarable → key ≠ "Tags" → key ≠ "IntegrationArn" →
    found.get? key = none

/-! ## The request -/

/-- The value that a create request has for a property before the absent ones are dropped. -/
def offered (m : Entries String Value) (key : String) : Value :=
  let v := (m.get? key).getD .null
  if key = "AdditionalEncryptionContext" then v.orElse .null else v

theorem createRequest_eq (m : Entries String Value) (tags : TagSet) :
    createRequest (.map m) tags = .ok (present
      (declarable.map (fun key => (key, offered m key)) ++
        [("Tags", listOrNull tags.toSdkTags)])) := rfl

/-- What is offered and not null is what the model declares and a request carries. -/
theorem filter_offered (m : Entries String Value) (key : String) :
    (some (offered m key)).filter (fun v => !v.isNull) = (m.get? key).filter (carries key) := by
  unfold offered carries
  cases m.get? key with
  | none => split <;> rfl
  | some v =>
    by_cases hkey : key = "AdditionalEncryptionContext"
    · cases hv : v.truthy with
      | true =>
        have hnull : v.isNull = false := by cases v <;> first | rfl | cases hv
        simp [hkey, Value.orElse, hv, hnull, Option.filter]
      | false => simp [hkey, Value.orElse, hv, Value.isNull, Option.filter]
    · simp [hkey, Option.filter]

theorem distinct_offered (m : Entries String Value) (v : Value) :
    Entries.Distinct (declarable.map (fun key => (key, offered m key)) ++ [("Tags", v)]) := by
  simp [Entries.Distinct, declarable]

theorem listOrNull_filter (items : List Value) :
    (some (listOrNull items)).filter (fun v => !v.isNull) =
      if items.isEmpty then none else some (.list items) := by
  unfold listOrNull
  split <;> rfl

/-- A create request has the declared properties that it carries, and the tags if there are any. -/
theorem get?_createRequest {m request : Entries String Value} {tags : TagSet}
    (h : createRequest (.map m) tags = .ok request) (key : String) :
    request.get? key =
      if declarable.contains key then (m.get? key).filter (carries key)
      else if key = "Tags" then
        if tags.flat.isEmpty then none else some (.list (Tags.toList tags.flat))
      else none := by
  rw [createRequest_eq] at h
  cases h
  have hflat : tags.toSdkTags.isEmpty = tags.flat.isEmpty := List.isEmpty_map
  rw [lookup_present (distinct_offered m _), Entries.get?_append, Entries.get?_map_keys]
  by_cases hkey : declarable.contains key
  · rw [if_pos hkey, if_pos hkey, Option.some_or, filter_offered]
  · rw [if_neg hkey, if_neg hkey, Option.none_or]
    by_cases htags : key = "Tags"
    · subst htags
      rw [if_pos rfl, ← hflat]
      exact listOrNull_filter tags.toSdkTags
    · simp [htags, Ne.symm htags]

/-! ## The record -/

/-- The model of a record without a time of creation has the reported properties and the tags. -/
theorem exists_modelOf {record : Entries String Value} (h : record.get? "CreateTime" = none) :
    ∃ found : Entries String Value, modelOf (.map record) = .ok (.map found) ∧
      ∀ key, found.get? key =
        if reportedProperties.contains key || key == "Tags" then record.get? key else none := by
  have hcreated : (Value.map record).get "CreateTime" = .ok .null :=
    Value.get_eq_ok.2 ⟨record, rfl, by rw [h]; rfl⟩
  refine ⟨_, bind_eq_ok.2 ⟨record, rfl, bind_eq_ok.2 ⟨_, hcreated, rfl⟩⟩, fun key => ?_⟩
  rw [Entries.get?_append, Entries.get?_append, get?_reported]
  by_cases htags : key = "Tags"
  · subst htags
    cases record.get? "Tags" <;> rfl
  · cases hreported : reportedProperties.contains key with
    | true =>
      cases record.get? key <;> cases record.get? "Tags" <;>
        simp [Value.truthy, Ne.symm htags]
    | false => cases record.get? "Tags" <;> simp [Value.truthy, htags, Ne.symm htags]

/-- The model of a record that echoes a create request is as the model of the request declared. -/
theorem asDeclared_of_echoes {m request record : Entries String Value} {tags : TagSet}
    {arn status : Value} (hrequest : createRequest (.map m) tags = .ok request)
    (h : Echoes request "IntegrationArn" arn status record) :
    ∃ found : Entries String Value, modelOf (.map record) = .ok (.map found) ∧
      AsDeclared m tags arn found := by
  have hsent := get?_createRequest hrequest
  have hcreated : record.get? "CreateTime" = none := by
    rw [h.get? (by decide) (by decide), hsent]
    rfl
  obtain ⟨found, hmodel, hfound⟩ := exists_modelOf hcreated
  refine ⟨found, hmodel, fun key hkey v => ?_, ?_, ?_, fun key hkey htags harn => ?_⟩
  · have hreported : ∀ k ∈ declarable,
        reportedProperties.contains k = true ∧ k ≠ "IntegrationArn" ∧ k ≠ "Status" := by decide
    obtain ⟨hread, harn, hstatus⟩ := hreported key hkey
    rw [hfound, hread, h.get? harn hstatus, hsent, if_pos (List.contains_iff_mem.2 hkey)]
    simp [Option.filter_eq_some_iff]
  · rw [hfound, h.get? (by decide) (by decide), hsent]
    rfl
  · rw [hfound, h "IntegrationArn", Entries.get?_append, hsent]
    rfl
  · have hreported : ∀ k ∈ reportedProperties, k ∈ declarable ∨ k = "IntegrationArn" := by decide
    have hread : reportedProperties.contains key = false := by
      refine Bool.eq_false_iff.2 fun hmem => ?_
      rcases hreported key (List.contains_iff_mem.1 hmem) with hmem | hmem
      · exact hkey hmem
      · exact harn hmem
    rw [hfound, hread]
    simp [htags]

end Integration

namespace ParameterGroup

open Integration (present listOrNull lookup_present)

/-- The model of a parameter group that is there as a model declared it, with nothing else. -/
def AsDeclared (m found : Entries String Value) : Prop :=
  ∀ key v, found.get? key = some v ↔
    key ∈ ["DBParameterGroupName", "Family", "Description"] ∧ m.get? key = some v ∧
      v.isNull = false

/-- The name that the service has for a property. -/
def wireName (key : String) : String := if key = "Family" then "DBParameterGroupFamily" else key

theorem createRequest_eq (m : Entries String Value) (tags : TagSet) :
    createRequest (.map m) tags = .ok (present
      (createOnlyProperties.map (fun key => (wireName key, (m.get? key).getD .null)) ++
        [("Tags", listOrNull tags.toSdkTags)])) := rfl

theorem modelOf_eq (record : Entries String Value) :
    modelOf (.map record) = .ok (.map (present (createOnlyProperties.map fun key =>
      (key, (record.get? (wireName key)).getD .null)))) := rfl

theorem filter_getD (found : Option Value) :
    (some (found.getD .null)).filter (fun v => !v.isNull) = found.filter fun v => !v.isNull := by
  cases found <;> rfl

/-- A create request has the declared properties that are not null, under the names of the
service. -/
theorem get?_createRequest {m request : Entries String Value} {tags : TagSet}
    (h : createRequest (.map m) tags = .ok request) {key : String}
    (hkey : key ∈ createOnlyProperties) :
    request.get? (wireName key) = (m.get? key).filter fun v => !v.isNull := by
  rw [createRequest_eq] at h
  cases h
  rw [lookup_present (by simp [Entries.Distinct, createOnlyProperties, wireName]),
    ← filter_getD (m.get? key)]
  congr 1
  simp only [createOnlyProperties, List.mem_cons, List.not_mem_nil, or_false] at hkey
  rcases hkey with rfl | rfl | rfl <;> simp [createOnlyProperties, wireName]

/-- The model of a record that echoes a create request is as the model of the request declared. -/
theorem asDeclared_of_echoes {m request record : Entries String Value} {tags : TagSet}
    {arn status : Value} (hrequest : createRequest (.map m) tags = .ok request)
    (h : Echoes request "DBParameterGroupArn" arn status record) :
    ∃ found : Entries String Value, modelOf (.map record) = .ok (.map found) ∧
      AsDeclared m found := by
  refine ⟨_, modelOf_eq record, fun key v => ?_⟩
  rw [lookup_present (by simp [Entries.Distinct, createOnlyProperties]), Entries.get?_map_keys]
  by_cases hkey : key ∈ createOnlyProperties
  · have hwire : ∀ k ∈ createOnlyProperties,
        wireName k ≠ "DBParameterGroupArn" ∧ wireName k ≠ "Status" := by decide
    obtain ⟨harn, hstatus⟩ := hwire key hkey
    rw [if_pos (List.contains_iff_mem.2 hkey), filter_getD, h.get? harn hstatus,
      get?_createRequest hrequest hkey, Option.filter_filter]
    simp only [Bool.and_self, Option.filter_eq_some_iff, Bool.not_eq_true']
    exact ⟨fun hv => ⟨hkey, hv⟩, And.right⟩
  · have hkey' : ¬key ∈ ["DBParameterGroupName", "Family", "Description"] := hkey
    simp [hkey, hkey']

end ParameterGroup

/-- What a create request wrote is read back: for every model and tag set, the model of a record
that echoes the create request has the declared properties with their values, and no other one but
the ARN and the tags of an integration. -/
theorem echo_asDeclared (m : Entries String Value) (tags : TagSet) :
    (∃ request, Integration.createRequest (.map m) tags = .ok request ∧
      ∀ arn status record, Echoes request "IntegrationArn" arn status record →
        ∃ found : Entries String Value,
          Integration.modelOf (.map record) = .ok (.map found) ∧
            Integration.AsDeclared m tags arn found) ∧
    (∃ request, ParameterGroup.createRequest (.map m) tags = .ok request ∧
      ∀ arn status record, Echoes request "DBParameterGroupArn" arn status record →
        ∃ found : Entries String Value,
          ParameterGroup.modelOf (.map record) = .ok (.map found) ∧
            ParameterGroup.AsDeclared m found) :=
  ⟨⟨_, Integration.createRequest_eq m tags, fun _ _ _ h =>
      Integration.asDeclared_of_echoes (Integration.createRequest_eq m tags) h⟩,
    ⟨_, ParameterGroup.createRequest_eq m tags, fun _ _ _ h =>
      ParameterGroup.asDeclared_of_echoes (ParameterGroup.createRequest_eq m tags) h⟩⟩

/-- The service shows an integration with a tag whose model declares an empty context, and a
parameter group whose model declares no description. -/
theorem echo_asDeclared_empty_context :
    let context : Entries String Value :=
      [("SourceArn", .text "arn:db"), ("AdditionalEncryptionContext", .map [])]
    let group : Entries String Value := [("Family", .text "mysql8.0"), ("Description", .null)]
    let tags : TagSet := { stack := [(.text "team", .text "a")] }
    (∃ found : Entries String Value,
      Integration.modelOf (.map [("SourceArn", .text "arn:db"),
          ("Tags", .list [tagValue (.text "team") (.text "a")]),
          ("IntegrationArn", .text "arn:it"), ("Status", .text "active")]) =
        .ok (.map found) ∧ Integration.AsDeclared context tags (.text "arn:it") found) ∧
    (∃ found : Entries String Value,
      ParameterGroup.modelOf (.map [("DBParameterGroupFamily", .text "mysql8.0"),
          ("Tags", .list [tagValue (.text "team") (.text "a")]),
          ("DBParameterGroupArn", .text "arn:pg"), ("Status", .text "active")]) =
        .ok (.map found) ∧ ParameterGroup.AsDeclared group found) := by
  intro context group tags
  obtain ⟨request, hrequest, hread⟩ := (echo_asDeclared context tags).1
  obtain ⟨groupRequest, hgroup, hgroupRead⟩ := (echo_asDeclared group tags).2
  cases hrequest
  cases hgroup
  exact ⟨hread _ _ _ fun _ => rfl, hgroupRead _ _ _ fun _ => rfl⟩

end Provisioning
