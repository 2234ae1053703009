import Mathlib.Data.List.Forall2
import Mathlib.Data.List.Permutation
import Provisioning.Proofs.KeyOrder
import Provisioning.Proofs.Reading
import Provisioning.Proofs.TagSet

/-!
# Tags as lists

The list of a tag set has every key of its sources once, where it occurs first, with the value of
the source that wins (`TagSet.Lists`, `TagSet.lists_toSdkTags`), and reading it gives the flat view
back (`TagSet.ofValue_toSdkTags`).

A list of tags that was declared may hold a key several times, and its tags may lack a value or have
other properties (`DeclaredTag`). Reading keeps the last value of each key
(`get?_ofList_declared`), so writing what was read gives the list back exactly if nothing was
dropped or added (`toList_ofList_iff`).
-/

set_option autoImplicit false

namespace Provisioning

/-! ## Equal documents -/

namespace Value

theorem canonicalItems_eq_map (items : List Value) :
    canonicalItems items = items.map canonical := by
  induction items with
  | nil => rfl
  | cons v items ih => rw [canonicalItems, ih, List.map_cons]

/-- Lists are the same if their items are, one by one. -/
theorem list_beq_list_iff {a b : List Value} :
    (Value.list a == .list b) = true ↔ List.Forall₂ (fun v w => (v == w) = true) a b := by
  rw [beq_iff, canonical, canonical, Value.list.injEq, canonicalItems_eq_map,
    canonicalItems_eq_map]
  simp only [beq_iff]
  induction a generalizing b with
  | nil => cases b <;> simp
  | cons v a ih => cases b <;> simp [ih]

theorem insertByKey_perm (e : String × Value) (entries : Entries String Value) :
    (insertByKey e entries).Perm (e :: entries) := by
  induction entries with
  | nil => exact .refl _
  | cons f entries ih =>
    rw [insertByKey]
    split
    · exact .refl _
    · exact (List.Perm.cons f ih).trans (.swap e f entries)

theorem keys_canonicalEntries_perm (entries : Entries String Value) :
    (Entries.keys (canonicalEntries entries)).Perm entries.keys := by
  induction entries with
  | nil => exact .refl _
  | cons e entries ih =>
    obtain ⟨k, v⟩ := e
    rw [canonicalEntries]
    exact ((insertByKey_perm _ _).map _).trans (.cons k ih)

/-- Mappings that are the same have the same keys, in some order. -/
theorem keys_perm_of_beq {a b : Entries String Value}
    (h : (Value.map a == .map b) = true) : a.keys.Perm b.keys := by
  rw [beq_iff, canonical, canonical, Value.map.injEq] at h
  have ha := keys_canonicalEntries_perm a
  rw [h] at ha
  exact ha.symm.trans (keys_canonicalEntries_perm b)

end Value

/-- A document that is a list of tags is read tag by tag, also if it is empty. -/
theorem Tags.ofValue_list (tags : List Value) : Tags.ofValue (.list tags) = Tags.ofList tags := by
  cases tags <;> rfl

/-! ## The list of a tag set -/

namespace TagSet

/-- A tag set as it is built from mappings: no source has a key twice, and every key is one that a
mapping can have. -/
structure Proper (t : TagSet) : Prop extends t.WellFormed where
  isKey : ∀ tags ∈ [t.system, t.stack, t.resource], ∀ e ∈ tags, e.1.isKey = true

/-- The keys of the system, the stack and the resource, each where it occurs first. -/
def firstKeys (t : TagSet) : List Value :=
  (t.system.keys ++ t.stack.keys ++ t.resource.keys).eraseDups

/-- A list of tags has every key of a tag set once, in the order in which the keys occur first, with
the value that comes first in order of precedence. -/
structure Lists (t : TagSet) (tags : List Value) : Prop where
  entries : List.Forall₂ (fun k tag => ∃ v, (t.given k).head? = some v ∧ tag = tagValue k v)
    t.firstKeys tags
  once : t.firstKeys.Pairwise fun a b => (a == b) = false
  all : ∀ k, (∃ first ∈ t.firstKeys, (first == k) = true) ↔
    t.system.has k = true ∨ t.stack.has k = true ∨ t.resource.has k = true

theorem keys_flat {t : TagSet} (h : t.system.Distinct) : t.flat.keys = t.firstKeys := by
  rw [flat, ← Entries.merge_append, Entries.keys_merge h, Entries.keys_append, firstKeys,
    List.append_assoc]

theorem lists_toSdkTags {t : TagSet} (h : t.WellFormed) : t.Lists t.toSdkTags where
  entries := by
    have hflat := distinct_flat h.system
    rw [← keys_flat h.system, toSdkTags, Tags.toList, Entries.keys, List.forall₂_map_left_iff,
      List.forall₂_map_right_iff, List.forall₂_same]
    intro e he
    exact ⟨e.2, by rw [← get?_flat h, Entries.get?_of_mem hflat he], rfl⟩
  once := Entries.pairwise_eraseDups _
  all k := by
    rw [← List.any_eq_true, firstKeys, Entries.any_eraseDups, List.any_append, List.any_append,
      ← Entries.has_eq_any_keys, ← Entries.has_eq_any_keys, ← Entries.has_eq_any_keys]
    simp only [Bool.or_eq_true, or_assoc]

theorem isKey_of_mem_flat {t : TagSet} (h : t.Proper) {e : Value × Value} (he : e ∈ t.flat) :
    e.1.isKey = true := by
  have hmem : e.1 ∈ t.flat.keys := List.mem_map_of_mem he
  rw [keys_flat h.system] at hmem
  have hkey := (Entries.eraseDups_sublist _).subset hmem
  simp only [List.mem_append, Entries.keys, List.mem_map] at hkey
  rcases hkey with (⟨f, hf, hfe⟩ | ⟨f, hf, hfe⟩) | ⟨f, hf, hfe⟩
  · exact hfe ▸ h.isKey _ (by simp) f hf
  · exact hfe ▸ h.isKey _ (by simp) f hf
  · exact hfe ▸ h.isKey _ (by simp) f hf

/-- Reading the list of a tag set gives its flat view back, in the same order. -/
theorem ofValue_toSdkTags {t : TagSet} (h : t.Proper) :
    Tags.ofValue (.list t.toSdkTags) = .ok t.flat := by
  have hall : ∀ e ∈ t.flat, readTag (tagValue e.1 e.2) = .ok (id e) := fun e he => by
    have hstep : readTag (tagValue e.1 e.2) = e.1.checkKey >>= fun _ => pure (e.1, e.2) := rfl
    rw [hstep, Value.checkKey, if_pos (isKey_of_mem_flat h he)]
    rfl
  have hread : t.toSdkTags.mapM readTag = .ok (t.flat.map id) := by
    rw [toSdkTags, Tags.toList, List.mapM_map]
    exact mapM_of_forall_ok hall
  rw [Tags.ofValue_list, Tags.ofList, hread, List.map_id]
  exact congrArg Except.ok (Entries.ofList_eq_self (distinct_flat h.system))

end TagSet

/-! ## Declared lists -/

/-- A tag as it may be declared: a mapping with a key that can be looked up. Its value may be
missing, and it may have other properties. -/
structure DeclaredTag where
  fields : Entries String Value
  distinct : fields.Distinct
  key : Value
  hasKey : fields.get? "Key" = some key
  isKey : key.isKey = true

namespace DeclaredTag

/-- The value of a tag; null if it is missing. -/
def value (tag : DeclaredTag) : Value := (tag.fields.get? "Value").getD .null

/-- The tag as a document. -/
def toValue (tag : DeclaredTag) : Value := .map tag.fields

/-- A tag has a key and a value, and nothing else. -/
def Plain (tag : DeclaredTag) : Prop := tag.fields.keys.Perm ["Key", "Value"]

/-- What is read from a tag. -/
def entry (tag : DeclaredTag) : Value × Value := (tag.key, tag.value)

theorem readTag_toValue (tag : DeclaredTag) : readTag tag.toValue = .ok tag.entry := by
  have hrequire : tag.toValue.require "Key" = .ok tag.key := by
    rw [toValue, Value.require, tag.hasKey]
  have hget : tag.toValue.get "Value" = .ok tag.value := rfl
  rw [readTag, hrequire, hget]
  have hcheck : tag.key.checkKey = .ok () := by rw [Value.checkKey, if_pos tag.isKey]
  show (tag.key.checkKey >>= fun _ => pure (tag.key, tag.value)) = _
  rw [hcheck]
  rfl

/-- A mapping of a key and a value is the same in both orders. -/
theorem tagValue_beq_swapped (k v : Value) :
    (tagValue k v == .map [("Value", v), ("Key", k)]) = true := by
  rw [Value.beq_iff]
  have hle : ("Key" : String) ≤ "Value" := by decide
  have hnot : ¬ ("Value" : String) ≤ "Key" := by decide
  simp only [tagValue, Value.canonical, Value.canonicalEntries, Value.insertByKey, if_pos hle,
    if_neg hnot]

/-- What was read from a tag is the tag exactly if it has nothing but a key and a value. -/
theorem tagValue_beq_iff (tag : DeclaredTag) :
    (tagValue tag.key tag.value == tag.toValue) = true ↔ tag.Plain := by
  constructor
  · exact fun h => (Value.keys_perm_of_beq h).symm
  · intro h
    obtain ⟨fields, distinct, key, hasKey, isKey⟩ := tag
    have hlength : fields.length = 2 := by simpa [Entries.keys] using h.length_eq
    obtain ⟨⟨a, x⟩, ⟨b, y⟩, rfl⟩ := List.length_eq_two.1 hlength
    rcases List.perm_pair.1 h with hkeys | hkeys
    · obtain ⟨rfl, rfl⟩ : a = "Key" ∧ b = "Value" := by simpa [Entries.keys] using hkeys
      obtain rfl : x = key := by simpa using hasKey
      exact BEq.rfl
    · obtain ⟨rfl, rfl⟩ : a = "Value" ∧ b = "Key" := by simpa [Entries.keys] using hkeys
      obtain rfl : y = key := by simpa using hasKey
      exact tagValue_beq_swapped y x

end DeclaredTag

section
variable (tags : List DeclaredTag)

theorem ofValue_declared : Tags.ofValue (.list (tags.map DeclaredTag.toValue)) =
    .ok (Entries.ofList (tags.map DeclaredTag.entry)) := by
  have hread : (tags.map DeclaredTag.toValue).mapM readTag = .ok (tags.map DeclaredTag.entry) := by
    rw [List.mapM_map]
    exact mapM_of_forall_ok fun tag _ => tag.readTag_toValue
  rw [Tags.ofValue_list, Tags.ofList, hread]
  rfl

/-- Reading keeps the last value of a key. -/
theorem get?_ofList_declared (k : Value) :
    (Entries.ofList (tags.map DeclaredTag.entry)).get? k =
      (tags.reverse.find? fun tag => tag.key == k).map DeclaredTag.value := by
  rw [Entries.ofList, Entries.get?_merge_last, Entries.get?_nil, Option.or_none, ← List.map_reverse,
    Entries.get?, List.find?_map, Option.map_map]
  rfl

/-- Reading keeps the keys in the order in which they occur first. -/
theorem keys_ofList_declared :
    (Entries.ofList (tags.map DeclaredTag.entry)).keys = (tags.map DeclaredTag.key).eraseDups := by
  rw [Entries.ofList, Entries.keys_merge Entries.distinct_nil]
  rw [Entries.keys, Entries.keys, List.map_map]
  rfl

/-- Writing the tags that were read from a list gives the list back exactly if no key occurs twice
and no tag has anything but a key and a value. -/
theorem toList_ofList_iff :
    (Value.list (Tags.toList (Entries.ofList (tags.map DeclaredTag.entry))) ==
        .list (tags.map DeclaredTag.toValue)) = true ↔
      (tags.Pairwise fun a b => (a.key == b.key) = false) ∧ ∀ tag ∈ tags, tag.Plain := by
  have hplain : List.Forall₂ (fun v w => (v == w) = true)
      (Tags.toList (tags.map DeclaredTag.entry)) (tags.map DeclaredTag.toValue) ↔
        ∀ tag ∈ tags, tag.Plain := by
    rw [Tags.toList, List.map_map, List.forall₂_map_left_iff, List.forall₂_map_right_iff,
      List.forall₂_same]
    exact forall₂_congr fun tag _ => tag.tagValue_beq_iff
  have hdistinct : (tags.Pairwise fun a b => (a.key == b.key) = false) →
      Entries.ofList (tags.map DeclaredTag.entry) = tags.map DeclaredTag.entry := fun h =>
    Entries.ofList_eq_self (List.pairwise_map.2 h)
  rw [Value.list_beq_list_iff]
  constructor
  · intro h
    have hlength : (tags.map DeclaredTag.key).eraseDups.length =
        (tags.map DeclaredTag.key).length := by
      have hlist := h.length_eq
      rw [← keys_ofList_declared]
      simpa [Tags.toList, Entries.keys] using hlist
    have hkeys := List.pairwise_map.1 (Entries.pairwise_of_length_eraseDups hlength)
    rw [hdistinct hkeys] at h
    exact ⟨hkeys, hplain.1 h⟩
  · rintro ⟨hkeys, hall⟩
    rw [hdistinct hkeys]
    exact hplain.2 hall

/-- The list of a tag set has every key of its sources once, with the value that wins, in the order
in which the keys occur first, and reading it gives the flat view back. Of every declared list,
reading keeps the last value of each key, and writing gives the list back exactly if its keys are
all different and its tags have nothing but a key and a value. -/
theorem TagSet.toSdkTags_faithful (t : TagSet) (ht : t.Proper) :
    t.Lists t.toSdkTags ∧ Tags.ofValue (.list t.toSdkTags) = .ok t.flat ∧
      ∀ tags : List DeclaredTag, ∃ read,
        Tags.ofValue (.list (tags.map DeclaredTag.toValue)) = .ok read ∧
        (∀ k, read.get? k = (tags.reverse.find? fun tag => tag.key == k).map DeclaredTag.value) ∧
        read.keys = (tags.map DeclaredTag.key).eraseDups ∧
        ((Value.list (Tags.toList read) == .list (tags.map DeclaredTag.toValue)) = true ↔
          (tags.Pairwise fun a b => (a.key == b.key) = false) ∧ ∀ tag ∈ tags, tag.Plain) :=
  ⟨lists_toSdkTags ht.toWellFormed, ofValue_toSdkTags ht, fun tags =>
    ⟨_, ofValue_declared tags, get?_ofList_declared tags, keys_ofList_declared tags,
      toList_ofList_iff tags⟩⟩

/-- A key of all three sources, and one that the stack and the resource share. -/
theorem TagSet.toSdkTags_faithful_sharedKeys :
    let t : TagSet :=
      { system := [(.text "stack-name", .text "s"), (.text "team", .text "ops")]
        stack := [(.text "team", .text "data"), (.text "stage", .text "test")]
        resource := [(.text "stage", .text "prod"), (.text "team", .text "web")] }
    t.Proper ∧ t.Lists t.toSdkTags ∧ Tags.ofValue (.list t.toSdkTags) = .ok t.flat := by
  intro t
  have ht : t.Proper :=
    { system := by decide, stack := by decide, resource := by decide, isKey := by decide }
  obtain ⟨hlists, hread, -⟩ := toSdkTags_faithful t ht
  exact ⟨ht, hlists, hread⟩

end

end Provisioning
