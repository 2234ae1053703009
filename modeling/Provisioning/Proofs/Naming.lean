import Provisioning.Request
import Provisioning.ResourceName
import Provisioning.Proofs.Entries
import Provisioning.Proofs.Reading

/-!
# Names that requests give

A resource that its model leaves without a name gets a generated one, which depends on nothing but
the stack, the logical identifier and the token of the request. So a request names the same resource
in each of its invocations, whether its model has the generated name already or not
(`Naming.Fills.nameOf_eq`).
-/

set_option autoImplicit false

namespace Provisioning

/-! ## Writing a property -/

/-- Two models have the same properties but for one field. -/
def SameBut (field : String) (m m' : Value) : Prop :=
  ∀ key, key ≠ field → ∃ v, m.get key = .ok v ∧ m'.get key = .ok v

theorem sameBut_self {m v : Value} {field key : String} (h : m.get key = .ok v) :
    SameBut field m m := by
  obtain ⟨entries, rfl, -⟩ := Value.get_eq_ok.1 h
  exact fun key _ => ⟨_, rfl, rfl⟩

theorem sameBut_of_set {m m' x : Value} {field : String} (h : m.set field x = .ok m') :
    SameBut field m m' := by
  obtain ⟨entries, rfl, rfl⟩ := Value.set_eq_ok.1 h
  intro key hkey
  refine ⟨_, rfl, Value.get_eq_ok.2 ⟨_, rfl, ?_⟩⟩
  rw [Entries.get?_insert]
  simp [Ne.symm hkey]

theorem get_of_set {m m' x : Value} {field : String} (h : m.set field x = .ok m') :
    m'.get field = .ok x := by
  obtain ⟨entries, rfl, rfl⟩ := Value.set_eq_ok.1 h
  exact Value.get_eq_ok.2 ⟨_, rfl, by rw [Entries.get?_insert_self]; rfl⟩

theorem SameBut.get {field key : String} {m m' v : Value} (h : SameBut field m m')
    (hkey : key ≠ field) (hv : m.get key = .ok v) : m'.get key = .ok v := by
  obtain ⟨u, hu, hu'⟩ := h key hkey
  rw [hv] at hu
  cases hu
  exact hu'

theorem Request.modelTags_of_get {m v : Value} (h : m.get "Tags" = .ok v) :
    modelTags m = Tags.ofValue v := by
  obtain ⟨entries, rfl, hv⟩ := Value.get_eq_ok.1 h
  rw [modelTags, Value.orElse_map, h]
  rfl

/-- A request wants the same tags for models that differ in another property. -/
theorem SameBut.desiredTags {field : String} {m m' : Value} (h : SameBut field m m')
    (hfield : "Tags" ≠ field) (r : Request) : r.desiredTags m' = r.desiredTags m := by
  obtain ⟨v, hv, hv'⟩ := h "Tags" hfield
  simp only [Request.desiredTags, Request.modelTags_of_get hv, Request.modelTags_of_get hv']

/-! ## Naming a resource -/

/-- How the resources of a type are named: the property that holds the name, and the factory of the
names that are generated. -/
structure Naming where
  field : String
  factory : IdentifierFactory

namespace Naming

variable {n : Naming} {r : Request} {m m' : Value}

/-- The name that is generated for a request. -/
def generated (n : Naming) (r : Request) : Except Fault String :=
  n.factory.newIdentifierFor r.stackId r.logicalId r.token

/-- A generated name is not blank: there is a hyphen before its suffix. -/
theorem not_isBlank_generated {name : String} (hname : n.generated r = .ok name) :
    Text.isBlank name = false := by
  have hmade : ∃ stack logical seed, name = n.factory.newIdentifier stack logical seed := by
    unfold generated IdentifierFactory.newIdentifierFor at hname
    cases hstack : r.stackId with
    | text s =>
      rw [hstack] at hname
      obtain ⟨stack, -, hname⟩ := bind_eq_ok.1 hname
      obtain ⟨seed, -, hname⟩ := bind_eq_ok.1 hname
      exact ⟨_, _, _, (pure_eq_ok.1 hname).symm⟩
    | _ =>
      rw [hstack] at hname
      dsimp only at hname
      split at hname
      · cases hname
      · obtain ⟨stack, -, hname⟩ := bind_eq_ok.1 hname
        obtain ⟨seed, -, hname⟩ := bind_eq_ok.1 hname
        exact ⟨_, _, _, (pure_eq_ok.1 hname).symm⟩
  obtain ⟨stack, logical, seed, rfl⟩ := hmade
  have hhyphen : Text.isBlankChar '-' = false := by decide
  simp [IdentifierFactory.newIdentifier, IdentifierFactory.name, Text.isBlank, hhyphen]

/-- The name of the resource that a request wants for a model. -/
def nameOf (n : Naming) (r : Request) (m : Value) : Except Fault Value := do
  let given ← m.get n.field
  if ← lacksName given then return .text (← n.generated r) else return given

/-- A model gets the generated name if it has none. -/
inductive Fills (n : Naming) (r : Request) (m : Value) : Value → Prop
  | given {name : Value} : m.get n.field = .ok name → lacksName name = .ok false → Fills n r m m
  | generated {blank : Value} {name : String} {m' : Value} : m.get n.field = .ok blank →
      lacksName blank = .ok true → n.generated r = .ok name →
      m.set n.field (.text name) = .ok m' → Fills n r m m'

theorem nameOf_of_lacks {given : Value} (hgiven : m.get n.field = .ok given)
    (hlacks : lacksName given = .ok true) :
    n.nameOf r m = (n.generated r).map .text := by
  simp only [nameOf, hgiven, hlacks, bind, Except.bind, if_true]
  cases n.generated r <;> rfl

theorem nameOf_of_given {given : Value} (hgiven : m.get n.field = .ok given)
    (hlacks : lacksName given = .ok false) : n.nameOf r m = .ok given := by
  simp only [nameOf, hgiven, hlacks, bind, Except.bind, Bool.false_eq_true, if_false, pure,
    Except.pure]

namespace Fills

theorem sameBut (hf : n.Fills r m m') : SameBut n.field m m' := by
  cases hf with
  | given hname => exact sameBut_self hname
  | generated _ _ _ hset => exact sameBut_of_set hset

/-- The completed model has the name that is wanted, and this is not blank. -/
theorem exists_name (hf : n.Fills r m m') :
    ∃ name, n.nameOf r m = .ok name ∧ m'.get n.field = .ok name ∧ lacksName name = .ok false := by
  cases hf with
  | given hname hlacks => exact ⟨_, nameOf_of_given hname hlacks, hname, hlacks⟩
  | generated hblank hlacks hname hset =>
    exact ⟨_, by rw [nameOf_of_lacks hblank hlacks, hname]; rfl, get_of_set hset,
      congrArg _ (n.not_isBlank_generated hname)⟩

/-- For the completed model the same name is wanted. -/
theorem nameOf_eq (hf : n.Fills r m m') : n.nameOf r m' = n.nameOf r m := by
  obtain ⟨name, hname, hget, hsolid⟩ := hf.exists_name
  rw [hname, nameOf_of_given hget hsolid]

end Fills

end Naming

end Provisioning
