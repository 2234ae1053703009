import Provisioning.Proofs.Integration.Steps
import Provisioning.Proofs.ParameterGroup.Parameters
import Provisioning.Proofs.Remote

/-!
# A remote that keeps the parameters of one group

The names of the parameters are given by the family of the group, and so are their defaults. Pages
report every parameter once with its present value, a modification sets the texts that it gives, and
a reset restores defaults; a request that is refused may have taken effect for any of the parameters
that it names (`Family.Answers`).

What is read from pages that arrive without a fault are the present values (`Family.fetched`), and a
request on the way from the previous to the desired parameters gives no other values than defaults
and declared ones (`Family.Gives.of_request`).
-/

set_option autoImplicit false

namespace Provisioning.ParameterGroup

open Handler

/-- The parameters of a family of parameter groups. -/
structure Family (ι : Type) where
  name : ι → String
  name_injective : Function.Injective name
  default : ι → Option String
  modifiable : ι → Bool
  applyType : ι → String

/-- The present values of the parameters of a group; a parameter may have none. -/
abbrev Values (ι : Type) := ι → Option String

/-- A document of parameters declares a value for a name. -/
def DeclaredAs (parameters : Value) (name : String) (value : Value) : Prop :=
  ∃ entries, parameters = .map entries ∧ (name, value) ∈ entries

theorem DeclaredAs.declared {parameters : Value} {name : String} {value : Value}
    (h : DeclaredAs parameters name value) : Declared parameters (.text name) := by
  obtain ⟨entries, rfl, hmem⟩ := h
  exact declared_map_iff.2 ⟨name, List.mem_map_of_mem hmem, rfl⟩

/-- Reading the parameters asks for the pages, and gives what they add up to. -/
theorem fetchParameters_cases {group : Value} {s s' : Session} {h : History}
    {r : Except Fault Reported} (hy : (fetchParameters group).Yields s h r s') :
    ∃ answers,
      h = [.paged ⟨"describe_db_parameters", [("DBParameterGroupName", group)]⟩ answers] ∧
      r = answers.foldlM addPage [] ∧ s' = s := by
  rcases yields_bind.1 hy with ⟨f, hpages, -⟩ | ⟨h₁, answers, s₁, h₂, hpages, hfold, rfl⟩
  · obtain ⟨_, _, hanswers, _⟩ := yields_pages.1 hpages
    cases hanswers
  · obtain ⟨_, rfl, hanswers, rfl⟩ := yields_pages.1 hpages
    cases hanswers
    obtain ⟨rfl, rfl, rfl⟩ := yields_lift.1 hfold
    exact ⟨answers, rfl, rfl, rfl⟩

namespace Family

variable {ι : Type}

/-- The parameters that a document declares have their values, and all others their defaults. -/
def Holds (f : Family ι) (parameters : Value) (w : Values ι) : Prop :=
  ∀ i, (∀ value, DeclaredAs parameters (f.name i) value → w i = some value.display) ∧
    (¬ Declared parameters (.text (f.name i)) → w i = f.default i)

/-! ## The remote -/

/-- A parameter as it is reported. -/
structure Reports (f : Family ι) (w : Values ι) (i : ι) (parameter : Value) : Prop where
  name : parameter.require "ParameterName" = .ok (.text (f.name i))
  value : parameter.get "ParameterValue" = .ok ((w i).elim .null .text)
  modifiable : parameter.get "IsModifiable" = .ok (.bool (f.modifiable i))
  applyType : parameter.get "ApplyType" = .ok (.text (f.applyType i))

/-- A page has some parameters. -/
def PageOf (page : Value) (parameters : List Value) : Prop :=
  ∃ v, page.get "Parameters" = .ok v ∧ v.orElse (.list []) = .list parameters

/-- Pages report every parameter once. -/
def ReportedBy (f : Family ι) (w : Values ι) (answers : List Answer) : Prop :=
  ∃ (pages : List (Value × List Value)) (document : ι → Value) (order : List ι),
    answers = pages.map (fun p => .ok p.1) ∧ (∀ p ∈ pages, PageOf p.1 p.2) ∧
      pages.flatMap (·.2) = order.map document ∧ order.Nodup ∧ (∀ i, i ∈ order) ∧
      ∀ i, f.Reports w i (document i)

/-- A report of a parameter with nothing else in it. -/
def document (f : Family ι) (w : Values ι) (i : ι) : Value :=
  .map [("ParameterName", .text (f.name i)), ("ParameterValue", (w i).elim .null .text),
    ("IsModifiable", .bool (f.modifiable i)), ("ApplyType", .text (f.applyType i))]

/-- All reports on one page. -/
def page (f : Family ι) (order : List ι) (w : Values ι) : Answer :=
  .ok (.map [("Parameters", .list (order.map (f.document w)))])

theorem reportedBy_page {f : Family ι} {order : List ι} (hdistinct : order.Nodup)
    (hall : ∀ i, i ∈ order) (w : Values ι) : f.ReportedBy w [f.page order w] := by
  refine ⟨[(_, order.map (f.document w))], f.document w, order, rfl,
    List.forall_mem_singleton.2 ⟨_, rfl, ?_⟩, List.append_nil _, hdistinct, hall,
    fun i => ⟨rfl, rfl, rfl, rfl⟩⟩
  cases order <;> rfl

/-- A request gives a value to a parameter that it names: a reset gives the default, a modification
the text that is with the name. -/
inductive Gives (f : Family ι) (request : Call) (i : ι) : Option String → Prop
  | reset {items : List Value} {item : Value} :
      request.operation = "reset_db_parameter_group" →
      request.arguments.get? "Parameters" = some (.list items) → item ∈ items →
      item.get "ParameterName" = .ok (.text (f.name i)) → Gives f request i (f.default i)
  | set {items : List Value} {item : Value} {t : String} :
      request.operation = "modify_db_parameter_group" →
      request.arguments.get? "Parameters" = some (.list items) → item ∈ items →
      item.get "ParameterName" = .ok (.text (f.name i)) →
      item.get "ParameterValue" = .ok (.text t) → Gives f request i (some t)

/-- One answer of a remote that keeps the parameters of a group: no request changes a parameter to
another value than it gives, and one that is not refused has changed all parameters that it names;
pages report the present values unless a page is refused. -/
inductive Answers (f : Family ι) (w : Values ι) : Exchange → Values ι → Prop
  | called {request : Call} {answer : Answer} {w' : Values ι} :
      (∀ i, w' i = w i ∨ f.Gives request i (w' i)) →
      (∀ response, answer = .ok response → ∀ i v, f.Gives request i v → f.Gives request i (w' i)) →
      Answers f w (.called request answer) w'
  | paged {request : Call} {answers : List Answer} :
      (request.operation = "describe_db_parameters" → (∀ fault, .error fault ∉ answers) →
        f.ReportedBy w answers) →
      Answers f w (.paged request answers) w
  | clock {t : Number} : Answers f w (.clock t) w
  | slept {seconds : Value} {rested : Except Fault Unit} : Answers f w (.slept seconds rested) w

variable {f : Family ι} {w w' : Values ι} {h : History} {i : ι} {v : Option String}

/-! ## What a history does to one parameter -/

/-- Every value that the requests of a history give to a parameter is the same. -/
def GivesOnly (f : Family ι) (h : History) (i : ι) (v : Option String) : Prop :=
  ∀ x ∈ h, ∀ request, x.request? = some request → ∀ u, f.Gives request i u → u = v

theorem Answers.keeps {x : Exchange} (ha : f.Answers w x w') (hx : f.GivesOnly [x] i v)
    (hw : w i = v) : w' i = v := by
  cases ha with
  | called honly _ =>
    rcases honly i with hsame | hgiven
    · exact hsame.trans hw
    · exact hx _ (List.mem_singleton_self _) _ rfl _ hgiven
  | _ => exact hw

theorem GivesOnly.each (hh : f.GivesOnly h i v) {x : Exchange} (hx : x ∈ h) :
    f.GivesOnly [x] i v := fun y hy => by
  obtain rfl := List.mem_singleton.1 hy
  exact hh y hx

/-- A parameter stays at a value if no other value is given to it. -/
theorem GivesOnly.keeps (hh : f.GivesOnly h i v) (hs : Served f.Answers w h w') (hw : w i = v) :
    w' i = v :=
  hs.keeps (P := fun u => u i = v) (fun _ hx _ _ ha => ha.keeps (hh.each hx)) hw

/-- A parameter arrives at a value if a request that is not refused gives it this value and no
other value is given to it. -/
theorem GivesOnly.arrives (hh : f.GivesOnly h i v) (hs : Served f.Answers w h w') {request : Call}
    {response : Value} (hmem : .called request (.ok response) ∈ h) (hgives : f.Gives request i v) :
    w' i = v := by
  refine hs.reaches (P := fun u => u i = v) hmem (fun w w' ha => ?_)
    fun _ hx _ _ ha => ha.keeps (hh.each hx)
  cases ha with
  | called _ hall => exact hh _ hmem _ rfl _ (hall response rfl i v hgives)

/-! ## What the requests give -/

/-- Bringing parameters up to date gives defaults to those that are dropped, and to others the
values that are declared. -/
theorem Gives.of_request {previous desired : Value} {request : Call}
    (hc : ParameterRequest previous desired request) (hg : f.Gives request i v) :
    (v = f.default i ∧ Declared previous (.text (f.name i)) ∧
        ¬ Declared desired (.text (f.name i))) ∨
      ∃ value, DeclaredAs desired (f.name i) value ∧ v = some value.display := by
  cases hc with
  | read =>
    cases hg with
    | reset hop => simp at hop
    | set hop => simp at hop
  | reset _ hitems =>
    cases hg with
    | reset _ hlist hitem hname =>
      cases hlist
      obtain ⟨name, method, rfl, hprevious, hdesired⟩ := hitems _ hitem
      cases hname
      exact .inl ⟨rfl, hprevious, hdesired⟩
    | set hop => simp at hop
  | set _ hitems =>
    cases hg with
    | reset hop => simp at hop
    | set _ hlist hitem hname hvalue =>
      cases hlist
      obtain ⟨name, value, method, rfl, entries, rfl, hmem⟩ := hitems _ hitem
      cases hname
      cases hvalue
      exact .inr ⟨value, ⟨entries, rfl, hmem⟩, rfl⟩

theorem gives_reset {group : Value} {items : List Value} {method : String}
    (hitem : resetItem (.text (f.name i)) method ∈ items) :
    f.Gives ⟨"reset_db_parameter_group", itemsOf group items⟩ i (f.default i) :=
  .reset rfl rfl hitem rfl

theorem gives_set {group : Value} {items : List Value} {value : Value} {method : String}
    (hitem : setItem (f.name i) value method ∈ items) :
    f.Gives ⟨"modify_db_parameter_group", itemsOf group items⟩ i (some value.display) :=
  .set rfl rfl hitem rfl rfl

/-- A request that gives one value to one parameter may be answered in any way, and have changed the
parameter. -/
theorem Answers.one [DecidableEq ι] {request : Call} {answer : Answer} {j : ι} {u : Option String}
    (hgives : ∀ i v, f.Gives request i v ↔ i = j ∧ v = u) :
    f.Answers w (.called request answer) fun i => if i = j then u else w i := by
  refine .called (fun i => ?_) fun _ _ i v hv => ?_
  · by_cases hij : i = j
    · exact .inr ((hgives i _).2 ⟨hij, if_pos hij⟩)
    · exact .inl (if_neg hij)
  · obtain ⟨hij, -⟩ := (hgives i v).1 hv
    exact (hgives i _).2 ⟨hij, if_pos hij⟩

theorem gives_resetItem {group : Value} {method : String} {j : ι} :
    f.Gives ⟨"reset_db_parameter_group", itemsOf group [resetItem (.text (f.name j)) method]⟩ i v ↔
      i = j ∧ v = f.default j := by
  constructor
  · intro hg
    cases hg with
    | reset _ hlist hitem hname =>
      cases hlist
      obtain rfl := List.mem_singleton.1 hitem
      obtain rfl := f.name_injective (Value.text.inj (Except.ok.inj hname))
      exact ⟨rfl, rfl⟩
    | set hop => simp at hop
  · rintro ⟨rfl, rfl⟩
    exact gives_reset List.mem_cons_self

theorem gives_setItem {group value : Value} {method : String} {j : ι} :
    f.Gives ⟨"modify_db_parameter_group", itemsOf group [setItem (f.name j) value method]⟩ i v ↔
      i = j ∧ v = some value.display := by
  constructor
  · intro hg
    cases hg with
    | reset hop => simp at hop
    | set _ hlist hitem hname hvalue =>
      cases hlist
      obtain rfl := List.mem_singleton.1 hitem
      obtain rfl := f.name_injective (Value.text.inj (Except.ok.inj hname))
      cases hvalue
      exact ⟨rfl, rfl⟩
  · rintro ⟨rfl, rfl⟩
    exact gives_set List.mem_cons_self

/-! ## Reading the present values -/

variable {current current' : Reported}

theorem addPage_of_page {page : Value} {parameters : List Value} (hp : PageOf page parameters) :
    addPage current (.ok page) = parameters.foldlM addReported current := by
  obtain ⟨v, hget, hlist⟩ := hp
  have hpage : (Except.ok page >>= fun p => p.get "Parameters") = Except.ok v := hget
  unfold addPage Value.orElse at *
  cases hv : v.truthy with
  | true =>
    rw [hv, if_pos rfl] at hlist
    subst hlist
    simp [hget, hv, Value.iterate, bind, Except.bind]
  | false =>
    rw [hv, if_neg (by simp)] at hlist
    cases hlist
    simp [hget, hv, bind, Except.bind]

/-- A refused page is not passed over. -/
theorem not_mem_of_foldlM_addPage {answers : List Answer}
    (h : answers.foldlM addPage current = .ok current') (fault : Fault) :
    .error fault ∉ answers := by
  induction answers generalizing current with
  | nil => exact List.not_mem_nil
  | cons answer answers ih =>
    rw [List.foldlM_cons] at h
    obtain ⟨next, hpage, h⟩ := bind_eq_ok.1 h
    rintro hmem
    rcases List.mem_cons.1 hmem with rfl | hmem
    · cases hpage
    · exact ih h hmem

theorem foldlM_addPage {pages : List (Value × List Value)} (hpages : ∀ p ∈ pages, PageOf p.1 p.2) :
    (pages.map fun p => (.ok p.1 : Answer)).foldlM addPage current =
      (pages.flatMap (·.2)).foldlM addReported current := by
  induction pages generalizing current with
  | nil => rfl
  | cons p pages ih =>
    obtain ⟨hp, hpages⟩ := List.forall_mem_cons.1 hpages
    rw [List.map_cons, List.foldlM_cons, List.flatMap_cons, List.foldlM_append,
      addPage_of_page hp]
    exact bind_congr fun _ => ih hpages

/-- What is known of a parameter: its report, by its name. -/
def Known (f : Family ι) (w : Values ι) (current : Reported) (i : ι) : Prop :=
  ∃ parameter, current.get? (.text (f.name i)) = some parameter ∧ f.Reports w i parameter

theorem addReported_ok {j : ι} {parameter : Value} (hr : f.Reports w j parameter)
    (h : addReported current parameter = .ok current') :
    f.Known w current' j ∧ (f.Known w current i → f.Known w current' i) := by
  obtain ⟨name, hname, h⟩ := bind_eq_ok.1 h
  obtain ⟨-, -, h⟩ := bind_eq_ok.1 h
  obtain rfl := pure_eq_ok.1 h
  rw [hr.name] at hname
  cases hname
  refine ⟨⟨parameter, Entries.get?_insert_self .., hr⟩, fun hknown => ?_⟩
  cases hij : f.name j == f.name i with
  | true =>
    obtain rfl := f.name_injective (beq_iff_eq.1 hij)
    exact ⟨parameter, Entries.get?_insert_self .., hr⟩
  | false =>
    obtain ⟨reported, hget, hreports⟩ := hknown
    refine ⟨reported, ?_, hreports⟩
    rw [Entries.get?_insert, Value.text_beq_text, hij]
    exact hget

theorem foldlM_addReported {document : ι → Value} {order : List ι}
    (hreports : ∀ i, f.Reports w i (document i))
    (h : (order.map document).foldlM addReported current = .ok current')
    (hi : i ∈ order ∨ f.Known w current i) : f.Known w current' i := by
  induction order generalizing current with
  | nil =>
    obtain rfl := pure_eq_ok.1 h
    exact hi.resolve_left List.not_mem_nil
  | cons j order ih =>
    rw [List.map_cons, List.foldlM_cons] at h
    obtain ⟨next, hnext, h⟩ := bind_eq_ok.1 h
    obtain ⟨hadded, hkept⟩ := addReported_ok (i := i) (hreports j) hnext
    refine ih h ?_
    rcases hi with hi | hi
    · rcases List.mem_cons.1 hi with rfl | hi
      · exact .inr hadded
      · exact .inl hi
    · exact .inr (hkept hi)

/-- What has been read without a fault are the present values of all parameters. -/
theorem fetched {group : Value} {s s' : Session}
    (hy : (fetchParameters group).Yields s h (.ok current) s') (hs : Served f.Answers w h w') :
    w' = w ∧ ∀ i, f.Known w current i := by
  obtain ⟨answers, rfl, hread, rfl⟩ := fetchParameters_cases hy
  rw [served_singleton_iff] at hs
  cases hs with
  | paged hreport =>
    refine ⟨rfl, fun i => ?_⟩
    obtain ⟨pages, document, order, rfl, hpages, hflat, -, hall, hreports⟩ :=
      hreport rfl (not_mem_of_foldlM_addPage hread.symm)
    rw [foldlM_addPage hpages, hflat] at hread
    exact foldlM_addReported hreports hread.symm (.inl (hall i))

/-- A parameter differs from a declared value unless that is its present one. -/
theorem Known.differs {value : Value} {b : Bool} (hk : f.Known w current i)
    (h : differs current (f.name i) value = .ok b) :
    b = false ↔ w i = some value.display := by
  obtain ⟨parameter, hget, hr⟩ := hk
  unfold ParameterGroup.differs at h
  rw [hget] at h
  obtain ⟨v, hv, h⟩ := bind_eq_ok.1 h
  obtain rfl := pure_eq_ok.1 h
  have hvalue : v = (w i).elim .null .text := Except.ok.inj (hv.symm.trans hr.value)
  rw [Bool.not_eq_false', Value.beq_text_iff, hvalue]
  cases w i with
  | none => simp
  | some t => simp

end Family

end Provisioning.ParameterGroup
