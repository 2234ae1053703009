import Provisioning.Proofs.ErrorRules

/-!
# How rule sets are composed

A rule set is made from another one by extending it or by registering rules (`BuilderCall`). Rules
registered later on a level answer for errors that no earlier rule of the level answers for, or, if
they have the same key, take its place: which errors a registration leaves alone
(`Registration.Spares`) and which it answers for (`Registration.Decides`) is decided by the rules of
its own level. What two registrations come to does not depend on their order if neither can stand
in the way of the other (`Registration.Independent`), whatever is built on them: the two rule sets
answer the same also once they are built on (`RuleSet.Same`).

Extending a rule set begins a new level, and the rules of a level come before all rules of the set
that it extends. So a registration may not be moved across an extension (`not_swaps_extend`), unless
it counts for the error on both levels or on neither.

The verdict is what the answers of a rule end in, each taking the place of a condition before it
(`ErrorStatus.EndsIn`). `RuleSet.classify_composes` puts these together.
-/

set_option autoImplicit false

namespace Provisioning

/-! ## Conditional answers -/

/-- The answers that conditions come to, one after another, end in a verdict. -/
inductive ErrorStatus.EndsIn (fault : Fault) : ErrorStatus → Verdict → Prop
  | settled {verdict : Verdict} : EndsIn fault (.settled verdict) verdict
  | conditional {resolver : Fault → Resolution} {status : ErrorStatus} {verdict : Verdict} :
      resolver fault = .answer status → EndsIn fault status verdict →
      EndsIn fault (.conditional resolver) verdict

theorem ErrorStatus.EndsIn.resolve_eq {fault : Fault} {status : ErrorStatus} {verdict : Verdict}
    (h : status.EndsIn fault verdict) : status.resolve fault = .ok verdict := by
  induction h with
  | settled => rfl
  | conditional hanswer _ ih => rw [ErrorStatus.resolve, hanswer, Resolution.resolve, ih]

mutual

theorem ErrorStatus.endsIn_of_resolve {fault : Fault} {verdict : Verdict} :
    (status : ErrorStatus) → status.resolve fault = .ok verdict → status.EndsIn fault verdict
  | .settled _, h => by cases h; exact .settled
  | .conditional resolver, h => by
    obtain ⟨status, hanswer, hends⟩ := Resolution.endsIn_of_resolve (resolver fault) h
    exact .conditional hanswer hends

theorem Resolution.endsIn_of_resolve {fault : Fault} {verdict : Verdict} :
    (resolution : Resolution) → resolution.resolve fault = .ok verdict →
      ∃ status, resolution = .answer status ∧ status.EndsIn fault verdict
  | .answer status, h => ⟨status, rfl, ErrorStatus.endsIn_of_resolve status h⟩
  | .failure _, h => by cases h

end

/-! ## Levels -/

theorem firstAnswer_append {α : Type} (ask : α → Except Fault (Option ErrorStatus))
    (rules more : List α) : firstAnswer ask (rules ++ more) =
      firstAnswer ask rules >>= fun
        | some status => .ok (some status)
        | none => firstAnswer ask more := by
  induction rules with
  | nil => rfl
  | cons rule rules ih =>
    simp only [List.cons_append, firstAnswer, ih]
    rcases ask rule with f | _ | status <;> rfl

theorem firstAnswer_map {α β : Type} (ask : β → Except Fault (Option ErrorStatus)) (f : α → β)
    (rules : List α) :
    firstAnswer ask (rules.map f) = firstAnswer (fun rule => ask (f rule)) rules := by
  induction rules with
  | nil => rfl
  | cons rule rules ih => rw [List.map_cons, firstAnswer, firstAnswer, ih]

namespace Rules

variable {r r' : Rules} {error : Caught}

/-- Two levels answer the same: the same rule for each code and each class, and the same rules with
predicates in the same order. -/
structure Same (r r' : Rules) : Prop where
  codes : ∀ code, r.codes.get? code = r'.codes.get? code
  classes : ∀ name, r.classes.get? name = r'.classes.get? name
  predicates : r.predicates = r'.predicates

theorem Same.refl (r : Rules) : r.Same r := ⟨fun _ => rfl, fun _ => rfl, rfl⟩

theorem Same.find_eq (h : r.Same r') : r.find = r'.find := by
  funext error
  have hcode : r.byCode error = r'.byCode error := by simp only [byCode, h.codes]
  have hclass : r.byClass error = r'.byClass error := by
    rw [byClass, byClass, funext h.classes]
  have hpredicate : r.byPredicate error = r'.byPredicate error := by
    rw [byPredicate, byPredicate, h.predicates]
  simp only [find, firstAnswer, hcode, hclass, hpredicate]

theorem find_congr (hcode : r.byCode error = r'.byCode error)
    (hclass : r.byClass error = r'.byClass error)
    (hpredicate : r.byPredicate error = r'.byPredicate error) : r.find error = r'.find error := by
  simp only [find, firstAnswer, hcode, hclass, hpredicate]

theorem find_of_byCode {status : ErrorStatus} (h : r.byCode error = .ok (some status)) :
    r.find error = .ok (some status) := by
  simp only [find, firstAnswer, h]
  rfl

theorem find_of_byClass {status : ErrorStatus} (hcode : r.byCode error = .ok none)
    (h : r.byClass error = .ok (some status)) : r.find error = .ok (some status) := by
  simp only [find, firstAnswer, hcode, h]
  rfl

theorem find_of_byCode_error {f : Fault} (h : r.byCode error = .error f) :
    r.find error = .error f := by
  simp only [find, firstAnswer, h]
  rfl

/-! ### A level without rules -/

/-- A level without rules asks for the code as every level does, and has no answer. -/
theorem byCode_empty (r : Rules) (error : Caught) :
    ({} : Rules).byCode error = r.byCode error >>= fun _ => .ok none := by
  unfold byCode
  cases error.code.isNull with
  | true => rfl
  | false => rcases error.code.checkKey with f | _ <;> rfl

theorem find_empty (error : Caught) : ({} : Rules).find error = ({} : Rules).byCode error := by
  have hclass : ({} : Rules).byClass error = .ok none :=
    congrArg Except.ok (List.findSome?_eq_none_iff.2 fun _ _ => rfl)
  simp only [find, firstAnswer, hclass]
  rw [byCode_empty {} error]
  rcases ({} : Rules).byCode error with f | _ <;> rfl

end Rules

/-! ## Registering rules -/

/-- A call that adds rules of one kind to a rule set. -/
inductive Registration
  | codes (status : ErrorStatus) (codes : List Value)
  | classes (status : ErrorStatus) (classes : List String)
  | predicate (status : ErrorStatus) (holds : Fault → Except Fault Bool)

/-- The answer that is registered. -/
def Registration.status : Registration → ErrorStatus
  | .codes status _ => status
  | .classes status _ => status
  | .predicate status _ => status

/-- A rule set with more rules of its own. -/
def RuleSet.register (s : RuleSet) : Registration → RuleSet
  | .codes status codes => s.withCodeValues status codes
  | .classes status classes => s.withClasses status classes
  | .predicate status holds => s.withPredicate status holds

namespace Registration

/-- Why rules that are registered on a level do not count for an error. -/
inductive Spares (own : Rules) (error : Caught) : Registration → Prop
  | noCode {status : ErrorStatus} {codes : List Value} : error.code.isNull = true →
      Spares own error (.codes status codes)
  | otherCode {status : ErrorStatus} {codes : List Value} :
      codes.any (· == error.code) = false → Spares own error (.codes status codes)
  | codeFirst {status answer : ErrorStatus} {classes : List String} :
      own.byCode error = .ok (some answer) → Spares own error (.classes status classes)
  | otherClass {status : ErrorStatus} {classes : List String} :
      (∀ name ∈ error.lineage, name ∉ classes) → Spares own error (.classes status classes)
  | nearerClass {status : ErrorStatus} {classes before after : List String} {name : String} :
      error.lineage = before ++ name :: after → own.classes.has name = true →
      (∀ c ∈ before ++ [name], c ∉ classes) → Spares own error (.classes status classes)
  | answered {status answer : ErrorStatus} {holds : Fault → Except Fault Bool} :
      own.find error = .ok (some answer) → Spares own error (.predicate status holds)
  | unsatisfied {status : ErrorStatus} {holds : Fault → Except Fault Bool} :
      holds error.fault = .ok false → Spares own error (.predicate status holds)

/-- Why a rule that is registered on a level is the one that answers for an error. -/
inductive Decides (own : Rules) (error : Caught) : Registration → Prop
  | code {status : ErrorStatus} {codes : List Value} : error.code.isNull = false →
      error.code.isKey = true → codes.any (· == error.code) = true →
      Decides own error (.codes status codes)
  | nearestClass {status : ErrorStatus} {classes before after : List String} {name : String} :
      own.byCode error = .ok none → error.lineage = before ++ name :: after → name ∈ classes →
      (∀ c ∈ before, own.classes.has c = false ∧ c ∉ classes) →
      Decides own error (.classes status classes)
  | satisfied {status : ErrorStatus} {holds : Fault → Except Fault Bool} :
      own.find error = .ok none → holds error.fault = .ok true →
      Decides own error (.predicate status holds)

variable {s : RuleSet} {r : Registration} {error : Caught} {status : ErrorStatus}

theorem get?_register_codes (codes : List Value) (code : Value) :
    (s.register (.codes status codes)).own.codes.get? code =
      if codes.any (· == code) then some status else s.own.codes.get? code :=
  Entries.get?_merge_map _ _ _ _

theorem get?_register_classes (classes : List String) (name : String) :
    (s.register (.classes status classes)).own.classes.get? name =
      if name ∈ classes then some status else s.own.classes.get? name := by
  refine (Entries.get?_merge_map _ _ _ _).trans ?_
  simp only [List.any_beq', List.contains_eq_mem, decide_eq_true_eq]

/-- Registering rules for classes changes nothing for other classes. -/
theorem findSome?_register_classes {classes names : List String}
    (hother : ∀ name ∈ names, name ∉ classes) :
    names.findSome? (s.register (.classes status classes)).own.classes.get? =
      names.findSome? s.own.classes.get? := by
  induction names with
  | nil => rfl
  | cons name names ih =>
    obtain ⟨hname, hnames⟩ := List.forall_mem_cons.1 hother
    rw [List.findSome?_cons, List.findSome?_cons, get?_register_classes, if_neg hname, ih hnames]

/-- A new predicate is asked once no other rule of its level answers. -/
theorem find_register_predicate (holds : Fault → Except Fault Bool) :
    (s.register (.predicate status holds)).own.find error = s.own.find error >>= fun
        | some answer => .ok (some answer)
        | none => holds error.fault >>= fun b => .ok (if b then some status else none) := by
  have hpredicate : (s.register (.predicate status holds)).own.byPredicate error =
      s.own.byPredicate error >>= fun
        | some answer => .ok (some answer)
        | none => holds error.fault >>= fun b => .ok (if b then some status else none) := by
    refine (firstAnswer_append _ _ _).trans ?_
    congr 1
    funext answer
    cases answer with
    | some answer => rfl
    | none =>
      simp only [firstAnswer]
      rcases holds error.fault with f | _ | _ <;> rfl
  have hcode : (s.register (.predicate status holds)).own.byCode error = s.own.byCode error := rfl
  have hclass : (s.register (.predicate status holds)).own.byClass error = s.own.byClass error :=
    rfl
  simp only [Rules.find, firstAnswer, hcode, hclass, hpredicate]
  rcases s.own.byCode error with f | _ | _ <;> try rfl
  rcases s.own.byClass error with f | _ | _ <;> try rfl
  rcases s.own.byPredicate error with f | _ | _ <;> try rfl
  rcases holds error.fault with f | _ | _ <;> rfl

/-- The level finds what it found before. -/
theorem Spares.find_eq (h : r.Spares s.own error) :
    (s.register r).own.find error = s.own.find error := by
  cases h with
  | noCode hnull =>
    refine Rules.find_congr ?_ rfl rfl
    simp only [Rules.byCode, hnull, if_true]
  | otherCode hother =>
    refine Rules.find_congr ?_ rfl rfl
    simp only [Rules.byCode, get?_register_codes, hother, Bool.false_eq_true, if_false]
  | codeFirst hcode =>
    rw [Rules.find_of_byCode hcode]
    exact Rules.find_of_byCode hcode
  | otherClass hother =>
    refine Rules.find_congr rfl ?_ rfl
    rw [Rules.byClass, Rules.byClass, findSome?_register_classes hother]
  | @nearerClass status classes before after name hlineage hhas hbefore =>
    refine Rules.find_congr rfl ?_ rfl
    -- the search ends at the nearer class, before it comes to any of the given ones
    obtain ⟨answer, hanswer⟩ : ∃ answer,
        (before ++ [name]).findSome? s.own.classes.get? = some answer := by
      rw [Entries.has_eq_isSome] at hhas
      exact Option.isSome_iff_exists.1 (List.findSome?_isSome_iff.2 ⟨name, by simp, hhas⟩)
    have hsplit : error.lineage = (before ++ [name]) ++ after := by simp [hlineage]
    rw [Rules.byClass, Rules.byClass, hsplit, List.findSome?_append,
      findSome?_register_classes hbefore, hanswer, Option.some_or, List.findSome?_append, hanswer,
      Option.some_or]
  | answered hfind =>
    rw [find_register_predicate, hfind]
    rfl
  | unsatisfied hholds =>
    rw [find_register_predicate, hholds]
    rcases s.own.find error with f | _ | _ <;> rfl

/-- The level finds the answer that is registered. -/
theorem Decides.find_eq (h : r.Decides s.own error) :
    (s.register r).own.find error = .ok (some r.status) := by
  cases h with
  | code hnull hkey hcarried =>
    refine Rules.find_of_byCode ?_
    simp only [Rules.byCode, hnull, Value.checkKey, hkey, get?_register_codes, hcarried, if_true]
    rfl
  | @nearestClass status classes before after name hcode hlineage hname hbefore =>
    refine Rules.find_of_byClass hcode ?_
    have hnone : before.findSome? s.own.classes.get? = none :=
      List.findSome?_eq_none_iff.2 fun c hc => Entries.get?_eq_none_iff.2 (hbefore c hc).1
    rw [Rules.byClass, hlineage, List.findSome?_append,
      findSome?_register_classes fun c hc => (hbefore c hc).2, hnone, Option.none_or,
      List.findSome?_cons, get?_register_classes, if_pos hname]
    rfl
  | satisfied hfind hholds =>
    rw [find_register_predicate, hfind, hholds]
    rfl

/-- A registration that answers for an error on some level does so on a level without rules. -/
theorem Decides.of_own {own : Rules} (h : r.Decides own error) : r.Decides {} error := by
  cases h with
  | code hnull hkey hcarried => exact .code hnull hkey hcarried
  | nearestClass hcode hlineage hname hbefore =>
    have hempty : ({} : Rules).byCode error = .ok none := by rw [Rules.byCode_empty own, hcode]; rfl
    exact .nearestClass hempty hlineage hname fun c hc => ⟨rfl, (hbefore c hc).2⟩
  | satisfied hfind hholds =>
    refine .satisfied ?_ hholds
    rw [Rules.find_empty, Rules.byCode_empty own]
    cases hcode : own.byCode error with
    | error f => cases hfind.symm.trans (Rules.find_of_byCode_error hcode)
    | ok => rfl

/-- A registration that does not count for an error on a level without rules does so on no level. -/
theorem Spares.on_own (h : r.Spares {} error) (own : Rules) : r.Spares own error := by
  cases h with
  | noCode hnull => exact .noCode hnull
  | otherCode hother => exact .otherCode hother
  | codeFirst hcode =>
    rw [Rules.byCode_empty {}] at hcode
    obtain ⟨_, -, hnone⟩ := bind_eq_ok.1 hcode
    cases hnone
  | otherClass hother => exact .otherClass hother
  | nearerClass _ hhas => cases hhas
  | answered hfind =>
    rw [Rules.find_empty, Rules.byCode_empty {}] at hfind
    obtain ⟨_, -, hnone⟩ := bind_eq_ok.1 hfind
    cases hnone
  | unsatisfied hholds => exact .unsatisfied hholds

theorem spares_or_decides_classes {classes : List String}
    (hcode : s.own.byCode error = .ok none) :
    Spares s.own error (.classes status classes) ∨
      Decides s.own error (.classes status classes) := by
  cases hfirst : error.lineage.find? (· ∈ classes) with
  | none =>
    have hother := List.find?_eq_none.1 hfirst
    exact .inl (.otherClass fun name hname => by simpa using hother name hname)
  | some name =>
    obtain ⟨hname, before, after, hlineage, hbefore⟩ := List.find?_eq_some_iff_append.1 hfirst
    have hbefore : ∀ c ∈ before, c ∉ classes := fun c hc => by simpa using hbefore c hc
    cases hnearer : before.any s.own.classes.has with
    | true =>
      obtain ⟨c, hc, hhas⟩ := List.any_eq_true.1 hnearer
      obtain ⟨nearest, rest, rfl⟩ := List.append_of_mem hc
      have hnearer : error.lineage = nearest ++ c :: (rest ++ name :: after) := by
        rw [hlineage, List.append_assoc, List.cons_append]
      refine .inl (.nearerClass hnearer hhas fun d hd => hbefore d ?_)
      exact List.mem_append.2 ((List.mem_append.1 hd).imp_right fun hd =>
        List.mem_cons.2 (.inl (List.mem_singleton.1 hd)))
    | false =>
      rw [List.any_eq_false] at hnearer
      exact .inr (.nearestClass hcode hlineage (by simpa using hname) fun c hc =>
        ⟨by simpa using hnearer c hc, hbefore c hc⟩)

/-- Where asking meets no fault, a registration either does not count or answers. -/
theorem spares_or_decides (hasked : ∀ f, (s.register r).own.find error ≠ .error f) :
    r.Spares s.own error ∨ r.Decides s.own error := by
  cases r with
  | codes status codes =>
    cases hnull : error.code.isNull with
    | true => exact .inl (.noCode hnull)
    | false =>
      cases hcarried : codes.any (· == error.code) with
      | false => exact .inl (.otherCode hcarried)
      | true =>
        cases hkey : error.code.isKey with
        | true => exact .inr (.code hnull hkey hcarried)
        | false =>
          refine absurd (Rules.find_of_byCode_error ?_)
            (hasked (.wrongType ("unhashable type: '" ++ error.code.kind ++ "'")))
          simp only [Rules.byCode, hnull, Value.checkKey, hkey]
          rfl
  | classes status classes =>
    cases hcode : s.own.byCode error with
    | error f => exact (hasked f (Rules.find_of_byCode_error hcode)).elim
    | ok answer =>
      cases answer with
      | some answer => exact .inl (.codeFirst hcode)
      | none => exact spares_or_decides_classes hcode
  | predicate status holds =>
    have hfind : (s.register (.predicate status holds)).own.find error = _ :=
      find_register_predicate holds
    cases hbase : s.own.find error with
    | error f =>
      rw [hbase] at hfind
      exact absurd hfind (hasked f)
    | ok answer =>
      cases answer with
      | some answer => exact .inl (.answered hbase)
      | none =>
        rw [hbase] at hfind
        cases hholds : holds error.fault with
        | error f =>
          rw [hholds] at hfind
          exact absurd hfind (hasked f)
        | ok b =>
          cases b with
          | false => exact .inl (.unsatisfied hholds)
          | true => exact .inr (.satisfied hbase hholds)

/-- Neither of two registrations can stand in the way of the other: they are of different kinds, or
have no key in common. Predicates can, since the first one counts. -/
def Independent : Registration → Registration → Prop
  | .codes _ keys, .codes _ others => ∀ key ∈ keys, ∀ other ∈ others, (key == other) = false
  | .classes _ names, .classes _ others => ∀ name ∈ names, name ∉ others
  | .predicate .., .predicate .. => False
  | _, _ => True

end Registration

/-! ## Building rule sets -/

/-- A call that makes a rule set from another one. -/
inductive BuilderCall
  | extend
  | register (r : Registration)

namespace RuleSet

open Registration

/-- What a call makes of a rule set. -/
def apply (s : RuleSet) : BuilderCall → RuleSet
  | .extend => s.extend
  | .register r => s.register r

/-- What calls make of a rule set, one after another. -/
def build (s : RuleSet) (calls : List BuilderCall) : RuleSet := calls.foldl apply s

variable {s s' : RuleSet} {r a b : Registration} {error : Caught}

theorem findCaught_eq (s : RuleSet) (error : Caught) : s.findCaught error =
    s.own.find error >>= fun
      | some status => .ok (some status)
      | none => firstAnswer (·.find error) s.inherited := by
  rw [findCaught, levels, firstAnswer]
  rcases s.own.find error with f | _ | _ <;> rfl

/-- A level without rules answers for nothing. -/
theorem findCaught_extend (s : RuleSet) (error : Caught) :
    s.extend.findCaught error = s.findCaught error := by
  have hextend : s.extend.findCaught error = ({} : Rules).find error >>= fun
      | some status => .ok (some status)
      | none => s.findCaught error := findCaught_eq s.extend error
  rw [hextend, Rules.find_empty, Rules.byCode_empty s.own]
  cases hcode : s.own.byCode error with
  | ok => rfl
  | error f =>
    -- the next level cannot look up the code either
    rw [findCaught_eq, Rules.find_of_byCode_error hcode]
    rfl

theorem findCaught_register_of_spares (h : r.Spares s.own error) :
    (s.register r).findCaught error = s.findCaught error := by
  have hinherited : (s.register r).inherited = s.inherited := by cases r <;> rfl
  rw [findCaught_eq, findCaught_eq, h.find_eq, hinherited]

theorem findCaught_register_of_decides (h : r.Decides s.own error) :
    (s.register r).findCaught error = .ok (some r.status) := by
  rw [findCaught_eq, h.find_eq]
  rfl

/-- A registration and an extension may be swapped where the registration counts for the error
behind the rules of the base, or would not count without them either. -/
theorem findCaught_swap_extend (h : r.Decides s.own error ∨ r.Spares {} error) :
    (s.build [.extend, .register r]).findCaught error =
      (s.build [.register r, .extend]).findCaught error := by
  have hlast : (s.build [.register r, .extend]).findCaught error =
      (s.register r).findCaught error := findCaught_extend _ error
  have hfirst : s.build [.extend, .register r] = s.extend.register r := rfl
  rw [hlast, hfirst]
  rcases h with hdecides | hspares
  · rw [findCaught_register_of_decides hdecides,
      findCaught_register_of_decides (s := s.extend) hdecides.of_own]
  · rw [findCaught_register_of_spares (s := s.extend) hspares, findCaught_extend,
      findCaught_register_of_spares (hspares.on_own s.own)]

/-- Two rule sets answer the same, also once more rules are registered on both. -/
structure Same (s s' : RuleSet) : Prop where
  own : s.own.Same s'.own
  inherited : s.inherited.map Rules.find = s'.inherited.map Rules.find

theorem Same.refl (s : RuleSet) : s.Same s := ⟨.refl s.own, rfl⟩

theorem Same.findCaught_eq (h : s.Same s') (error : Caught) :
    s.findCaught error = s'.findCaught error := by
  have hrest : firstAnswer (·.find error) s.inherited =
      firstAnswer (·.find error) s'.inherited := by
    have hmap := congrArg (firstAnswer fun find => find error) h.inherited
    rwa [firstAnswer_map, firstAnswer_map] at hmap
  rw [RuleSet.findCaught_eq, RuleSet.findCaught_eq, h.own.find_eq, hrest]

theorem Same.extend (h : s.Same s') : s.extend.Same s'.extend where
  own := .refl _
  inherited := by
    have hown : s.extend.inherited.map Rules.find =
      s.own.find :: s.inherited.map Rules.find := rfl
    rw [hown, h.own.find_eq, h.inherited]
    rfl

theorem Same.register (h : s.Same s') (r : Registration) : (s.register r).Same (s'.register r) := by
  cases r with
  | codes status codes =>
    refine ⟨⟨fun code => ?_, h.own.classes, h.own.predicates⟩, h.inherited⟩
    rw [get?_register_codes, get?_register_codes, h.own.codes]
  | classes status classes =>
    refine ⟨⟨h.own.codes, fun name => ?_, h.own.predicates⟩, h.inherited⟩
    rw [get?_register_classes, get?_register_classes, h.own.classes]
  | predicate status holds =>
    exact ⟨⟨h.own.codes, h.own.classes, congrArg (· ++ [(holds, status)]) h.own.predicates⟩,
      h.inherited⟩

theorem Same.build (h : s.Same s') (calls : List BuilderCall) :
    (s.build calls).Same (s'.build calls) := by
  induction calls generalizing s s' with
  | nil => exact h
  | cons call calls ih =>
    cases call with
    | extend => exact ih h.extend
    | register r => exact ih (h.register r)

/-- The order of two independent registrations does not matter. -/
theorem same_register_swap (h : a.Independent b) :
    ((s.register a).register b).Same ((s.register b).register a) := by
  cases a with
  | codes status codes =>
    cases b with
    | codes status' others =>
      refine ⟨⟨fun code => ?_, fun _ => rfl, rfl⟩, rfl⟩
      simp only [get?_register_codes]
      cases hcodes : codes.any (· == code) with
      | false => rfl
      | true =>
        cases hothers : others.any (· == code) with
        | false => rfl
        | true =>
          obtain ⟨c, hc, hcode⟩ := List.any_eq_true.1 hcodes
          obtain ⟨d, hd, hother⟩ := List.any_eq_true.1 hothers
          exact absurd (BEq.trans hcode (BEq.symm hother)) (by simp [h c hc d hd])
    | classes => exact .refl _
    | predicate => exact .refl _
  | classes status classes =>
    cases b with
    | codes => exact .refl _
    | classes status' others =>
      refine ⟨⟨fun _ => rfl, fun name => ?_, rfl⟩, rfl⟩
      simp only [get?_register_classes]
      by_cases hclasses : name ∈ classes
      · rw [if_neg (h name hclasses), if_pos hclasses, if_pos hclasses]
      · rw [if_neg hclasses, if_neg hclasses]
    | predicate => exact .refl _
  | predicate =>
    cases b with
    | codes => exact .refl _
    | classes => exact .refl _
    | predicate => exact h.elim

/-- Extending a rule set changes no verdict. Registering rules changes none for the errors that the
registration leaves alone, and answers for all others that can be asked about. Two adjacent calls
that register independent rules may be swapped, whatever is built on them; a last registration may
be moved across an extension if no rule of the base stands in its way. And a verdict is what the
answer that is found ends in: never a condition, whatever conditions it comes from. -/
theorem classify_composes (s : RuleSet) :
    (∀ error, s.extend.classifyCaught error = s.classifyCaught error) ∧
    (∀ r error,
      (r.Spares s.own error → (s.register r).classifyCaught error = s.classifyCaught error) ∧
      (r.Decides s.own error → (s.register r).findCaught error = .ok (some r.status)) ∧
      ((∀ f, (s.register r).own.find error ≠ .error f) →
        r.Spares s.own error ∨ r.Decides s.own error)) ∧
    (∀ a b rest error, a.Independent b →
      (s.build (.register a :: .register b :: rest)).classifyCaught error =
        (s.build (.register b :: .register a :: rest)).classifyCaught error) ∧
    (∀ r error, r.Decides s.own error ∨ r.Spares {} error →
      (s.build [.extend, .register r]).classifyCaught error =
        (s.build [.register r, .extend]).classifyCaught error) ∧
    (∀ error verdict, s.classifyCaught error = .ok verdict ↔
      (s.findCaught error = .ok none ∧ verdict = defaultVerdict) ∨
        ∃ status, s.findCaught error = .ok (some status) ∧ status.EndsIn error.fault verdict) ∧
    ∀ fault, s.classify fault = s.classifyCaught fault.caught := by
  have hclassify : ∀ {s s' : RuleSet} {error : Caught}, s.findCaught error = s'.findCaught error →
      s.classifyCaught error = s'.classifyCaught error := fun h => by
    rw [classifyCaught, classifyCaught, h]
  refine ⟨fun error => hclassify (findCaught_extend s error), fun r error =>
    ⟨fun h => hclassify (findCaught_register_of_spares h), findCaught_register_of_decides,
      spares_or_decides⟩, fun a b rest error h => ?_,
    fun r error h => hclassify (findCaught_swap_extend h), fun error verdict => ?_, fun _ => rfl⟩
  · exact hclassify (((same_register_swap h).build rest).findCaught_eq error)
  · rw [classifyCaught]
    rcases s.findCaught error with f | _ | status
    · exact ⟨nofun, fun h => h.elim (fun h => nomatch h.1) fun ⟨_, h, _⟩ => nomatch h⟩
    · refine ⟨fun h => .inl ⟨rfl, (pure_eq_ok.1 h).symm⟩, fun h => ?_⟩
      rcases h with ⟨-, rfl⟩ | ⟨_, h, -⟩
      · rfl
      · cases h
    · refine ⟨fun h => .inr ⟨status, rfl, status.endsIn_of_resolve h⟩, fun h => ?_⟩
      rcases h with ⟨h, -⟩ | ⟨_, h, hends⟩
      · cases h
      · cases h
        exact hends.resolve_eq

/-- In the rules of the service, ignoring denied access leaves throttling alone, is what counts for
denied access, and may be registered before or after a rule for an error class. This one may also be
registered before or after an extension, for an error with a code that no rule knows. -/
theorem classify_composes_serviceRules :
    let denied := Registration.codes .ignore [.text "AccessDenied"]
    let refused := Registration.classes (.failWith .invalidRequest) ["ClientError"]
    let error (code : String) : Caught :=
      Fault.caught (.service ⟨some (.text code), none, "DescribeDBParameters", none⟩)
    (serviceRules.register denied).classifyCaught (error "Throttling") =
        serviceRules.classifyCaught (error "Throttling") ∧
      (serviceRules.register denied).findCaught (error "AccessDenied") =
        .ok (some .ignore) ∧
      (serviceRules.build [.register denied, .register refused, .extend]).classifyCaught
          (error "Gone") =
        (serviceRules.build [.register refused, .register denied, .extend]).classifyCaught
          (error "Gone") ∧
      (serviceRules.build [.extend, .register refused]).classifyCaught (error "Gone") =
        (serviceRules.build [.register refused, .extend]).classifyCaught (error "Gone") := by
  obtain ⟨-, hregister, hswap, hmove, -, -⟩ := classify_composes serviceRules
  refine ⟨(hregister _ _).1 (.otherCode ?_), (hregister _ _).2.1 (.code rfl rfl ?_),
    hswap _ _ [.extend] _ trivial,
    hmove _ _ (.inl (.nearestClass rfl (List.nil_append _).symm (List.mem_singleton_self _) ?_))⟩
  · decide
  · decide
  · exact fun _ hc => nomatch hc

end RuleSet

/-! ## Extending between registrations -/

/-- A registration may be moved across an extension next to it, whatever is built on them. -/
def Registration.SwapsWithExtend (r : Registration) : Prop :=
  ∀ (s : RuleSet) rest error,
    (s.build (.extend :: .register r :: rest)).classifyCaught error =
      (s.build (.register r :: .extend :: rest)).classifyCaught error

/-- Two calls are of different kinds, or register rules of one kind without a common key. -/
def BuilderCall.Independent : BuilderCall → BuilderCall → Prop
  | .register a, .register b => a.Independent b
  | .extend, .extend => False
  | _, _ => True

namespace RuleSet

/-- A code that a rule knows, in an error of the service. -/
def gone : Caught :=
  Fault.caught (.service ⟨some (.text "Gone"), none, "DescribeDBParameters", none⟩)

/-- Registrations of no kind may be moved across an extension: on the level of a rule for a code,
rules for classes and predicates come after that rule, and on the next level before it; and a rule
for a code comes before a rule for a class only if both are on one level. -/
theorem not_swaps_extend :
    ¬ (Registration.classes .ignore ["ClientError"]).SwapsWithExtend ∧
      ¬ (Registration.predicate .ignore fun _ => .ok true).SwapsWithExtend ∧
      ¬ (Registration.codes (.failWith .notFound) [.text "Gone"]).SwapsWithExtend := by
  let known := empty.withCodes (.failWith .notFound) ["Gone"]
  have hne : (.ok .ignore : Except Fault Verdict) ≠ .ok (.failWith .notFound) := nofun
  refine ⟨fun h => hne (h known [] gone), fun h => hne (h known [] gone), fun h => ?_⟩
  exact hne (h empty [.register (.classes .ignore ["ClientError"])] gone).symm

/-- Not all adjacent calls of different kinds may be swapped: extending between the rules for a code
and for a class decides which of the two counts. -/
theorem not_forall_independent_swap :
    ¬ ∀ (s : RuleSet) (a b : BuilderCall) (rest : List BuilderCall) (error : Caught),
      a.Independent b → (s.build (a :: b :: rest)).classifyCaught error =
        (s.build (b :: a :: rest)).classifyCaught error :=
  fun h => not_swaps_extend.1 fun s rest error =>
    h s .extend (.register (.classes .ignore ["ClientError"])) rest error trivial

end RuleSet

end Provisioning
