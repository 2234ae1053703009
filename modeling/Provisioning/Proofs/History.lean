import Provisioning.Program

/-!
# Histories of programs

A history is what a program asked of its surroundings and what it was answered, in order.
`p.Runs h a` means that the program can run through the history `h` to the result `a`, whatever
gave the answers. Every environment gives such a run (`runs_history`), and every run is one in an
environment that replays its history (`Runs.run_replay`), so a statement about all histories is a
statement about all environments.
-/

set_option autoImplicit false

namespace Provisioning

/-- What a program asked, with the answer. -/
inductive Exchange
  | called (request : Call) (answer : Answer)
  | paged (request : Call) (answers : List Answer)
  | clock (now : Number)
  | slept (seconds : Value) (rested : Except Fault Unit)

/-- What a program asked and was answered, in order. -/
abbrev History := List Exchange

namespace Exchange

/-- Whether an exchange is a call of an operation. -/
def calls (operation : String) : Exchange → Bool
  | called request _ => request.operation = operation
  | _ => false

/-- Whether an exchange is a call of an operation that returned a response. -/
def returns (operation : String) : Exchange → Bool
  | called request (.ok _) => request.operation = operation
  | _ => false

/-- Whether an exchange asks the service for one of some operations, or reads the clock. -/
def within (operations : List String) : Exchange → Bool
  | called request _ => operations.contains request.operation
  | paged request _ => operations.contains request.operation
  | clock _ => true
  | slept _ _ => false

/-- The length of a pause. -/
def pause? : Exchange → Option Value
  | slept seconds _ => some seconds
  | _ => none

theorem calls_of_returns {operation : String} {e : Exchange} (h : e.returns operation = true) :
    e.calls operation = true := by
  cases e with
  | called request answer => cases answer <;> simp_all [returns, calls]
  | _ => simp [returns] at h

theorem not_calls_of_within {operation : String} {operations : List String} {e : Exchange}
    (h : e.within operations = true) (hop : operation ∉ operations) :
    e.calls operation = false := by
  cases e with
  | called request answer =>
    simp only [within, List.contains_iff_mem] at h
    simp only [calls, decide_eq_false_iff_not]
    rintro rfl
    exact hop h
  | _ => rfl

theorem pause?_of_within {operations : List String} {e : Exchange}
    (h : e.within operations = true) : e.pause? = none := by
  cases e with
  | slept => cases h
  | _ => rfl

end Exchange

namespace History

variable {op : String} {h h' : History}

/-- No call of an operation is made. -/
def Avoids (op : String) (h : History) : Prop := ∀ e ∈ h, e.calls op = false

/-- A call of an operation has returned. -/
def Returned (op : String) (h : History) : Prop := ∃ e ∈ h, e.returns op = true

/-- After a call of an operation has returned, the operation is not called again. -/
def Once (op : String) (h : History) : Prop :=
  h.Pairwise fun e e' => e.returns op = true → e'.calls op = false

/-- The lengths of the pauses, in order. -/
def pauses (h : History) : List Value := h.filterMap Exchange.pause?

theorem pauses_append (h h' : History) : pauses (h ++ h') = pauses h ++ pauses h' :=
  List.filterMap_append

theorem pauses_eq_nil_of_within {ops : List String} (hh : ∀ e ∈ h, e.within ops = true) :
    h.pauses = [] :=
  List.filterMap_eq_nil_iff.2 fun e he => Exchange.pause?_of_within (hh e he)

theorem Avoids.append (h₁ : Avoids op h) (h₂ : Avoids op h') : Avoids op (h ++ h') := by
  intro e he
  rcases List.mem_append.1 he with he | he
  · exact h₁ e he
  · exact h₂ e he

theorem Avoids.not_returned (hav : Avoids op h) : ¬ Returned op h := by
  rintro ⟨e, he, hr⟩
  have := hav e he
  rw [Exchange.calls_of_returns hr] at this
  cases this

theorem Avoids.once (hav : Avoids op h) : Once op h :=
  List.pairwise_of_forall_mem_list fun _ _ e' he' _ => hav e' he'

theorem returned_append : Returned op (h ++ h') ↔ Returned op h ∨ Returned op h' := by
  simp only [Returned, List.mem_append, or_and_right, exists_or]

theorem Once.append (h₁ : Once op h) (h₂ : Once op h') (hsep : Returned op h → Avoids op h') :
    Once op (h ++ h') :=
  List.pairwise_append.2 ⟨h₁, h₂, fun e he e' he' hr => hsep ⟨e, he, hr⟩ e' he'⟩

/-- Then at most one call returns. -/
theorem Once.countP_le_one (hon : Once op h) : h.countP (·.returns op) ≤ 1 := by
  induction h with
  | nil => simp
  | cons e h ih =>
    obtain ⟨hhead, htail⟩ := List.pairwise_cons.1 hon
    rw [List.countP_cons]
    cases hr : e.returns op with
    | false => simpa using ih htail
    | true =>
      have : h.countP (·.returns op) = 0 := by
        refine List.countP_eq_zero.2 fun e' he' hr' => ?_
        have := hhead e' he' hr
        rw [Exchange.calls_of_returns hr'] at this
        cases this
      simp [this]

end History

namespace Program

section
variable {α β : Type}

/-- A program can run through a history to a result. -/
inductive Runs {α : Type} : Program α → History → α → Prop
  | done (a : α) : Runs (.done a) [] a
  | call {request : Call} {next : Answer → Program α} {answer : Answer} {h : History} {a : α} :
      Runs (next answer) h a → Runs (.call request next) (.called request answer :: h) a
  | pages {request : Call} {next : List Answer → Program α} {answers : List Answer} {h : History}
      {a : α} : Runs (next answers) h a → Runs (.pages request next) (.paged request answers :: h) a
  | clock {next : Number → Program α} {now : Number} {h : History} {a : α} :
      Runs (next now) h a → Runs (.clock next) (.clock now :: h) a
  | sleep {seconds : Value} {next : Except Fault Unit → Program α} {rested : Except Fault Unit}
      {h : History} {a : α} :
      Runs (next rested) h a → Runs (.sleep seconds next) (.slept seconds rested :: h) a

theorem runs_done_iff {a b : α} {h : History} : (Program.done a).Runs h b ↔ h = [] ∧ b = a :=
  ⟨fun hr => by cases hr; exact ⟨rfl, rfl⟩, by rintro ⟨rfl, rfl⟩; exact .done _⟩

theorem Runs.bind {p : Program α} {f : α → Program β} {h₁ h₂ : History} {a : α} {b : β}
    (hp : p.Runs h₁ a) (hf : (f a).Runs h₂ b) : (p.bind f).Runs (h₁ ++ h₂) b := by
  induction hp with
  | done => exact hf
  | call _ ih => exact .call (ih hf)
  | pages _ ih => exact .pages (ih hf)
  | clock _ ih => exact .clock (ih hf)
  | sleep _ ih => exact .sleep (ih hf)

/-- One program after another runs through the history of the first and then that of the second. -/
theorem runs_bind_iff {p : Program α} {f : α → Program β} {h : History} {b : β} :
    (p.bind f).Runs h b ↔ ∃ h₁ a h₂, p.Runs h₁ a ∧ (f a).Runs h₂ b ∧ h = h₁ ++ h₂ := by
  refine ⟨fun hr => ?_, ?_⟩
  · induction p generalizing h with
    | done a => exact ⟨[], a, h, .done a, hr, rfl⟩
    | call request next ih =>
      cases hr with
      | call hr =>
        obtain ⟨h₁, a, h₂, hp, hf, rfl⟩ := ih _ hr
        exact ⟨_, a, h₂, .call hp, hf, rfl⟩
    | pages request next ih =>
      cases hr with
      | pages hr =>
        obtain ⟨h₁, a, h₂, hp, hf, rfl⟩ := ih _ hr
        exact ⟨_, a, h₂, .pages hp, hf, rfl⟩
    | clock next ih =>
      cases hr with
      | clock hr =>
        obtain ⟨h₁, a, h₂, hp, hf, rfl⟩ := ih _ hr
        exact ⟨_, a, h₂, .clock hp, hf, rfl⟩
    | sleep seconds next ih =>
      cases hr with
      | sleep hr =>
        obtain ⟨h₁, a, h₂, hp, hf, rfl⟩ := ih _ hr
        exact ⟨_, a, h₂, .sleep hp, hf, rfl⟩
  · rintro ⟨h₁, a, h₂, hp, hf, rfl⟩
    exact hp.bind hf

/-- A program that is followed by nothing whatever it ends in. -/
theorem bind_eq_self {p : Program α} {f : α → Program α}
    (hf : ∀ h a, p.Runs h a → f a = .done a) : p.bind f = p := by
  induction p with
  | done a => exact hf [] a (.done a)
  | call request next ih =>
    simp only [Program.bind]
    congr 1
    funext answer
    exact ih answer fun h a hr => hf _ a (.call hr)
  | pages request next ih =>
    simp only [Program.bind]
    congr 1
    funext answers
    exact ih answers fun h a hr => hf _ a (.pages hr)
  | clock next ih =>
    simp only [Program.bind]
    congr 1
    funext now
    exact ih now fun h a hr => hf _ a (.clock hr)
  | sleep seconds next ih =>
    simp only [Program.bind]
    congr 1
    funext rested
    exact ih rested fun h a hr => hf _ a (.sleep hr)

end

/-! ## Environments -/

section
variable {σ α : Type}

/-- The history of a program in an environment. -/
def history (env : Environment σ) : Program α → σ → History
  | .done _, _ => []
  | .call request next, s =>
    let (answer, s') := env.call request s
    .called request answer :: (next answer).history env s'
  | .pages request next, s =>
    let (answers, s') := env.pages request s
    .paged request answers :: (next answers).history env s'
  | .clock next, s =>
    let (now, s') := env.clock s
    .clock now :: (next now).history env s'
  | .sleep seconds next, s =>
    let (rested, s') := env.sleep seconds s
    .slept seconds rested :: (next rested).history env s'

/-- In every environment a program runs through a history to its result there. -/
theorem runs_history (env : Environment σ) (p : Program α) (s : σ) :
    p.Runs (p.history env s) (p.run env s).1 := by
  induction p generalizing s with
  | done a => exact .done a
  | call request next ih => exact .call (ih _ _)
  | pages request next ih => exact .pages (ih _ _)
  | clock next ih => exact .clock (ih _ _)
  | sleep seconds next ih => exact .sleep (ih _ _)

/-- An environment gives an answer, in one of its states. -/
def Environment.Gives (env : Environment σ) : Exchange → Prop
  | .called request answer => ∃ s, answer = (env.call request s).1
  | .paged request answers => ∃ s, answers = (env.pages request s).1
  | .clock now => ∃ s, now = (env.clock s).1
  | .slept seconds rested => ∃ s, rested = (env.sleep seconds s).1

/-- All answers of a history are given by the environment. -/
theorem gives_of_mem_history {env : Environment σ} (p : Program α) (s : σ) {e : Exchange}
    (he : e ∈ p.history env s) : env.Gives e := by
  induction p generalizing s with
  | done => cases he
  | call request next ih =>
    rcases List.mem_cons.1 he with rfl | he
    · exact ⟨s, rfl⟩
    · exact ih _ _ he
  | pages request next ih =>
    rcases List.mem_cons.1 he with rfl | he
    · exact ⟨s, rfl⟩
    · exact ih _ _ he
  | clock next ih =>
    rcases List.mem_cons.1 he with rfl | he
    · exact ⟨s, rfl⟩
    · exact ih _ _ he
  | sleep seconds next ih =>
    rcases List.mem_cons.1 he with rfl | he
    · exact ⟨s, rfl⟩
    · exact ih _ _ he

/-- What was called has been answered by the environment. -/
theorem answered_of_mem_history {env : Environment σ} {c : Call} {a : Answer} (p : Program α)
    (s : σ) (hmem : .called c a ∈ p.history env s) : ∃ s', a = (env.call c s').1 :=
  gives_of_mem_history p s hmem

/-- The pages that were asked for have been answered by the environment. -/
theorem paged_of_mem_history {env : Environment σ} {c : Call} {answers : List Answer}
    (p : Program α) (s : σ) (hmem : .paged c answers ∈ p.history env s) :
    ∃ s', answers = (env.pages c s').1 :=
  gives_of_mem_history p s hmem

/-- The environment that gives the answers of a history again, in order. -/
def replay : Environment History where
  call
    | _, .called _ answer :: rest => (answer, rest)
    | _, h => (.ok .null, h)
  pages
    | _, .paged _ answers :: rest => (answers, rest)
    | _, h => ([], h)
  clock
    | .clock now :: rest => (now, rest)
    | h => (.int 0, h)
  sleep
    | _, .slept _ rested :: rest => (rested, rest)
    | _, h => (.ok (), h)

/-- A program that can run through a history does so where the history is replayed. -/
theorem Runs.run_replay {p : Program α} {h : History} {a : α} (hr : p.Runs h a) :
    p.run replay h = (a, []) := by
  induction hr with
  | done => rfl
  | call _ ih => exact ih
  | pages _ ih => exact ih
  | clock _ ih => exact ih
  | sleep _ ih => exact ih

/-- The histories of a program are those that it has in some environment. -/
theorem runs_iff_exists_environment {p : Program α} {h : History} {a : α} :
    p.Runs h a ↔ ∃ (σ : Type) (env : Environment σ) (s : σ),
      p.history env s = h ∧ (p.run env s).1 = a := by
  constructor
  · intro hr
    refine ⟨History, replay, h, ?_, ?_⟩
    · induction hr with
      | done => rfl
      | call _ ih => exact congrArg _ ih
      | pages _ ih => exact congrArg _ ih
      | clock _ ih => exact congrArg _ ih
      | sleep _ ih => exact congrArg _ ih
    · rw [hr.run_replay]
  · rintro ⟨σ, env, s, rfl, rfl⟩
    exact runs_history env p s

end

end Program

end Provisioning
