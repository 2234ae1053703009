import Provisioning.Fault

/-!
# Programs over a remote service

A program is a tree: it is done with a result, or it calls the remote service, reads the clock or
sleeps, and goes on with the answer. A program says nothing about the service: an environment
answers its requests, and any environment will do. A pause is answered as well: nothing checks how
long it is asked to be, and an environment may refuse one that is negative or no number.
-/

set_option autoImplicit false

namespace Provisioning

/-- A request to the service: the operation and its named arguments. -/
structure Call where
  operation : String
  arguments : Entries String Value

/-- What the service answers: a response, or a fault. -/
abbrev Answer := Except Fault Value

/-- A program over a remote service. -/
inductive Program (α : Type) where
  | done (result : α)
  /-- One request with one answer. -/
  | call (request : Call) (next : Answer → Program α)
  /-- One request that is answered by pages; a page that fails ends them. -/
  | pages (request : Call) (next : List Answer → Program α)
  | clock (next : Number → Program α)
  /-- One pause, which is over or was refused. -/
  | sleep (seconds : Value) (next : Except Fault Unit → Program α)

namespace Program

/-- One program after another. -/
def bind {α β : Type} (p : Program α) (f : α → Program β) : Program β :=
  match p with
  | .done result => f result
  | .call request next => .call request fun answer => (next answer).bind f
  | .pages request next => .pages request fun answers => (next answers).bind f
  | .clock next => .clock fun now => (next now).bind f
  | .sleep seconds next => .sleep seconds fun rested => (next rested).bind f

instance : Monad Program where
  pure := .done
  bind := bind

/-- An environment with its own state answers every request. -/
structure Environment (σ : Type) where
  call : Call → σ → Answer × σ
  pages : Call → σ → List Answer × σ
  clock : σ → Number × σ
  sleep : Value → σ → Except Fault Unit × σ

/-- The result of a program in an environment, and the state that it leaves behind. -/
def run {σ α : Type} (env : Environment σ) : Program α → σ → α × σ
  | .done result, s => (result, s)
  | .call request next, s =>
    let (answer, s') := env.call request s
    (next answer).run env s'
  | .pages request next, s =>
    let (answers, s') := env.pages request s
    (next answers).run env s'
  | .clock next, s =>
    let (now, s') := env.clock s
    (next now).run env s'
  | .sleep seconds next, s =>
    let (rested, s') := env.sleep seconds s
    (next rested).run env s'

/-! ## Laws -/

@[simp] theorem pure_eq {α : Type} (a : α) : (pure a : Program α) = .done a := rfl

@[simp] theorem bind_eq {α β : Type} (p : Program α) (f : α → Program β) :
    (p >>= f) = p.bind f := rfl

theorem bind_done {α : Type} (p : Program α) : p.bind .done = p := by
  induction p with
  | done => rfl
  | call request next ih => simp only [bind]; congr 1; funext answer; exact ih answer
  | pages request next ih => simp only [bind]; congr 1; funext answers; exact ih answers
  | clock next ih => simp only [bind]; congr 1; funext now; exact ih now
  | sleep seconds next ih => simp only [bind]; congr 1; funext rested; exact ih rested

theorem bind_assoc {α β γ : Type} (p : Program α) (f : α → Program β) (g : β → Program γ) :
    (p.bind f).bind g = p.bind fun a => (f a).bind g := by
  induction p with
  | done => rfl
  | call request next ih => simp only [bind]; congr 1; funext answer; exact ih answer
  | pages request next ih => simp only [bind]; congr 1; funext answers; exact ih answers
  | clock next ih => simp only [bind]; congr 1; funext now; exact ih now
  | sleep seconds next ih => simp only [bind]; congr 1; funext rested; exact ih rested

instance : LawfulMonad Program :=
  LawfulMonad.mk' Program (fun p => bind_done p) (fun _ _ => rfl) bind_assoc

/-- Running one program after another runs the second one from the state that the first leaves. -/
theorem run_bind {σ α β : Type} (env : Environment σ) (p : Program α) (f : α → Program β) (s : σ) :
    (p.bind f).run env s = (f (p.run env s).1).run env (p.run env s).2 := by
  induction p generalizing s with
  | done => rfl
  | call request next ih => exact ih _ _
  | pages request next ih => exact ih _ _
  | clock next ih => exact ih _ _
  | sleep seconds next ih => exact ih _ _

end Program

end Provisioning
