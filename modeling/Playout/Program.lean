/-!
# `Playout.Program` — programs that ask their surroundings

Everything an output does to the world — logging, waiting, reading a clock, touching a device or a value
that other threads share — is a request. A program is the tree of what it asks, in order, and of how it
goes on for each possible answer. So one definition can be run against any surroundings, step by step
between other programs, or reasoned about for all answers at once.

## Contents
- `Interface` — the requests there are, and the type of each one's answers.
- `Program` and its monad.
- `Program.run` — a run alone, against surroundings that answer by a `Reaction`.
- `Program.translate` — the same program over another interface.
- `Program.Asks` — the requests a program can come to.

A loop without a bound of its own takes the number of rounds it may run as an argument, and is
`unfinished` when they are used up. A request that is never answered leaves a run blocked.
-/

namespace Playout

/-- The requests a program can make, and the type of the answer to each. -/
structure Interface where
  Request : Type
  Answer : Request → Type

/-- A program over an interface with a result in `α`. -/
inductive Program (I : Interface) (α : Type) where
  | done (result : α)
  | ask (request : I.Request) (next : I.Answer request → Program I α)
  | unfinished

namespace Program

variable {I J : Interface} {α β γ σ : Type}

/-- Go on with `next` once the program is done. -/
def bind (program : Program I α) (next : α → Program I β) : Program I β :=
  match program with
  | done result => next result
  | ask request rest => ask request fun answer => (rest answer).bind next
  | unfinished => unfinished

instance : Monad (Program I) where
  pure := done
  bind := bind

/-! ## Running -/

/-- Surroundings with a state in `σ`: what each request is answered, and the state afterwards. No answer
    means that the request blocks for ever. -/
abbrev Reaction (I : Interface) (σ : Type) := (r : I.Request) → σ → Option (I.Answer r × σ)

/-- How a run ended. -/
inductive Ending (α : Type) where
  | finished (result : α)
  | blocked
  | unfinished
  deriving Repr, DecidableEq

/-- The result of a finished run. -/
def Ending.result? : Ending α → Option α
  | finished result => some result
  | _ => none

/-- Run a program alone. -/
def run (react : Reaction I σ) : Program I α → σ → Ending α × σ
  | done result, s => (.finished result, s)
  | unfinished, s => (.unfinished, s)
  | ask r next, s =>
    match react r s with
    | some (answer, s) => (next answer).run react s
    | none => (.blocked, s)

/-! ## Changing the interface -/

/-- Ask by a whole program over another interface wherever the program makes a request. -/
def translate (meaning : (r : I.Request) → Program J (I.Answer r)) : Program I α → Program J α
  | done result => done result
  | unfinished => unfinished
  | ask r next => (meaning r).bind fun answer => (next answer).translate meaning

/-! ## What a program asks -/

/-- `p.Asks allowed`: whatever the answers are, every request of `p` is allowed. -/
def Asks (allowed : I.Request → Prop) : Program I α → Prop
  | done _ => True
  | unfinished => True
  | ask r next => allowed r ∧ ∀ answer, (next answer).Asks allowed

/-! ## Small facts -/

@[simp] theorem pure_eq (a : α) : (pure a : Program I α) = done a := rfl

@[simp] theorem bind_eq (p : Program I α) (f : α → Program I β) : p >>= f = p.bind f := rfl

@[simp] theorem done_bind (a : α) (f : α → Program I β) : (done a).bind f = f a := rfl

@[simp] theorem ask_bind (r : I.Request) (next : I.Answer r → Program I α) (f : α → Program I β) :
    (ask r next).bind f = ask r fun answer => (next answer).bind f := rfl

@[simp] theorem bind_done (p : Program I α) : p.bind done = p := by
  induction p with
  | done _ => rfl
  | unfinished => rfl
  | ask r next ih => exact congrArg (ask r) (funext ih)

theorem bind_assoc (p : Program I α) (f : α → Program I β) (g : β → Program I γ) :
    (p.bind f).bind g = p.bind fun a => (f a).bind g := by
  induction p with
  | done _ => rfl
  | unfinished => rfl
  | ask r next ih => exact congrArg (ask r) (funext ih)

instance : LawfulMonad (Program I) :=
  LawfulMonad.mk' (Program I) (fun p => bind_done p) (fun _ _ => rfl) (fun p f g => bind_assoc p f g)

/-- A run of two programs in a row is a run of the first and then of the second. -/
theorem run_bind (react : Reaction I σ) (p : Program I α) (f : α → Program I β) (s : σ) :
    (p.bind f).run react s =
      match p.run react s with
      | (.finished a, s) => (f a).run react s
      | (.blocked, s) => (.blocked, s)
      | (.unfinished, s) => (.unfinished, s) := by
  induction p generalizing s with
  | done _ => rfl
  | unfinished => rfl
  | ask r next ih =>
    simp only [ask_bind, run]
    cases react r s with
    | none => rfl
    | some outcome => exact ih outcome.1 outcome.2

theorem Asks.bind {allowed : I.Request → Prop} {p : Program I α} {f : α → Program I β}
    (first : p.Asks allowed) (rest : ∀ a, (f a).Asks allowed) : (p.bind f).Asks allowed := by
  induction p with
  | done a => exact rest a
  | unfinished => trivial
  | ask r next ih => exact ⟨first.1, fun answer => ih answer (first.2 answer)⟩

end Program

end Playout
