import Mathlib.Logic.Function.Basic
import Playout.Program

/-!
# `Playout.Proofs.Interleaving` — threads that share their surroundings

Every thread makes calls one after another, and a call is a program. In each step one thread makes one
request, or ends its call and goes on to the next. Nothing is said about which thread it is: a run is any
order of such steps. What a request is answered, and what becomes of the state that all threads share, is a
relation, because surroundings may have a choice.

## Contents
- `Event`, `Call`, `State`, `Step`, `Run` — interleaved runs with the list of what happened.
- `Program.Follows` — a program keeps to a protocol, given as moves between phases.
- `Run.event`, `Run.asked` — the run up to one of its events.
- `Run.rule` — what every step keeps, every run keeps.
- `Run.invariant` — what every move keeps, every interleaving of programs that keep to their protocols keeps.
-/

namespace Playout

/-- What is picked out of a list that grows at its end. -/
theorem filterMap_snoc {α β : Type} (f : α → Option β) (l : List α) (a : α) :
    (l ++ [a]).filterMap f = l.filterMap f ++ (f a).toList := by
  rw [List.filterMap_append]
  cases picked : f a <;> simp [picked]

theorem filterMap_snoc_none {α β : Type} {f : α → Option β} {a : α} (skipped : f a = none) (l : List α) :
    (l ++ [a]).filterMap f = l.filterMap f := by
  rw [filterMap_snoc, skipped, Option.toList_none, List.append_nil]

/-! ## Keeping to a protocol -/

/-- A protocol: the moves from phase to phase that a request and its answer may make. -/
abbrev Moves (I : Interface) (Φ : Type) := Φ → (r : I.Request) → I.Answer r → Φ → Prop

namespace Program

variable {I : Interface} {Φ α β : Type}

/-- `p.Follows moves ends φ`: begun in phase `φ`, every request of `p` is, for all its answers, a move of the
    protocol, and `p` is done only where `ends` says so. -/
def Follows (moves : Moves I Φ) (ends : Φ → α → Prop) : Program I α → Φ → Prop
  | done result, φ => ends φ result
  | unfinished, _ => True
  | ask r next, φ => ∀ answer, ∃ φ', moves φ r answer φ' ∧ (next answer).Follows moves ends φ'

variable {moves : Moves I Φ} {ends : Φ → β → Prop} {φ : Φ}

theorem Follows.done {result : β} (h : ends φ result) : (done result).Follows moves ends φ := h

/-- A request that leaves the phase as it is, whatever the answer. -/
theorem Follows.stay {r : I.Request} {next : I.Answer r → Program I β}
    (move : ∀ answer, moves φ r answer φ) (rest : ∀ answer, (next answer).Follows moves ends φ) :
    (Program.ask r next).Follows moves ends φ :=
  fun answer => ⟨φ, move answer, rest answer⟩

/-- One program after another. -/
theorem Follows.bind {mid : Φ → α → Prop} {p : Program I α} {f : α → Program I β}
    (first : p.Follows moves mid φ) (rest : ∀ φ' a, mid φ' a → (f a).Follows moves ends φ') :
    (p.bind f).Follows moves ends φ := by
  induction p generalizing φ with
  | done a => exact rest φ a first
  | unfinished => trivial
  | ask r next ih =>
    intro answer
    obtain ⟨φ', move, later⟩ := first answer
    exact ⟨φ', move, ih answer later⟩

/-- A program may go on in two ways that are the same after whatever it ends with. -/
theorem Follows.bind_congr {ends : Φ → α → Prop} {p : Program I α} (h : p.Follows moves ends φ)
    {f g : α → Program I β} (same : ∀ φ' a, ends φ' a → f a = g a) : p.bind f = p.bind g := by
  induction p generalizing φ with
  | done a => exact same φ a h
  | unfinished => rfl
  | ask r next ih =>
    refine congrArg (ask r) (funext fun answer => ?_)
    obtain ⟨φ', -, later⟩ := h answer
    exact ih answer later

/-- Less may be asked of the end. -/
theorem Follows.weaken {ends' : Φ → β → Prop} {p : Program I β} (h : p.Follows moves ends φ)
    (looser : ∀ φ result, ends φ result → ends' φ result) : p.Follows moves ends' φ := by
  induction p generalizing φ with
  | done result => exact looser φ result h
  | unfinished => trivial
  | ask r next ih =>
    intro answer
    obtain ⟨φ', move, later⟩ := h answer
    exact ⟨φ', move, ih answer later⟩

/-- A program all of whose requests leave the phase as it is. -/
theorem Asks.follows {quiet : I.Request → Prop} {p : Program I β} (asks : p.Asks quiet)
    (stays : ∀ {r}, quiet r → ∀ answer, moves φ r answer φ) (ending : ∀ result, ends φ result) :
    p.Follows moves ends φ := by
  induction p with
  | done result => exact ending result
  | unfinished => trivial
  | ask r next ih => exact Follows.stay (stays asks.1) fun answer => ih answer (asks.2 answer)

/-- What a program is about to ask is a move. -/
theorem Follows.asked {p : Program I β} {r : I.Request} {next : I.Answer r → Program I β}
    (h : p.Follows moves ends φ) (asks : p = .ask r next) (answer : I.Answer r) : ∃ φ', moves φ r answer φ' := by
  subst asks
  obtain ⟨φ', move, -⟩ := h answer
  exact ⟨φ', move⟩

/-- What a program follows, it follows without the result that is made of its own in the end. -/
theorem Follows.of_bind {p : Program I α} {f : α → β}
    (h : (p.bind fun a => .done (f a)).Follows moves ends φ) :
    p.Follows moves (fun φ a => ends φ (f a)) φ := by
  induction p generalizing φ with
  | done a => exact h
  | unfinished => trivial
  | ask r next ih =>
    intro answer
    obtain ⟨φ', move, later⟩ := h answer
    exact ⟨φ', move, ih answer later⟩

/-- The protocol may be seen through a map to coarser phases. -/
theorem Follows.view {Ψ : Type} (view : Φ → Ψ) {moves' : Moves I Ψ} {ends' : Ψ → β → Prop} {p : Program I β}
    (h : p.Follows moves ends φ)
    (sees : ∀ φ r answer φ', moves φ r answer φ' → moves' (view φ) r answer (view φ'))
    (looser : ∀ φ result, ends φ result → ends' (view φ) result) : p.Follows moves' ends' (view φ) := by
  induction p generalizing φ with
  | done result => exact looser φ result h
  | unfinished => trivial
  | ask r next ih =>
    intro answer
    obtain ⟨φ', move, later⟩ := h answer
    exact ⟨view φ', sees φ r answer φ' move, ih answer later⟩

end Program

namespace Interleaving

/-! ## Threads and their steps -/

variable {T : Type} {I : T → Interface} {α : T → Type} {σ : Type}

/-- What a thread did: a request in one of its calls, with the answer, or the end of a call. -/
inductive Event (I : T → Interface) (α : T → Type) where
  | asked (thread : T) (call : Nat) (request : (I thread).Request) (answer : (I thread).Answer request)
  | returned (thread : T) (call : Nat) (result : α thread)

/-- How far a thread has come: the number of its call, and what is left to do in it. -/
structure Call (I : Interface) (α : Type) where
  number : Nat
  rest : Program I α

/-- The state of a run: what the threads share, and where each of them stands. -/
structure State (I : T → Interface) (α : T → Type) (σ : Type) where
  shared : σ
  call : (t : T) → Call (I t) (α t)

/-- The calls that each thread makes, in order. -/
abbrev Calls (I : T → Interface) (α : T → Type) := (t : T) → Nat → Program (I t) (α t)

/-- What a thread's request may be answered in a shared state, and the shared state afterwards. Without any
    answer the thread has to wait. -/
abbrev Surroundings (I : T → Interface) (σ : Type) :=
  (t : T) → (r : (I t).Request) → σ → (I t).Answer r → σ → Prop

variable [DecidableEq T]

/-- One step of one thread. -/
inductive Step (calls : Calls I α) (answers : Surroundings I σ) :
    State I α σ → Event I α → State I α σ → Prop where
  | ask {s t r next answer shared} (asks : (s.call t).rest = .ask r next)
      (answered : answers t r s.shared answer shared) :
      Step calls answers s (.asked t (s.call t).number r answer)
        ⟨shared, Function.update s.call t ⟨(s.call t).number, next answer⟩⟩
  | finish {s t result} (done : (s.call t).rest = .done result) :
      Step calls answers s (.returned t (s.call t).number result)
        ⟨s.shared, Function.update s.call t
          ⟨(s.call t).number + 1, calls t ((s.call t).number + 1)⟩⟩

/-- Every thread is about to make its first call. -/
def State.start (calls : Calls I α) (shared : σ) : State I α σ := ⟨shared, fun t => ⟨0, calls t 0⟩⟩

/-- The runs from a shared state: what has happened, in order, and the state that it led to. -/
inductive Run (calls : Calls I α) (answers : Surroundings I σ) (shared : σ) :
    List (Event I α) → State I α σ → Prop where
  | start : Run calls answers shared [] (.start calls shared)
  | step {history s event s'} (before : Run calls answers shared history s)
      (next : Step calls answers s event s') : Run calls answers shared (history ++ [event]) s'

/-- A run goes on with a request. -/
theorem Run.ask {calls : Calls I α} {answers : Surroundings I σ} {shared shared' : σ}
    {history : List (Event I α)} {s : State I α σ} (run : Run calls answers shared history s) (t : T)
    {r : (I t).Request} {next : (I t).Answer r → Program (I t) (α t)} (asks : (s.call t).rest = .ask r next)
    (answer : (I t).Answer r) (answered : answers t r s.shared answer shared') :
    Run calls answers shared (history ++ [.asked t (s.call t).number r answer])
      ⟨shared', Function.update s.call t ⟨(s.call t).number, next answer⟩⟩ :=
  run.step (.ask asks answered)

/-- A run goes on with the end of a call. -/
theorem Run.finish {calls : Calls I α} {answers : Surroundings I σ} {shared : σ}
    {history : List (Event I α)} {s : State I α σ} (run : Run calls answers shared history s) (t : T)
    {result : α t} (done : (s.call t).rest = .done result) :
    Run calls answers shared (history ++ [.returned t (s.call t).number result])
      ⟨s.shared, Function.update s.call t
        ⟨(s.call t).number + 1, calls t ((s.call t).number + 1)⟩⟩ :=
  run.step (.finish done)

/-- A run has come past each of its events: up to there it was a run, and the event was its next step. -/
theorem Run.event {calls : Calls I α} {answers : Surroundings I σ} {shared : σ} {before after : List (Event I α)}
    {e : Event I α} {s : State I α σ} (run : Run calls answers shared (before ++ e :: after) s) :
    ∃ s₁ s₂, Run calls answers shared before s₁ ∧ Step calls answers s₁ e s₂ := by
  generalize whole : before ++ e :: after = history at run
  induction run generalizing after with
  | start => simp at whole
  | @step history s last s' run next ih =>
    rcases List.eq_nil_or_concat after with rfl | ⟨after, e', rfl⟩
    · obtain ⟨rfl, same⟩ := List.append_inj' whole rfl
      obtain rfl := List.singleton_inj.1 same
      exact ⟨s, s', run, next⟩
    · rw [List.concat_eq_append, ← List.cons_append, ← List.append_assoc] at whole
      exact ih (List.append_inj' whole rfl).1

/-- A thread that has asked something stood before that request, and was answered so. -/
theorem Run.asked {calls : Calls I α} {answers : Surroundings I σ} {shared : σ} {before after : List (Event I α)}
    {t : T} {n : Nat} {r : (I t).Request} {answer : (I t).Answer r} {s : State I α σ}
    (run : Run calls answers shared (before ++ .asked t n r answer :: after) s) :
    ∃ s₁ next shared', Run calls answers shared before s₁ ∧ (s₁.call t).number = n ∧
      (s₁.call t).rest = .ask r next ∧ answers t r s₁.shared answer shared' := by
  obtain ⟨s₁, s₂, front, step⟩ := run.event
  cases step with
  | ask asks answered => exact ⟨s₁, _, _, front, rfl, asks, answered⟩

/-! ## Invariants -/

theorem numbers_update (call : (t : T) → Call (I t) (α t)) (t : T) (c : Call (I t) (α t)) :
    (fun u => (Function.update call t c u).number)
      = Function.update (fun u => (call u).number) t c.number :=
  funext fun u => Function.apply_update (fun _ c => c.number) call t c u

/-- **The rule of runs.** Let what is left of each call be tied to a phase. What holds at the start, and is kept
    by each request that is answered and each end of a call, holds after every run. -/
theorem Run.rule {Φ : T → Type} (keeps : (t : T) → Program (I t) (α t) → Φ t → Prop)
    (holds : σ → ((t : T) → Nat) → ((t : T) → Φ t) → List (Event I α) → Prop)
    {calls : Calls I α} {answers : Surroundings I σ} {shared : σ} {first : (t : T) → Nat → Φ t}
    (enter : ∀ t n, keeps t (calls t n) (first t n))
    (start : holds shared (fun _ => 0) (fun t => first t 0) [])
    (ask : ∀ {s number φ history} (t : T) (r : (I t).Request) (next : (I t).Answer r → Program (I t) (α t))
      (answer : (I t).Answer r) (s' : σ), holds s number φ history → keeps t (.ask r next) (φ t) →
        answers t r s answer s' → ∃ φ', keeps t (next answer) φ' ∧
          holds s' number (Function.update φ t φ') (history ++ [.asked t (number t) r answer]))
    (finish : ∀ {s number φ history} (t : T) (result : α t),
      holds s number φ history → keeps t (.done result) (φ t) →
        holds s (Function.update number t (number t + 1))
          (Function.update φ t (first t (number t + 1)))
          (history ++ [.returned t (number t) result]))
    {history : List (Event I α)} {s : State I α σ} (run : Run calls answers shared history s) :
    ∃ φ : (t : T) → Φ t, (∀ t, keeps t (s.call t).rest (φ t)) ∧
      holds s.shared (fun t => (s.call t).number) φ history := by
  induction run with
  | start => exact ⟨fun t => first t 0, fun t => enter t 0, start⟩
  | @step history s event s' before next ih =>
    obtain ⟨φ, keep, held⟩ := ih
    cases next with
    | @ask t r next answer shared' asks answered =>
      have here := keep t
      rw [asks] at here
      obtain ⟨φ', later, held'⟩ := ask t r next answer shared' held here answered
      -- The thread that asks goes on to its new phase; all others stay where they are.
      refine ⟨Function.update φ t φ', ?_, ?_⟩
      · intro u
        by_cases same : u = t
        · subst same
          simpa only [Function.update_self] using later
        · simpa only [Function.update_of_ne same] using keep u
      · rw [numbers_update, Function.update_eq_self]
        exact held'
    | @finish t result done =>
      have here := keep t
      rw [done] at here
      refine ⟨Function.update φ t (first t ((s.call t).number + 1)), ?_, ?_⟩
      · intro u
        by_cases same : u = t
        · subst same
          simpa only [Function.update_self] using enter u ((s.call u).number + 1)
        · simpa only [Function.update_of_ne same] using keep u
      · rw [numbers_update]
        exact finish t result held here

/-- **The invariant rule.** Let every call keep to its thread's protocol. What holds at the start, and is kept
    by each move that is answered and each end of a call, holds after every run, in phases that what is left
    of the calls follows. -/
theorem Run.invariant {Φ : T → Type} {calls : Calls I α} {answers : Surroundings I σ} {shared : σ}
    {moves : (t : T) → Moves (I t) (Φ t)} {ends : (t : T) → Φ t → α t → Prop} {first : (t : T) → Nat → Φ t}
    {holds : σ → ((t : T) → Nat) → ((t : T) → Φ t) → List (Event I α) → Prop}
    (follow : ∀ t n, (calls t n).Follows (moves t) (ends t) (first t n))
    (start : holds shared (fun _ => 0) (fun t => first t 0) [])
    (ask : ∀ {s number φ history} (t : T) (r : (I t).Request) (answer : (I t).Answer r) (s' : σ) (φ' : Φ t),
      holds s number φ history → moves t (φ t) r answer φ' → answers t r s answer s' →
        holds s' number (Function.update φ t φ') (history ++ [.asked t (number t) r answer]))
    (finish : ∀ {s number φ history} (t : T) (result : α t),
      holds s number φ history → ends t (φ t) result →
        holds s (Function.update number t (number t + 1))
          (Function.update φ t (first t (number t + 1)))
          (history ++ [.returned t (number t) result]))
    {history : List (Event I α)} {s : State I α σ} (run : Run calls answers shared history s) :
    ∃ φ : (t : T) → Φ t, (∀ t, (s.call t).rest.Follows (moves t) (ends t) (φ t)) ∧
      holds s.shared (fun t => (s.call t).number) φ history := by
  refine Run.rule (fun t p φ => p.Follows (moves t) (ends t) φ) holds follow start ?_ finish run
  intro s number φ history t r next answer s' held here answered
  obtain ⟨φ', move, later⟩ := here answer
  exact ⟨φ', later, ask t r answer s' φ' held move answered⟩

end Interleaving

end Playout
