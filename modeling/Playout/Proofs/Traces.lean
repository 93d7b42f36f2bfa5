import Mathlib.Data.List.Induction
import Playout.Proofs.Interleaving

/-!
# `Playout.Proofs.Traces` — what one call does in a run

The requests of one call in a run, with their answers, are its trace. A program that keeps to a protocol makes a
path through the phases, and in an interleaved run the trace of each call is such a path, however the steps of
other threads lie between.

## Contents
- `Program.Completes` — a program keeps to a protocol and is never left unfinished, as long as the answers are
  those that the surroundings can give.
- `Path`, `Path.split`, `Path.cutAt` — traces that lead from one phase to another, and where they can be cut.
- `own` — the trace of one call in a run.
- `Traced`, `Run.traced`, `Run.followed`, `Tracked` — the trace of each call is a path.
- `goesOn`, `Run.gone`, `Run.path_of`, `Run.path_of_returned` — each call by itself: what it has done leads from its
  program to what is left of it.
- `goesOn_bind`, `goesOn_asks` — how far two programs in a row have come, and what a program asks.
- `Running` — a call is being made.
- `Leads` — a run of one program alone.
- `pair`, `Run.first`, `Run.second` — runs of two threads, step by step.
-/

namespace Playout

/-! ## Completing -/

/-- The answers that may come in a phase. -/
abbrev Allowed (I : Interface) (Φ : Type) := Φ → (r : I.Request) → I.Answer r → Prop

/-- Every answer may come. -/
def Allowed.all {I : Interface} {Φ : Type} : Allowed I Φ := fun _ _ _ => True

namespace Program

variable {I : Interface} {Φ α β : Type}

/-- `p.Completes allowed moves ends φ`: begun in phase `φ`, every request of `p` with an answer that may come is
    a move of the protocol, and `p` comes to no other end than where `ends` says so. -/
def Completes (allowed : Allowed I Φ) (moves : Moves I Φ) (ends : Φ → α → Prop) : Program I α → Φ → Prop
  | done result, φ => ends φ result
  | unfinished, _ => False
  | ask r next, φ =>
    ∀ answer, allowed φ r answer → ∃ φ', moves φ r answer φ' ∧ (next answer).Completes allowed moves ends φ'

variable {allowed : Allowed I Φ} {moves : Moves I Φ} {ends : Φ → β → Prop} {φ : Φ}

theorem Completes.done {result : β} (h : ends φ result) :
    (Program.done result).Completes allowed moves ends φ := h

/-- A request after which the phase does not depend on the answer. -/
theorem Completes.ask {r : I.Request} {next : I.Answer r → Program I β} (φ' : Φ)
    (move : ∀ answer, moves φ r answer φ')
    (rest : ∀ answer, (next answer).Completes allowed moves ends φ') :
    (Program.ask r next).Completes allowed moves ends φ :=
  fun answer _ => ⟨φ', move answer, rest answer⟩

/-- One program after another. -/
theorem Completes.bind {mid : Φ → α → Prop} {p : Program I α} {f : α → Program I β}
    (first : p.Completes allowed moves mid φ)
    (rest : ∀ φ' a, mid φ' a → (f a).Completes allowed moves ends φ') :
    (p.bind f).Completes allowed moves ends φ := by
  induction p generalizing φ with
  | done a => exact rest φ a first
  | unfinished => exact first.elim
  | ask r next ih =>
    intro answer may
    obtain ⟨φ', move, later⟩ := first answer may
    exact ⟨φ', move, ih answer later⟩

/-- What every move keeps may be added to what a program ends with. -/
theorem Completes.keeps (holds : Φ → Prop) {p : Program I β} (h : p.Completes allowed moves ends φ)
    (start : holds φ) (step : ∀ φ r answer φ', holds φ → moves φ r answer φ' → holds φ') :
    p.Completes allowed moves (fun φ result => holds φ ∧ ends φ result) φ := by
  induction p generalizing φ with
  | done result => exact ⟨start, h⟩
  | unfinished => exact h
  | ask r next ih =>
    intro answer may
    obtain ⟨φ', move, later⟩ := h answer may
    exact ⟨φ', move, ih answer later (step φ r answer φ' start move)⟩

/-- The protocol may be seen through a map to coarser phases. -/
theorem Completes.follows {Ψ : Type} (view : Φ → Ψ) {moves' : Moves I Ψ} {ends' : Ψ → β → Prop}
    {p : Program I β} (h : p.Completes .all moves ends φ)
    (sees : ∀ φ r answer φ', moves φ r answer φ' → moves' (view φ) r answer (view φ'))
    (looser : ∀ φ result, ends φ result → ends' (view φ) result) : p.Follows moves' ends' (view φ) := by
  induction p generalizing φ with
  | done result => exact looser φ result h
  | unfinished => trivial
  | ask r next ih =>
    intro answer
    obtain ⟨φ', move, later⟩ := h answer trivial
    exact ⟨view φ', sees φ r answer φ' move, ih answer later⟩

end Program

/-! ## Paths -/

/-- The requests of a program, in order, each with its answer. -/
abbrev Trace (I : Interface) := List (Σ r : I.Request, I.Answer r)

/-- Where something stands in what has grown by one: it is what has come last, or has stood there before. -/
theorem split_snoc {β : Type} {l front back : List β} {a b : β} (parts : l ++ [a] = front ++ b :: back) :
    (l = front ∧ a = b ∧ back = []) ∨ ∃ between, l = front ++ b :: between ∧ back = between ++ [a] := by
  cases back using List.reverseRecOn with
  | nil =>
    obtain ⟨same, last⟩ := List.append_inj' parts rfl
    exact .inl ⟨same, List.singleton_inj.1 last, rfl⟩
  | append_singleton between last =>
    rw [← List.cons_append, ← List.append_assoc] at parts
    obtain ⟨same, here⟩ := List.append_inj' parts rfl
    obtain rfl := List.singleton_inj.1 here
    exact .inr ⟨between, same, rfl⟩

/-- The traces that lead from phase `φ` to another one. -/
inductive Path {I : Interface} {Φ : Type} (moves : Moves I Φ) (φ : Φ) : Trace I → Φ → Prop where
  | start : Path moves φ [] φ
  | step {trace φ' r answer φ''} (before : Path moves φ trace φ') (move : moves φ' r answer φ'') :
      Path moves φ (trace ++ [⟨r, answer⟩]) φ''

namespace Path

variable {I : Interface} {Φ : Type} {moves : Moves I Φ} {φ φ' φ'' : Φ}

/-- Without a request nothing is left. -/
theorem eq_of_nil (path : Path moves φ [] φ') : φ' = φ := by
  generalize none : ([] : Trace I) = trace at path
  cases path with
  | start => rfl
  | step => simp at none

/-- A path can be cut anywhere. -/
theorem split {front back : Trace I} (path : Path moves φ (front ++ back) φ'') :
    ∃ φ', Path moves φ front φ' ∧ Path moves φ' back φ'' := by
  -- Paths grow at their end, and so does the back.
  induction back using List.reverseRecOn generalizing φ'' with
  | nil => exact ⟨φ'', by simpa using path, .start⟩
  | append_singleton back last ih =>
    rw [← List.append_assoc] at path
    generalize whole : (front ++ back) ++ [last] = trace at path
    cases path with
    | start => simp at whole
    | step before move =>
      obtain ⟨rfl, same⟩ := List.append_inj' whole rfl
      obtain rfl := List.singleton_inj.1 same
      obtain ⟨φ', one, two⟩ := ih before
      exact ⟨φ', one, two.step move⟩

/-- A path begins with a move. -/
theorem head {r : I.Request} {answer : I.Answer r} {trace : Trace I} (path : Path moves φ (⟨r, answer⟩ :: trace) φ'') :
    ∃ φ', moves φ r answer φ' ∧ Path moves φ' trace φ'' := by
  rw [← List.singleton_append] at path
  obtain ⟨φ', one, rest⟩ := path.split
  generalize first : [(⟨r, answer⟩ : Σ r : I.Request, I.Answer r)] = front at one
  cases one with
  | start => cases first
  | @step before _ _ _ _ path move =>
    rw [← List.nil_append [_]] at first
    obtain ⟨rfl, same⟩ := List.append_inj' first rfl
    cases same
    cases path.eq_of_nil
    exact ⟨φ', move, rest⟩

/-- A path at one of its requests. -/
theorem cutAt {r : I.Request} {answer : I.Answer r} {front back : Trace I}
    (path : Path moves φ (front ++ ⟨r, answer⟩ :: back) φ'') :
    ∃ φ₁ φ₂, Path moves φ front φ₁ ∧ moves φ₁ r answer φ₂ ∧ Path moves φ₂ back φ'' := by
  obtain ⟨φ₁, before, later⟩ := path.split
  obtain ⟨φ₂, move, after⟩ := later.head
  exact ⟨φ₁, φ₂, before, move, after⟩

/-- A path that begins with a move. -/
theorem cons {r : I.Request} {answer : I.Answer r} {trace : Trace I} (move : moves φ r answer φ')
    (path : Path moves φ' trace φ'') : Path moves φ (⟨r, answer⟩ :: trace) φ'' := by
  induction path with
  | start => exact Path.start.step move
  | step _ last ih => exact ih.step last

/-- What every move keeps holds after a path. -/
theorem keeps (holds : Trace I → Φ → Prop) {trace : Trace I} (path : Path moves φ trace φ')
    (start : holds [] φ)
    (step : ∀ {trace φ r answer φ'}, holds trace φ → moves φ r answer φ' → holds (trace ++ [⟨r, answer⟩]) φ') :
    holds trace φ' := by
  induction path with
  | start => exact start
  | step _ move ih => exact step ih move

end Path

namespace Interleaving

/-! ## Traces in a run -/

variable {T : Type} [DecidableEq T] {I : Interface} {α σ Φ : Type}

/-- What has happened among threads with one interface. -/
abbrev History (T : Type) (I : Interface) (α : Type) := List (Event (fun _ : T => I) fun _ : T => α)

/-- The request that an event is in call `n` of thread `t`, with its answer. -/
def own? (t : T) (n : Nat) : Event (fun _ : T => I) (fun _ : T => α) → Option (Σ r : I.Request, I.Answer r)
  | .asked u m r answer => if u = t ∧ m = n then some ⟨r, answer⟩ else none
  | .returned .. => none

/-- The trace of call `n` of thread `t`. -/
def own (t : T) (n : Nat) (history : History T I α) : Trace I := history.filterMap (own? t n)

@[simp] theorem own_append (t : T) (n : Nat) (before after : History T I α) :
    own t n (before ++ after) = own t n before ++ own t n after := List.filterMap_append

theorem own_cons (t : T) (n : Nat) (e : Event (fun _ : T => I) fun _ : T => α) (after : History T I α) :
    own t n (e :: after) = own t n [e] ++ own t n after := own_append t n [e] after

theorem own_asked_self (t : T) (n : Nat) (r : I.Request) (answer : I.Answer r) :
    own t n ([.asked t n r answer] : History T I α) = [⟨r, answer⟩] := by
  simp [own, own?]

theorem own_asked_other {t u : T} {n m : Nat} (other : ¬ (u = t ∧ m = n)) (r : I.Request)
    (answer : I.Answer r) : own t n ([.asked u m r answer] : History T I α) = [] := by
  simp [own, own?, other]

@[simp] theorem own_returned (t u : T) (n m : Nat) (result : α) :
    own t n ([.returned u m result] : History T I α) = [] := rfl

theorem own?_eq_some {t : T} {n : Nat} {r : I.Request} {answer : I.Answer r} {e : Event (fun _ : T => I) fun _ : T => α} :
    own? t n e = some ⟨r, answer⟩ ↔ e = .asked t n r answer := by
  constructor
  · intro is
    cases e with
    | returned => cases is
    | asked u m r' answer' =>
      by_cases here : u = t ∧ m = n
      · obtain ⟨rfl, rfl⟩ := here
        simp only [own?, and_self, if_true, Option.some.injEq] at is
        cases is
        rfl
      · simp [own?, here] at is
  · rintro rfl
    simp [own?]

/-- The trace of a call is made of its requests. -/
theorem mem_own {t : T} {n : Nat} {r : I.Request} {answer : I.Answer r} {history : History T I α} :
    ⟨r, answer⟩ ∈ own t n history ↔ .asked t n r answer ∈ history := by
  unfold own
  rw [List.mem_filterMap]
  constructor
  · rintro ⟨event, mem, is⟩
    exact own?_eq_some.1 is ▸ mem
  · exact fun mem => ⟨_, mem, own?_eq_some.2 rfl⟩

/-- Each request of a trace was made at some moment, after the requests before it and before those after it. -/
theorem moment_of_own {t : T} {n : Nat} {r : I.Request} {answer : I.Answer r} {history : History T I α}
    {front back : Trace I} (trace : own t n history = front ++ ⟨r, answer⟩ :: back) :
    ∃ before after, history = before ++ .asked t n r answer :: after ∧ own t n before = front ∧ own t n after = back := by
  obtain ⟨before, rest, rfl, front, trace⟩ := List.filterMap_eq_append_iff.1 trace
  obtain ⟨skipped, e, after, rfl, others, is, back⟩ := List.filterMap_eq_cons_iff.1 trace
  obtain rfl := own?_eq_some.1 is
  refine ⟨before ++ skipped, after, by rw [List.append_assoc], ?_, back⟩
  rw [own_append, own, own, front, List.filterMap_eq_nil_iff.2 others, List.append_nil]

/-- A call begins at one moment. -/
theorem beginning_unique {t : T} {n : Nat} {r r' : I.Request} {answer : I.Answer r} {answer' : I.Answer r'}
    {before after before' after' : History T I α}
    (same : before ++ .asked t n r answer :: after = before' ++ .asked t n r' answer' :: after')
    (silent : own t n before = []) (silent' : own t n before' = []) : before = before' := by
  rcases List.append_eq_append_iff.1 same with ⟨between, rfl, rest⟩ | ⟨between, rfl, rest⟩
  · cases between with
    | nil => rw [List.append_nil]
    | cons e between =>
      obtain ⟨rfl, -⟩ := List.cons.inj rest
      rw [own_append, List.append_eq_nil_iff] at silent'
      simp [own, own?] at silent'
  · cases between with
    | nil => rw [List.append_nil]
    | cons e between =>
      obtain ⟨rfl, -⟩ := List.cons.inj rest
      rw [own_append, List.append_eq_nil_iff] at silent
      simp [own, own?] at silent

/-- The end of a call takes no thread back. -/
theorem le_number_update (number : T → Nat) (t u : T) :
    number u ≤ Function.update number t (number t + 1) u := by
  by_cases same : u = t
  · subst same
    rw [Function.update_self]
    exact Nat.le_succ _
  · exact Nat.le_of_eq (Function.update_of_ne same ..).symm

/-- How far the calls of a run have come: their traces are paths from their first phases, to the phase they are
    in or to one in which they may end. -/
structure Traced (moves : T → Moves I Φ) (ends : T → Φ → α → Prop) (first : T → Nat → Φ)
    (number : T → Nat) (φ : T → Φ) (history : History T I α) : Prop where
  running : ∀ t, Path (moves t) (first t (number t)) (own t (number t) history) (φ t)
  ended : ∀ t n result, .returned t n result ∈ history →
    n < number t ∧ ∃ φ, Path (moves t) (first t n) (own t n history) φ ∧ ends t φ result
  returned : ∀ t n, n < number t → ∃ result, .returned t n result ∈ history
  begun : ∀ t n, number t < n → own t n history = []

namespace Traced

variable {moves : T → Moves I Φ} {ends : T → Φ → α → Prop} {first : T → Nat → Φ} {number : T → Nat}
  {φ : T → Φ} {history : History T I α}

/-- Nothing has happened yet. -/
theorem start : Traced moves ends first (fun _ => 0) (fun t => first t 0) [] :=
  ⟨fun _ => .start, fun _ _ _ no => absurd no List.not_mem_nil, fun _ _ no => absurd no (Nat.not_lt_zero _),
    fun _ _ _ => rfl⟩

/-- A request makes the path of its call longer, and leaves those of all other calls as they are. -/
theorem ask (h : Traced moves ends first number φ history) {t : T} {r : I.Request} {answer : I.Answer r}
    {φ' : Φ} (move : moves t (φ t) r answer φ') :
    Traced moves ends first number (Function.update φ t φ') (history ++ [.asked t (number t) r answer]) where
  running u := by
    by_cases same : u = t
    · subst same
      rw [Function.update_self, own_append, own_asked_self]
      exact (h.running u).step move
    · rw [Function.update_of_ne same, own_append, own_asked_other (fun both => same both.1.symm),
        List.append_nil]
      exact h.running u
  ended u n result returned := by
    rw [List.mem_append, List.mem_singleton] at returned
    obtain ⟨earlier, φ, path, ended⟩ := h.ended u n result (returned.resolve_right (fun e => by cases e))
    refine ⟨earlier, φ, ?_, ended⟩
    have other : ¬ (t = u ∧ number t = n) := by
      rintro ⟨rfl, rfl⟩
      exact Nat.lt_irrefl _ earlier
    rw [own_append, own_asked_other other, List.append_nil]
    exact path
  returned u n earlier := by
    obtain ⟨result, returned⟩ := h.returned u n earlier
    exact ⟨result, List.mem_append_left _ returned⟩
  begun u n later := by
    have other : ¬ (t = u ∧ number t = n) := by
      rintro ⟨rfl, rfl⟩
      exact Nat.lt_irrefl _ later
    rw [own_append, own_asked_other other, List.append_nil]
    exact h.begun u n later

/-- A call that has asked something has made a path. -/
theorem path (h : Traced moves ends first number φ history) {t : T} {n : Nat} (asked : own t n history ≠ []) :
    ∃ φ, Path (moves t) (first t n) (own t n history) φ := by
  rcases Nat.lt_trichotomy n (number t) with before | rfl | later
  · obtain ⟨result, returned⟩ := h.returned t n before
    obtain ⟨-, φ, path, -⟩ := h.ended t n result returned
    exact ⟨φ, path⟩
  · exact ⟨φ t, h.running t⟩
  · exact absurd (h.begun t n later) asked

/-- The end of a call; the next one has asked nothing yet. -/
theorem finish (h : Traced moves ends first number φ history) {t : T} {result : α}
    (ended : ends t (φ t) result) :
    Traced moves ends first (Function.update number t (number t + 1))
      (Function.update φ t (first t (number t + 1))) (history ++ [.returned t (number t) result]) where
  running u := by
    rw [own_append, own_returned, List.append_nil]
    by_cases same : u = t
    · subst same
      rw [Function.update_self, Function.update_self, h.begun u _ (Nat.lt_succ_self _)]
      exact .start
    · rw [Function.update_of_ne same, Function.update_of_ne same]
      exact h.running u
  ended u n other returned := by
    rw [own_append, own_returned, List.append_nil]
    rcases List.mem_append.1 returned with before | now
    · obtain ⟨earlier, rest⟩ := h.ended u n other before
      exact ⟨Nat.lt_of_lt_of_le earlier (le_number_update number t u), rest⟩
    · obtain ⟨rfl, rfl, rfl⟩ : u = t ∧ n = number t ∧ other = result := by
        simpa using now
      rw [Function.update_self]
      exact ⟨Nat.lt_succ_self _, φ u, h.running u, ended⟩
  returned u n earlier := by
    by_cases same : u = t
    · subst same
      rw [Function.update_self] at earlier
      rcases Nat.lt_succ_iff_lt_or_eq.1 earlier with before | rfl
      · obtain ⟨result, returned⟩ := h.returned u n before
        exact ⟨result, List.mem_append_left _ returned⟩
      · exact ⟨result, List.mem_append_right _ List.mem_cons_self⟩
    · rw [Function.update_of_ne same] at earlier
      obtain ⟨result, returned⟩ := h.returned u n earlier
      exact ⟨result, List.mem_append_left _ returned⟩
  begun u n later := by
    rw [own_append, own_returned, List.append_nil]
    exact h.begun u n (Nat.lt_of_le_of_lt (le_number_update number t u) later)

end Traced

/-- **Traces of a run.** Let every call complete, as long as the answers that come are allowed, and let what a
    phase says of the shared state see to that. Then each call has made a path, and what is left of it completes
    from the phase that its path has come to. -/
theorem Run.traced {calls : Calls (fun _ : T => I) fun _ : T => α} {answers : Surroundings (fun _ : T => I) σ}
    {shared : σ} {allowed : T → Allowed I Φ} {moves : T → Moves I Φ} {ends : T → Φ → α → Prop}
    {first : T → Nat → Φ} (fits : σ → Φ → Prop)
    (complete : ∀ t n, (calls t n).Completes (allowed t) (moves t) (ends t) (first t n))
    (enter : ∀ s t n, fits s (first t n))
    (may : ∀ {s t r answer s' φ}, fits s φ → answers t r s answer s' → allowed t φ r answer)
    (goOn : ∀ {s t r answer s' φ φ'}, fits s φ → answers t r s answer s' → moves t φ r answer φ' → fits s' φ')
    (stay : ∀ {s t r answer s' φ}, fits s φ → answers t r s answer s' → fits s' φ)
    {history : History T I α} {s : State (fun _ => I) (fun _ => α) σ}
    (run : Run calls answers shared history s) :
    ∃ φ : T → Φ, (∀ t, (s.call t).rest.Completes (allowed t) (moves t) (ends t) (φ t)) ∧
      (∀ t, fits s.shared (φ t)) ∧ Traced moves ends first (fun t => (s.call t).number) φ history := by
  refine Run.rule (fun t p φ => p.Completes (allowed t) (moves t) (ends t) φ)
    (fun s number φ history => (∀ t, fits s (φ t)) ∧ Traced moves ends first number φ history)
    complete ⟨fun t => enter _ t 0, .start⟩ ?_ ?_ run
  · rintro s number φ history t r next answer s' ⟨fit, traced⟩ here answered
    obtain ⟨φ', move, later⟩ := here answer (may (fit t) answered)
    refine ⟨φ', later, ?_, traced.ask move⟩
    -- Only the thread that asks moves; what the phases of the others say stays true.
    intro u
    by_cases same : u = t
    · subst same
      rw [Function.update_self]
      exact goOn (fit u) answered move
    · rw [Function.update_of_ne same]
      exact stay (fit u) answered
  · rintro s number φ history t result ⟨fit, traced⟩ ended
    refine ⟨?_, traced.finish ended⟩
    intro u
    by_cases same : u = t
    · subst same
      rw [Function.update_self]
      exact enter _ u _
    · rw [Function.update_of_ne same]
      exact fit u

/-- Calls that keep to their protocols make paths, whether they come to an end or not. -/
theorem Run.followed {calls : Calls (fun _ : T => I) fun _ : T => α} {answers : Surroundings (fun _ : T => I) σ}
    {shared : σ} {moves : T → Moves I Φ} {ends : T → Φ → α → Prop} {first : T → Nat → Φ}
    (follow : ∀ t n, (calls t n).Follows (moves t) (ends t) (first t n)) {history : History T I α}
    {s : State (fun _ => I) (fun _ => α) σ} (run : Run calls answers shared history s) :
    ∃ φ : T → Φ, (∀ t, (s.call t).rest.Follows (moves t) (ends t) (φ t)) ∧
      Traced moves ends first (fun t => (s.call t).number) φ history := by
  refine Run.rule (fun t p φ => p.Follows (moves t) (ends t) φ)
    (fun _ number φ history => Traced moves ends first number φ history) follow .start ?_ ?_ run
  · intro s number φ history t r next answer s' traced here _
    obtain ⟨φ', move, later⟩ := here answer
    exact ⟨φ', later, traced.ask move⟩
  · intro s number φ history t result traced ended
    exact traced.finish ended

/-! ### Each call by itself -/

/-- A program goes on from a request with the answer. -/
def goesOn : Moves I (Program I α) := fun p r answer p' => ∃ next, p = .ask r next ∧ p' = next answer

/-- As far as a program has come, it has kept to each protocol that it follows. -/
theorem follows_goesOn {moves : Moves I Φ} {ends : Φ → α → Prop} {φ : Φ} {p p' : Program I α} {trace : Trace I}
    (path : Path goesOn p trace p') (follow : p.Follows moves ends φ) :
    ∃ φ', Path moves φ trace φ' ∧ p'.Follows moves ends φ' := by
  refine path.keeps (fun trace p' => ∃ φ', Path moves φ trace φ' ∧ p'.Follows moves ends φ') ⟨φ, .start, follow⟩ ?_
  rintro trace p r answer p' ⟨φ', path, follow⟩ ⟨next, rfl, rfl⟩
  obtain ⟨φ'', move, later⟩ := follow answer
  exact ⟨φ'', path.step move, later⟩

/-- A program has not asked anything, or has been answered its first request and gone on. -/
theorem goesOn_ask {r : I.Request} {next : I.Answer r → Program I α} {p : Program I α} {trace : Trace I}
    (path : Path goesOn (.ask r next) trace p) :
    (trace = [] ∧ p = .ask r next) ∨ ∃ answer rest, trace = ⟨r, answer⟩ :: rest ∧ Path goesOn (next answer) rest p := by
  cases trace with
  | nil => exact .inl ⟨rfl, path.eq_of_nil⟩
  | cons first rest =>
    obtain ⟨r', answer⟩ := first
    obtain ⟨p', ⟨next', same, rfl⟩, path⟩ := path.head
    cases same
    exact .inr ⟨answer, rest, rfl, path⟩

/-- A program that has come to its end has been answered its first request. -/
theorem goesOn_answered {r : I.Request} {next : I.Answer r → Program I α} {result : α} {trace : Trace I}
    (path : Path goesOn (.ask r next) trace (.done result)) :
    ∃ answer rest, trace = ⟨r, answer⟩ :: rest ∧ Path goesOn (next answer) rest (.done result) := by
  rcases goesOn_ask path with ⟨-, no⟩ | answered
  · cases no
  · exact answered

/-- A program that is done asks nothing. -/
theorem goesOn_done {result : α} {p : Program I α} {trace : Trace I} (path : Path goesOn (.done result) trace p) :
    trace = [] ∧ p = .done result := by
  cases trace with
  | nil => exact ⟨rfl, path.eq_of_nil⟩
  | cons first rest =>
    obtain ⟨r', answer⟩ := first
    obtain ⟨p', ⟨next', same, -⟩, -⟩ := path.head
    cases same

/-- As long as the first of two programs has not come to its end, it goes on. Then the second one does. -/
theorem goesOn_bind {β : Type} {p : Program I β} {f : β → Program I α} {q : Program I α} {trace : Trace I}
    (path : Path goesOn (p.bind f) trace q) :
    (∃ p', Path goesOn p trace p' ∧ q = p'.bind f) ∨
      ∃ front back b, trace = front ++ back ∧ Path goesOn p front (.done b) ∧ Path goesOn (f b) back q := by
  induction p generalizing trace with
  | done b => exact .inr ⟨[], trace, b, rfl, .start, path⟩
  | unfinished =>
    cases trace with
    | nil => exact .inl ⟨.unfinished, .start, path.eq_of_nil⟩
    | cons first rest =>
      obtain ⟨r, answer⟩ := first
      obtain ⟨p', ⟨next, same, -⟩, -⟩ := path.head
      cases same
  | ask r next ih =>
    rcases goesOn_ask path with ⟨rfl, rfl⟩ | ⟨answer, rest, rfl, later⟩
    · exact .inl ⟨.ask r next, .start, rfl⟩
    · rcases ih answer later with ⟨p', first, rfl⟩ | ⟨front, back, b, rfl, first, second⟩
      · exact .inl ⟨p', first.cons ⟨next, rfl, rfl⟩, rfl⟩
      · exact .inr ⟨⟨r, answer⟩ :: front, back, b, rfl, first.cons ⟨next, rfl, rfl⟩, second⟩

/-- What a program has asked is among what it may ask, and so is what it still asks. -/
theorem goesOn_asks {allowed : I.Request → Prop} {p p' : Program I α} {trace : Trace I}
    (path : Path goesOn p trace p') (asks : p.Asks allowed) : (∀ x ∈ trace, allowed x.1) ∧ p'.Asks allowed := by
  refine path.keeps (fun trace p' => (∀ x ∈ trace, allowed x.1) ∧ p'.Asks allowed) ⟨nofun, asks⟩ ?_
  rintro trace p r answer p' ⟨before, asks⟩ ⟨next, rfl, rfl⟩
  refine ⟨fun x mem => ?_, asks.2 answer⟩
  rcases List.mem_append.1 mem with mem | mem
  · exact before x mem
  · obtain rfl := List.mem_singleton.1 mem
    exact asks.1

theorem asked_of_asks {allowed : I.Request → Prop} {p p' : Program I α} {trace : Trace I}
    (path : Path goesOn p trace p') (asks : p.Asks allowed) : ∀ x ∈ trace, allowed x.1 :=
  (goesOn_asks path asks).1

/-- One more request of a program. -/
theorem goesOn_next {p q : Program I α} {trace : Trace I} {r : I.Request} {next : I.Answer r → Program I α}
    (path : Path goesOn p trace q) (asks : q = .ask r next) (answer : I.Answer r) :
    Path goesOn p (trace ++ [⟨r, answer⟩]) (next answer) :=
  path.step ⟨next, asks, rfl⟩

section Single

variable {calls : Calls (fun _ : T => I) fun _ : T => α} {answers : Surroundings (fun _ : T => I) σ} {shared : σ}
  {history : History T I α} {s : State (fun _ => I) (fun _ => α) σ} {t : T} {n : Nat}

/-- Each call has gone on from its program to what is left of it. -/
theorem Run.gone (run : Run calls answers shared history s) :
    Traced (fun _ => goesOn) (fun _ p result => p = .done result) calls (fun t => (s.call t).number)
      (fun t => (s.call t).rest) history := by
  obtain ⟨φ, same, traced⟩ := Run.rule (fun _ p φ => p = φ)
    (fun _ number φ history => Traced (fun _ => goesOn) (fun _ p result => p = .done result) calls number φ history)
    (fun _ _ => rfl) .start (fun t r next answer s' traced same _ => ⟨_, rfl, traced.ask ⟨next, same.symm, rfl⟩⟩)
    (fun t result traced same => traced.finish same.symm) run
  rwa [← funext same] at traced

/-- A call that has asked something has come to what is left of it, or has returned. -/
theorem Run.stands (run : Run calls answers shared history s) (asked : own t n history ≠ []) :
    ∃ p, Path goesOn (calls t n) (own t n history) p ∧
      (s.call t = ⟨n, p⟩ ∨ ∃ result, p = .done result ∧ .returned t n result ∈ history) := by
  rcases Nat.lt_trichotomy n (s.call t).number with before | rfl | later
  · obtain ⟨result, returned⟩ := run.gone.returned t n before
    obtain ⟨-, p, path, done⟩ := run.gone.ended t n result returned
    exact ⟨p, path, .inr ⟨result, done, returned⟩⟩
  · exact ⟨_, run.gone.running t, .inl rfl⟩
  · exact absurd (run.gone.begun t n later) asked

/-- The trace of a call is a path of the protocol that its program follows. -/
theorem Run.path_of (run : Run calls answers shared history s) {moves : Moves I Φ} {ends : Φ → α → Prop} {φ : Φ}
    (follow : (calls t n).Follows moves ends φ) : ∃ φ', Path moves φ (own t n history) φ' := by
  by_cases asked : own t n history = []
  · rw [asked]
    exact ⟨φ, .start⟩
  · obtain ⟨p, path⟩ := run.gone.path asked
    obtain ⟨φ', path, -⟩ := follows_goesOn path follow
    exact ⟨φ', path⟩

/-- A call that has returned has come to an end of its protocol. -/
theorem Run.path_of_returned (run : Run calls answers shared history s) {moves : Moves I Φ} {ends : Φ → α → Prop}
    {φ : Φ} (follow : (calls t n).Follows moves ends φ) {result : α} (returned : .returned t n result ∈ history) :
    ∃ φ', Path moves φ (own t n history) φ' ∧ ends φ' result := by
  obtain ⟨-, p, path, rfl⟩ := run.gone.ended t n result returned
  obtain ⟨φ', path, done⟩ := follows_goesOn path follow
  exact ⟨φ', path, done⟩

/-- A call is being made: it has asked something, and has not returned. -/
def Running (t : T) (n : Nat) (history : History T I α) : Prop :=
  own t n history ≠ [] ∧ ∀ result, .returned t n result ∉ history

/-- The call that is being made is the one that its thread has come to. -/
theorem Run.number_of_running (run : Run calls answers shared history s) (running : Running t n history) :
    (s.call t).number = n := by
  rcases Nat.lt_trichotomy n (s.call t).number with before | same | later
  · obtain ⟨result, returned⟩ := run.gone.returned t n before
    exact absurd returned (running.2 result)
  · exact same.symm
  · exact absurd (run.gone.begun t n later) running.1

/-- The call that a thread has come to is being made once it has asked something. -/
theorem Traced.isRunning {moves : T → Moves I Φ} {ends : T → Φ → α → Prop} {first : T → Nat → Φ} {number : T → Nat}
    {φ : T → Φ} (traced : Traced moves ends first number φ history) (asked : own t (number t) history ≠ []) :
    Running t (number t) history := by
  refine ⟨asked, fun result returned => ?_⟩
  obtain ⟨earlier, -⟩ := traced.ended t (number t) result returned
  exact Nat.lt_irrefl _ earlier

theorem Run.running (run : Run calls answers shared history s) (number : (s.call t).number = n)
    (asked : own t n history ≠ []) : Running t n history := by
  subst number
  exact run.gone.isRunning asked

end Single

/-! ### Calls that complete -/

/-- In every run the calls have made paths, and what is left of them completes, whatever they are answered. -/
def Tracked (calls : Calls (fun _ : T => I) fun _ : T => α) (answers : Surroundings (fun _ : T => I) σ) (shared : σ)
    (allowed : T → Allowed I Φ) (moves : T → Moves I Φ) (ends : T → Φ → α → Prop) (first : T → Nat → Φ) : Prop :=
  ∀ history s, Run calls answers shared history s → ∃ φ : T → Φ,
    (∀ t, (s.call t).rest.Completes (allowed t) (moves t) (ends t) (φ t)) ∧
    (∀ {t r answer s'}, answers t r s.shared answer s' → allowed t (φ t) r answer) ∧
    Traced moves ends first (fun t => (s.call t).number) φ history

/-- Calls that complete are tracked. -/
theorem tracked {calls : Calls (fun _ : T => I) fun _ : T => α} {answers : Surroundings (fun _ : T => I) σ}
    {shared : σ} {allowed : T → Allowed I Φ} {moves : T → Moves I Φ} {ends : T → Φ → α → Prop}
    {first : T → Nat → Φ} (fits : σ → Φ → Prop)
    (complete : ∀ t n, (calls t n).Completes (allowed t) (moves t) (ends t) (first t n))
    (enter : ∀ s t n, fits s (first t n))
    (may : ∀ {s t r answer s' φ}, fits s φ → answers t r s answer s' → allowed t φ r answer)
    (goOn : ∀ {s t r answer s' φ φ'}, fits s φ → answers t r s answer s' → moves t φ r answer φ' → fits s' φ')
    (stay : ∀ {s t r answer s' φ}, fits s φ → answers t r s answer s' → fits s' φ) :
    Tracked calls answers shared allowed moves ends first := by
  intro history s run
  obtain ⟨φ, completes, fit, traced⟩ := run.traced fits complete enter may goOn stay
  exact ⟨φ, completes, fun {t _ _ _} answered => may (fit t) answered, traced⟩

/-- Without any condition on the answers. -/
theorem tracked_all {calls : Calls (fun _ : T => I) fun _ : T => α} {answers : Surroundings (fun _ : T => I) σ}
    {shared : σ} {moves : T → Moves I Φ} {ends : T → Φ → α → Prop} {first : T → Nat → Φ}
    (complete : ∀ t n, (calls t n).Completes .all (moves t) (ends t) (first t n)) :
    Tracked calls answers shared (fun _ => .all) moves ends first :=
  tracked (fun _ _ => True) complete (fun _ _ _ => trivial) (fun _ _ => trivial) (fun _ _ _ => trivial)
    fun _ _ => trivial

section Tracked

variable {calls : Calls (fun _ : T => I) fun _ : T => α} {answers : Surroundings (fun _ : T => I) σ} {shared : σ}
  {allowed : T → Allowed I Φ} {moves : T → Moves I Φ} {ends : T → Φ → α → Prop} {first : T → Nat → Φ}
  {history before after : History T I α} {s : State (fun _ => I) (fun _ => α) σ} {t : T} {n : Nat}

/-- The path of a call can be cut at any moment of the run. -/
theorem Tracked.cut (tracked : Tracked calls answers shared allowed moves ends first)
    (run : Run calls answers shared history s) (split : history = before ++ after) (asked : own t n before ≠ []) :
    ∃ φ φ', Path (moves t) (first t n) (own t n before) φ ∧ Path (moves t) φ (own t n after) φ' := by
  obtain ⟨_, -, -, traced⟩ := tracked history s run
  have whole : own t n history = own t n before ++ own t n after := by
    rw [split, own_append]
  obtain ⟨φ', path⟩ := traced.path (t := t) (n := n) (whole ▸ List.append_ne_nil_of_left_ne_nil asked _)
  rw [whole] at path
  obtain ⟨φ, front, back⟩ := path.split
  exact ⟨φ, φ', front, back⟩

/-- No call is left unfinished. -/
theorem Tracked.ne_unfinished (tracked : Tracked calls answers shared allowed moves ends first)
    (run : Run calls answers shared history s) (t : T) : (s.call t).rest ≠ .unfinished := by
  obtain ⟨_, completes, -⟩ := tracked history s run
  intro unfinished
  have completes := completes t
  rw [unfinished] at completes
  exact completes

end Tracked

/-! ## Alone -/

/-- A run of one program, with nothing in between: where it leads from a state. -/
inductive Leads (answers : (r : I.Request) → σ → I.Answer r → σ → Prop) :
    Program I α → σ → α → σ → Prop where
  | done {result s} : Leads answers (.done result) s result s
  | ask {r next s answer s' result s''} (answered : answers r s answer s')
      (rest : Leads answers (next answer) s' result s'') : Leads answers (.ask r next) s result s''

/-- A request is answered before the program goes on. -/
theorem Leads.asked {answers : (r : I.Request) → σ → I.Answer r → σ → Prop} {r : I.Request}
    {next : I.Answer r → Program I α} {s s'' : σ} {result : α} (leads : Leads answers (.ask r next) s result s'') :
    ∃ answer s', answers r s answer s' ∧ Leads answers (next answer) s' result s'' := by
  cases leads with
  | ask answered rest => exact ⟨_, _, answered, rest⟩

/-- A request with a given answer. -/
theorem Leads.next {answers : (r : I.Request) → σ → I.Answer r → σ → Prop} {r : I.Request}
    {next : I.Answer r → Program I α} {s s' s'' : σ} {result : α} (answer : I.Answer r)
    (answered : answers r s answer s') (rest : Leads answers (next answer) s' result s'') :
    Leads answers (.ask r next) s result s'' :=
  .ask answered rest

/-! ## Two threads -/

section Pair

variable {calls : Calls (fun _ : Bool => I) fun _ : Bool => α} {answers : Surroundings (fun _ : Bool => I) σ}
  {shared s s' : σ} {history : History Bool I α} {n m : Nat} {p q : Program I α} {r : I.Request}
  {next : I.Answer r → Program I α}

/-- Any request may be answered in any way. -/
def anyAnswer : Surroundings (fun _ : Bool => I) Unit := fun _ _ _ _ _ => True

theorem anyAnswer_any {t : Bool} {answer : I.Answer r} : anyAnswer t r () answer () := trivial

/-- What two threads share, and what is left to do in their calls. -/
def pair (s : σ) (n : Nat) (p : Program I α) (m : Nat) (q : Program I α) :
    State (fun _ : Bool => I) (fun _ : Bool => α) σ :=
  ⟨s, fun t => if t then ⟨n, p⟩ else ⟨m, q⟩⟩

theorem pair_start : State.start calls shared = pair shared 0 (calls true 0) 0 (calls false 0) := by
  refine congrArg (State.mk shared) (funext fun t => ?_)
  cases t <;> rfl

/-- The first of two threads makes a request. -/
theorem Run.first (run : Run calls answers shared history (pair s n p m q)) (asks : p = .ask r next)
    (answer : I.Answer r) (answered : answers true r s answer s') :
    Run calls answers shared (history ++ [.asked true n r answer]) (pair s' n (next answer) m q) := by
  have stands : pair s' n (next answer) m q =
      ⟨s', Function.update (pair s n p m q).call true ⟨n, next answer⟩⟩ := by
    refine congrArg (State.mk s') (funext fun t => ?_)
    cases t <;> rfl
  rw [stands]
  exact run.ask true asks answer answered

/-- The second of two threads makes a request. -/
theorem Run.second (run : Run calls answers shared history (pair s n p m q)) (asks : q = .ask r next)
    (answer : I.Answer r) (answered : answers false r s answer s') :
    Run calls answers shared (history ++ [.asked false m r answer]) (pair s' n p m (next answer)) := by
  have stands : pair s' n p m (next answer) =
      ⟨s', Function.update (pair s n p m q).call false ⟨m, next answer⟩⟩ := by
    refine congrArg (State.mk s') (funext fun t => ?_)
    cases t <;> rfl
  rw [stands]
  exact run.ask false asks answer answered

/-- The first of two threads ends its call. -/
theorem Run.firstDone (run : Run calls answers shared history (pair s n p m q)) {result : α}
    (done : p = .done result) : Run calls answers shared (history ++ [.returned true n result])
      (pair s (n + 1) (calls true (n + 1)) m q) := by
  have stands : pair s (n + 1) (calls true (n + 1)) m q =
      ⟨s, Function.update (pair s n p m q).call true ⟨n + 1, calls true (n + 1)⟩⟩ := by
    refine congrArg (State.mk s) (funext fun t => ?_)
    cases t <;> rfl
  rw [stands]
  exact run.finish true done

/-- The second of two threads ends its call. -/
theorem Run.secondDone (run : Run calls answers shared history (pair s n p m q)) {result : α}
    (done : q = .done result) : Run calls answers shared (history ++ [.returned false m result])
      (pair s n p (m + 1) (calls false (m + 1))) := by
  have stands : pair s n p (m + 1) (calls false (m + 1)) =
      ⟨s, Function.update (pair s n p m q).call false ⟨m + 1, calls false (m + 1)⟩⟩ := by
    refine congrArg (State.mk s) (funext fun t => ?_)
    cases t <;> rfl
  rw [stands]
  exact run.finish false done

end Pair

end Interleaving

end Playout
