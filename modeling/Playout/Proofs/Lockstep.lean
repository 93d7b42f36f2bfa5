import Playout.Proofs.Traces

/-!
# `Playout.Proofs.Lockstep` — two programs that ask the same

Two programs are in step when they make the same requests for as long as the answers are fair, and come to the same end.
Then whatever trace the one makes the other makes as well.

## Contents
- `InStep` — the relation, with `InStep.same` and `InStep.bind`.
- `InStep.path` — the trace of the one is a trace of the other.
-/

namespace Playout.Program

open Interleaving

variable {I : Interface} {α β γ δ : Type} {fair : (r : I.Request) → I.Answer r → Prop}

/-- Two programs make the same requests, as long as each is answered fairly, and what they end with is related. -/
inductive InStep (fair : (r : I.Request) → I.Answer r → Prop) (ends : α → β → Prop) :
    Program I α → Program I β → Prop where
  | done {a b} (ended : ends a b) : InStep fair ends (.done a) (.done b)
  | unfinished : InStep fair ends .unfinished .unfinished
  | ask {r next next'} (rest : ∀ answer, fair r answer → InStep fair ends (next answer) (next' answer)) :
      InStep fair ends (.ask r next) (.ask r next')

namespace InStep

/-- A program is in step with itself. -/
theorem same {ends : α → α → Prop} (p : Program I α) (ended : ∀ a, ends a a) : InStep fair ends p p := by
  induction p with
  | done a => exact .done (ended a)
  | unfinished => exact .unfinished
  | ask r next ih => exact .ask fun answer _ => ih answer

/-- One program after another. -/
theorem bind {mid : α → β → Prop} {ends : γ → δ → Prop} {p : Program I α} {q : Program I β} {f : α → Program I γ}
    {g : β → Program I δ} (first : InStep fair mid p q) (rest : ∀ a b, mid a b → InStep fair ends (f a) (g b)) :
    InStep fair ends (p.bind f) (q.bind g) := by
  induction first with
  | done ended => exact rest _ _ ended
  | unfinished => exact .unfinished
  | ask _ ih => exact .ask fun answer may => ih answer may

/-- **Programs in step make the same traces.** -/
theorem path {ends : α → β → Prop} {p p' : Program I α} {q : Program I β} {trace : Trace I}
    (steps : InStep fair ends p q) (path : Path goesOn p trace p') (may : ∀ x ∈ trace, fair x.1 x.2) :
    ∃ q', Path goesOn q trace q' ∧ InStep fair ends p' q' := by
  refine path.keeps (fun trace p' => (∀ x ∈ trace, fair x.1 x.2) → ∃ q', Path goesOn q trace q' ∧
    InStep fair ends p' q') (fun _ => ⟨q, .start, steps⟩) ?_ may
  rintro trace _ r answer _ before ⟨next, rfl, rfl⟩ may
  obtain ⟨q', path, still⟩ := before fun x mem => may x (List.mem_append_left _ mem)
  cases still with
  | ask rest =>
    exact ⟨_, goesOn_next path rfl answer, rest answer (may _ (List.mem_append_right _ List.mem_cons_self))⟩

/-- Where the one is done the other is. -/
theorem of_done {ends : α → β → Prop} {a : α} {q : Program I β} (steps : InStep fair ends (.done a) q) :
    ∃ b, q = .done b ∧ ends a b := by
  cases steps with
  | done ended => exact ⟨_, rfl, ended⟩

theorem done_of {ends : α → β → Prop} {b : β} {p : Program I α} (steps : InStep fair ends p (.done b)) :
    ∃ a, p = .done a ∧ ends a b := by
  cases steps with
  | done ended => exact ⟨_, rfl, ended⟩

end InStep

end Playout.Program
