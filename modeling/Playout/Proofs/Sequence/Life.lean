import Playout.Proofs.Transport.World

/-!
# `Playout.Proofs.Sequence.Life` — one call after another

While nobody else uses an output, its signal, its locks and its slots are a memory that only its own calls change. All
else that it asks for are native calls. The native side answers them as it likes, which may depend on all calls that
were made before.

## Contents
- `Made`, `Native` — native calls, and the side that answers them.
- `Deal`, `react` — which requests are native calls, and which are answered from the memory.
- `Dealt.taken`, `Dealt.locked_of_blocks` — what comes of taking a lock.
- `Yields`, `Begins` — a call and an opening, with their ends.
- `lifetime`, `history` — what comes of a list of commands.
- `run_keeps` — what a protocol keeps, a run of a program alone keeps.
- `run_grows` — native calls are not taken back.
-/

namespace Playout.Sequence

open Transport Program

variable {I : Interface} {M α σ Φ : Type}

/-! ## Native calls -/

/-- What a native call is handed besides its arguments: a signal to wait on, and the device that lies in the slot. -/
structure Handed where
  signal : Bool := false
  device : Option Handle := none

/-- A native call, with its answer. -/
structure Made (I : Interface) where
  request : I.Request
  handed : Handed
  answer : I.Answer request

/-- What a native side answers to a call, after the calls that were made before. -/
abbrev Native (I : Interface) := List (Made I) → (r : I.Request) → Handed → I.Answer r

/-- What comes of a request. -/
inductive Dealt (I : Interface) (M : Type) (r : I.Request) where
  /-- It is answered from the memory. -/
  | inside (answer : I.Answer r) (memory : M)
  | native (handed : Handed)
  /-- It waits for a lock that nobody will give back. -/
  | blocks

/-- Which requests are native calls, and how the others are answered from a memory. -/
abbrev Deal (I : Interface) (M : Type) := (r : I.Request) → M → Dealt I M r

/-- The surroundings of an output that nobody else uses: its memory, and the native calls made so far. -/
def react (deal : Deal I M) (native : Native I) : Reaction I (M × List (Made I)) := fun r s =>
  match deal r s.1 with
  | .inside answer m => some (answer, m, s.2)
  | .native handed =>
    let answer := native s.2 r handed
    some (answer, s.1, s.2 ++ [⟨r, handed, answer⟩])
  | .blocks => none

/-- An answer comes from the memory or from the native side. -/
theorem react_cases {deal : Deal I M} {native : Native I} {r : I.Request} {answer : I.Answer r} {m : M}
    {made : List (Made I)} {s : M × List (Made I)} (told : react deal native r (m, made) = some (answer, s)) :
    (∃ m', deal r m = .inside answer m' ∧ s = (m', made)) ∨
      ∃ handed, deal r m = .native handed ∧ s = (m, made ++ [⟨r, handed, answer⟩]) := by
  unfold react at told
  cases dealt : deal r m with
  | inside answer m' =>
    simp only [dealt, Option.some.injEq, Prod.mk.injEq] at told
    obtain ⟨rfl, rfl⟩ := told
    exact .inl ⟨m', rfl, rfl⟩
  | native handed =>
    simp only [dealt, Option.some.injEq, Prod.mk.injEq] at told
    obtain ⟨rfl, rfl⟩ := told
    exact .inr ⟨handed, rfl, rfl⟩
  | blocks => simp [dealt] at told

/-! ## Taking a lock -/

section Lock

variable {r : I.Request} {locked : Bool} {found answer : I.Answer r} {m m' : M} {handed : Handed}

/-- A lock that is taken was free, and who takes it gets what lies behind it. -/
theorem Dealt.taken (dealt : (if locked then blocks else inside found m : Dealt I M r) = inside answer m') :
    locked = false ∧ found = answer ∧ m = m' := by
  cases locked with
  | true => cases dealt
  | false =>
    cases dealt
    exact ⟨rfl, rfl, rfl⟩

/-- Nobody waits for a lock that is free. -/
theorem Dealt.locked_of_blocks (dealt : (if locked then blocks else inside found m : Dealt I M r) = blocks) :
    locked = true := by
  cases locked with
  | true => rfl
  | false => cases dealt

/-- A lock is not native. -/
theorem Dealt.ne_native : (if locked then blocks else inside found m : Dealt I M r) ≠ native handed := by
  intro dealt
  cases locked with
  | true => cases dealt
  | false => cases dealt

end Lock

/-! ## Calls -/

/-- A call, how it ends and what it leads to. -/
abbrev Yields (o : Output I) (deal : Deal I M) (native : Native I) (s : M × List (Made I)) (command : Command)
    (ending : Ending (Except PlayError Unit)) (s' : M × List (Made I)) : Prop :=
  (command.program o).run (react deal native) s = (ending, s')

/-- An opening, how it ends and what it leads to. -/
abbrev Begins (opening : Program I (Except OpenError (Output I))) (deal : Deal I M) (fresh : M) (native : Native I)
    (ending : Ending (Except OpenError (Output I))) (s : M × List (Made I)) : Prop :=
  opening.run (react deal native) (fresh, []) = (ending, s)

/-! ## Lifetimes -/

/-- How the calls of an output end that is given one command after another. A call that does not return is the last
    one. -/
def lifetime (react : Reaction I σ) (o : Output I) :
    List Command → σ → List (Command × Ending (Except PlayError Unit)) × σ
  | [], s => ([], s)
  | command :: rest, s =>
    match (command.program o).run react s with
    | (.finished result, s') =>
      ((command, .finished result) :: (lifetime react o rest s').1, (lifetime react o rest s').2)
    | (ending, s') => ([(command, ending)], s')

/-- How the calls end that are made after an output was opened, and all native calls. If the opening fails, there are
    no calls. -/
def history (opening : Program I (Except OpenError (Output I))) (deal : Deal I M) (fresh : M) (native : Native I)
    (commands : List Command) : List (Command × Ending (Except PlayError Unit)) × List (Made I) :=
  match opening.run (react deal native) (fresh, []) with
  | (.finished (.ok o), s) =>
    ((lifetime (react deal native) o commands s).1, (lifetime (react deal native) o commands s).2.2)
  | (_, s) => ([], s.2)

/-! ## Runs -/

variable {moves : Moves I Φ} {ends : Φ → α → Prop} {p : Program I α} {φ : Φ} {s : σ}

/-- How a run may have ended in a phase. -/
def Stopped (ends : Φ → α → Prop) (φ : Φ) : Ending α → Prop
  | .finished result => ends φ result
  | .blocked => False
  | .unfinished => True

theorem Stopped.imp {Ψ : Type} {ends' : Ψ → α → Prop} {ψ : Ψ} {ending : Ending α} (stopped : Stopped ends φ ending)
    (looser : ∀ result, ends φ result → ends' ψ result) : Stopped ends' ψ ending := by
  cases ending with
  | finished result => exact looser result stopped
  | blocked => exact stopped
  | unfinished => trivial

/-- **What a protocol keeps, a run keeps.** Let every request that is a move be answered, and let every move keep what
    its phase says of the state. Then a run alone is not blocked, and it keeps that to its end. -/
theorem run_keeps (reaction : Reaction I σ) (holds : Φ → σ → Prop) (follows : p.Follows moves ends φ)
    (start : holds φ s)
    (answered : ∀ {φ r s}, holds φ s → (∀ answer, ∃ φ', moves φ r answer φ') →
      ∃ answer s', reaction r s = some (answer, s'))
    (keeps : ∀ {φ r answer φ' s s'}, holds φ s → moves φ r answer φ' → reaction r s = some (answer, s') → holds φ' s') :
    ∃ φ', holds φ' (p.run reaction s).2 ∧ Stopped ends φ' (p.run reaction s).1 := by
  induction p generalizing φ s with
  | done result => exact ⟨φ, start, follows⟩
  | unfinished => exact ⟨φ, start, trivial⟩
  | ask r next ih =>
    obtain ⟨answer, s', told⟩ := answered start fun answer => (follows answer).imp fun _ => And.left
    obtain ⟨φ', move, later⟩ := follows answer
    have goesOn : (Program.ask r next).run reaction s = (next answer).run reaction s' := by
      simp only [Program.run, told]
    rw [goesOn]
    exact ih answer later (keeps start move told)

/-- Native calls are not taken back. -/
theorem run_grows (deal : Deal I M) (native : Native I) (p : Program I α) (m : M) (made : List (Made I)) :
    made <+: (p.run (react deal native) (m, made)).2.2 := by
  induction p generalizing m made with
  | done | unfinished => exact List.prefix_refl _
  | ask r next ih =>
    unfold Program.run react
    cases deal r m with
    | inside answer m' => exact ih answer m' made
    | native handed => exact (List.prefix_append ..).trans (ih _ m _)
    | blocks => exact List.prefix_refl _

end Playout.Sequence
