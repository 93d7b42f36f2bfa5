import Playout.Proofs.Sequence.Life

/-!
# `Playout.Proofs.Sequence.Undisturbed` — stops that have no effect

A stop between two calls may change the memory of an output, but not what the other calls can tell of it.

## Contents
- `unstopped`, `Undisturbed` — what it means that stops have no effect.
- `Discreet` — a likeness of memories that the calls cannot tell apart, and that a stop keeps.
- `lifetime_undisturbed`, `Discreet.undisturbed` — then stops have no effect, by induction on the calls.
-/

namespace Playout

/-- Whether a command is a stop. -/
def Transport.Command.stops : Transport.Command → Bool
  | .stop => true
  | _ => false

namespace Sequence

open Transport Program

variable {I : Interface} {M α : Type}

/-! ## Commands without stops -/

/-- The commands that are left without the stops. -/
def unstopped (commands : List Command) : List Command := commands.filter fun command => !command.stops

/-- Stops have no effect: without them all other calls end in the same way, and the same native calls are made, with the
    same arguments, in the same order. The native side may be any. -/
def Undisturbed (opening : Program I (Except OpenError (Output I))) (deal : Deal I M) (fresh : M) : Prop :=
  ∀ (native : Native I) (commands : List Command),
    (history opening deal fresh native commands).1.filter (fun call => !call.1.stops) =
        (history opening deal fresh native (unstopped commands)).1 ∧
      (history opening deal fresh native commands).2 = (history opening deal fresh native (unstopped commands)).2

/-- A likeness of memories. Calls other than stops do the same from memories that are alike, and leave one that is like
    itself; a stop makes no native call, and leaves a memory that is like the same others. -/
structure Discreet (o : Output I) (deal : Deal I M) (alike : M → M → Prop) : Prop where
  call : ∀ (native : Native I) (made : List (Made I)) {command : Command} {m n : M}, command.stops = false →
    alike m n →
      (command.program o).run (react deal native) (m, made) = (command.program o).run (react deal native) (n, made)
  rest : ∀ {native made command m n result s}, Command.stops command = false → alike m n →
    Yields o deal native (m, made) command (.finished result) s → alike s.1 s.1
  stop : ∀ (native : Native I) (made : List (Made I)) {m n : M}, alike m n →
    ∃ m', o.stop.run (react deal native) (m, made) = (.finished (), m', made) ∧ alike m' n

variable {o : Output I} {deal : Deal I M} {alike : M → M → Prop} {native : Native I} {m n : M}
  {made : List (Made I)}

/-- A call that returns is followed by the others. -/
theorem lifetime_finished {σ : Type} {react : Reaction I σ} {command : Command} {rest : List Command} {s s' : σ}
    {result : Except PlayError Unit} (ran : (command.program o).run react s = (.finished result, s')) :
    lifetime react o (command :: rest) s =
      ((command, .finished result) :: (lifetime react o rest s').1, (lifetime react o rest s').2) := by
  rw [lifetime, ran]

/-- A call that does not return is the last one. -/
theorem lifetime_ended {σ : Type} {react : Reaction I σ} {command : Command} {rest : List Command} {s s' : σ}
    {ending : Ending (Except PlayError Unit)} (unreturned : ending.result? = none)
    (ran : (command.program o).run react s = (ending, s')) :
    lifetime react o (command :: rest) s = ([(command, ending)], s') := by
  rw [lifetime, ran]
  cases ending with
  | finished result => cases unreturned
  | blocked | unfinished => rfl

/-- The stops among the calls make no difference. -/
theorem lifetime_undisturbed (d : Discreet o deal alike) (commands : List Command) (same : alike m n) :
    (lifetime (react deal native) o commands (m, made)).1.filter (fun call => !call.1.stops) =
        (lifetime (react deal native) o (unstopped commands) (n, made)).1 ∧
      (lifetime (react deal native) o commands (m, made)).2.2 =
        (lifetime (react deal native) o (unstopped commands) (n, made)).2.2 := by
  induction commands generalizing m n made with
  | nil => exact ⟨rfl, rfl⟩
  | cons command rest ih =>
    by_cases stops : command.stops = true
    · obtain rfl : command = .stop := by
        cases command with
        | stop => rfl
        | play | close => cases stops
      obtain ⟨m', ran, same⟩ := d.stop native made same
      have returned : (Command.stop.program o).run (react deal native) (m, made) = (.finished (.ok ()), m', made) := by
        simp only [Command.program, run_bind, ran, Program.run]
      rw [lifetime_finished returned]
      exact ih same
    · have other : command.stops = false := eq_false_of_ne_true stops
      have kept : unstopped (command :: rest) = command :: unstopped rest := by simp [unstopped, other]
      have agree := d.call native made other same
      rw [kept]
      rcases ran : (command.program o).run (react deal native) (m, made) with ⟨ending, s⟩
      cases ending with
      | finished result =>
        obtain ⟨results, calls⟩ := ih (d.rest other same ran)
        rw [lifetime_finished ran, lifetime_finished (agree.symm.trans ran), ← results, ← calls]
        exact ⟨List.filter_cons_of_pos (by simp [other]), rfl⟩
      | blocked | unfinished =>
        rw [lifetime_ended rfl ran, lifetime_ended rfl (agree.symm.trans ran)]
        exact ⟨List.filter_cons_of_pos (by simp [other]), rfl⟩

/-- An output whose opening leaves a memory that is like itself. -/
theorem Discreet.undisturbed {opening : Program I (Except OpenError (Output I))} {fresh : M}
    (d : Discreet o deal alike)
    (opens : ∀ {native o' s}, Begins opening deal fresh native (.finished (.ok o')) s → o' = o ∧ alike s.1 s.1) :
    Undisturbed opening deal fresh := by
  intro native commands
  unfold history
  rcases opened : opening.run (react deal native) (fresh, []) with ⟨ending, s⟩
  cases ending with
  | blocked | unfinished => exact ⟨rfl, rfl⟩
  | finished outcome =>
    cases outcome with
    | error e => exact ⟨rfl, rfl⟩
    | ok o' =>
      obtain ⟨rfl, same⟩ := opens opened
      exact lifetime_undisturbed d commands same

end Sequence

end Playout
