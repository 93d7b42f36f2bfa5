import Playout.Proofs.Balance
import Playout.Proofs.Flow.StopProtocol
import Playout.Proofs.Sequence.Undisturbed

/-!
# `Playout.Proofs.Undisturbed` — a stop between two calls has no effect

A stop may leave the signal set, but all calls that come after it begin with the signal. Of a device, a mark or a flow
it finds none, since whatever a call has put there it has taken away at its end.

## Contents
- `Store.Alike`, `Live.discreet`, `Simple.discreet` — outputs with a signal and one stream behind a lock.
- `Paced.discreet`, `Poll.discreet` — outputs whose slot or mark is empty between two calls.
- `Flow.Player.Spoken`, `Flow.Player.discreet` — the flow output has no flow between two calls.

## Main statements
- `stops_leave_no_trace` — stops between the calls have no effect on any output.
-/

namespace Playout

open Sequence Transport Program

/-! ## A stream behind a lock -/

/-- Memories that differ in the signal at most. -/
def Store.Alike {Spec : Type} (m n : Store Spec) : Prop := m.slot = n.slot ∧ m.locked = n.locked

/-- With the same signal such memories are the same. -/
theorem Store.Alike.eq {Spec : Type} {m n : Store Spec} (same : m.Alike n) (signal : Bool) :
    ({ m with signal := signal } : Store Spec) = { n with signal := signal } := by
  obtain ⟨slot, locked⟩ := same
  rw [slot, locked]

namespace Live

/-- Whatever begins with the signal does the same from such memories. -/
theorem run_signalled {α : Type} (native : Native Live.Interface) {made : List (Made Live.Interface)}
    {m n : Store Format} (same : m.Alike n) (value : Bool) (next : Unit → Action α) :
    ((setStop value).bind next).run (react deal native) (m, made) =
      ((setStop value).bind next).run (react deal native) (n, made) :=
  congrArg (fun m => (next ()).run (react deal native) (m, made)) (same.eq value)

theorem discreet : Discreet output deal Store.Alike where
  call native made command m n other same := by
    cases command with
    | play track settings => exact run_signalled native same false _
    | stop => cases other
    | close => exact run_signalled native same true _
  rest _ _ _ := ⟨rfl, rfl⟩
  stop _ _ _ _ same := ⟨_, rfl, same⟩

theorem undisturbed : Undisturbed (.done (.ok output)) deal {} :=
  discreet.undisturbed fun begins => ⟨(opens.opened begins).1, rfl, rfl⟩

end Live

namespace Simple

/-- Whatever begins with the signal does the same from such memories. -/
theorem run_signalled {α : Type} (native : Native Simple.Interface) {made : List (Made Simple.Interface)}
    {m n : Store SampleSpec} (same : m.Alike n) (next : Unit → Action α) :
    (resetSignal.bind next).run (react deal native) (m, made) =
        (resetSignal.bind next).run (react deal native) (n, made) ∧
      (cancelSignal.bind next).run (react deal native) (m, made) =
        (cancelSignal.bind next).run (react deal native) (n, made) :=
  ⟨congrArg (fun m => (next ()).run (react deal native) (m, made)) (same.eq false),
    congrArg (fun m => (next ()).run (react deal native) (m, made)) (same.eq true)⟩

theorem discreet (c : Config) : Discreet (output c) deal Store.Alike where
  call native made command m n other same := by
    cases command with
    | play track settings => exact (run_signalled native same _).1
    | stop => cases other
    | close => exact (run_signalled native same _).2
  rest _ _ _ := ⟨rfl, rfl⟩
  stop _ _ _ _ same := ⟨_, rfl, same⟩

theorem undisturbed (c : Config) : Undisturbed (openOutput c) deal {} :=
  (discreet c).undisturbed fun begins => ⟨(opens.opened begins).1, rfl, rfl⟩

end Simple

/-! ## A device for each track -/

namespace Paced

/-- Memories without a device. -/
def Alike (m n : Memory) : Prop := m.slot = none ∧ n.slot = none

theorem discreet (c : Config) : Discreet (output c) deal Alike where
  call native made command m n other same := by
    obtain ⟨signal, slot⟩ := m
    obtain ⟨signal', slot'⟩ := n
    obtain ⟨rfl, rfl⟩ : slot = none ∧ slot' = none := same
    cases command with
    | play track settings => rfl
    | stop => cases other
    | close => rfl
  rest _ same ran := by
    have empty := run_unlodged same.1 ran
    exact ⟨empty, empty⟩
  stop native made m n same := by
    obtain ⟨signal, slot⟩ := m
    obtain rfl : slot = none := same.1
    exact ⟨⟨true, none⟩, rfl, rfl, same.2⟩

theorem undisturbed (c : Config) : Undisturbed (openOutput c) deal {} := by
  refine (discreet c).undisturbed ?_
  intro native o s begins
  obtain ⟨unlent, -, is⟩ := begins_unlent begins
  exact ⟨is _ rfl, unlent.empty, unlent.empty⟩

end Paced

namespace Poll

/-- The same memory, with free locks and no mark. -/
def Alike (m n : Shared Unit) : Prop := m = n ∧ Alone .apart m

theorem discreet (cfg : Config) : Discreet (output cfg) deal Alike where
  call native made command m n _ same := by rw [same.1]
  rest _ same ran := ⟨rfl, run_alone same.2 ran⟩
  stop native made m n same := ⟨m, run_stop same.2, same⟩

/-- Whatever the wakeup is like. -/
theorem undisturbed (cfg : Config) (wakeup : Wakeup) : Undisturbed (openOutput cfg) deal { wakeup } := by
  refine (discreet cfg).undisturbed ?_
  intro native o s begins
  obtain ⟨is, alone, -⟩ := (opens wakeup).opened begins
  exact ⟨is, rfl, alone⟩

end Poll

/-! ## A flow for each track -/

namespace Flow.Player

open Stopping

variable {c : Config} {native : Native Player.Interface} {φ φ' : PlayPhase} {r : Player.Request} {answer : r.Answer}
  {s s' : Memory × List (Made Player.Interface)}

/-- What a phase says of the id and its lock while nobody else uses them. -/
def Spoken : PlayPhase → Memory → Prop
  | .entered, m | .asking, m | .given _, m | .finished, m => m.flow = 0 ∧ m.locked = false
  | .looking _ current, m | .refusing _ current, m | .refused _ current, m => current = 0 ∧ m.locked = true
  | .storing _, m | .clearing _, m => m.locked = true
  | .playing _, m => m.locked = false

/-- Every request is answered. -/
theorem answered (native : Native Player.Interface) (spoken : Spoken φ s.1)
    (moves : ∀ answer, ∃ φ', PlayMove φ r answer φ') : ∃ answer s', react deal native r s = some (answer, s') := by
  obtain ⟨⟨signal, flow, locked⟩, made⟩ := s
  cases r with
  | takeFlow =>
    have free : locked = false := by
      obtain ⟨φ', move⟩ := moves 0
      cases move with
      | lock => exact spoken.2
      | lockAgain => exact spoken
    subst free
    exact ⟨_, _, rfl⟩
  | _ => exact ⟨_, _, rfl⟩

/-- Every request keeps what the phase says. -/
theorem spoken_step (move : PlayMove φ r answer φ') (spoken : Spoken φ s.1)
    (told : react deal native r s = some (answer, s')) : Spoken φ' s'.1 := by
  obtain ⟨⟨signal, flow, locked⟩, made⟩ := s
  cases move with
  | log | reset =>
    cases told
    exact spoken
  | clock | addSerial | forget | start | abandon | unanswered | give | order | pause =>
    obtain ⟨m', dealt, rfl⟩ | ⟨handed, dealt, rfl⟩ := react_cases told
    · cases dealt
    · exact spoken
  | lock =>
    obtain ⟨rfl, rfl⟩ : flow = 0 ∧ locked = false := spoken
    cases told
    exact ⟨rfl, rfl⟩
  | refuse =>
    cases told
    exact spoken
  | accept =>
    cases told
    exact spoken.2
  | putBack =>
    cases told
    exact ⟨spoken.1, rfl⟩
  | store =>
    cases told
    rfl
  | lockAgain =>
    obtain rfl : locked = false := spoken
    cases told
    rfl
  | clear =>
    cases told
    exact ⟨rfl, rfl⟩

/-- **A call leaves no flow.** -/
theorem run_spoken {command : Command} {result : Except PlayError Unit} (other : command.stops = false)
    (spoken : Spoken .entered s.1) (yields : Yields (output c) deal native s command (.finished result) s') :
    Spoken .entered s'.1 := by
  cases command with
  | stop => cases other
  | play track settings =>
    obtain ⟨φ, kept, ended⟩ := run_keeps (react deal native) (fun φ s => Spoken φ s.1) (play_follows c track settings)
      spoken (fun spoken moves => answered native spoken moves) fun spoken move told => spoken_step move spoken told
    have yields : (play c track settings).run (react deal native) s = (.finished result, s') := yields
    rw [yields] at kept ended
    cases ended with
    | early | late => exact kept
  | close =>
    obtain ⟨⟨signal, flow, locked⟩, made⟩ := s
    obtain ⟨rfl, rfl⟩ : flow = 0 ∧ locked = false := spoken
    cases yields
    exact ⟨rfl, rfl⟩

theorem discreet (c : Config) : Discreet (output c) deal fun m n => Spoken .entered m ∧ Spoken .entered n where
  call native made command m n other same := by
    obtain ⟨signal, flow, locked⟩ := m
    obtain ⟨signal', flow', locked'⟩ := n
    obtain ⟨⟨rfl, rfl⟩, rfl, rfl⟩ : (flow = 0 ∧ locked = false) ∧ flow' = 0 ∧ locked' = false := same
    cases command with
    | play track settings => rfl
    | stop => cases other
    | close => rfl
  rest other same ran := ⟨run_spoken other same.1 ran, run_spoken other same.1 ran⟩
  stop native made m n same := by
    obtain ⟨signal, flow, locked⟩ := m
    obtain ⟨rfl, rfl⟩ : flow = 0 ∧ locked = false := same.1
    exact ⟨⟨true, 0, false⟩, rfl, ⟨rfl, rfl⟩, same.2⟩

/-- The opening leaves the memory as it is. -/
theorem opened {o : Output Player.Interface} (begins : Begins (openOutput c) deal {} native (.finished (.ok o)) s) :
    o = output c ∧ Spoken .entered s.1 := by
  simp only [Begins, openOutput, bind_eq, pure_eq, ask_bind, done_bind, Program.run, react, deal] at begins
  cases started : native [] (.startPump c.server) {} with
  | ok _ =>
    rw [started] at begins
    cases begins
    exact ⟨rfl, rfl, rfl⟩
  | error e =>
    rw [started] at begins
    cases begins

theorem undisturbed (c : Config) : Undisturbed (openOutput c) deal {} := by
  refine (discreet c).undisturbed ?_
  intro native o s begins
  obtain ⟨is, spoken⟩ := opened begins
  exact ⟨is, spoken, spoken⟩

end Flow.Player

/-! ## All outputs -/

/-- **A stop between two calls has no effect.** Whatever the native side answers, with or without stops before, between
    and after the plays and closes of an output, these end in the same way, and the same native calls are made with the
    same bytes and requests. -/
theorem stops_leave_no_trace (paced : Paced.Config) (poll : Poll.Config) (wakeup : Poll.Wakeup) (simple : Simple.Config)
    (flow : Flow.Config) :
    Undisturbed (Paced.openOutput paced) Paced.deal {} ∧ Undisturbed (Poll.openOutput poll) Poll.deal { wakeup } ∧
      Undisturbed (.done (.ok Live.output)) Live.deal {} ∧ Undisturbed (Simple.openOutput simple) Simple.deal {} ∧
      Undisturbed (Flow.Player.openOutput flow) Flow.Player.deal {} :=
  ⟨Paced.undisturbed paced, Poll.undisturbed poll wakeup, Live.undisturbed, Simple.undisturbed simple,
    Flow.Player.undisturbed flow⟩

end Playout
