import Playout.Flow.Output
import Playout.Proofs.Flow.Serial

/-!
# `Playout.Proofs.Flow.StopProtocol` — one thread plays, others stop it

One thread plays track after track; any number of others stop. They share the signal that playback is over and
the id of the playing flow with its lock. The server may answer as it likes, late, never or with an error; only
the ids of its flows are not zero and never the same twice.

## Contents
- `Thread`, `Shared`, `answers` — who runs, what is shared, and what the requests are answered.
- `Moment`, `moments` — what happens to a flow, read off a run.
- `CutShort` — a stop reached a play in time.
- `PlayPhase`, `PlayMove`, `StopPhase`, `StopMove` — the two protocols.
- `play_follows`, `stop_follows` — playing and stopping keep to them.
-/

namespace Playout.Flow.Stopping

open Interleaving

/-! ## Who runs, and what is shared -/

/-- The thread that plays, and those that stop. -/
inductive Thread where
  | player
  | stopper (number : Nat)
  deriving DecidableEq

/-- All threads talk to the surroundings of the output. -/
@[reducible] def interface : Thread → Playout.Interface := fun _ => Player.Interface

/-- What a call of each thread results in. -/
@[reducible] def Result : Thread → Type
  | .player => Except PlayError Unit
  | .stopper _ => Unit

/-- The player plays the tracks of `plays` in order, and every stopper stops as often as it likes. -/
def calls (c : Config) (plays : Nat → Track × PlaySettings) : Calls interface Result
  | .player, n => Player.play c (plays n).1 (plays n).2
  | .stopper _, _ => Player.stop

/-- What the threads share, and the ids that the server has assigned so far. -/
structure Shared where
  done : Signal := {}
  flow : UInt32 := 0
  /-- Who holds the lock of `flow`. -/
  holder : Option Thread := none
  assigned : List UInt32 := []

/-- The server hands out no id that is zero, and none that it has handed out before. -/
inductive Awaited : Shared → Player.Waited → Shared → Prop where
  | started {s flow} (nonzero : flow ≠ 0) (fresh : flow ∉ s.assigned) :
      Awaited s (.answered (.ok flow)) { s with assigned := flow :: s.assigned }
  | failed {s e} : Awaited s (.answered (.error e)) s
  | timedOut {s} : Awaited s .timedOut s
  | forsaken {s} : Awaited s .forsaken s

/-- What the requests are answered. The pump takes every order, and draws serials of its own from the same
    counter. A wait for the signal may end at any time, but when the signal is set, it ends by it. -/
def answers : Surroundings interface Shared
  | _, .log _, s, _, s' => s' = s
  | _, .resetDone, s, _, s' => s' = { s with done := s.done.reset }
  | _, .cancelDone, s, _, s' => s' = { s with done := s.done.cancel }
  | _, .doneCancelled, s, cancelled, s' => cancelled = s.done.cancelled ∧ s' = s
  | _, .pauseDone _, s, outcome, s' => (outcome = .cancelled ↔ s.done.cancelled = true) ∧ s' = s
  | _, .clock, s, _, s' => s' = s
  | t, .takeFlow, s, flow, s' => s.holder = none ∧ flow = s.flow ∧ s' = { s with holder := some t }
  | _, .putFlow flow, s, _, s' => s' = { s with flow, holder := none }
  | _, .addSerial, s, _, s' => s' = s
  | _, .order _, s, taken, s' => taken = true ∧ s' = s
  | _, .await _ _, s, waited, s' => Awaited s waited s'
  | _, .forget _, s, _, s' => s' = s
  | _, .startPump _, _, _, _ => False
  | _, .shutPump, _, _, _ => False

/-! ## What happens to a flow -/

/-- A call to stop: the thread, and how many calls it has made before. -/
structure StopCall where
  thread : Nat
  call : Nat
  deriving DecidableEq

/-- The moments that matter to the flows, with the numbers of the plays and stops they belong to. -/
inductive Moment where
  /-- A play takes back the signal that playback is over. -/
  | reset (play : Nat)
  /-- The server's flow is handed to a play. -/
  | given (play : Nat) (flow : UInt32)
  /-- A play finds the signal set, and returns early. -/
  | refused (play : Nat)
  /-- A play makes its flow the one that is playing. -/
  | stored (play : Nat)
  /-- A play is over and clears the id. -/
  | cleared (play : Nat)
  | returned (play : Nat)
  /-- A stop takes the lock. -/
  | locked (stop : StopCall)
  /-- A stop sets the signal. -/
  | cancelled (stop : StopCall)
  /-- A flow is ordered to be stopped. -/
  | ordered (flow : UInt32)
  deriving DecidableEq

/-- The moment that an event is, if any. -/
def moment? : Interleaving.Event interface Result → Option Moment
  | .asked .player n .resetDone _ => some (.reset n)
  | .asked .player n (.await _ _) (.answered (.ok flow)) => some (.given n flow)
  | .asked .player n .doneCancelled true => some (.refused n)
  | .asked .player n (.putFlow flow) _ => some (if flow = 0 then .cleared n else .stored n)
  | .asked (.stopper k) n .takeFlow _ => some (.locked ⟨k, n⟩)
  | .asked (.stopper k) n .cancelDone _ => some (.cancelled ⟨k, n⟩)
  | .asked _ _ (.order (.stop _ flow)) _ => some (.ordered flow)
  | .returned .player n _ => some (.returned n)
  | _ => none

/-- The moments of a run, in order. -/
def moments (history : List (Interleaving.Event interface Result)) : List Moment := history.filterMap moment?

/-- `x` happens, and what happened before it satisfies `when`. -/
def Happens (when : List Moment → Prop) (x : Moment) (m : List Moment) : Prop :=
  ∃ before after, m = before ++ x :: after ∧ when before

/-- A play has cleared the id, or has returned early instead. -/
def Ended (m : List Moment) (play : Nat) : Prop := .refused play ∈ m ∨ .cleared play ∈ m

/-- A stop took the lock before the play cleared the id or returned early, and set the signal after the play
    had taken it back. -/
def Reaches (m : List Moment) (stop : StopCall) (play : Nat) : Prop :=
  Happens (fun before => ¬ Ended before play) (.locked stop) m ∧
    Happens (fun before => .reset play ∈ before) (.cancelled stop) m

/-- Some stop reached the play in time. -/
def CutShort (m : List Moment) (play : Nat) : Prop := ∃ stop, Reaches m stop play

/-! ## The protocol of a play -/

/-- Where a play stands. -/
inductive PlayPhase where
  | entered
  /-- The signal has been taken back, and there is no flow yet. -/
  | asking
  | given (flow : UInt32)
  /-- The lock is held, and the signal is about to be looked at. -/
  | looking (flow current : UInt32)
  | refusing (flow current : UInt32)
  | refused (flow current : UInt32)
  | storing (flow : UInt32)
  /-- The flow is the one that is playing. -/
  | playing (flow : UInt32)
  | clearing (flow : UInt32)
  | finished

/-- The moves of a play. Logging, reading the clock and drawing serials change nothing. -/
inductive PlayMove : PlayPhase → (r : Player.Request) → r.Answer → PlayPhase → Prop where
  | log {φ line answer} : PlayMove φ (.log line) answer φ
  | clock {φ answer} : PlayMove φ .clock answer φ
  | addSerial {φ answer} : PlayMove φ .addSerial answer φ
  | forget {φ serial answer} : PlayMove φ (.forget serial) answer φ
  | start {φ serial request answer} : PlayMove φ (.order (.start serial request)) answer φ
  | abandon {φ serial answer} : PlayMove φ (.order (.abandon serial)) answer φ
  | reset {answer} : PlayMove .entered .resetDone answer .asking
  | unanswered {serial timeout answer} (none : ∀ flow, answer ≠ .answered (.ok flow)) :
      PlayMove .asking (.await serial timeout) answer .asking
  | give {serial timeout flow} :
      PlayMove .asking (.await serial timeout) (.answered (.ok flow)) (.given flow)
  | lock {flow current} : PlayMove (.given flow) .takeFlow current (.looking flow current)
  | refuse {flow current} : PlayMove (.looking flow current) .doneCancelled true (.refusing flow current)
  | accept {flow current} : PlayMove (.looking flow current) .doneCancelled false (.storing flow)
  | order {flow current serial answer} :
      PlayMove (.refusing flow current) (.order (.stop serial flow)) answer (.refused flow current)
  | putBack {flow current answer} : PlayMove (.refused flow current) (.putFlow current) answer .finished
  | store {flow answer} : PlayMove (.storing flow) (.putFlow flow) answer (.playing flow)
  | pause {flow span answer} : PlayMove (.playing flow) (.pauseDone span) answer (.playing flow)
  | lockAgain {flow answer} : PlayMove (.playing flow) .takeFlow answer (.clearing flow)
  | clear {flow answer} : PlayMove (.clearing flow) (.putFlow 0) answer .finished

/-- Where a play may return: it never got a flow, or it is over. -/
inductive PlayEnds : PlayPhase → Except PlayError Unit → Prop where
  | early {result} : PlayEnds .asking result
  | late {result} : PlayEnds .finished result

/-! ## The protocol of a stop -/

/-- Where a stop stands. -/
inductive StopPhase where
  | entered
  /-- The lock is held, and the id is known. -/
  | locked (current : UInt32)
  /-- The playing flow has been ordered to be stopped. -/
  | ordered
  | cancelled
  | finished

/-- The moves of a stop. -/
inductive StopMove : StopPhase → (r : Player.Request) → r.Answer → StopPhase → Prop where
  | log {φ line answer} : StopMove φ (.log line) answer φ
  | addSerial {φ answer} : StopMove φ .addSerial answer φ
  | lock {current} : StopMove .entered .takeFlow current (.locked current)
  | order {current serial answer} (playing : current ≠ 0) :
      StopMove (.locked current) (.order (.stop serial current)) answer .ordered
  | cancelIdle {answer} : StopMove (.locked 0) .cancelDone answer .cancelled
  | cancel {answer} : StopMove .ordered .cancelDone answer .cancelled
  | release {answer} : StopMove .cancelled (.putFlow 0) answer .finished

/-- A stop returns only when it is over. -/
inductive StopEnds : StopPhase → Unit → Prop where
  | finished {result} : StopEnds .finished result

/-! ## Playing and stopping keep to the protocols -/

open Program

/-- Drawing a serial leaves the phase as it is. -/
theorem draw_follows {Φ : Type} {moves : Moves Player.Interface Φ} {φ : Φ}
    (stay : ∀ n, moves φ .addSerial n φ) : Player.drawSerial.Follows moves (fun φ' _ => φ' = φ) φ := by
  refine drawSerial_follows ?_ Pump.serialAttempts
  refine Follows.stay stay fun n => Follows.done ?_
  split <;> rfl

/-- Ordering a flow to be stopped is one move of each protocol. -/
theorem stopFlow_follows {Φ : Type} {moves : Moves Player.Interface Φ} {φ φ' : Φ} {flow : UInt32}
    (stay : ∀ n, moves φ .addSerial n φ)
    (move : ∀ serial taken, moves φ (.order (.stop serial flow)) taken φ') :
    (Player.stopFlow flow).Follows moves (fun ψ _ => ψ = φ') φ := by
  refine Follows.bind (draw_follows stay) ?_
  rintro _ serial rfl
  exact fun taken => ⟨φ', move serial taken, Follows.done rfl⟩

/-- The flow that waiting for an answer gives, if any, is the one that the play has been handed. -/
theorem awaitFlow_follows (serial : UInt32) (timeout : Seconds) :
    (Player.awaitFlow serial timeout).Follows PlayMove
      (fun φ result => match result with
        | .ok flow => φ = .given flow
        | .error _ => φ = .asking) .asking := by
  intro first
  cases first with
  | answered reply =>
    cases reply with
    | ok flow => exact ⟨_, .give, Follows.done rfl⟩
    | error e => exact ⟨_, .unanswered nofun, Follows.done rfl⟩
  | forsaken => exact ⟨_, .unanswered nofun, Follows.done rfl⟩
  | timedOut =>
    refine ⟨_, .unanswered nofun, ?_⟩
    refine Follows.stay (fun _ => .abandon) fun _ => ?_
    intro second
    cases second with
    | answered reply =>
      cases reply with
      | ok flow => exact ⟨_, .give, Follows.done rfl⟩
      | error e => exact ⟨_, .unanswered nofun, Follows.done rfl⟩
    | forsaken => exact ⟨_, .unanswered nofun, Follows.done rfl⟩
    | timedOut => exact ⟨_, .unanswered nofun, Follows.done rfl⟩

theorem startFlow_follows (request : Flow.Request) (timeout : Seconds) :
    (Player.startFlow request timeout).Follows PlayMove
      (fun φ result => match result with
        | .ok flow => φ = .given flow
        | .error _ => φ = .asking) .asking := by
  refine Follows.bind (draw_follows fun _ => .addSerial) ?_
  rintro _ serial rfl
  refine Follows.stay (fun _ => .start) fun taken => ?_
  cases taken with
  | false => exact Follows.done rfl
  | true =>
    simp only [done_bind, ↓reduceIte]
    refine Follows.bind (awaitFlow_follows serial timeout) fun φ result handed => ?_
    exact Follows.stay (fun _ => .forget) fun _ => Follows.done handed

theorem waitFor_follows (t : Track) (flow : UInt32) :
    (Player.waitFor t).Follows PlayMove (fun φ _ => φ = .finished) (.playing flow) := by
  have clearing : (Program.ask (I := Player.Interface) .takeFlow fun _ =>
      .ask (.putFlow 0) .done).Follows PlayMove (fun φ _ => φ = .finished) (.playing flow) :=
    fun _ => ⟨_, .lockAgain, fun _ => ⟨_, .clear, rfl⟩⟩
  refine Follows.stay (fun _ => .clock) fun start => ?_
  refine Follows.stay (fun _ => .pause) fun outcome => ?_
  cases outcome with
  | timedOut => exact clearing
  | cancelled => exact Follows.stay (fun _ => .clock) fun now => Follows.stay (fun _ => .log) fun _ => clearing

theorem playFlow_follows (c : Config) (t : Track) (volume : Int) :
    (Player.playFlow c t volume).Follows PlayMove PlayEnds .asking := by
  refine Follows.bind (startFlow_follows _ _) fun φ result handed => ?_
  cases result with
  | error e =>
    subst handed
    exact Follows.stay (fun _ => .log) fun _ => Follows.done .early
  | ok flow =>
    subst handed
    intro current
    refine ⟨_, .lock, fun cancelled => ?_⟩
    cases cancelled with
    | true =>
      refine ⟨_, .refuse, ?_⟩
      simp only [done_bind, ↓reduceIte]
      refine Follows.bind (stopFlow_follows (fun _ => .addSerial) fun _ _ => .order) ?_
      rintro _ _ rfl
      exact fun _ => ⟨_, .putBack, Follows.done .late⟩
    | false =>
      refine ⟨_, .accept, fun _ => ⟨_, .store, ?_⟩⟩
      simp only [done_bind]
      refine Follows.bind (waitFor_follows t flow) ?_
      rintro _ _ rfl
      exact Follows.done .late

/-- **Every play keeps to its protocol.** -/
theorem play_follows (c : Config) (t : Track) (settings : PlaySettings) :
    (Player.play c t settings).Follows PlayMove PlayEnds .entered := by
  refine fun _ => ⟨_, .reset, ?_⟩
  simp only [done_bind]
  split
  · exact Follows.done .early
  · split
    · exact Follows.stay (fun _ => .log) fun _ => Follows.done .early
    · split
      · exact Follows.done .early
      · split
        · exact Follows.stay (fun _ => .log) fun _ => Follows.done .early
        · exact playFlow_follows c t settings.volume

/-- **Every stop keeps to its protocol.** -/
theorem stop_follows : Player.stop.Follows StopMove StopEnds .entered := by
  intro current
  refine ⟨_, .lock, ?_⟩
  have leaving {φ : StopPhase} (move : StopMove φ .cancelDone () .cancelled) :
      (Program.ask (I := Player.Interface) .cancelDone fun _ => .ask (.putFlow 0) .done).Follows
        StopMove StopEnds φ :=
    fun _ => ⟨_, move, fun _ => ⟨_, .release, .finished⟩⟩
  simp only [done_bind]
  split
  · next playing =>
    refine Follows.bind (stopFlow_follows (fun _ => .addSerial) fun _ _ => .order playing) ?_
    rintro _ taken rfl
    cases taken with
    | true => exact leaving .cancel
    | false => exact Follows.stay (fun _ => .log) fun _ => leaving .cancel
  · next idle =>
    have zero : current = 0 := not_not.mp idle
    subst zero
    exact leaving .cancelIdle

end Playout.Flow.Stopping
