import Playout.Proofs.Flow.HandoverSteps

/-!
# `Playout.Proofs.Flow.Handover` — what becomes of a flow that is started for a call

Unless it is lost, a started flow is what the call returns, or the pump orders it to be stopped. It is lost when
its reply comes into the channel after the call has given up and before it drops the receiver.

## Contents
- `run_inv` — every run of a call and the pump keeps the invariant.
- `Lost` — when a started flow is lost.
- `run_received`, `run_lost` — a run that returns the flow, and one that loses it.

## Main statements
- `started_flow_returned_or_stopped` — returned or stopped, and not both, unless it is lost.
- `flow_left_playing` — a flow can be lost.
-/

namespace Playout.Flow.Handover

open Interleaving

variable {serial : UInt32} {request : Flow.Request} {timeout : Seconds} {rounds : Nat}

/-! ## Every run keeps the invariant -/

/-- The phases of each side. -/
@[reducible] def Phase : Side → Type
  | .caller => CallerPhase
  | .pump => PumpPhase

/-- The protocol of each side. -/
def moves : (t : Side) → Moves (interface t) (Phase t)
  | .caller => CallerMove
  | .pump => PumpMove

/-- Where each side may end. -/
def ends : (t : Side) → Phase t → Result t → Prop
  | .caller => CallerEnds
  | .pump => fun _ _ => True

/-- Where each side begins; after its one call the caller is gone. -/
def first : (t : Side) → Nat → Phase t
  | .caller, 0 => .entered
  | .caller, _ + 1 => .gone
  | .pump, 0 => .idle {} []
  | .pump, _ + 1 => .ended

/-- What the call has returned is what it has received. -/
def Returned (s : Shared) (history : List (Interleaving.Event interface Result)) : Prop :=
  ∀ number result, .returned .caller number result ∈ history → s.dropped = true ∧ Receives s result

/-- The whole invariant. -/
def Holds (serial : UInt32) (s : Shared) (_ : Side → Nat) (φ : (t : Side) → Phase t)
    (history : List (Interleaving.Event interface Result)) : Prop :=
  CallerInv serial s (φ .caller) ∧ PumpStands serial s (φ .pump) ∧ Returned s history

variable {s s' : Shared} {c c' : CallerPhase} {history : List (Interleaving.Event interface Result)}

/-- Nobody but a call that has not come to its end makes requests. -/
theorem CallerInv.undropped {r : Player.Request} {answer : r.Answer} (h : CallerInv serial s c)
    (move : CallerMove c r answer c') : s.dropped = false := by
  cases move with
  | zero | draw => exact h.2.2.1
  | start | closed => exact h.2.2.2.1
  | answered | forsaken | timedOut | abandon | answeredAgain | unanswered => exact h.2.2.1
  | forget => exact h.2.1

/-- The pump neither drops the receiver nor receives anything. -/
theorem pump_leaves {r : Pump.Request} {answer : r.Answer} (answered : pumpAnswers serial r s answer s') :
    s'.dropped = s.dropped ∧ s'.took = s.took := by
  cases r with
  | log | addSerial =>
    cases answered
    exact ⟨rfl, rfl⟩
  | next => cases answered <;> exact ⟨rfl, rfl⟩
  | reply other reply =>
    by_cases same : other = serial
    · subst same
      rw [(reply_self answered).2]
      split <;> exact ⟨rfl, rfl⟩
    · rw [reply_other same answered]
      exact ⟨rfl, rfl⟩
  | forsake other =>
    by_cases same : other = serial
    · subst same
      rw [forsake_self answered]
      exact ⟨rfl, rfl⟩
    · rw [forsake_other same answered]
      split <;> exact ⟨rfl, rfl⟩
  | write bytes =>
    obtain ⟨_, rfl⟩ := answered
    split <;> exact ⟨rfl, rfl⟩

theorem mem_history_of_asked {number call : Nat} {result : Except PlayError UInt32} {t : Side}
    {r : (interface t).Request} {answer : (interface t).Answer r}
    (here : .returned .caller number result ∈ history ++ [.asked t call r answer]) :
    .returned .caller number result ∈ history := by
  rcases List.mem_append.mp here with before | last
  · exact before
  · cases List.mem_singleton.mp last

theorem PumpStands.quiet {φ φ' : PumpPhase} (h : PumpStands serial s φ)
    (inner : Relation.ReflTransGen Inner φ φ') : PumpStands serial s φ' := by
  induction inner with
  | refl => exact h
  | tail _ last ih => exact ih.inner last

theorem run_inv {s : State interface Result Shared}
    (run : Run (calls request timeout rounds) (answers serial) {} history s) :
    ∃ φ : (t : Side) → Phase t, (∀ t, (s.call t).rest.Follows (moves t) (ends t) (φ t)) ∧
      Holds serial s.shared (fun t => (s.call t).number) φ history := by
  have follow (t : Side) (n : Nat) :
      (calls request timeout rounds t n).Follows (moves t) (ends t) (first t n) := by
    cases t <;> cases n
    · exact startFlow_follows request timeout
    · trivial
    · exact pump_follows rounds
    · trivial
  refine run.invariant follow ⟨caller_start, pump_start, nofun⟩ ?ask ?finish
  case ask =>
    rintro s number φ history t r answer s' φ' ⟨call, pump, returned⟩ move answered
    cases t with
    | caller =>
      rw [Holds, Function.update_self, Function.update_of_ne (by simp)]
      refine ⟨call.caller move answered, pump.caller call move answered, ?_⟩
      intro n result here
      -- The receiver of a call that has returned has been dropped, and then it makes no more requests.
      obtain ⟨dropped, _⟩ := returned n result (mem_history_of_asked here)
      rw [call.undropped move] at dropped
      cases dropped
    | pump =>
      rw [Holds, Function.update_self, Function.update_of_ne (by simp)]
      obtain ⟨ψ, inner, asks⟩ := move
      refine ⟨call.pump answered, (pump.quiet inner).asks call asks answered, ?_⟩
      intro n result here
      obtain ⟨dropped, receives⟩ := returned n result (mem_history_of_asked here)
      obtain ⟨sameDropped, sameTook⟩ := pump_leaves answered
      refine ⟨sameDropped.trans dropped, fun flow => ?_⟩
      rw [sameTook]
      exact receives flow
  case finish =>
    rintro s number φ history t result ⟨call, pump, returned⟩ ended
    cases t with
    | caller =>
      rw [Holds, Function.update_self, Function.update_of_ne (by simp)]
      have finished : φ .caller = .finished result := ended
      rw [finished] at call
      obtain ⟨queued, dropped, receives⟩ := call
      refine ⟨⟨queued, dropped⟩, pump, ?_⟩
      intro n other here
      rcases List.mem_append.mp here with before | last
      · exact returned n other before
      · cases List.mem_singleton.mp last
        exact ⟨dropped, receives⟩
    | pump =>
      rw [Holds, Function.update_self, Function.update_of_ne (by simp)]
      refine ⟨call, trivial, ?_⟩
      intro n other here
      rcases List.mem_append.mp here with before | last
      · exact returned n other before
      · cases List.mem_singleton.mp last

/-! ## What becomes of a started flow -/

/-- The flow is lost: its reply was put into the channel after the second wait had ended, or it was started
    before the pump took the order to start. -/
def Lost (serial : UInt32) (s : Shared) (flow : UInt32) : Prop := s.late = true ∨ Early serial s flow

/-- A pump that asks for something to do is idle. -/
theorem PumpStands.idle_of_asks {φ : PumpPhase} {next : Pump.Input → Pump.Action Unit}
    (h : PumpStands serial s φ)
    (follows : (Program.ask (I := Pump.Interface) .next next).Follows PumpMove (fun _ _ => True) φ) :
    ∃ l buffer, l.found = [] ∧ PumpInv serial s l [] buffer := by
  obtain ⟨_, ⟨ψ, inner, asks⟩, _⟩ := follows .shutdown
  have stands := h.quiet inner
  cases asks with
  | @shutdown l buffer => exact ⟨l, buffer, stands⟩
  | ended last => exact absurd rfl last

/-- The frames on record, read back. -/
theorem StopFrames.requests {bytes : List UInt8} {orphans : List (UInt32 × UInt32)}
    (h : StopFrames bytes orphans) :
    (takeRequests bytes).messages.map Prod.snd = orphans.map fun orphan => .stop orphan.2 := by
  obtain ⟨requests, rfl, flows⟩ := h
  rw [takeRequests_encodeRequests ?_]
  · exact flows
  · intro message here
    have stop : message.2 ∈ orphans.map fun orphan => Flow.Request.stop orphan.2 := by
      rw [← flows]
      exact List.mem_map_of_mem here
    obtain ⟨orphan, _, same⟩ := List.mem_map.mp stop
    rw [← same]
    exact Nat.zero_le _

/-- **A started flow is returned or stopped**, and not both, unless it is lost; then it is neither. This holds
    whenever the call has returned and the pump has acted on all that it has read and goes on, if the server
    has answered the request at most once and fewer other requests have been abandoned since than are
    remembered. -/
theorem started_flow_returned_or_stopped {s : State interface Result Shared} {number : Nat}
    {result : Except PlayError UInt32} {next : Pump.Input → Pump.Action Unit}
    (run : Run (calls request timeout rounds) (answers serial) {} history s)
    (returned : .returned .caller number result ∈ history) (idle : (s.call .pump).rest = .ask .next next)
    (once : (answersTo serial (takeEvents s.shared.received).messages).length ≤ 1)
    (few : s.shared.others < Pending.abandonedLimit) :
    ∃ orphans : List (UInt32 × UInt32), orphans.Sublist (startedIn (takeEvents s.shared.received).messages) ∧
      (takeRequests s.shared.stops).messages.map Prod.snd = orphans.map (fun orphan => .stop orphan.2) ∧
      ∀ flow, (serial, .started flow) ∈ (takeEvents s.shared.received).messages →
        (¬ Lost serial s.shared flow →
          (result = .ok flow ∧ (serial, flow) ∉ orphans) ∨ (result ≠ .ok flow ∧ (serial, flow) ∈ orphans)) ∧
        (Lost serial s.shared flow → result ≠ .ok flow ∧ (serial, flow) ∉ orphans) := by
  obtain ⟨φ, keeps, _, pump, back⟩ := run_inv run
  obtain ⟨dropped, receives⟩ := back number result returned
  have follows := keeps .pump
  rw [idle] at follows
  obtain ⟨l, buffer, settled, inv⟩ := pump.idle_of_asks follows
  have acted : (takeEvents s.shared.received).messages = l.acted := by
    rw [inv.stream, List.append_nil]
  have orphans := inv.orphans
  rw [acted] at once ⊢
  rw [settled, List.append_nil] at orphans
  refine ⟨l.written, orphans, inv.stops.requests, ?_⟩
  intro flow here
  -- The server has answered at most once, so this flow is the whole answer.
  have only : answersTo serial l.acted = [.started flow] := by
    have answer := mem_answersTo_of_started here
    cases answers : answersTo serial l.acted with
    | nil =>
      rw [answers] at answer
      cases answer
    | cons first more =>
      rw [answers] at answer once
      have alone : more = [] := List.length_eq_zero_iff.mp (Nat.le_zero.mp (Nat.le_of_succ_le_succ once))
      rw [alone] at answer ⊢
      rw [List.mem_singleton.mp answer]
  have notReceived (none : s.shared.took = none) : result ≠ .ok flow := by
    intro same
    have some := (receives flow).mp same
    rw [none] at some
    cases some
  have written : l.written ++ l.found = l.written := by rw [settled, List.append_nil]
  cases inv.account.settled flow only with
  | early first _ none _ kept =>
    rw [written] at kept
    exact ⟨fun kept => absurd (Or.inr first) kept, fun _ => ⟨notReceived none, kept⟩⟩
  | buffered _ _ _ there =>
    rw [dropped] at there
    cases there
  | received _ asked _ some onTime kept =>
    rw [written] at kept
    refine ⟨fun _ => Or.inl ⟨(receives flow).mpr some, kept⟩, ?_⟩
    rintro (late | early)
    · rw [onTime] at late
      cases late
    · exact absurd early asked
  | lost _ _ _ none tardy kept =>
    rw [written] at kept
    exact ⟨fun kept => absurd (Or.inl tardy) kept, fun _ => ⟨notReceived none, kept⟩⟩
  | orphan _ asked _ none onTime found =>
    rw [written] at found
    refine ⟨fun _ => Or.inr ⟨notReceived none, found⟩, ?_⟩
    rintro (late | early)
    · rw [onTime] at late
      cases late
    · exact absurd early asked
  | forgotten many => exact absurd few (Nat.not_lt.mpr many)

/-! ### Two runs -/

section

variable {number : Nat} {shared : Shared} {rest : Program Player.Interface (Except PlayError UInt32)}
  {other : Nat} {pump : Program Pump.Interface Unit}

/-- What is shared, and where the call and the pump stand. -/
def both (shared : Shared) (number : Nat) (rest : Program Player.Interface (Except PlayError UInt32))
    (other : Nat) (pump : Program Pump.Interface Unit) : State interface Result Shared where
  shared := shared
  call
    | .caller => ⟨number, rest⟩
    | .pump => ⟨other, pump⟩

/-- The call makes a request. -/
theorem run_caller {r : Player.Request} {next : r.Answer → Program Player.Interface (Except PlayError UInt32)}
    (run : Run (calls request timeout rounds) (answers serial) {} history (both shared number rest other pump))
    (asks : rest = .ask r next) (answer : r.Answer) (shared' : Shared)
    (answered : callerAnswers serial r shared answer shared') :
    Run (calls request timeout rounds) (answers serial) {} (history ++ [.asked .caller number r answer])
      (both shared' number (next answer) other pump) := by
  have stands : both shared' number (next answer) other pump =
      ⟨shared', Function.update (both shared number rest other pump).call .caller ⟨number, next answer⟩⟩ := by
    apply congrArg (State.mk shared')
    funext side
    cases side <;> rfl
  rw [stands]
  exact run.ask (r := r) .caller asks answer answered

/-- The pump makes a request. -/
theorem run_pump {r : Pump.Request} {next : r.Answer → Program Pump.Interface Unit}
    (run : Run (calls request timeout rounds) (answers serial) {} history (both shared number rest other pump))
    (asks : pump = .ask r next) (answer : r.Answer) (shared' : Shared)
    (answered : pumpAnswers serial r shared answer shared') :
    Run (calls request timeout rounds) (answers serial) {} (history ++ [.asked .pump other r answer])
      (both shared' number rest other (next answer)) := by
  have stands : both shared' number rest other (next answer) =
      ⟨shared', Function.update (both shared number rest other pump).call .pump ⟨other, next answer⟩⟩ := by
    apply congrArg (State.mk shared')
    funext side
    cases side <;> rfl
  rw [stands]
  exact run.ask (r := r) .pump asks answer answered

theorem run_start (request : Flow.Request) (timeout : Seconds) (rounds : Nat) (serial : UInt32) :
    Run (calls request timeout rounds) (answers serial) {} []
      (both {} 0 (Player.startFlow request timeout) 0 (Pump.run rounds)) := by
  have stands : both {} 0 (Player.startFlow request timeout) 0 (Pump.run rounds)
      = State.start (calls request timeout rounds) {} := by
    refine congrArg (State.mk ({} : Shared)) (funext fun side => ?_)
    cases side <;> rfl
  rw [stands]
  exact .start

end

/-- A reading without a fault: its events are acted on. -/
theorem step_received {α : Type} {s : Pump.State} {bytes rest : List UInt8} {messages : List (UInt32 × Event)}
    (k : Pump.Next → Program Pump.Interface α)
    (whole : takeEvents (s.buffer ++ bytes) = ⟨messages, none, rest⟩) :
    (Pump.step s (.received bytes)).bind k =
      (Pump.handleAll s.pending messages).bind fun outcome =>
        (if outcome.2.isEmpty then Program.done (Pump.Next.goOn ⟨rest, outcome.1⟩)
          else (Pump.stopOrphans outcome.2).bind (Pump.send ⟨rest, outcome.1⟩)).bind k := by
  simp only [Pump.step, Pump.receive, whole, Program.bind_eq, Program.bind_assoc]
  rfl

/-- One frame of silence. -/
def silence : Flow.Request := .play .signed8 1 8000 0 1 [0]

/-- The event that starts flow 9 for request 1. -/
def nine : List UInt8 := encodeEvents [(1, .started 9)]

theorem events_nine : takeEvents ([] ++ nine) = ⟨[(1, .started 9)], none, []⟩ := takeEvents_encodeEvents _

/-- The server answers in time, and the call receives the flow. -/
theorem run_received :
    ∃ history s next, Run (calls silence 0 3) (answers 1) {} history s ∧
      .returned .caller 0 (.ok 9) ∈ history ∧ (s.call .pump).rest = .ask .next next ∧
      s.shared.received = nine ∧ s.shared.others = 0 ∧ s.shared.early = [] ∧ s.shared.late = false := by
  have run := run_start silence 0 3 1
  replace run := run_caller run rfl (1 : UInt32) {} ⟨Or.inr rfl, rfl⟩
  replace run := run_caller run rfl true { orders := [.start 1 silence] } ⟨rfl, rfl⟩
  replace run := run_pump run rfl () { orders := [.start 1 silence] } rfl
  replace run := run_pump run rfl (.order (.start 1 silence)) { started := true } (Taken.start rfl)
  replace run := run_pump run rfl (.ok ()) { started := true } ⟨rfl, rfl⟩
  replace run := run_pump run rfl (.received nine) { started := true, received := nine, reading := true }
    .received
  replace run := run_pump run (step_received (s := ⟨[], ⟨[1], []⟩⟩) _ events_nine) ()
    { started := true, received := nine, reading := true } rfl
  replace run := run_pump run rfl true
    { slot := some (.ok 9), started := true, received := nine, reading := true } ⟨rfl, rfl⟩
  replace run := run_caller run rfl (.answered (.ok 9))
    { took := some (.ok 9), waits := 1, started := true, received := nine, reading := true } (.answered rfl)
  replace run := run_caller run rfl ()
    { dropped := true, took := some (.ok 9), waits := 1, started := true, received := nine, reading := true } rfl
  replace run := run.finish .caller rfl
  exact ⟨_, _, _, run, List.mem_append_right _ List.mem_cons_self, rfl, rfl, rfl, rfl, rfl⟩

/-- The flow that the call returns is not stopped. -/
theorem received_flow_is_not_stopped :
    ∃ history s next, Run (calls silence 0 3) (answers 1) {} history s ∧
      .returned .caller 0 (.ok 9) ∈ history ∧ (s.call .pump).rest = .ask .next next ∧
      ∃ orphans : List (UInt32 × UInt32),
        (takeRequests s.shared.stops).messages.map Prod.snd = orphans.map (fun orphan => .stop orphan.2) ∧
          (1, 9) ∉ orphans := by
  obtain ⟨history, s, next, run, returned, idle, received, others, early, late⟩ := run_received
  have events : (takeEvents s.shared.received).messages = [(1, .started 9)] := by
    rw [received]
    exact congrArg Batch.messages events_nine
  have once : (answersTo 1 (takeEvents s.shared.received).messages).length ≤ 1 := by
    rw [events]
    decide
  have few : s.shared.others < Pending.abandonedLimit := by
    rw [others]
    decide
  have kept : ¬ Lost 1 s.shared 9 := by
    rintro (tardy | first)
    · rw [late] at tardy
      cases tardy
    · rw [Early, early, takeEvents, takeAll_nil] at first
      cases first
  obtain ⟨orphans, _, stops, outcome⟩ := started_flow_returned_or_stopped run returned idle once few
  rcases (outcome 9 (by rw [events]; exact List.mem_cons_self)).1 kept with ⟨_, unstopped⟩ | ⟨other, _⟩
  · exact ⟨history, s, next, run, returned, idle, orphans, stops, unstopped⟩
  · exact absurd rfl other

/-- The reply is put into the channel after the second wait has ended and before the receiver is dropped. -/
theorem run_lost :
    ∃ history s next e, Run (calls silence 0 4) (answers 1) {} history s ∧
      .returned .caller 0 (.error e) ∈ history ∧ (s.call .pump).rest = .ask .next next ∧
      s.shared.received = nine ∧ s.shared.others = 0 ∧ s.shared.early = [] ∧ s.shared.stops = [] := by
  have run := run_start silence 0 4 1
  replace run := run_caller run rfl (1 : UInt32) {} ⟨Or.inr rfl, rfl⟩
  replace run := run_caller run rfl true { orders := [.start 1 silence] } ⟨rfl, rfl⟩
  replace run := run_pump run rfl () { orders := [.start 1 silence] } rfl
  replace run := run_pump run rfl (.order (.start 1 silence)) { started := true } (Taken.start rfl)
  replace run := run_pump run rfl (.ok ()) { started := true } ⟨rfl, rfl⟩
  replace run := run_caller run rfl .timedOut { started := true, waits := 1 } (.timedOut rfl rfl)
  replace run := run_caller run rfl true { orders := [.abandon 1], waits := 1, started := true } ⟨rfl, rfl⟩
  replace run := run_pump run rfl (.received nine)
    { orders := [.abandon 1], waits := 1, started := true, received := nine, reading := true } .received
  replace run := run_pump run (step_received (s := ⟨[], ⟨[1], []⟩⟩) _ events_nine) ()
    { orders := [.abandon 1], waits := 1, started := true, received := nine, reading := true } rfl
  -- The call gives up for good, and only then is the flow handed over, to a receiver that is still there.
  replace run := run_caller run rfl .timedOut
    { orders := [.abandon 1], waits := 2, started := true, received := nine, reading := true }
    (.timedOut rfl rfl)
  replace run := run_pump run rfl true
    { orders := [.abandon 1], slot := some (.ok 9), waits := 2, late := true, started := true,
      received := nine, reading := true } ⟨rfl, rfl⟩
  replace run := run_caller run rfl ()
    { orders := [.abandon 1], dropped := true, waits := 2, late := true, started := true,
      received := nine, reading := true } rfl
  -- To the pump the request has been answered, so that there is nothing to abandon.
  replace run := run_pump run rfl (.order (.abandon 1))
    { dropped := true, waits := 2, late := true, started := true, received := nine } (Taken.abandon rfl)
  replace run := run_pump run rfl ()
    { dropped := true, waits := 2, late := true, started := true, received := nine } rfl
  replace run := run.finish .caller rfl
  exact ⟨_, _, _, _, run, List.mem_append_right _ List.mem_cons_self, rfl, rfl, rfl, rfl, rfl⟩

/-- So a flow can be left playing: the server has started it once, in answer to the request, the call has
    failed, and the pump, which has nothing left to do, has stopped nothing. -/
theorem flow_left_playing :
    ∃ history s next e, Run (calls silence 0 4) (answers 1) {} history s ∧
      .returned .caller 0 (.error e) ∈ history ∧ (s.call .pump).rest = .ask .next next ∧
      (takeEvents s.shared.received).messages = [(1, .started 9)] ∧ s.shared.others = 0 ∧
      ¬ Early 1 s.shared 9 ∧ (takeRequests s.shared.stops).messages = [] := by
  obtain ⟨history, s, next, e, run, returned, idle, received, others, early, stops⟩ := run_lost
  refine ⟨history, s, next, e, run, returned, idle, ?_, others, ?_, ?_⟩
  · rw [received]
    exact congrArg Batch.messages events_nine
  · rw [Early, early, takeEvents, takeAll_nil]
    exact List.not_mem_nil
  · rw [stops, takeRequests, takeAll_nil]

end Playout.Flow.Handover
