import Mathlib.Logic.Relation
import Playout.Flow.Output
import Playout.Proofs.Flow.Framing
import Playout.Proofs.Flow.Pending
import Playout.Proofs.Flow.Serial

/-!
# `Playout.Proofs.Flow.HandoverProtocol` — a call that asks for a flow, and the pump

A call orders the pump to start a flow and waits for the answer twice; between the two waits it abandons the
request, and after them it drops the receiver. The pump takes the orders of this call in their order, and
those of other calls in between; it reads from the server, hands answers over and stops orphans. Calls and
events may follow each other in any order.

## Contents
- `Side`, `Shared`, `Taken`, `Awaited`, `answers` — who runs, what is shared, and what the requests are answered.
- `CallerPhase`, `CallerMove` — the protocol of the call.
- `Ledger`, `PumpPhase`, `Inner`, `PumpAsks`, `PumpMove` — the protocol of the pump, with what it does between
  two requests.
- `startFlow_follows`, `pump_follows` — the call and the pump keep to them.
-/

namespace Playout.Flow.Handover

open Interleaving

/-! ## Who runs, and what is shared -/

/-- The call that asks for a flow, and the pump. -/
inductive Side where
  | caller
  | pump
  deriving DecidableEq

@[reducible] def interface : Side → Playout.Interface
  | .caller => Player.Interface
  | .pump => Pump.Interface

@[reducible] def Result : Side → Type
  | .caller => Except PlayError UInt32
  | .pump => Unit

/-- One call is made, and the pump runs for any number of rounds. -/
def calls (request : Flow.Request) (timeout : Seconds) (rounds : Nat) : Calls interface Result
  | .caller, 0 => Player.startFlow request timeout
  | .caller, _ + 1 => .unfinished
  | .pump, 0 => Pump.run rounds
  | .pump, _ + 1 => .unfinished

/-- What the call and the pump share, and what is on record. -/
structure Shared where
  /-- The call's orders that the pump has not taken yet. -/
  orders : List Pump.Order := []
  /-- The reply that waits in the channel. -/
  slot : Option Pump.Reply := none
  /-- The call has dropped the receiver. -/
  dropped : Bool := false
  /-- The pump has dropped the sender because the request was abandoned. -/
  forsaken : Bool := false
  /-- How many waits for the reply have ended. -/
  waits : Nat := 0
  /-- The reply that the call has received. -/
  took : Option Pump.Reply := none
  /-- The reply was put into the channel after the second wait had ended. -/
  late : Bool := false
  /-- The pump has taken the order to start. -/
  started : Bool := false
  /-- All bytes that the pump has read, and those that it had read before it took the order to start. -/
  received : List UInt8 := []
  early : List UInt8 := []
  /-- How many other requests have been abandoned since this one was. -/
  others : Nat := 0
  /-- The pump acts on bytes that it has read, and the bytes that it has written when it did. -/
  reading : Bool := false
  stops : List UInt8 := []

/-- Whether an order belongs to another request than this one. -/
def Foreign (serial : UInt32) : Pump.Order → Prop
  | .start other _ | .abandon other => other ≠ serial
  | .stop _ _ => True

/-- What wakes the pump, as long as it keeps running: the next order of the call, an order of somebody else, or
    bytes from the server. -/
inductive Taken (serial : UInt32) : Shared → Pump.Input → Shared → Prop where
  | start {s request rest} (first : s.orders = .start serial request :: rest) :
      Taken serial s (.order (.start serial request))
        { s with orders := rest, started := true, reading := false }
  | abandon {s rest} (first : s.orders = .abandon serial :: rest) :
      Taken serial s (.order (.abandon serial)) { s with orders := rest, reading := false }
  | other {s order} (foreign : Foreign serial order) :
      Taken serial s (.order order) { s with reading := false }
  | received {s bytes} :
      Taken serial s (.received bytes)
        { s with
          received := s.received ++ bytes
          early := if s.started then s.early else s.early ++ bytes
          reading := true }

/-- How a wait for the reply ends. -/
inductive Awaited : Shared → Player.Waited → Shared → Prop where
  | answered {s reply} (there : s.slot = some reply) :
      Awaited s (.answered reply) { s with slot := none, took := some reply, waits := s.waits + 1 }
  | timedOut {s} (empty : s.slot = none) (unclosed : s.forsaken = false) :
      Awaited s .timedOut { s with waits := s.waits + 1 }
  | forsaken {s} (empty : s.slot = none) (closed : s.forsaken = true) :
      Awaited s .forsaken { s with waits := s.waits + 1 }

/-- What the call's requests are answered. -/
def callerAnswers (serial : UInt32) : (r : Player.Request) → Shared → r.Answer → Shared → Prop
  | .addSerial, s, n, s' => (n = 0 ∨ n = serial) ∧ s' = s
  | .order order, s, taken, s' => taken = true ∧ s' = { s with orders := s.orders ++ [order] }
  | .await _ _, s, waited, s' => Awaited s waited s'
  | .forget _, s, _, s' => s' = { s with dropped := true, slot := none }
  | _, _, _, _ => False

/-- What the pump's requests are answered. Only for this request does the channel matter: a reply is refused
    once the receiver has been dropped. -/
def pumpAnswers (serial : UInt32) : (r : Pump.Request) → Shared → r.Answer → Shared → Prop
  | .log _, s, _, s' => s' = s
  | .addSerial, s, _, s' => s' = s
  | .next, s, input, s' => Taken serial s input s'
  | .reply other reply, s, took, s' =>
    if other = serial then
      took = !s.dropped ∧
        s' = if s.dropped then s else { s with slot := some reply, late := decide (s.waits = 2) }
    else s' = s
  | .forsake other, s, _, s' =>
    s' = if other = serial then { s with forsaken := true }
      else if s.forsaken then { s with others := s.others + 1 } else s
  | .write bytes, s, written, s' =>
    written = .ok () ∧ s' = if s.reading then { s with stops := s.stops ++ bytes } else s

/-- What both are answered. -/
def answers (serial : UInt32) : Surroundings interface Shared
  | .caller => callerAnswers serial
  | .pump => pumpAnswers serial

/-! ## The protocol of the call -/

/-- Where the call stands. -/
inductive CallerPhase where
  | entered
  | drawn (serial : UInt32)
  /-- The order to start has been given. -/
  | waiting (serial : UInt32)
  /-- The first wait has timed out. -/
  | givingUp (serial : UInt32)
  /-- The request has been abandoned. -/
  | waitingAgain (serial : UInt32)
  /-- The waits are over, and the receiver is about to be dropped. -/
  | leaving (result : Except PlayError UInt32)
  | finished (result : Except PlayError UInt32)
  /-- The call has returned. -/
  | gone

/-- The moves of the call. -/
inductive CallerMove : CallerPhase → (r : Player.Request) → r.Answer → CallerPhase → Prop where
  | zero : CallerMove .entered .addSerial (0 : UInt32) .entered
  | draw {serial : UInt32} (nonzero : serial ≠ 0) : CallerMove .entered .addSerial serial (.drawn serial)
  | start {serial request} : CallerMove (.drawn serial) (.order (.start serial request)) true (.waiting serial)
  | closed {serial request result} :
      CallerMove (.drawn serial) (.order (.start serial request)) false (.finished result)
  | answered {serial timeout reply} :
      CallerMove (.waiting serial) (.await serial timeout) (.answered reply) (.leaving (Player.flowOf reply))
  | forsaken {serial timeout e} :
      CallerMove (.waiting serial) (.await serial timeout) .forsaken (.leaving (.error e))
  | timedOut {serial timeout} : CallerMove (.waiting serial) (.await serial timeout) .timedOut (.givingUp serial)
  | abandon {serial taken} : CallerMove (.givingUp serial) (.order (.abandon serial)) taken (.waitingAgain serial)
  | answeredAgain {serial timeout reply} :
      CallerMove (.waitingAgain serial) (.await serial timeout) (.answered reply)
        (.leaving (Player.flowOf reply))
  | unanswered {serial timeout answer e} (none : ∀ reply, answer ≠ .answered reply) :
      CallerMove (.waitingAgain serial) (.await serial timeout) answer (.leaving (.error e))
  | forget {serial result answer} : CallerMove (.leaving result) (.forget serial) answer (.finished result)

/-- The call returns what it has come to. -/
def CallerEnds (φ : CallerPhase) (result : Except PlayError UInt32) : Prop := φ = .finished result

/-! ## The protocol of the pump -/

/-- What the pump has done so far. -/
structure Ledger where
  pending : Pending := {}
  /-- The events that it has acted on. -/
  acted : List (UInt32 × Event) := []
  /-- The orphans that it has ordered to be stopped, with their requests. -/
  written : List (UInt32 × UInt32) := []
  /-- The orphans that it has found since. -/
  found : List (UInt32 × UInt32) := []

/-- Where the pump stands; `buffer` holds the bytes that make up no whole frame yet. -/
inductive PumpPhase where
  /-- It is about to ask for something to do. -/
  | idle (ledger : Ledger) (buffer : List UInt8)
  /-- It is about to write an order's frame. -/
  | obeying (ledger : Ledger) (buffer : List UInt8)
  /-- It acts on an order to abandon a request. -/
  | abandoning (ledger : Ledger) (serial : UInt32) (buffer : List UInt8)
  /-- It acts on events. -/
  | reading (ledger : Ledger) (todo : List (UInt32 × Event)) (buffer : List UInt8)
  /-- Something has ended it. -/
  | ended

/-- Frames that stop the flows of orphans. -/
def StopFrames (bytes : List UInt8) (orphans : List (UInt32 × UInt32)) : Prop :=
  ∃ requests : List (UInt32 × Flow.Request),
    bytes = encodeRequests requests ∧ requests.map Prod.snd = orphans.map fun orphan => .stop orphan.2

/-- An event has been acted on. -/
def Ledger.act (l : Ledger) (serial : UInt32) (event : Event) (pending : Pending)
    (orphans : List (UInt32 × UInt32)) : Ledger :=
  { l with pending, acted := l.acted ++ [(serial, event)], found := l.found ++ orphans }

/-- What the pump does without asking for anything. -/
inductive Inner : PumpPhase → PumpPhase → Prop where
  | orphan {l serial flow todo buffer} (idle : serial ∉ l.pending.waiting)
      (abandoned : serial ∈ l.pending.abandoned) :
      Inner (.reading l ((serial, .started flow) :: todo) buffer)
        (.reading (l.act serial (.started flow) (l.pending.started serial).1 [(serial, flow)]) todo buffer)
  | unknown {l serial flow todo buffer} (idle : serial ∉ l.pending.waiting)
      (unknown : serial ∉ l.pending.abandoned) :
      Inner (.reading l ((serial, .started flow) :: todo) buffer)
        (.reading (l.act serial (.started flow) l.pending []) todo buffer)
  | done {l serial flow todo buffer} :
      Inner (.reading l ((serial, .done flow) :: todo) buffer)
        (.reading (l.act serial (.done flow) l.pending []) todo buffer)
  | failed {l serial e todo buffer} (idle : serial ∉ l.pending.waiting) :
      Inner (.reading l ((serial, .failed e) :: todo) buffer)
        (.reading (l.act serial (.failed e) (l.pending.failed serial).1 []) todo buffer)
  | acted {l buffer} (none : l.found = []) : Inner (.reading l [] buffer) (.idle l buffer)
  | known {l serial buffer} (idle : serial ∉ l.pending.waiting) :
      Inner (.abandoning l serial buffer) (.idle l buffer)

/-- Whether a request is another one than for something to do. -/
def Busy (r : Pump.Request) : Prop := r ≠ .next

/-- The requests of the pump. -/
inductive PumpAsks : PumpPhase → (r : Pump.Request) → r.Answer → PumpPhase → Prop where
  | log {φ line answer} : PumpAsks φ (.log line) answer φ
  | addSerial {φ answer} : PumpAsks φ .addSerial answer φ
  | start {l buffer serial request} :
      PumpAsks (.idle l buffer) .next (.order (.start serial request))
        (.obeying { l with pending := l.pending.expect serial } buffer)
  | stop {l buffer serial flow} :
      PumpAsks (.idle l buffer) .next (.order (.stop serial flow)) (.obeying l buffer)
  | abandon {l buffer serial} :
      PumpAsks (.idle l buffer) .next (.order (.abandon serial)) (.abandoning l serial buffer)
  | read {l buffer bytes} (whole : (takeEvents (buffer ++ bytes)).fault = none) :
      PumpAsks (.idle l buffer) .next (.received bytes)
        (.reading l (takeEvents (buffer ++ bytes)).messages (takeEvents (buffer ++ bytes)).rest)
  | misread {l buffer bytes} (broken : (takeEvents (buffer ++ bytes)).fault ≠ none) :
      PumpAsks (.idle l buffer) .next (.received bytes) .ended
  | shutdown {l buffer} : PumpAsks (.idle l buffer) .next .shutdown .ended
  | noOrders {l buffer} : PumpAsks (.idle l buffer) .next .noOrders .ended
  | closed {l buffer} : PumpAsks (.idle l buffer) .next .closed .ended
  | readFailed {l buffer reason} : PumpAsks (.idle l buffer) .next (.readFailed reason) .ended
  | send {l buffer bytes} : PumpAsks (.obeying l buffer) (.write bytes) (.ok ()) (.idle l buffer)
  | forsake {l buffer serial answer} (waits : serial ∈ l.pending.waiting) :
      PumpAsks (.abandoning l serial buffer) (.forsake serial) answer
        (.idle { l with pending := l.pending.abandon serial } buffer)
  | deliver {l serial flow todo buffer took} (waits : serial ∈ l.pending.waiting) :
      PumpAsks (.reading l ((serial, .started flow) :: todo) buffer) (.reply serial (.ok flow)) took
        (.reading (l.act serial (.started flow) (l.pending.started serial).1
          (if took then [] else [(serial, flow)])) todo buffer)
  | refuse {l serial e todo buffer took} (waits : serial ∈ l.pending.waiting) :
      PumpAsks (.reading l ((serial, .failed e) :: todo) buffer) (.reply serial (.error e)) took
        (.reading (l.act serial (.failed e) (l.pending.failed serial).1 []) todo buffer)
  | stopAll {l buffer bytes} (frames : StopFrames bytes l.found) :
      PumpAsks (.reading l [] buffer) (.write bytes) (.ok ())
        (.idle { l with written := l.written ++ l.found, found := [] } buffer)
  | fail {φ bytes reason} : PumpAsks φ (.write bytes) (.error reason) .ended
  | ended {r answer} (last : Busy r) : PumpAsks .ended r answer .ended

/-- The moves of the pump. -/
def PumpMove : Moves Pump.Interface PumpPhase :=
  fun φ r answer ψ => ∃ φ', Relation.ReflTransGen Inner φ φ' ∧ PumpAsks φ' r answer ψ

/-! ## The call keeps to its protocol -/

open Program

theorem awaitFlow_follows (serial : UInt32) (timeout : Seconds) :
    (Player.awaitFlow serial timeout).Follows CallerMove (fun φ result => φ = .leaving result)
      (.waiting serial) := by
  intro first
  cases first with
  | answered reply => exact ⟨_, .answered, Follows.done rfl⟩
  | forsaken => exact ⟨_, .forsaken, Follows.done rfl⟩
  | timedOut =>
    refine ⟨_, .timedOut, fun taken => ⟨_, .abandon, fun second => ?_⟩⟩
    cases second with
    | answered reply => exact ⟨_, .answeredAgain, Follows.done rfl⟩
    | forsaken => exact ⟨_, .unanswered nofun, Follows.done rfl⟩
    | timedOut => exact ⟨_, .unanswered nofun, Follows.done rfl⟩

/-- **The call keeps to its protocol.** -/
theorem startFlow_follows (request : Flow.Request) (timeout : Seconds) :
    (Player.startFlow request timeout).Follows CallerMove CallerEnds .entered := by
  have drawn : Player.drawSerial.Follows CallerMove (fun φ n => φ = .drawn n) .entered := by
    refine drawSerial_follows ?_ Pump.serialAttempts
    intro n
    by_cases zero : n = 0
    · subst zero
      exact ⟨.entered, .zero, Follows.done (by rw [if_pos rfl])⟩
    · exact ⟨.drawn n, .draw zero, Follows.done (by rw [if_neg zero])⟩
  refine Follows.bind drawn ?_
  rintro _ serial rfl taken
  cases taken with
  | false => exact ⟨_, .closed, Follows.done rfl⟩
  | true =>
    refine ⟨_, .start, ?_⟩
    simp only [done_bind, ↓reduceIte]
    refine Follows.bind (awaitFlow_follows serial timeout) ?_
    rintro _ result rfl
    exact fun _ => ⟨_, .forget, Follows.done rfl⟩

/-! ## The pump keeps to its protocol -/

section

variable {α : Type} {p : Program Pump.Interface α} {ends : PumpPhase → α → Prop} {φ φ' : PumpPhase}
  {l : Ledger} {buffer : List UInt8} {todo : List (UInt32 × Event)} {serial : UInt32}

/-- What the pump asks after some inner steps, it may ask before them. -/
theorem Follows.inner (inner : Relation.ReflTransGen Inner φ φ') (closed : ∀ a, ends φ' a → ends φ a)
    (follows : p.Follows PumpMove ends φ') : p.Follows PumpMove ends φ := by
  cases p with
  | done a => exact closed a follows
  | unfinished => trivial
  | ask r next =>
    intro answer
    obtain ⟨ψ, ⟨φ'', more, asks⟩, later⟩ := follows answer
    exact ⟨ψ, ⟨φ'', inner.trans more, asks⟩, later⟩

theorem PumpAsks.move {r : Pump.Request} {answer : r.Answer} {ψ : PumpPhase}
    (asks : PumpAsks φ r answer ψ) : PumpMove φ r answer ψ := ⟨φ, .refl, asks⟩

/-- A line in the log changes nothing. -/
theorem Follows.logged {line : Line} {next : Unit → Program Pump.Interface α}
    (rest : ∀ answer, (next answer).Follows PumpMove ends φ) :
    (Program.ask (I := Pump.Interface) (.log line) next).Follows PumpMove ends φ :=
  Follows.stay (fun _ => PumpAsks.log.move) rest

theorem report_follows (serial : UInt32) (e : ServerError) :
    (Pump.report serial e).Follows PumpMove (fun ψ _ => ψ = φ) φ := by
  refine Follows.logged fun _ => ?_
  refine Follows.logged fun _ => ?_
  refine Follows.logged fun _ => ?_
  refine Follows.logged fun _ => ?_
  refine Follows.logged fun _ => ?_
  exact Follows.logged fun _ => Follows.done rfl

/-- An event has been acted on, with this outcome: the phase is, inner steps apart, the next one. -/
def ActedOn (l : Ledger) (serial : UInt32) (event : Event) (todo : List (UInt32 × Event))
    (buffer : List UInt8) (φ : PumpPhase) (outcome : Pending × Option UInt32) : Prop :=
  Relation.ReflTransGen Inner φ
    (.reading (l.act serial event outcome.1 (outcome.2.toList.map (serial, ·))) todo buffer)

theorem handle_follows (l : Ledger) (serial : UInt32) (event : Event) (todo : List (UInt32 × Event))
    (buffer : List UInt8) :
    (Pump.handle l.pending serial event).Follows PumpMove (ActedOn l serial event todo buffer)
      (.reading l ((serial, event) :: todo) buffer) := by
  cases event with
  | started flow =>
    refine Follows.logged fun _ => ?_
    by_cases waits : serial ∈ l.pending.waiting
    · rw [Pending.started_of_waiting waits]
      intro took
      refine ⟨_, (PumpAsks.deliver waits).move, Follows.done ?_⟩
      rw [Pending.started_of_waiting waits]
      cases took <;> exact .refl
    · by_cases abandoned : serial ∈ l.pending.abandoned
      · have inner : Inner (.reading l ((serial, .started flow) :: todo) buffer) _ := .orphan waits abandoned
        rw [Pending.started_of_abandoned waits abandoned] at inner ⊢
        exact Follows.done (.single inner)
      · rw [Pending.started_of_unknown waits abandoned]
        exact Follows.done (.single (.unknown waits abandoned))
  | done flow =>
    exact Follows.logged fun _ => Follows.done (.single .done)
  | failed e =>
    refine Follows.bind (report_follows serial e) ?_
    rintro _ _ rfl
    by_cases waits : serial ∈ l.pending.waiting
    · simp only [Pending.failed, waits, decide_true, ↓reduceIte]
      exact fun took => ⟨_, (PumpAsks.refuse waits).move, Follows.done .refl⟩
    · simp only [Pending.failed, waits, decide_false, Bool.false_eq_true, ↓reduceIte]
      exact Follows.done (.single (.failed waits))

/-- All events of a reading. -/
theorem handleAll_follows (messages : List (UInt32 × Event)) (l : Ledger) (buffer : List UInt8) :
    (Pump.handleAll l.pending messages).Follows PumpMove
      (fun φ outcome => ∃ (l' : Ledger) (orphans : List (UInt32 × UInt32)),
        Relation.ReflTransGen Inner φ (.reading l' [] buffer) ∧ l'.pending = outcome.1 ∧
          l'.found = l.found ++ orphans ∧ outcome.2 = orphans.map Prod.snd)
      (.reading l messages buffer) := by
  induction messages generalizing l with
  | nil => exact Follows.done ⟨l, [], .refl, rfl, (List.append_nil _).symm, rfl⟩
  | cons message rest ih =>
    obtain ⟨serial, event⟩ := message
    refine Follows.bind (handle_follows l serial event rest buffer) ?_
    rintro φ ⟨pending, orphan⟩ acted
    have others := ih (l.act serial event pending (orphan.toList.map (serial, ·)))
    refine Follows.bind (Follows.inner acted ?_ others) ?_
    · rintro outcome ⟨l', orphans, inner, same⟩
      exact ⟨l', orphans, acted.trans inner, same⟩
    · rintro ψ outcome ⟨l', orphans, inner, samePending, found, flows⟩
      refine Follows.done ⟨l', orphan.toList.map (serial, ·) ++ orphans, inner, samePending, ?_, ?_⟩
      · rw [found, Ledger.act, List.append_assoc]
      · rw [flows, List.map_append, List.map_map]
        exact congrArg (· ++ orphans.map Prod.snd) (List.map_id _).symm

theorem stopOrphans_follows (flows : List UInt32) :
    (Pump.stopOrphans flows).Follows PumpMove
      (fun ψ bytes => ψ = φ ∧ ∃ requests : List (UInt32 × Flow.Request),
        bytes = encodeRequests requests ∧ requests.map Prod.snd = flows.map .stop) φ := by
  induction flows with
  | nil => exact Follows.done ⟨rfl, [], rfl, rfl⟩
  | cons flow rest ih =>
    have drawn : (Pump.drawSerial Pump.addSerial Pump.serialAttempts).Follows PumpMove (fun ψ _ => ψ = φ) φ := by
      refine drawSerial_follows ?_ _
      refine Follows.stay (fun _ => PumpAsks.addSerial.move) fun n => Follows.done ?_
      split <;> rfl
    refine Follows.logged fun _ => ?_
    simp only [done_bind]
    refine Follows.bind drawn ?_
    rintro _ serial rfl
    refine Follows.bind ih ?_
    rintro _ bytes ⟨rfl, requests, rfl, same⟩
    refine Follows.done ⟨rfl, (serial, .stop flow) :: requests, rfl, ?_⟩
    rw [List.map_cons, List.map_cons, same]

/-- How a round ends: the pump goes on, inner steps apart idle, or it ends. -/
def After (φ : PumpPhase) : Pump.Next → Prop
  | .goOn s =>
    ∃ l : Ledger, l.found = [] ∧ l.pending = s.pending ∧ Relation.ReflTransGen Inner φ (.idle l s.buffer)
  | .finish _ => Relation.ReflTransGen Inner φ .ended

theorem After.inner {next : Pump.Next} (inner : Relation.ReflTransGen Inner φ φ') (after : After φ' next) :
    After φ next := by
  cases next with
  | goOn s =>
    obtain ⟨l, settled, pending, more⟩ := after
    exact ⟨l, settled, pending, inner.trans more⟩
  | finish s => exact inner.trans after

theorem send_follows {bytes : List UInt8} {s : Pump.State} (none : l.found = [])
    (pending : l.pending = s.pending) (written : PumpAsks φ (.write bytes) (.ok ()) (.idle l s.buffer)) :
    (Pump.send s bytes).Follows PumpMove After φ := by
  intro result
  cases result with
  | ok _ => exact ⟨_, written.move, Follows.done ⟨l, none, pending, .refl⟩⟩
  | error reason =>
    exact ⟨.ended, PumpAsks.fail.move, Follows.logged fun _ => Follows.done .refl⟩

/-- Whatever does not ask for something to do may follow the end. -/
theorem ended_follows (quiet : p.Asks Busy) : p.Follows PumpMove (fun ψ _ => ψ = .ended) .ended := by
  induction p with
  | done a => exact Follows.done rfl
  | unfinished => trivial
  | ask r next ih =>
    intro answer
    exact ⟨.ended, (PumpAsks.ended quiet.1).move, ih answer (quiet.2 answer)⟩

theorem handle_asks (pending : Pending) (serial : UInt32) (event : Event) :
    (Pump.handle pending serial event).Asks Busy := by
  cases event with
  | started flow =>
    refine ⟨nofun, fun _ => ?_⟩
    simp only [done_bind]
    split
    · exact ⟨nofun, fun _ => trivial⟩
    · trivial
    · trivial
  | done flow => exact ⟨nofun, fun _ => trivial⟩
  | failed e =>
    have reported : (Pump.report serial e).Asks Busy := by
      simp [Pump.report, Program.Asks, Busy]
    refine Asks.bind reported fun _ => ?_
    by_cases waits : serial ∈ pending.waiting
    · simp only [Pending.failed, waits, decide_true, ↓reduceIte]
      exact ⟨nofun, fun _ => trivial⟩
    · simp only [Pending.failed, waits, decide_false, Bool.false_eq_true, ↓reduceIte]
      trivial

theorem handleAll_asks (messages : List (UInt32 × Event)) (pending : Pending) :
    (Pump.handleAll pending messages).Asks Busy := by
  induction messages generalizing pending with
  | nil => trivial
  | cons message rest ih =>
    exact Asks.bind (handle_asks pending message.1 message.2) fun outcome =>
      Asks.bind (ih outcome.1) fun _ => trivial

theorem forsakeAll_asks (serials : List UInt32) : (Pump.forsakeAll serials).Asks Busy := by
  induction serials with
  | nil => trivial
  | cons serial rest ih => exact ⟨nofun, fun _ => ih⟩

theorem receive_follows (l : Ledger) (settled : l.found = []) (buffer bytes : List UInt8) :
    ∃ φ, PumpMove (.idle l buffer) .next (.received bytes) φ ∧
      (Pump.receive ⟨buffer, l.pending⟩ bytes).Follows PumpMove After φ := by
  cases fault : (takeEvents (buffer ++ bytes)).fault with
  | none =>
    refine ⟨_, (PumpAsks.read fault).move, ?_⟩
    refine Follows.bind (handleAll_follows _ l _) ?_
    rintro φ ⟨_, _⟩ ⟨l', orphans, inner, rfl, found, rfl⟩
    rw [settled, List.nil_append] at found
    subst found
    simp only [fault]
    cases empty : l'.found with
    | nil =>
      exact Follows.done ⟨l', empty, rfl, inner.tail (.acted empty)⟩
    | cons orphan rest =>
      rw [← empty]
      have some : ¬ (l'.found.map Prod.snd).isEmpty := by simp [empty]
      simp only [some]
      refine Follows.bind (stopOrphans_follows _) ?_
      rintro _ stops ⟨rfl, requests, rfl, same⟩
      refine Follows.inner inner (fun _ => After.inner inner) ?_
      refine send_follows (l := { l' with written := l'.written ++ l'.found, found := [] }) rfl rfl ?_
      exact .stopAll ⟨requests, rfl, by rw [same, List.map_map]; rfl⟩
  | some reason =>
    refine ⟨.ended, (PumpAsks.misread (by rw [fault]; nofun)).move, ?_⟩
    have quiet := ended_follows (handleAll_asks (takeEvents (buffer ++ bytes)).messages l.pending)
    refine Follows.bind quiet ?_
    rintro _ outcome rfl
    simp only [fault]
    exact Follows.logged fun _ => Follows.done .refl

theorem obey_follows (l : Ledger) (settled : l.found = []) (buffer : List UInt8) (order : Pump.Order) :
    ∃ φ, PumpMove (.idle l buffer) .next (.order order) φ ∧
      (Pump.obey ⟨buffer, l.pending⟩ order).Follows PumpMove After φ := by
  cases order with
  | start serial request =>
    refine ⟨_, PumpAsks.start.move, ?_⟩
    exact send_follows (l := { l with pending := l.pending.expect serial }) settled rfl .send
  | stop serial flow => exact ⟨_, PumpAsks.stop.move, send_follows settled rfl .send⟩
  | abandon serial =>
    refine ⟨_, PumpAsks.abandon.move, ?_⟩
    refine Follows.logged fun _ => ?_
    by_cases waits : serial ∈ l.pending.waiting
    · simp only [done_bind, if_pos waits]
      refine fun _ => ⟨_, (PumpAsks.forsake waits).move, Follows.done ?_⟩
      exact ⟨{ l with pending := l.pending.abandon serial }, settled, rfl, .refl⟩
    · simp only [done_bind, if_neg waits, Pending.abandon_of_not_mem waits]
      exact Follows.done ⟨l, settled, rfl, .single (.known waits)⟩

theorem step_follows (l : Ledger) (settled : l.found = []) (buffer : List UInt8) (input : Pump.Input) :
    ∃ φ, PumpMove (.idle l buffer) .next input φ ∧
      (Pump.step ⟨buffer, l.pending⟩ input).Follows PumpMove After φ := by
  have leaving (severity : Severity) (text : String) (s : Pump.State) :
      ((Pump.log severity text).bind fun _ => .done (.finish s)).Follows PumpMove After .ended :=
    Follows.logged fun _ => Follows.done .refl
  cases input with
  | shutdown => exact ⟨.ended, PumpAsks.shutdown.move, Follows.done .refl⟩
  | noOrders => exact ⟨.ended, PumpAsks.noOrders.move, Follows.done .refl⟩
  | order order => exact obey_follows l settled buffer order
  | received bytes => exact receive_follows l settled buffer bytes
  | closed => exact ⟨.ended, PumpAsks.closed.move, leaving _ _ _⟩
  | readFailed reason => exact ⟨.ended, PumpAsks.readFailed.move, leaving _ _ _⟩

theorem loop_follows (rounds : Nat) (l : Ledger) (settled : l.found = []) (buffer : List UInt8) :
    (Pump.loop rounds ⟨buffer, l.pending⟩).Follows PumpMove (fun _ _ => True) (.idle l buffer) := by
  induction rounds generalizing l buffer with
  | zero => trivial
  | succ rounds ih =>
    intro input
    obtain ⟨φ, move, follows⟩ := step_follows l settled buffer input
    refine ⟨φ, move, ?_⟩
    simp only [done_bind]
    refine Follows.bind follows ?_
    rintro ψ (s | s) after
    · obtain ⟨l', settled', pending, inner⟩ := after
      have further := ih l' settled' s.buffer
      rw [pending] at further
      exact Follows.inner inner (fun _ _ => trivial) further
    · refine Follows.inner after (fun _ _ => trivial) ?_
      refine Follows.bind (ended_follows (forsakeAll_asks s.pending.waiting)) ?_
      rintro _ _ rfl
      exact Follows.logged fun _ => trivial

/-- **The pump keeps to its protocol.** -/
theorem pump_follows (rounds : Nat) :
    (Pump.run rounds).Follows PumpMove (fun _ _ => True) (.idle {} []) :=
  Follows.logged fun _ => loop_follows rounds {} rfl []

end

end Playout.Flow.Handover
