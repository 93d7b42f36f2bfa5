import Playout.Proofs.Flow.HandoverProtocol

/-!
# `Playout.Proofs.Flow.HandoverInvariant` — where a request stands

Until it is answered, a request has not been taken yet, is waited for, is remembered as abandoned, or has been
forgotten because too many others were abandoned after it. Once its flow has been started, the flow waits in
the channel, has been received, has been found an orphan, or is lost.

## Contents
- `answersTo`, `startedIn` — what events say of requests.
- `CallerInv` — the orders and waits of the call.
- `Place`, `Unanswered`, `Settled`, `Account`, `PumpInv` — the request from the pump's side.
- `CallerInv.caller`, `CallerInv.pump` — every move keeps the call's part.
- `PumpStands.caller` — every move of the call keeps the pump's part.
-/

namespace Playout.Flow.Handover

/-! ## What events say of requests -/

/-- Whether an event answers its request. -/
def IsAnswer : Event → Bool
  | .started _ | .failed _ => true
  | .done _ => false

/-- The answers to a request among some events, in order. -/
def answersTo (serial : UInt32) (events : List (UInt32 × Event)) : List Event :=
  (events.filter fun message => message.1 == serial && IsAnswer message.2).map Prod.snd

/-- The flows started among some events, with their requests, in order. -/
def startedIn (events : List (UInt32 × Event)) : List (UInt32 × UInt32) :=
  events.filterMap fun message =>
    match message.2 with
    | .started flow => some (message.1, flow)
    | .done _ | .failed _ => none

/-! ## The invariant -/

variable {serial : UInt32} {s s' : Shared} {l : Ledger} {p p' : Pending}

/-- The order to start has been given, and no other. -/
def Asked (serial : UInt32) (s : Shared) : Prop :=
  (s.started = false ∧ ∃ request, s.orders = [.start serial request]) ∨ (s.started = true ∧ s.orders = [])

/-- The order to start has been given, and perhaps that to abandon the request. -/
def Queued (serial : UInt32) (s : Shared) : Prop :=
  (s.started = false ∧
    ∃ request, s.orders = [.start serial request] ∨ s.orders = [.start serial request, .abandon serial]) ∨
  (s.started = true ∧ (s.orders = [] ∨ s.orders = [.abandon serial]))

/-- The receiver is there, nothing has been received, and so many waits have ended. -/
def Open (s : Shared) (waits : Nat) : Prop := s.dropped = false ∧ s.took = none ∧ s.waits = waits

/-- The call's result is the flow that it has received, if any. -/
def Receives (s : Shared) (result : Except PlayError UInt32) : Prop :=
  ∀ flow, result = .ok flow ↔ s.took = some (.ok flow)

/-- What is known of the call in each phase. -/
def CallerInv (serial : UInt32) (s : Shared) : CallerPhase → Prop
  | .entered => s.started = false ∧ s.orders = [] ∧ Open s 0
  | .drawn n => n = serial ∧ s.started = false ∧ s.orders = [] ∧ Open s 0
  | .waiting n => n = serial ∧ Asked serial s ∧ Open s 0
  | .givingUp n => n = serial ∧ Asked serial s ∧ Open s 1
  | .waitingAgain n => n = serial ∧ Queued serial s ∧ Open s 1
  | .leaving result =>
    Queued serial s ∧ s.dropped = false ∧ Receives s result ∧
      (s.took = none → s.waits = 2 ∨ s.forsaken = true)
  | .finished result => Queued serial s ∧ s.dropped = true ∧ Receives s result
  | .gone => Queued serial s ∧ s.dropped = true

/-- The request is remembered as abandoned, and not more than `others` have been abandoned after it. -/
def Recent (serial : UInt32) (others : Nat) (abandoned : List UInt32) : Prop :=
  ∃ before after, abandoned = before ++ serial :: after ∧ after.length ≤ others

/-- Where a request stands that has not been answered. -/
inductive Place (serial : UInt32) (s : Shared) (p : Pending) : Prop where
  | untaken (started : s.started = false) (forsaken : s.forsaken = false) (idle : serial ∉ p.waiting)
      (unknown : serial ∉ p.abandoned)
  | waiting (started : s.started = true) (forsaken : s.forsaken = false) (waits : serial ∈ p.waiting)
  | abandoned (started : s.started = true) (forsaken : s.forsaken = true) (idle : serial ∉ p.waiting)
      (recent : Recent serial s.others p.abandoned)
  | forgotten (started : s.started = true) (forsaken : s.forsaken = true) (idle : serial ∉ p.waiting)
      (many : Pending.abandonedLimit ≤ s.others)

/-- Nothing has come of the request yet. -/
structure Unanswered (serial : UInt32) (s : Shared) (p : Pending) : Prop where
  slot : s.slot = none
  took : s.took = none
  late : s.late = false
  place : Place serial s p

/-- The flow was started before the pump took the order to start. -/
def Early (serial : UInt32) (s : Shared) (flow : UInt32) : Prop :=
  (serial, .started flow) ∈ (takeEvents s.early).messages

/-- What has become of the flow that was started for the request: it came before the request was known; it
    waits in the channel; it has been received; it was put into the channel too late and is lost; it is an
    orphan; or the request had been forgotten. -/
inductive Settled (serial : UInt32) (s : Shared) (l : Ledger) (flow : UInt32) : Prop where
  | early (early : Early serial s flow) (slot : s.slot = none) (took : s.took = none) (late : s.late = false)
      (kept : (serial, flow) ∉ l.written ++ l.found)
  | buffered (started : s.started = true) (asked : ¬ Early serial s flow) (slot : s.slot = some (.ok flow))
      (here : s.dropped = false) (took : s.took = none) (late : s.late = true ↔ s.waits = 2)
      (forsaken : s.forsaken = false) (idle : serial ∉ l.pending.waiting)
      (kept : (serial, flow) ∉ l.written ++ l.found)
  | received (started : s.started = true) (asked : ¬ Early serial s flow) (slot : s.slot = none)
      (took : s.took = some (.ok flow)) (late : s.late = false) (kept : (serial, flow) ∉ l.written ++ l.found)
  | lost (started : s.started = true) (asked : ¬ Early serial s flow) (slot : s.slot = none)
      (took : s.took = none) (late : s.late = true) (kept : (serial, flow) ∉ l.written ++ l.found)
  | orphan (started : s.started = true) (asked : ¬ Early serial s flow) (slot : s.slot = none)
      (took : s.took = none) (late : s.late = false) (found : (serial, flow) ∈ l.written ++ l.found)
  | forgotten (many : Pending.abandonedLimit ≤ s.others)

/-- The account of the request. Of a server that answers it more than once nothing is claimed. -/
structure Account (serial : UInt32) (s : Shared) (l : Ledger) : Prop where
  unanswered : answersTo serial l.acted = [] → Unanswered serial s l.pending
  settled : ∀ flow, answersTo serial l.acted = [.started flow] → Settled serial s l flow

/-- What is known of the pump, with the events that it is about to act on. -/
structure PumpInv (serial : UInt32) (s : Shared) (l : Ledger) (todo : List (UInt32 × Event))
    (buffer : List UInt8) : Prop where
  stream : takeEvents s.received = ⟨l.acted ++ todo, none, buffer⟩
  stops : StopFrames s.stops l.written
  orphans : (l.written ++ l.found).Sublist (startedIn l.acted)
  nodup : l.pending.waiting.Nodup
  untaken : s.started = false → s.early = s.received
  taken : s.started = true → (takeEvents s.early).messages <+: l.acted
  account : Account serial s l

/-- What is known of the pump in each phase. -/
def PumpStands (serial : UInt32) (s : Shared) : PumpPhase → Prop
  | .idle l buffer => l.found = [] ∧ PumpInv serial s l [] buffer
  | .obeying l buffer => s.reading = false ∧ l.found = [] ∧ PumpInv serial s l [] buffer
  | .abandoning l _ buffer => l.found = [] ∧ PumpInv serial s l [] buffer
  | .reading l todo buffer => s.reading = true ∧ PumpInv serial s l todo buffer
  | .ended => True

/-! ### What replies and abandoning come to -/

section

variable {other : UInt32} {reply : Pump.Reply} {took : Bool} {u : Unit}

theorem reply_self (h : pumpAnswers serial (.reply serial reply) s took s') :
    took = !s.dropped ∧
      s' = if s.dropped then s else { s with slot := some reply, late := decide (s.waits = 2) } := by
  simpa [pumpAnswers] using h

theorem reply_other (foreign : other ≠ serial) (h : pumpAnswers serial (.reply other reply) s took s') :
    s' = s := by
  simpa [pumpAnswers, foreign] using h

theorem reply_reading (h : pumpAnswers serial (.reply other reply) s took s') : s'.reading = s.reading := by
  by_cases same : other = serial
  · subst same
    rw [(reply_self h).2]
    split <;> rfl
  · rw [reply_other same h]

theorem forsake_self (h : pumpAnswers serial (.forsake serial) s u s') : s' = { s with forsaken := true } := by
  simpa [pumpAnswers] using h

theorem forsake_other (foreign : other ≠ serial) (h : pumpAnswers serial (.forsake other) s u s') :
    s' = if s.forsaken then { s with others := s.others + 1 } else s := by
  simpa [pumpAnswers, foreign] using h

end

/-! ## The start -/

theorem caller_start : CallerInv serial {} .entered := ⟨rfl, rfl, rfl, rfl, rfl⟩

theorem pump_start : PumpStands serial {} (.idle {} []) := by
  refine ⟨rfl, ?_⟩
  constructor
  · exact takeAll_nil _
  · exact ⟨[], rfl, rfl⟩
  · exact List.Sublist.refl []
  · exact List.nodup_nil
  · exact fun _ => rfl
  · exact nofun
  · exact ⟨fun _ => ⟨rfl, rfl, rfl, .untaken rfl rfl List.not_mem_nil List.not_mem_nil⟩, nofun⟩

/-! ## The call's part -/

variable {c c' : CallerPhase}

theorem Asked.queued (h : Asked serial s) : Queued serial s := by
  rcases h with ⟨fresh, request, only⟩ | ⟨started, empty⟩
  · exact Or.inl ⟨fresh, request, Or.inl only⟩
  · exact Or.inr ⟨started, Or.inl empty⟩

theorem receives_flowOf {reply : Pump.Reply} {slot : Option Pump.Reply} {waits : Nat} :
    Receives { s with slot, took := some reply, waits } (Player.flowOf reply) := by
  intro flow
  cases reply with
  | ok f => simp [Player.flowOf]
  | error e => simp [Player.flowOf]

theorem receives_error {e : PlayError} (none : s.took = none) : Receives s (.error e) := by
  intro flow
  rw [none]
  exact ⟨nofun, nofun⟩

/-- Every move of the call keeps its part. -/
theorem CallerInv.caller {r : Player.Request} {answer : r.Answer} (h : CallerInv serial s c)
    (move : CallerMove c r answer c') (answered : callerAnswers serial r s answer s') :
    CallerInv serial s' c' := by
  cases move with
  | zero =>
    obtain ⟨_, rfl⟩ := answered
    exact h
  | draw nonzero =>
    obtain ⟨drawn, rfl⟩ := answered
    exact ⟨drawn.resolve_left nonzero, h⟩
  | start =>
    obtain ⟨rfl, fresh, empty, unopened⟩ := h
    obtain ⟨_, rfl⟩ := answered
    exact ⟨rfl, Or.inl ⟨fresh, _, by rw [empty, List.nil_append]⟩, unopened⟩
  | closed =>
    obtain ⟨taken, _⟩ := answered
    cases taken
  | answered =>
    obtain ⟨_, asked, here, _, _⟩ := h
    cases answered
    exact ⟨Asked.queued asked, here, receives_flowOf, nofun⟩
  | forsaken =>
    obtain ⟨_, asked, here, none, _⟩ := h
    cases answered with
    | forsaken _ closed =>
      exact ⟨Asked.queued asked, here, receives_error none, fun _ => Or.inr closed⟩
  | timedOut =>
    obtain ⟨same, asked, here, none, waits⟩ := h
    cases answered
    exact ⟨same, asked, here, none, congrArg (· + 1) waits⟩
  | abandon =>
    obtain ⟨rfl, asked, unopened⟩ := h
    obtain ⟨_, rfl⟩ := answered
    refine ⟨rfl, ?_, unopened⟩
    rcases asked with ⟨fresh, request, only⟩ | ⟨started, empty⟩
    · exact Or.inl ⟨fresh, request, Or.inr (by rw [only]; rfl)⟩
    · exact Or.inr ⟨started, Or.inr (by rw [empty]; rfl)⟩
  | answeredAgain =>
    obtain ⟨_, queued, here, _, _⟩ := h
    cases answered
    exact ⟨queued, here, receives_flowOf, nofun⟩
  | unanswered none =>
    obtain ⟨_, queued, here, nothing, waits⟩ := h
    cases answered with
    | answered => exact absurd rfl (none _)
    | timedOut => exact ⟨queued, here, receives_error nothing, fun _ => Or.inl (congrArg (· + 1) waits)⟩
    | forsaken => exact ⟨queued, here, receives_error nothing, fun _ => Or.inl (congrArg (· + 1) waits)⟩
  | forget =>
    obtain ⟨queued, _, receives, _⟩ := h
    cases answered
    exact ⟨queued, rfl, receives⟩

/-- The pump's moves do not touch what the call knows, but for the orders that it takes. -/
theorem CallerInv.same (h : CallerInv serial s c) (started : s'.started = s.started)
    (orders : s'.orders = s.orders) (dropped : s'.dropped = s.dropped) (took : s'.took = s.took)
    (waits : s'.waits = s.waits) (forsaken : s.forsaken = true → s'.forsaken = true) :
    CallerInv serial s' c := by
  have asked (before : Asked serial s) : Asked serial s' := by
    unfold Asked
    rw [started, orders]
    exact before
  have queued (before : Queued serial s) : Queued serial s' := by
    unfold Queued
    rw [started, orders]
    exact before
  have still {n : Nat} (before : Open s n) : Open s' n := by
    unfold Open
    rw [dropped, took, waits]
    exact before
  have receives {result : Except PlayError UInt32} (before : Receives s result) : Receives s' result := by
    unfold Receives
    rw [took]
    exact before
  cases c with
  | entered => exact ⟨started.trans h.1, orders.trans h.2.1, still h.2.2⟩
  | drawn n => exact ⟨h.1, started.trans h.2.1, orders.trans h.2.2.1, still h.2.2.2⟩
  | waiting n => exact ⟨h.1, asked h.2.1, still h.2.2⟩
  | givingUp n => exact ⟨h.1, asked h.2.1, still h.2.2⟩
  | waitingAgain n => exact ⟨h.1, queued h.2.1, still h.2.2⟩
  | leaving result =>
    refine ⟨queued h.1, dropped.trans h.2.1, receives h.2.2.1, fun none => ?_⟩
    rw [waits]
    exact (h.2.2.2 (took.symm.trans none)).imp_right forsaken
  | finished result => exact ⟨queued h.1, dropped.trans h.2.1, receives h.2.2⟩
  | gone => exact ⟨queued h.1, dropped.trans h.2⟩

variable {rest : List Pump.Order} {request : Flow.Request}

/-- The state once the pump has taken an order of the call. -/
def Shared.take (s : Shared) (rest : List Pump.Order) (started : Bool) : Shared :=
  { s with orders := rest, started, reading := false }

theorem Asked.start (h : Asked serial s) (first : s.orders = .start serial request :: rest) :
    Asked serial (s.take rest true) := by
  rcases h with ⟨_, request', only⟩ | ⟨_, empty⟩
  · rw [only] at first
    cases first
    exact Or.inr ⟨rfl, rfl⟩
  · rw [empty] at first
    cases first

theorem Queued.start (h : Queued serial s) (first : s.orders = .start serial request :: rest) :
    Queued serial (s.take rest true) := by
  rcases h with ⟨_, request', only | both⟩ | ⟨_, empty | only⟩
  · rw [only] at first
    cases first
    exact Or.inr ⟨rfl, Or.inl rfl⟩
  · rw [both] at first
    cases first
    exact Or.inr ⟨rfl, Or.inr rfl⟩
  · rw [empty] at first
    cases first
  · rw [only] at first
    cases first

/-- The request is abandoned only after the order to start it has been taken. -/
theorem Queued.abandon (h : Queued serial s) (first : s.orders = .abandon serial :: rest) :
    s.started = true ∧ Queued serial (s.take rest s.started) := by
  rcases h with ⟨_, request', only | both⟩ | ⟨started, empty | only⟩
  · rw [only] at first
    cases first
  · rw [both] at first
    cases first
  · rw [empty] at first
    cases first
  · rw [only] at first
    cases first
    exact ⟨started, Or.inr ⟨started, Or.inl rfl⟩⟩

/-- The pump's taking of an order keeps the call's part. -/
theorem CallerInv.take {started : Bool} (h : CallerInv serial s c)
    (given : s.orders ≠ []) (asked : Asked serial s → Asked serial (s.take rest started))
    (queued : Queued serial s → Queued serial (s.take rest started)) :
    CallerInv serial (s.take rest started) c := by
  cases c with
  | entered => exact absurd h.2.1 given
  | drawn n => exact absurd h.2.2.1 given
  | waiting n => exact ⟨h.1, asked h.2.1, h.2.2⟩
  | givingUp n => exact ⟨h.1, asked h.2.1, h.2.2⟩
  | waitingAgain n => exact ⟨h.1, queued h.2.1, h.2.2⟩
  | leaving result => exact ⟨queued h.1, h.2⟩
  | finished result => exact ⟨queued h.1, h.2⟩
  | gone => exact ⟨queued h.1, h.2⟩

/-- Every move of the pump keeps the call's part. -/
theorem CallerInv.pump {r : Pump.Request} {answer : r.Answer} (h : CallerInv serial s c)
    (answered : pumpAnswers serial r s answer s') : CallerInv serial s' c := by
  cases r with
  | log line =>
    cases answered
    exact h
  | addSerial =>
    cases answered
    exact h
  | next =>
    cases answered with
    | start first =>
      exact h.take (by rw [first]; nofun) (fun asked => asked.start first) fun queued => queued.start first
    | abandon first =>
      refine h.take (by rw [first]; nofun) ?_ fun queued => (queued.abandon first).2
      rintro (⟨_, request, only⟩ | ⟨_, empty⟩)
      · rw [only] at first
        cases first
      · rw [empty] at first
        cases first
    | other => exact h.same rfl rfl rfl rfl rfl id
    | received => exact h.same rfl rfl rfl rfl rfl id
  | reply other reply =>
    by_cases same : other = serial
    · subst same
      obtain ⟨_, rfl⟩ := reply_self answered
      split
      · exact h
      · exact h.same rfl rfl rfl rfl rfl id
    · rw [reply_other same answered]
      exact h
  | forsake other =>
    by_cases same : other = serial
    · subst same
      rw [forsake_self answered]
      exact h.same rfl rfl rfl rfl rfl fun _ => rfl
    · rw [forsake_other same answered]
      split
      · exact h.same rfl rfl rfl rfl rfl id
      · exact h
  | write bytes =>
    obtain ⟨_, rfl⟩ := answered
    split
    · exact h.same rfl rfl rfl rfl rfl id
    · exact h

/-! ## The pump's part, when the call moves -/

variable {flow : UInt32} {φ : PumpPhase} {todo : List (UInt32 × Event)} {buffer : List UInt8}

theorem Place.same (h : Place serial s p) (started : s'.started = s.started)
    (forsaken : s'.forsaken = s.forsaken) (others : s'.others = s.others) : Place serial s' p := by
  cases h with
  | untaken fresh unclosed idle unknown =>
    exact .untaken (started.trans fresh) (forsaken.trans unclosed) idle unknown
  | waiting known unclosed waits => exact .waiting (started.trans known) (forsaken.trans unclosed) waits
  | abandoned known closed idle recent =>
    exact .abandoned (started.trans known) (forsaken.trans closed) idle (by rw [others]; exact recent)
  | forgotten known closed idle many =>
    exact .forgotten (started.trans known) (forsaken.trans closed) idle (by rw [others]; exact many)

/-- To a flow that has been started, one shared state is as good as another. -/
structure Alike (s s' : Shared) : Prop where
  started : s'.started = s.started
  early : s'.early = s.early
  slot : s'.slot = s.slot
  dropped : s'.dropped = s.dropped
  waits : s'.waits = s.waits
  took : s'.took = s.took
  late : s'.late = s.late

/-- What has become of a started flow stays so, whatever becomes of other requests. A flow that waits in the
    channel has to stay unabandoned. -/
theorem Settled.keep {l' : Ledger} (h : Settled serial s l flow) (alike : Alike s s')
    (others : s.others ≤ s'.others)
    (idle : serial ∉ l.pending.waiting → s'.forsaken = s.forsaken ∧ serial ∉ l'.pending.waiting)
    (orphans : (serial, flow) ∈ l'.written ++ l'.found ↔ (serial, flow) ∈ l.written ++ l.found) :
    Settled serial s' l' flow := by
  have early : Early serial s' flow ↔ Early serial s flow := by
    unfold Early
    rw [alike.early]
  cases h with
  | early first empty none onTime kept =>
    exact .early (early.mpr first) (alike.slot.trans empty) (alike.took.trans none) (alike.late.trans onTime)
      (mt orphans.mp kept)
  | buffered known asked full here none tardy unclosed notWaiting kept =>
    obtain ⟨forsaken, stillIdle⟩ := idle notWaiting
    have tardy : s'.late = true ↔ s'.waits = 2 := by
      rw [alike.late, alike.waits]
      exact tardy
    exact .buffered (alike.started.trans known) (mt early.mp asked) (alike.slot.trans full)
      (alike.dropped.trans here) (alike.took.trans none) tardy (forsaken.trans unclosed) stillIdle
      (mt orphans.mp kept)
  | received known asked empty some onTime kept =>
    exact .received (alike.started.trans known) (mt early.mp asked) (alike.slot.trans empty)
      (alike.took.trans some) (alike.late.trans onTime) (mt orphans.mp kept)
  | lost known asked empty none tardy kept =>
    exact .lost (alike.started.trans known) (mt early.mp asked) (alike.slot.trans empty)
      (alike.took.trans none) (alike.late.trans tardy) (mt orphans.mp kept)
  | orphan known asked empty none onTime found =>
    exact .orphan (alike.started.trans known) (mt early.mp asked) (alike.slot.trans empty)
      (alike.took.trans none) (alike.late.trans onTime) (orphans.mpr found)
  | forgotten many => exact .forgotten (Nat.le_trans many others)

/-- The account reads no other fields. -/
theorem Account.same (h : Account serial s l) (alike : Alike s s') (forsaken : s'.forsaken = s.forsaken)
    (others : s'.others = s.others) : Account serial s' l := by
  constructor
  · intro none
    have h := h.unanswered none
    exact ⟨alike.slot.trans h.slot, alike.took.trans h.took, alike.late.trans h.late,
      h.place.same alike.started forsaken others⟩
  · intro flow only
    exact (h.settled flow only).keep alike (Nat.le_of_eq others.symm) (fun idle => ⟨forsaken, idle⟩) Iff.rfl

/-- A wait that ends, the first or the second. -/
theorem Account.await {waited : Player.Waited} (h : Account serial s l) (none : s.took = none)
    (few : s.waits < 2) (awaited : Awaited s waited s') : Account serial s' l := by
  constructor
  · intro empty
    have h := h.unanswered empty
    cases awaited with
    | answered there =>
      rw [h.slot] at there
      cases there
    | timedOut => exact ⟨h.slot, h.took, h.late, h.place.same rfl rfl rfl⟩
    | forsaken => exact ⟨h.slot, h.took, h.late, h.place.same rfl rfl rfl⟩
  · intro flow only
    have h := h.settled flow only
    cases awaited with
    | answered there =>
      cases h with
      | buffered known asked full here _ tardy unclosed idle kept =>
        rw [full] at there
        cases there
        -- This wait was not over when the reply came, so the second one was not either.
        have onTime : s.late = false := by
          rw [← Bool.not_eq_true, tardy]
          omega
        exact .received known asked rfl rfl onTime kept
      | forgotten many => exact .forgotten many
      | early _ empty | received _ _ empty | lost _ _ empty | orphan _ _ empty =>
        rw [empty] at there
        cases there
    | timedOut empty | forsaken empty =>
      cases h with
      | early first _ none onTime kept => exact .early first empty none onTime kept
      | buffered _ _ full =>
        rw [full] at empty
        cases empty
      | received _ _ _ some =>
        rw [none] at some
        cases some
      | lost known asked _ none tardy kept => exact .lost known asked empty none tardy kept
      | orphan known asked _ none onTime found => exact .orphan known asked empty none onTime found
      | forgotten many => exact .forgotten many

/-- Dropping the receiver loses a flow that has come since the second wait ended. -/
theorem Account.forget (h : Account serial s l)
    (leaving : s.took = none → s.waits = 2 ∨ s.forsaken = true) :
    Account serial { s with dropped := true, slot := none } l := by
  constructor
  · intro empty
    have h := h.unanswered empty
    exact ⟨rfl, h.took, h.late, h.place.same rfl rfl rfl⟩
  · intro flow only
    cases h.settled flow only with
    | early first _ none onTime kept => exact .early first rfl none onTime kept
    | buffered known asked _ _ none tardy unclosed _ kept =>
      -- The pump has not abandoned the request, so the call has given up by itself, after its second wait.
      have ended : s.waits = 2 := by
        rcases leaving none with ended | closed
        · exact ended
        · rw [unclosed] at closed
          cases closed
      exact .lost known asked rfl none (tardy.mpr ended) kept
    | received known asked _ some onTime kept => exact .received known asked rfl some onTime kept
    | lost known asked _ none tardy kept => exact .lost known asked rfl none tardy kept
    | orphan known asked _ none onTime found => exact .orphan known asked rfl none onTime found
    | forgotten many => exact .forgotten many

/-- What matters of the connection stays as it is. -/
theorem PumpInv.update {l' : Ledger} (h : PumpInv serial s l todo buffer) (received : s'.received = s.received)
    (stops : s'.stops = s.stops) (started : s'.started = s.started) (early : s'.early = s.early)
    (acted : l'.acted = l.acted) (written : l'.written = l.written) (found : l'.found = l.found)
    (nodup : l'.pending.waiting.Nodup) (account : Account serial s' l') :
    PumpInv serial s' l' todo buffer := by
  constructor
  · rw [received, acted]
    exact h.stream
  · rw [stops, written]
    exact h.stops
  · rw [acted, written, found]
    exact h.orphans
  · exact nodup
  · rw [started, early, received]
    exact h.untaken
  · rw [started, early, acted]
    exact h.taken
  · exact account

/-- The call's moves leave the connection as it is. -/
theorem PumpStands.same (h : PumpStands serial s φ) (received : s'.received = s.received)
    (stops : s'.stops = s.stops) (started : s'.started = s.started) (early : s'.early = s.early)
    (reading : s'.reading = s.reading) (account : ∀ {l}, Account serial s l → Account serial s' l) :
    PumpStands serial s' φ := by
  have inv {l : Ledger} {todo : List (UInt32 × Event)} {buffer : List UInt8}
      (h : PumpInv serial s l todo buffer) : PumpInv serial s' l todo buffer :=
    h.update received stops started early rfl rfl rfl h.nodup (account h.account)
  cases φ with
  | idle => exact ⟨h.1, inv h.2⟩
  | obeying => exact ⟨reading.trans h.1, h.2.1, inv h.2.2⟩
  | abandoning => exact ⟨h.1, inv h.2⟩
  | reading => exact ⟨reading.trans h.1, inv h.2⟩
  | ended => trivial

/-- Every move of the call keeps the pump's part. -/
theorem PumpStands.caller {r : Player.Request} {answer : r.Answer} (h : PumpStands serial s φ)
    (call : CallerInv serial s c) (move : CallerMove c r answer c')
    (answered : callerAnswers serial r s answer s') : PumpStands serial s' φ := by
  have await {waited : Player.Waited} {n : Nat} (still : Open s n) (few : n < 2)
      (awaited : Awaited s waited s') : PumpStands serial s' φ := by
    obtain ⟨_, none, rfl⟩ := still
    refine h.same ?_ ?_ ?_ ?_ ?_ fun account => account.await none few awaited
    all_goals cases awaited <;> rfl
  cases move with
  | zero | draw =>
    obtain ⟨_, rfl⟩ := answered
    exact h
  | start | closed | abandon =>
    obtain ⟨_, rfl⟩ := answered
    exact h.same rfl rfl rfl rfl rfl fun account =>
      account.same ⟨rfl, rfl, rfl, rfl, rfl, rfl, rfl⟩ rfl rfl
  | answered | forsaken | timedOut => exact await call.2.2 (by omega) answered
  | answeredAgain | unanswered => exact await call.2.2 (by omega) answered
  | forget =>
    cases answered
    exact h.same rfl rfl rfl rfl rfl fun account => account.forget call.2.2.2

end Playout.Flow.Handover
