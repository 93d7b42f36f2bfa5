import Playout.Proofs.Flow.Drawing
import Playout.Proofs.Flow.Fitting
import Playout.Proofs.Flow.Pending
import Playout.Proofs.Transport.World

/-!
# `Playout.Proofs.Flow.Unsolicited` — no request has the serial zero

Zero is the serial of what the server says unasked. Players and pump draw their serials from one counter, so that no
order carries zero, and nothing is ever noted under it: a flow that is started unasked is logged, and nothing else.

## Contents
- `calls`, `answers` — players that give commands, and the pump, with the counter and the orders that they share.
- `command_numbered` — no command gives an order with serial zero.
- `Unnoted`, `step_unnoted` — nothing is noted under serial zero; all that the pump does keeps it so.
- `Spares`, `run_spares` — what is left of the pump, as long as no order carries zero.
- `run_nonzero` — every run of players and pump.
- `Ignores`, `Unnoted.ignores` — what becomes of a flow that is started unasked.

## Main statement
- `serials_are_fresh`.
-/

namespace Playout.Flow.Drawing

open Interleaving Program

/-! ## Players and pump -/

/-- What a call of each thread results in. -/
@[reducible] def Result : Thread → Type
  | .player _ => Except PlayError Unit
  | .pump => Unit

/-- The players give the output one command after another, and the pump lives once. -/
def calls (c : Config) (commands : Nat → Nat → Transport.Command) (rounds : Nat) : Calls interface Result
  | .player k, n => (commands k n).program (Player.output c)
  | .pump, 0 => Pump.run rounds
  | .pump, _ + 1 => .unfinished

/-- The counter, and the orders that the pump has not taken yet. -/
structure Shared where
  counter : UInt32
  orders : List Pump.Order := []

/-- What players do to the orders: one that is accepted is queued. -/
def playerQueues : (r : Player.Request) → List Pump.Order → r.Answer → List Pump.Order → Prop
  | .order order, orders, accepted, orders' => orders' = if accepted then orders ++ [order] else orders
  | _, orders, _, orders' => orders' = orders

/-- What the pump does to the orders: it takes them in turn. -/
def pumpQueues : (r : Pump.Request) → List Pump.Order → r.Answer → List Pump.Order → Prop
  | .next, orders, .order order, orders' => orders = order :: orders'
  | _, orders, _, orders' => orders' = orders

/-- What the threads do to the orders. -/
def Queues : (t : Thread) → (r : (interface t).Request) → List Pump.Order → (interface t).Answer r →
    List Pump.Order → Prop
  | .player _ => playerQueues
  | .pump => pumpQueues

/-- Apart from the counter and the orders, any request may be answered in any way; so the server may say what it
    likes, and whoever waits for an answer may go away. -/
def answers : Surroundings interface Shared := fun t r s answer s' =>
  Counts s.counter (sum? t r answer) s'.counter ∧ Queues t r s.orders answer s'.orders

/-- The serial that an order carries. -/
def serialOf : Pump.Order → UInt32
  | .start serial _ | .stop serial _ | .abandon serial => serial

/-! ## What the players order -/

/-- An order carries a serial that is not zero. -/
def Numbered (r : Player.Request) : Prop := ∀ order, r = .order order → serialOf order ≠ 0

theorem orderly_numbered : Orderly Numbered where
  aside r other order same := absurd same (other order)
  stop serial flow nonzero order same := by
    cases same
    exact nonzero
  abandon serial nonzero order same := by
    cases same
    exact nonzero

theorem stop_numbered : Player.stop.Asks Numbered := by
  have leaves : (Player.cancelDone.bind fun _ => Player.putFlow 0).Asks Numbered :=
    ⟨nofun, fun _ => ⟨nofun, fun _ => trivial⟩⟩
  refine ⟨nofun, fun current => ?_⟩
  simp only [done_bind]
  split
  · refine Asks.bind (stopFlow_asks orderly_numbered current) fun taken => ?_
    cases taken with
    | true => exact leaves
    | false => exact ⟨nofun, fun _ => leaves⟩
  · exact leaves

/-- No command gives an order with serial zero. -/
theorem command_numbered (c : Config) (command : Transport.Command) :
    (command.program (Player.output c)).Asks Numbered := by
  cases command with
  | play track settings =>
    refine play_asks orderly_numbered c track settings fun serial width nonzero _ order same => ?_
    cases same
    exact nonzero
  | stop => exact Asks.bind stop_numbered fun _ => trivial
  | close =>
    refine Asks.bind ?_ fun _ => trivial
    exact ⟨nofun, fun _ => ⟨nofun, fun _ => ⟨nofun, fun _ => ⟨nofun, fun _ => trivial⟩⟩⟩⟩

/-! ## What the pump notes -/

/-- Nothing is noted under serial zero. -/
def Unnoted (p : Pending) : Prop := 0 ∉ p.waiting ∧ 0 ∉ p.abandoned

namespace Unnoted

variable {p : Pending} {serial : UInt32}

theorem expect (h : Unnoted p) (nonzero : serial ≠ 0) : Unnoted (p.expect serial) := by
  refine ⟨?_, ?_⟩
  · rw [Pending.mem_waiting_expect, not_or]
    exact ⟨h.1, nonzero.symm⟩
  · rw [Pending.abandoned_expect]
    exact h.2

/-- Only what is waited for is abandoned. -/
theorem abandon (h : Unnoted p) : Unnoted (p.abandon serial) := by
  by_cases waits : serial ∈ p.waiting
  · rw [Pending.abandon_of_mem waits]
    refine ⟨fun here => h.1 (List.mem_of_mem_erase here), fun here => ?_⟩
    rcases List.mem_append.1 here with before | now
    · exact h.2 ((Pending.remembered_sublist p).subset before)
    · obtain rfl := List.mem_singleton.1 now
      exact h.1 waits
  · rwa [Pending.abandon_of_not_mem waits]

theorem started (h : Unnoted p) (serial : UInt32) : Unnoted (p.started serial).1 := by
  unfold Pending.started
  split
  · exact ⟨fun here => h.1 (List.mem_of_mem_erase here), h.2⟩
  · split
    · exact ⟨h.1, fun here => h.2 (List.mem_of_mem_erase here)⟩
    · exact h

theorem failed (h : Unnoted p) (serial : UInt32) : Unnoted (p.failed serial).1 :=
  ⟨fun here => h.1 (List.mem_of_mem_erase here), fun here => h.2 (List.mem_of_mem_erase here)⟩

theorem nonzero (h : Unnoted p) (waits : serial ∈ p.waiting) : serial ≠ 0 := by
  rintro rfl
  exact h.1 waits

end Unnoted

/-- What the pump asks while it acts on an input: neither for another one, nor to reply to serial zero. -/
def Quiet (r : Pump.Request) : Prop := r ≠ .next ∧ ∀ reply, r ≠ .reply 0 reply

/-- Acting on an input; there is nothing to keep track of. -/
def quietly : Moves Pump.Interface Unit := fun _ r _ _ => Quiet r

section Quiet

variable {α : Type} {ends : Unit → α → Prop} {p : Pending}

/-- One quiet request. -/
theorem follows_quiet {r : Pump.Request} {next : r.Answer → Pump.Action α} (quiet : Quiet r)
    (rest : ∀ answer, (next answer).Follows quietly ends ()) :
    (Program.ask (I := Pump.Interface) r next).Follows quietly ends () :=
  Follows.stay (fun _ => quiet) rest

theorem quiet_log (line : Line) : Quiet (.log line) := ⟨nofun, fun _ => nofun⟩

/-- What is quiet throughout. -/
theorem follows_of_asks {q : Pump.Action α} (asks : q.Asks Quiet) : q.Follows quietly (fun _ _ => True) () :=
  asks.follows (fun quiet _ => quiet) fun _ => trivial

theorem handle_unnoted (h : Unnoted p) (serial : UInt32) (event : Event) :
    (Pump.handle p serial event).Follows quietly (fun _ outcome => Unnoted outcome.1) () := by
  cases event with
  | started flow =>
    refine follows_quiet (quiet_log _) fun _ => ?_
    by_cases waits : serial ∈ p.waiting
    · have kept := h.started serial
      rw [Pending.started_of_waiting waits] at kept ⊢
      exact follows_quiet ⟨nofun, fun _ same => h.nonzero waits (by cases same; rfl)⟩ fun _ => kept
    · by_cases abandoned : serial ∈ p.abandoned
      · have kept := h.started serial
        rw [Pending.started_of_abandoned waits abandoned] at kept ⊢
        exact kept
      · rw [Pending.started_of_unknown waits abandoned]
        exact h
  | done flow => exact follows_quiet (quiet_log _) fun _ => h
  | failed e =>
    have reported : (Pump.report serial e).Asks Quiet := by
      simp [Pump.report, Program.Asks, Quiet]
    refine Follows.bind (follows_of_asks reported) fun _ _ _ => ?_
    have kept := h.failed serial
    by_cases waits : serial ∈ p.waiting
    · simp only [Pending.failed, waits, decide_true, ↓reduceIte] at kept ⊢
      exact follows_quiet ⟨nofun, fun _ same => h.nonzero waits (by cases same; rfl)⟩ fun _ => kept
    · simp only [Pending.failed, waits, decide_false, Bool.false_eq_true, ↓reduceIte] at kept ⊢
      exact kept

theorem handleAll_unnoted (messages : List (UInt32 × Event)) (h : Unnoted p) :
    (Pump.handleAll p messages).Follows quietly (fun _ outcome => Unnoted outcome.1) () := by
  induction messages generalizing p with
  | nil => exact h
  | cons message rest ih =>
    refine Follows.bind (handle_unnoted h message.1 message.2) fun _ outcome kept => ?_
    exact Follows.bind (ih kept) fun _ others later => later

theorem stopOrphans_asks (flows : List UInt32) : (Pump.stopOrphans flows).Asks Quiet := by
  induction flows with
  | nil => trivial
  | cons flow rest ih =>
    have adds : Pump.addSerial.Asks Quiet := ⟨⟨nofun, fun _ => nofun⟩, fun _ => trivial⟩
    refine ⟨quiet_log _, fun _ => ?_⟩
    simp only [done_bind]
    exact drawSerial_bind_asks adds _ fun serial _ => Asks.bind ih fun _ => trivial

/-- If the pump goes on after an input, nothing is noted under serial zero. -/
def After : Pump.Next → Prop
  | .goOn s => Unnoted s.pending
  | .finish _ => True

/-- A last line in the log. -/
theorem leaving_unnoted (severity : Severity) (text : String) (s : Pump.State) :
    ((Pump.log severity text).bind fun _ => .done (.finish s)).Follows quietly (fun _ => After) () :=
  follows_quiet (quiet_log _) fun _ => trivial

theorem send_unnoted {s : Pump.State} (h : Unnoted s.pending) (bytes : List UInt8) :
    (Pump.send s bytes).Follows quietly (fun _ => After) () := by
  refine follows_quiet ⟨nofun, fun _ => nofun⟩ fun written => ?_
  cases written with
  | ok _ => exact h
  | error reason => exact leaving_unnoted _ _ s

theorem obey_unnoted {s : Pump.State} (h : Unnoted s.pending) {order : Pump.Order} (nonzero : serialOf order ≠ 0) :
    (Pump.obey s order).Follows quietly (fun _ => After) () := by
  cases order with
  | start serial request => exact send_unnoted (s := { s with pending := s.pending.expect serial }) (h.expect nonzero) _
  | stop serial flow => exact send_unnoted h _
  | abandon serial =>
    have goesOn : After (.goOn { s with pending := s.pending.abandon serial }) := h.abandon
    refine follows_quiet (quiet_log _) fun _ => ?_
    by_cases waits : serial ∈ s.pending.waiting
    · simp only [done_bind, if_pos waits]
      exact follows_quiet ⟨nofun, fun _ => nofun⟩ fun _ => goesOn
    · simp only [done_bind, if_neg waits]
      exact goesOn

theorem receive_unnoted {s : Pump.State} (h : Unnoted s.pending) (bytes : List UInt8) :
    (Pump.receive s bytes).Follows quietly (fun _ => After) () := by
  refine Follows.bind (handleAll_unnoted _ h) fun _ outcome kept => ?_
  obtain ⟨pending, orphans⟩ := outcome
  cases fault : (takeEvents (s.buffer ++ bytes)).fault with
  | some reason =>
    exact leaving_unnoted _ _ _
  | none =>
    show (if orphans.isEmpty = true then _ else _ : Pump.Action Pump.Next).Follows _ _ _
    split
    · exact kept
    · refine Follows.bind (follows_of_asks (stopOrphans_asks orphans)) ?_
      exact fun _ stops _ => send_unnoted kept stops

end Quiet

theorem forsakeAll_asks (serials : List UInt32) : (Pump.forsakeAll serials).Asks Quiet := by
  induction serials with
  | nil => trivial
  | cons serial rest ih => exact ⟨⟨nofun, fun _ => nofun⟩, fun _ => ih⟩

/-- The answers that come when no order carries zero. -/
def Comes : (r : Pump.Request) → r.Answer → Prop
  | .next, .order order => serialOf order ≠ 0
  | _, _ => True

theorem step_unnoted {s : Pump.State} (h : Unnoted s.pending) {input : Pump.Input} (comes : Comes .next input) :
    (Pump.step s input).Follows quietly (fun _ => After) () := by
  cases input with
  | shutdown | noOrders => trivial
  | order order => exact obey_unnoted h comes
  | received bytes => exact receive_unnoted h bytes
  | closed | readFailed reason => exact leaving_unnoted _ _ s

/-! ## The life of the pump -/

/-- What is left of the pump, as long as no order carries zero: it replies to nobody under that serial, and when it asks
    for something to do, it stands at its loop with nothing noted under it. -/
def Spares : Pump.Action Unit → Prop
  | .done _ => True
  | .unfinished => True
  | .ask r next =>
    (∀ reply, r ≠ .reply 0 reply) ∧
      (r = .next → ∃ rounds st, Program.ask r next = Pump.loop (rounds + 1) st ∧ Unnoted st.pending) ∧
      ∀ answer, Comes r answer → Spares (next answer)

/-- No request of the pump goes without an answer for want of one. -/
theorem nonempty_answer (r : Pump.Request) : Nonempty r.Answer := by
  cases r with
  | next => exact ⟨.shutdown⟩
  | reply => exact ⟨true⟩
  | addSerial => exact ⟨(0 : UInt32)⟩
  | write => exact ⟨.ok ()⟩
  | log | forsake => exact ⟨()⟩

/-- What is quiet may come before. -/
theorem Spares.bind {β : Type} {q : Pump.Action β} {f : β → Pump.Action Unit} {ends : Unit → β → Prop}
    (quiet : q.Follows quietly ends ()) (rest : ∀ b, ends () b → Spares (f b)) : Spares (q.bind f) := by
  induction q with
  | done b => exact rest b quiet
  | unfinished => trivial
  | ask r next ih =>
    -- The protocol speaks of a request together with an answer, so that it takes one to see what is asked.
    obtain ⟨answer⟩ := nonempty_answer r
    obtain ⟨_, busy, -⟩ := quiet answer
    refine ⟨busy.2, fun idle => absurd idle busy.1, fun answer _ => ?_⟩
    obtain ⟨_, -, later⟩ := quiet answer
    exact ih answer later

theorem loop_spares (rounds : Nat) (st : Pump.State) (h : Unnoted st.pending) : Spares (Pump.loop rounds st) := by
  induction rounds generalizing st with
  | zero => trivial
  | succ rounds ih =>
    refine ⟨nofun, fun _ => ⟨rounds, st, rfl, h⟩, fun input comes => ?_⟩
    simp only [done_bind]
    refine Spares.bind (step_unnoted h comes) fun next after => ?_
    cases next with
    | goOn s => exact ih s after
    | finish s =>
      refine Spares.bind (follows_of_asks (forsakeAll_asks s.pending.waiting)) fun _ _ => ?_
      exact ⟨nofun, nofun, fun _ _ => trivial⟩

theorem run_spares (rounds : Nat) : Spares (Pump.run rounds) :=
  ⟨nofun, nofun, fun _ _ => loop_spares rounds {} ⟨List.not_mem_nil, List.not_mem_nil⟩⟩

/-! ## Runs of players and pump -/

variable {c : Config} {commands : Nat → Nat → Transport.Command} {rounds : Nat}

/-- What is left of each thread. -/
def Keeps : (t : Thread) → Program (interface t) (Result t) → Prop
  | .player _ => Program.Asks Numbered
  | .pump => Spares

/-- Players give no order with serial zero, and the pump replies to nobody under it. -/
def Nonzero : (t : Thread) → (interface t).Request → Prop
  | .player _ => Numbered
  | .pump => fun r => ∀ reply, r ≠ .reply 0 reply

/-- The answers that come to each thread. -/
def ComesTo : (t : Thread) → (r : (interface t).Request) → (interface t).Answer r → Prop
  | .player _ => fun _ _ => True
  | .pump => Comes

theorem calls_keep (t : Thread) (n : Nat) : Keeps t (calls c commands rounds t n) := by
  cases t with
  | player k => exact command_numbered c (commands k n)
  | pump =>
    cases n with
    | zero => exact run_spares rounds
    | succ n => trivial

theorem keeps_ask {t : Thread} {r : (interface t).Request}
    {next : (interface t).Answer r → Program (interface t) (Result t)} (keeps : Keeps t (.ask r next)) :
    Nonzero t r ∧ ∀ answer, ComesTo t r answer → Keeps t (next answer) := by
  cases t with
  | player k => exact ⟨keeps.1, fun answer _ => keeps.2 answer⟩
  | pump => exact ⟨keeps.1, keeps.2.2⟩

/-- None of the orders carries zero. -/
def AllNumbered (orders : List Pump.Order) : Prop := ∀ order ∈ orders, serialOf order ≠ 0

theorem playerQueues_numbered {r : Player.Request} {orders orders' : List Pump.Order} {answer : r.Answer}
    (queued : AllNumbered orders) (numbered : Numbered r) (queues : playerQueues r orders answer orders') :
    AllNumbered orders' := by
  cases r with
  | order order =>
    obtain rfl := queues
    split
    · exact List.forall_mem_append.2 ⟨queued, List.forall_mem_singleton.2 (numbered order rfl)⟩
    · exact queued
  | _ =>
    obtain rfl := queues
    exact queued

theorem pumpQueues_numbered {r : Pump.Request} {orders orders' : List Pump.Order} {answer : r.Answer}
    (queued : AllNumbered orders) (queues : pumpQueues r orders answer orders') :
    AllNumbered orders' ∧ Comes r answer := by
  cases r with
  | next =>
    cases answer with
    | order order =>
      obtain rfl := queues
      exact ⟨(List.forall_mem_cons.1 queued).2, (List.forall_mem_cons.1 queued).1⟩
    | _ =>
      obtain rfl := queues
      exact ⟨queued, trivial⟩
  | _ =>
    obtain rfl := queues
    exact ⟨queued, trivial⟩

/-- What is queued and taken carries no zero if what is ordered does not. -/
theorem queues_numbered {t : Thread} {r : (interface t).Request} {orders orders' : List Pump.Order}
    {answer : (interface t).Answer r} (queued : AllNumbered orders) (nonzero : Nonzero t r)
    (queues : Queues t r orders answer orders') : AllNumbered orders' ∧ ComesTo t r answer := by
  cases t with
  | player k => exact ⟨playerQueues_numbered queued nonzero queues, trivial⟩
  | pump => exact pumpQueues_numbered queued queues

/-- Only the thread that takes a step comes to something else. -/
theorem keeps_update {call : (t : Thread) → Call (interface t) (Result t)} (keeps : ∀ t, Keeps t (call t).rest)
    {t : Thread} {moved : Call (interface t) (Result t)} (here : Keeps t moved.rest) (u : Thread) :
    Keeps u (Function.update call t moved u).rest :=
  (Function.forall_update_iff call (p := fun u (c : Call (interface u) (Result u)) => Keeps u c.rest)).2
    ⟨here, fun u _ => keeps u⟩ u

/-- **No thread comes to serial zero.** -/
theorem run_nonzero {counter : UInt32} {history : List (Interleaving.Event interface Result)}
    {s : State interface Result Shared} (run : Run (calls c commands rounds) answers { counter } history s) :
    (∀ t, Keeps t (s.call t).rest) ∧ AllNumbered s.shared.orders ∧
      ∀ t n r answer, .asked t n r answer ∈ history → Nonzero t r := by
  induction run with
  | start => exact ⟨fun t => calls_keep t 0, List.forall_mem_nil _, fun _ _ _ _ => nofun⟩
  | step before next ih =>
    obtain ⟨keeps, queued, nonzero⟩ := ih
    cases next with
    | @ask t r next answer shared' asks answered =>
      have here := keeps t
      rw [asks] at here
      obtain ⟨now, goesOn⟩ := keeps_ask here
      obtain ⟨queued, comes⟩ := queues_numbered queued now answered.2
      refine ⟨keeps_update keeps (goesOn answer comes), queued, fun u n other back mem => ?_⟩
      rcases List.mem_append.1 mem with earlier | last
      · exact nonzero u n other back earlier
      · cases List.mem_singleton.1 last
        exact now
    | @finish t result done =>
      refine ⟨keeps_update keeps (calls_keep t _), queued, fun u n other back mem => ?_⟩
      rcases List.mem_append.1 mem with earlier | last
      · exact nonzero u n other back earlier
      · cases List.mem_singleton.1 last

/-! ## What is said unasked -/

/-- Events are acted on one after another, and the orphans found in the same order. -/
theorem handleAll_append (p : Pending) (front back : List (UInt32 × Event)) :
    Pump.handleAll p (front ++ back) = (Pump.handleAll p front).bind fun first =>
      (Pump.handleAll first.1 back).bind fun second => .done (second.1, first.2 ++ second.2) := by
  induction front generalizing p with
  | nil => exact (bind_done _).symm
  | cons message rest ih =>
    simp only [List.cons_append, Pump.handleAll, bind_eq, pure_eq, Program.bind_assoc, done_bind, ih, List.append_assoc]

/-- A flow that is started unasked is logged and nothing else, wherever it stands among the events of a reading. -/
def Ignores (p : Pending) : Prop :=
  ∀ (front : List (UInt32 × Event)) (flow : UInt32) (back : List (UInt32 × Event)),
    Pump.handleAll p (front ++ (0, .started flow) :: back) = do
      let (p, found) ← Pump.handleAll p front
      Pump.log .debug ("flow: flow " ++ toString flow.toNat ++ " started (request " ++ toString (0 : UInt32).toNat ++ ")")
      let (p, more) ← Pump.handleAll p back
      return (p, found ++ more)

theorem Unnoted.ignores {p : Pending} (h : Unnoted p) : Ignores p := by
  intro front flow back
  rw [handleAll_append]
  refine Follows.bind_congr (handleAll_unnoted front h) fun _ outcome kept => ?_
  simp only [Pump.handleAll, Pump.handle, Pending.started_of_unknown kept.1 kept.2, bind_eq, pure_eq, ask_bind,
    done_bind, Program.bind_assoc, Option.toList_none, List.nil_append]

/-! ## Serials -/

/-- **Serials are fresh.** However many threads draw serials at once, none draws zero, and as many serials in a row as
    the counter has values but zero all differ; a call goes on drawing unless the counter has gone round as often as it
    may try. So no order of a player carries zero, the pump hands no answer to zero, and a flow that is started unasked
    is only logged. -/
theorem serials_are_fresh (counter : UInt32) :
    (∀ attempts history s, Run (draws attempts) counted counter history s →
      (∀ t n serial, .returned t n serial ∈ history → Draws serial (sums t n history)) ∧
      Apart history ∧
      ∀ t, (s.call t).rest = .unfinished →
        attempts t (s.call t).number * UInt32.size ≤ counter.toNat + (additions history).length) ∧
    ∀ c commands rounds history s, Run (calls c commands rounds) answers { counter } history s →
      Apart history ∧
      (∀ t n r answer, .asked t n r answer ∈ history → Nonzero t r) ∧
      ∀ next, (s.call .pump).rest = .ask .next next →
        ∃ rounds st, (s.call .pump).rest = Pump.loop (rounds + 1) st ∧ Ignores st.pending := by
  refine ⟨fun attempts history s run => ⟨?drawn, ?apart, ?goesOn⟩,
    fun c commands rounds history s run => ⟨?others, ?nonzero, ?ignores⟩⟩
  case drawn =>
    intro t n serial returned
    obtain ⟨_, -, far⟩ := run_far run
    exact (far.ended t n serial returned).2
  case apart => exact (run_moved id (fun answered => answered) run).apart
  case goesOn => exact fun t unfinished => rounds_of_unfinished run unfinished
  case others => exact (run_moved Shared.counter (fun answered => answered.1) run).apart
  case nonzero => exact (run_nonzero run).2.2
  case ignores =>
    intro next idle
    have spares := (run_nonzero run).1 .pump
    rw [idle] at spares
    obtain ⟨rounds, st, stands, unnoted⟩ := spares.2.1 rfl
    exact ⟨rounds, st, idle.trans stands, unnoted.ignores⟩

/-! ### Three runs -/

/-- One player comes to zero, and the pump draws before the player draws again. -/
theorem run_overtaken :
    ∃ history s, Run (draws fun _ _ => 2) counted 4294967294 history s ∧ .returned (.player 1) 0 2 ∈ history ∧
      results history = [4294967295, 1, 2] ∧ sums (.player 1) 0 history = [0, 2] := by
  have run : Run (draws fun _ _ => 2) counted 4294967294 [] _ := .start
  replace run := run.ask (r := .addSerial) (.player 0) rfl (4294967295 : UInt32) ⟨rfl, rfl⟩
  replace run := run.ask (r := .addSerial) (.player 1) rfl (0 : UInt32) ⟨rfl, rfl⟩
  replace run := run.ask (r := .addSerial) .pump rfl (1 : UInt32) ⟨rfl, rfl⟩
  replace run := run.ask (r := .addSerial) (.player 1) rfl (2 : UInt32) ⟨rfl, rfl⟩
  replace run := run.finish (.player 1) rfl
  exact ⟨_, _, run, List.mem_append_right _ (List.mem_singleton_self _), rfl, rfl⟩

/-- The pump comes to zero and may not try again. -/
theorem run_missed :
    ∃ history s, Run (draws fun _ _ => 1) counted 4294967295 history s ∧ (s.call .pump).rest = .unfinished ∧
      (additions history).length = 1 := by
  have run : Run (draws fun _ _ => 1) counted 4294967295 [] _ := .start
  replace run := run.ask (r := .addSerial) .pump rfl (0 : UInt32) ⟨rfl, rfl⟩
  exact ⟨_, _, run, rfl, rfl⟩

/-- A thread makes a request, and the counter and the orders become what they are said to. -/
theorem run_ask {counter : UInt32} {history : List (Interleaving.Event interface Result)}
    {s : State interface Result Shared} (run : Run (calls c commands rounds) answers { counter } history s) (t : Thread)
    {r : (interface t).Request} {next : (interface t).Answer r → Program (interface t) (Result t)}
    (asks : (s.call t).rest = .ask r next) (answer : (interface t).Answer r) (shared' : Shared)
    (answered : answers t r s.shared answer shared') :
    Run (calls c commands rounds) answers { counter } (history ++ [.asked t (s.call t).number r answer])
      ⟨shared', Function.update s.call t ⟨(s.call t).number, next answer⟩⟩ :=
  run.ask t asks answer answered

/-- A frame of silence. -/
def tick : Track := ⟨8, 1, 8000, [0]⟩

/-- The players' side starts a flow, and the pump waits for what the server says. -/
theorem run_listening :
    ∃ history s next, Run (calls nearby (fun _ _ => .play tick {}) 2) answers { counter := 4294967295 } history s ∧
      .asked (.player 0) 0 (.order (.start 1 (requestOf tick 0))) true ∈ history ∧
      (s.call .pump).rest = .ask .next next := by
  have run : Run (calls nearby (fun _ _ => .play tick {}) 2) answers { counter := 4294967295 } [] _ := .start
  replace run := run_ask (r := .resetDone) run (.player 0) rfl () { counter := 4294967295 } ⟨rfl, rfl⟩
  replace run := run_ask (r := .addSerial) run (.player 0) rfl (0 : UInt32) { counter := 0 } ⟨⟨rfl, rfl⟩, rfl⟩
  replace run := run_ask (r := .addSerial) run (.player 0) rfl (1 : UInt32) { counter := 1 } ⟨⟨rfl, rfl⟩, rfl⟩
  let orders : List Pump.Order := [.start 1 (requestOf tick 0)]
  replace run := run_ask run (.player 0) rfl true { counter := 1, orders } ⟨rfl, rfl⟩
  replace run := run_ask run .pump rfl () { counter := 1, orders } ⟨rfl, rfl⟩
  replace run := run_ask (r := .next) run .pump rfl (.order (.start 1 (requestOf tick 0))) { counter := 1 } ⟨rfl, rfl⟩
  replace run := run_ask (r := .write _) run .pump rfl (.ok ()) { counter := 1 } ⟨rfl, rfl⟩
  refine ⟨_, _, _, run, ?_, rfl⟩
  -- The pump has asked three times since.
  exact List.mem_append_left _ (List.mem_append_left _ (List.mem_append_left _
    (List.mem_append_right _ (List.mem_singleton_self _))))

/-- The player that was overtaken has drawn a serial of its own; the call that may try once has seen the counter go
    round; and the pump that waits ignores what is started unasked. -/
theorem overtaken_serial_is_fresh :
    (∃ history s, Run (draws fun _ _ => 2) counted 4294967294 history s ∧ results history = [4294967295, 1, 2] ∧
      Draws 2 [0, 2] ∧ [(4294967295 : UInt32), 1, 2].Nodup) ∧
    (∃ history s, Run (draws fun _ _ => 1) counted 4294967295 history s ∧ (s.call .pump).rest = .unfinished ∧
      1 * UInt32.size ≤ 4294967295 + 1) ∧
    ∃ history s rounds st, Run (calls nearby (fun _ _ => .play tick {}) 2) answers { counter := 4294967295 } history s ∧
      (s.call .pump).rest = Pump.loop (rounds + 1) st ∧ Ignores st.pending ∧
      Numbered (.order (.start 1 (requestOf tick 0))) := by
  obtain ⟨_, _, overtaken, returned, drawn, added⟩ := run_overtaken
  obtain ⟨serials, apart, -⟩ := (serials_are_fresh 4294967294).1 _ _ _ overtaken
  have fresh := serials _ _ _ returned
  rw [added] at fresh
  refine ⟨⟨_, _, overtaken, drawn, fresh, apart [] _ [] (by simpa using drawn) (by decide)⟩, ?_⟩
  obtain ⟨_, _, missed, unfinished, once⟩ := run_missed
  obtain ⟨-, -, round⟩ := (serials_are_fresh 4294967295).1 _ _ _ missed
  have gone := round _ unfinished
  rw [once] at gone
  refine ⟨⟨_, _, missed, unfinished, gone⟩, ?_⟩
  obtain ⟨_, _, next, listening, ordered, idle⟩ := run_listening
  obtain ⟨-, nonzero, ignores⟩ := (serials_are_fresh 4294967295).2 _ _ _ _ _ listening
  obtain ⟨rounds, st, stands, ignored⟩ := ignores next idle
  exact ⟨_, _, rounds, st, listening, stands, ignored, nonzero _ _ _ _ ordered⟩

end Playout.Flow.Drawing
