import Playout.Flow.Batch
import Playout.Flow.Pending
import Playout.Program
import Playout.Severity

/-!
# `Playout.Flow.Pump` — the thread that owns a connection to a flow server

Only the pump reads from and writes to the connection. It takes orders from the players' side, hands the
server's answers to who waits for them, and stops flows that nobody waits for. It ends when it is told to,
when nobody can give orders any more, or when the connection fails; then everybody who still waits is told
that there will be no answer.

## Contents
- `Order`, `Reply`, `Input`.
- `Request`, `Interface` — what the pump asks.
- `drawSerial` — the next serial.
- `handle`, `handleAll`, `stopOrphans` — acting on what the server answers.
- `State`, `step`, `loop`, `run`.
-/

namespace Playout.Flow.Pump

/-- What the server answered to a request to start a flow: the flow, or an error. -/
abbrev Reply := Except ServerError UInt32

/-- What the players' side wants of the pump. -/
inductive Order where
  | start (serial : UInt32) (request : Flow.Request)
  | stop (serial flow : UInt32)
  | abandon (serial : UInt32)
  deriving DecidableEq

/-- What wakes the pump. -/
inductive Input where
  | shutdown
  | order (order : Order)
  /-- Nobody is left who could give orders. -/
  | noOrders
  | received (bytes : List UInt8)
  | closed
  | readFailed (reason : String)

/-! ## What is asked -/

/-- What the pump asks of its surroundings. -/
inductive Request where
  | log (line : Line)
  | next
  | reply (serial : UInt32) (reply : Reply)
  | forsake (serial : UInt32)
  | addSerial
  | write (bytes : List UInt8)

/-- What each request is answered. -/
@[reducible] def Request.Answer : Request → Type
  | next => Input
  | reply _ _ => Bool
  | addSerial => UInt32
  | write _ => Except String Unit
  | log _ | forsake _ => Unit

/-- The interface of the pump. -/
@[reducible] def Interface : Playout.Interface := ⟨Request, Request.Answer⟩

/-- Programs of the pump. -/
abbrev Action := Program Interface

/-! ### Single requests -/

/-- Log a message. -/
abbrev log (severity : Severity) (text : String) : Action Unit := .ask (.log ⟨severity, text⟩) .done

/-- Wait for something to do. -/
abbrev next : Action Input := .ask .next .done

/-- Hand an answer to who waits for it; the answer is whether somebody took it. -/
abbrev reply (serial : UInt32) (r : Reply) : Action Bool := .ask (.reply serial r) .done

/-- Let who waits for an answer know that none will come. -/
abbrev forsake (serial : UInt32) : Action Unit := .ask (.forsake serial) .done

/-- Add one to the counter of serials, which wraps around; the answer is the sum. -/
abbrev addSerial : Action UInt32 := .ask .addSerial .done

/-- Write all of some bytes to the connection. -/
abbrev write (bytes : List UInt8) : Action (Except String Unit) := .ask (.write bytes) .done

/-! ## Serials -/

/-- How often the counter may be found at zero in a row. -/
def serialAttempts : Nat := UInt32.size

/-- The next serial that is not zero, given how the counter is added to. -/
def drawSerial {I : Playout.Interface} (add : Program I UInt32) : Nat → Program I UInt32
  | 0 => .unfinished
  | attempts + 1 => do
    let serial ← add
    if serial = 0 then drawSerial add attempts else return serial

/-! ## Answers of the server -/

/-- Log the failure of a request. -/
def report (serial : UInt32) (e : ServerError) : Action Unit := do
  log .warning "flow: non-fatal server error"
  log .warning ("flow: serial number of failed request: " ++ toString serial.toNat)
  log .warning ("flow: error code: " ++ toString e.errorCode.toNat)
  log .info ("flow: resource id: " ++ toString e.resource.toNat)
  log .info ("flow: request code: " ++ toString e.requestCode.toNat)
  log .debug ("flow: minor code: " ++ toString e.minorCode.toNat)

/-- Act on one event; the second part of the answer is the flow that has become an orphan, if any. -/
def handle (p : Pending) (serial : UInt32) (event : Event) : Action (Pending × Option UInt32) := do
  match event with
  | .started flow =>
    log .debug ("flow: flow " ++ toString flow.toNat ++ " started (request " ++ toString serial.toNat ++ ")")
    match p.started serial with
    | (p, .deliver) => return (p, if ← reply serial (.ok flow) then none else some flow)
    | (p, .orphan) => return (p, some flow)
    | (p, .nothing) => return (p, none)
  | .done flow =>
    log .debug ("flow: flow " ++ toString flow.toNat ++ " done")
    return (p, none)
  | .failed e =>
    report serial e
    let (p, waited) := p.failed serial
    if waited then
      let _ ← reply serial (.error e)
    return (p, none)

/-- Act on events in order; the second part of the answer is the orphaned flows. -/
def handleAll (p : Pending) : List (UInt32 × Event) → Action (Pending × List UInt32)
  | [] => pure (p, [])
  | (serial, event) :: rest => do
    let (p, orphan) ← handle p serial event
    let (p, orphans) ← handleAll p rest
    return (p, orphan.toList ++ orphans)

/-- The frames that stop orphaned flows, each with a serial of its own. -/
def stopOrphans : List UInt32 → Action (List UInt8)
  | [] => pure []
  | flow :: rest => do
    log .info ("flow: stopping flow " ++ toString flow.toNat ++ " nobody waits for")
    let serial ← drawSerial addSerial serialAttempts
    return encodeRequest serial (.stop flow) ++ (← stopOrphans rest)

/-! ## Running -/

/-- Bytes of the server that make up no whole frame yet, and the requests without an answer. -/
structure State where
  buffer : List UInt8 := []
  pending : Pending := {}
  deriving DecidableEq, Repr

/-- What one input leads to: the pump goes on or ends. -/
inductive Next where
  | goOn (state : State)
  | finish (state : State)

/-- Write to the server; a failure ends the pump. -/
def send (s : State) (bytes : List UInt8) : Action Next := do
  match ← write bytes with
  | .ok _ => return .goOn s
  | .error reason =>
    log .error ("flow: write to the event server failed: " ++ reason)
    return .finish s

/-- Carry out an order. -/
def obey (s : State) (order : Order) : Action Next := do
  match order with
  | .start serial request =>
    send { s with pending := s.pending.expect serial } (encodeRequest serial request)
  | .stop serial flow => send s (encodeRequest serial (.stop flow))
  | .abandon serial =>
    log .debug ("flow: request " ++ toString serial.toNat ++ " abandoned")
    if serial ∈ s.pending.waiting then forsake serial
    return .goOn { s with pending := s.pending.abandon serial }

/-- Read what the server has sent. Orphans are stopped after all events of one reading have been acted
    on; when the reading ends in a fault they are not stopped any more. -/
def receive (s : State) (bytes : List UInt8) : Action Next := do
  let batch := takeEvents (s.buffer ++ bytes)
  let (pending, orphans) ← handleAll s.pending batch.messages
  let s : State := { buffer := batch.rest, pending }
  match batch.fault with
  | some fault =>
    log .error ("flow: bad data from the event server: " ++ fault.message)
    return .finish s
  | none =>
    if orphans.isEmpty then return .goOn s
    else send s (← stopOrphans orphans)

/-- Act on one input. -/
def step (s : State) (input : Input) : Action Next := do
  match input with
  | .shutdown | .noOrders => return .finish s
  | .order order => obey s order
  | .received bytes => receive s bytes
  | .closed =>
    log .error "flow: event server closed the connection"
    return .finish s
  | .readFailed reason =>
    log .error ("flow: read from the event server failed: " ++ reason)
    return .finish s

/-- Tell everybody who still waits that there will be no answer. -/
def forsakeAll : List UInt32 → Action Unit
  | [] => pure ()
  | serial :: rest => do
    forsake serial
    forsakeAll rest

/-- Act on inputs, at most `rounds` of them, until one ends the pump. -/
def loop : Nat → State → Action Unit
  | 0, _ => .unfinished
  | rounds + 1, s => do
    match ← step s (← next) with
    | .goOn s => loop rounds s
    | .finish s =>
      forsakeAll s.pending.waiting
      log .debug "flow: event pump stopped"

/-- The whole life of the pump, once the connection is up. -/
def run (rounds : Nat) : Action Unit := do
  log .debug "flow: event pump running"
  loop rounds {}

end Playout.Flow.Pump
