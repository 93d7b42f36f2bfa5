import Playout.Flow.Pump
import Playout.Flow.Server
import Playout.Output
import Playout.Sample.Bytes
import Playout.Sample.Volume
import Playout.Signal

/-!
# `Playout.Flow.Output` — playing on a flow server

The whole track is handed to the server as one flow. The server does not tell how far it has come, so the
player waits for as long as the track lasts; stopping stops the flow and cuts the wait short. All talk with
the server goes through the pump.

## Contents
- `Config`, `requestOf`, `dataLength`.
- `Request`, `Interface` — what the output asks.
- `startFlow`, `stopFlow`, `play`, `stop`, `close`, `openOutput`.

The id of the flow that is playing is shared and guarded by a lock, 0 while there is none: `takeFlow` waits
for the lock, `putFlow` gives it back.
-/

namespace Playout.Flow

/-- The name of this output. -/
def name : String := "flow"

/-- What an output is set up with. -/
structure Config where
  server : Net.Endpoint
  /-- How long the server may take to start a flow. -/
  startTimeout : Seconds := 2

/-- The request that plays a track. -/
def requestOf (t : Track) (volume : Int) : Request :=
  .play (if t.bits = 8 then .signed8 else .signed16Little) t.channels.toUInt8 t.rate
    (Sample.flowVolume volume) (UInt32.ofNat t.frames)
    (Sample.toBytes t.samples (if t.bits = 8 then 8 else 16) .little .signed)

/-- The bytes that the whole frames of a track take up. -/
def dataLength (t : Track) (width : Nat) : Nat := t.frames * t.channels.toNat * width

namespace Player

/-- What waiting for an answer came to. -/
inductive Waited where
  | answered (reply : Pump.Reply)
  | timedOut
  /-- There will be no answer. -/
  | forsaken

/-! ## What is asked -/

/-- What the output asks of its surroundings. -/
inductive Request where
  | log (line : Line)
  | resetDone
  | cancelDone
  | doneCancelled
  | pauseDone (span : Seconds)
  | clock
  | takeFlow
  | putFlow (flow : UInt32)
  | addSerial
  | order (order : Pump.Order)
  | await (serial : UInt32) (timeout : Seconds)
  | forget (serial : UInt32)
  | startPump (server : Net.Endpoint)
  | shutPump

/-- What each request is answered. -/
@[reducible] def Request.Answer : Request → Type
  | doneCancelled => Bool
  | pauseDone _ => WaitOutcome
  | clock => Seconds
  | takeFlow => UInt32
  | addSerial => UInt32
  | order _ => Bool
  | await _ _ => Waited
  | startPump _ => Except OpenError Unit
  | log _ | resetDone | cancelDone | putFlow _ | forget _ | shutPump => Unit

/-- The interface of the output. -/
@[reducible] def Interface : Playout.Interface := ⟨Request, Request.Answer⟩

/-- Programs of the output. -/
abbrev Action := Program Interface

/-! ### Single requests -/

/-- Log a message. -/
abbrev log (severity : Severity) (text : String) : Action Unit := .ask (.log ⟨severity, text⟩) .done

/-- Take the signal back that playback is over. -/
abbrev resetDone : Action Unit := .ask .resetDone .done

/-- Signal that playback is over. -/
abbrev cancelDone : Action Unit := .ask .cancelDone .done

/-- Read the signal. -/
abbrev doneCancelled : Action Bool := .ask .doneCancelled .done

/-- Wait for a time, or until the signal is set. -/
abbrev pauseDone (span : Seconds) : Action WaitOutcome := .ask (.pauseDone span) .done

/-- Read the clock. -/
abbrev clock : Action Seconds := .ask .clock .done

/-- Wait for the id of the playing flow and take it. -/
abbrev takeFlow : Action UInt32 := .ask .takeFlow .done

/-- Give the id back. -/
abbrev putFlow (flow : UInt32) : Action Unit := .ask (.putFlow flow) .done

/-- Add one to the counter of serials, which wraps around; the answer is the sum. -/
abbrev addSerial : Action UInt32 := .ask .addSerial .done

/-- Give the pump an order; the answer is whether there is a pump. -/
abbrev order (o : Pump.Order) : Action Bool := .ask (.order o) .done

/-- Wait for the answer to a request. -/
abbrev await (serial : UInt32) (timeout : Seconds) : Action Waited := .ask (.await serial timeout) .done

/-- Take no answer to a request any more. -/
abbrev forget (serial : UInt32) : Action Unit := .ask (.forget serial) .done

/-- Connect to a server and start the pump. -/
abbrev startPump (server : Net.Endpoint) : Action (Except OpenError Unit) := .ask (.startPump server) .done

/-- Have the pump end, and wait until it has. -/
abbrev shutPump : Action Unit := .ask .shutPump .done

/-! ## Flows -/

/-- A serial for a request. -/
def drawSerial : Action UInt32 := Pump.drawSerial addSerial Pump.serialAttempts

/-- Order a flow to be stopped; the answer is whether there is a pump to do it. -/
def stopFlow (flow : UInt32) : Action Bool := do
  let serial ← drawSerial
  order (.stop serial flow)

/-- The flow in an answer of the server. -/
def flowOf : Pump.Reply → Except PlayError UInt32
  | .ok flow => .ok flow
  | .error e =>
    .error (.startFlow ("server error " ++ toString e.errorCode.toNat ++ " for request "
      ++ toString e.requestCode.toNat))

/-- Wait for the answer to a request. After one timeout the request is abandoned; an answer that comes
    before the pump has seen that is still taken. -/
def awaitFlow (serial : UInt32) (timeout : Seconds) : Action (Except PlayError UInt32) := do
  match ← await serial timeout with
  | .answered reply => return flowOf reply
  | .forsaken => return .error (.startFlow "connection to the event server was lost")
  | .timedOut =>
    let _ ← order (.abandon serial)
    match ← await serial timeout with
    | .answered reply => return flowOf reply
    | _ => return .error (.startFlow "no reply from the event server")

/-- Ask the server for a flow and wait for its id. -/
def startFlow (request : Flow.Request) (timeout : Seconds) : Action (Except PlayError UInt32) := do
  let serial ← drawSerial
  if ← order (.start serial request) then
    let flow ← awaitFlow serial timeout
    forget serial
    return flow
  else return .error (.startFlow "connection to the event server is closed")

/-! ## Playing -/

/-- Wait while a flow plays. -/
def waitFor (t : Track) : Action Unit := do
  let start ← clock
  match ← pauseDone t.duration with
  | .timedOut => pure ()
  | .cancelled =>
    let elapsed := (← clock) - start
    log .info ("flow: playback stopped after " ++ Text.fixed 3 (Arithmetic.machine.number elapsed)
      ++ " of " ++ t.durationText ++ " s")
  let _ ← takeFlow
  putFlow 0

/-- Play a track that fits one flow. A stop that came while the flow was being set up has found nothing to
    stop, so that it is stopped here. -/
def playFlow (c : Config) (t : Track) (volume : Int) : Action (Except PlayError Unit) := do
  match ← startFlow (requestOf t volume) c.startTimeout with
  | .error e =>
    log .error ("flow: couldn't start data flow: " ++ e.message)
    return .error e
  | .ok flow =>
    let current ← takeFlow
    if ← doneCancelled then
      let _ ← stopFlow flow
      putFlow current
      return .ok ()
    else
      putFlow flow
      waitFor t
      return .ok ()

/-- The most channels that a request can tell. -/
def maxChannels : Nat := 255

/-- Play a track. An empty one is played at once, whatever its format. -/
def play (c : Config) (t : Track) (settings : PlaySettings) : Action (Except PlayError Unit) := do
  resetDone
  if t.isEmpty then return .ok ()
  else
    match t.validate with
    | .error e =>
      log .warning ("flow: unsupported sound data format: " ++ e.message)
      return .error e
    | .ok width =>
      if maxChannels < t.channels.toNat then
        return .error (.invalidTrack (toString t.channels.toNat ++ " channels"))
      else
        let length := dataLength t width
        if maxFlowData < length then
          log .error ("flow: track of " ++ toString length ++ " bytes exceeds the "
            ++ toString maxFlowData ++ " byte flow limit")
          return .error (.invalidTrack (toString length ++ " bytes of sample data"))
        else playFlow c t settings.volume

/-- Stop the flow that plays, and signal that playback is over before the id can be read again. -/
def stop : Action Unit := do
  let current ← takeFlow
  if current ≠ 0 then
    if !(← stopFlow current) then
      log .debug ("flow: event pump is gone, flow " ++ toString current.toNat ++ " not stopped")
  cancelDone
  putFlow 0

/-- Signal that playback is over, and end the pump with its connection. -/
def close : Action Unit := do
  cancelDone
  shutPump
  let _ ← takeFlow
  putFlow 0

/-- The output. -/
def output (c : Config) : Output Interface where
  name := name
  playCommand := none
  play := play c
  stop := stop
  close := close
  setVolume _ := pure ()
  dropped := shutPump

/-- Connect to the server. -/
def openOutput (c : Config) : Action (Except OpenError (Output Interface)) := do
  match ← startPump c.server with
  | .ok _ => return .ok (output c)
  | .error e =>
    log .critical ("flow: can't connect to the audio server: " ++ e.message)
    return .error e

/-- Open the output that the parameters ask for, given the host names that are known and the server that
    the environment names. -/
def openFor (names : String → Option Net.Ip) (environment : Option String) (p : OpenParams) :
    Action (Except OpenError (Output Interface)) := do
  match endpoint names environment (p.target slotFlowServer) with
  | .ok server => openOutput { server }
  | .error failure =>
    log .critical ("flow: can't resolve the audio server: " ++ failure.text)
    return .error (.invalidParameter slotFlowServer failure.text)

end Player

end Playout.Flow
