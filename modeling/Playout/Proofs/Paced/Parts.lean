import Playout.Paced.Output

/-!
# `Playout.Proofs.Paced.Parts` — the parts of a paced playback

Where a program of the output comes from several places to the same point, how it goes on from there has a name, so that
what holds of it is proved once.

## Contents
- `excuse` — after a write that has failed.
- `starveSince` — nothing has been free since a known moment.
- `waitOut` — the end of a round.
- `queryFailed` — the free space could not be told.
- `playOut` — the device lies in the slot.
-/

namespace Playout.Paced

/-- A write of a chunk has failed. After a stop it counts as done. -/
def excuse (chunk : List UInt8) (failure : Failure) : Action (Except PlayError Nat) := do
  if ← cancelled then return .ok chunk.length
  else
    log .error ("alsa: write failed: " ++ failure.text)
    return .error (.writeFailed failure.text)

/-- Nothing has been free since a moment that is known. -/
def starveSince (c : Config) (p : Progress) (since : Seconds) : Action Round := do
  let waited := (← clock) - since
  if c.pacing.maxFragmentWait < waited then
    let millis := (((← clock) - since) : Seconds).wholeMillis
    log .error ("alsa: no free fragment for " ++ toString millis ++ " ms, giving up")
    return .failed (.deviceStalled millis)
  else
    log .debug "alsa: not enough space for a single fragment, looping"
    nap napLength
    return .goOn { p with starvedSince := some since }

/-- The end of a round that has written something. -/
def waitOut (text : String) (span : Seconds) (p : Progress) : Action Round := do
  log .debug text
  match ← pause span with
  | .cancelled =>
    log .info "alsa: playback stopped"
    return .stopped
  | .timedOut => return .goOn p

/-- The free space could not be told. -/
def queryFailed (failure : Failure) : Action Round := do
  log .error ("alsa: buffer space query failed: " ++ failure.text)
  return .failed (.deviceQuery failure.text)

/-- Play bytes on the device that lies in the slot, and take it out again. -/
def playOut (c : Config) (bytes : List UInt8) (frameBytes rate : Nat) : Action (Except PlayError Unit) := do
  let outcome ← stream c frameBytes rate (enoughRounds c.pacing bytes.length) { rest := bytes }
  match ← uninstall with
  | some h =>
    if outcome.isOk then
      match ← flush h with
      | .ok _ => pure ()
      | .error failure => log .warning ("alsa: flush failed: " ++ failure.text)
    releaseDevice h
    log .info "alsa: device closed"
  | none => pure ()
  return outcome.map fun _ => ()

end Playout.Paced
