import Playout.Params
import Playout.Text.Decimal
import Playout.Program

/-!
# `Playout.Output` — what every audio output can do

An output plays one track at a time on the calling thread; any other thread may stop it meanwhile. All it
does goes through one interface of requests.

## Contents
- `Handle` — an open native device, stream or connection.
- `Output` — the programs of an output.
-/

namespace Playout

/-- An open native device, stream or connection, by its number. -/
abbrev Handle := Nat

/-- An opened audio output over the interface `I`. -/
structure Output (I : Interface) where
  name : String
  /-- The command with which a track could be played from outside. -/
  playCommand : Option String
  /-- Play a track to its end or until it is stopped. -/
  play : Track → PlaySettings → Program I (Except PlayError Unit)
  /-- Interrupt the playback that is going on, if any. -/
  stop : Program I Unit
  /-- Interrupt playback and give back what is open. -/
  close : Program I Unit
  /-- Learn that the volume was changed. -/
  setVolume : Int → Program I Unit
  /-- What happens when the output goes out of use without having been closed. -/
  dropped : Program I Unit

/-- How long a track lasts in seconds, as it is shown: with three places, from a 64-bit float. -/
def Track.durationText (t : Track) : String :=
  Text.fixed 3 (Arithmetic.machine.number t.duration)

end Playout
