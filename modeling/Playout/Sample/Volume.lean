import Playout.Number.Rounding

/-!
# `Playout.Sample.Volume` — volumes and gains

A volume is a number from -100, silence, to 100, the samples as they are. As a gain it is a 32-bit
float from 0 to 1, by which every sample is multiplied in 32-bit arithmetic and cut toward zero. A flow
server takes the volume as a number of thousandths instead.

## Contents
- `volumeMin`, `volumeMax`, `volumeDefault`, `volumeInRange`.
- `gain`, `scaleSample`, `scale`.
- `flowVolume`.
-/

namespace Playout.Sample

/-- The least volume: silence. -/
def volumeMin : Int := -100

/-- The greatest volume: samples are not changed. -/
def volumeMax : Int := 100

/-- The volume a device starts with. -/
def volumeDefault : Int := 0

/-- Whether `volume` can be set. -/
def volumeInRange (volume : Int) : Bool := volumeMin ≤ volume && volume ≤ volumeMax

/-- `volume`, or the end of the range it lies beyond. -/
def clampVolume (volume : Int) : Int :=
  if volume < volumeMin then volumeMin else if volumeMax < volume then volumeMax else volume

/-- The gain of a volume: its distance from silence in units of the whole range, as a 32-bit
    float. -/
def gain (volume : Int) : Rat :=
  Number.nearest Number.single
    (((clampVolume volume - volumeMin : Int) : Rat) / ((volumeMax - volumeMin : Int) : Rat))

/-- The integer part of `x`. -/
def truncate (x : Rat) : Int := if x < 0 then x.ceil else x.floor

/-- A sample multiplied by a gain in 32-bit arithmetic and cut toward zero. -/
def scaleSample (factor : Rat) (s : Int16) : Int16 :=
  Int16.ofInt (truncate (Number.nearest Number.single ((s.toInt : Rat) * factor)))

/-- The samples at a volume. -/
def scale (samples : List Int16) (volume : Int) : List Int16 :=
  let factor := gain volume
  samples.map (scaleSample factor)

/-- The gain that a flow server is asked for: half the distance from silence, cut toward zero, in
    steps of 1500, and never negative. A device lets only volumes in range through to an output, so that 32 bits
    are enough for the product. -/
def flowVolume (volume : Int) : UInt32 :=
  UInt32.ofNat ((volume - volumeMin).tdiv 2 * 1500).toNat

/-! ## Small facts -/

/-- Scaling keeps the number of samples. -/
@[simp] theorem length_scale (samples : List Int16) (volume : Int) :
    (scale samples volume).length = samples.length := by
  simp [scale]

example : gain 100 = 1 := by decide +kernel
example : gain (-100) = 0 := by decide +kernel
example : scale [1000, -3] 0 = [500, -1] := by decide +kernel
example : flowVolume 100 = 150000 := by decide

end Playout.Sample
