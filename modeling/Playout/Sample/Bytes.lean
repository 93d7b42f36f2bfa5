import Playout.Track

/-!
# `Playout.Sample.Bytes` — samples as raw bytes

A 16-bit sample is two bytes in a given order. An 8-bit sample is one byte: its value is first limited
to -128..127 and then written as a signed or as an unsigned (value plus 128) byte. Reading bytes back
widens signed 8-bit values to the 16-bit range.

## Contents
- `wordBytes`, `ofWordBytes`, `swap` — one 16-bit sample.
- `EightBit`, `clampEight`, `eightByte` — one 8-bit sample.
- `toBytes`, `ofBytes` — whole sample lists.
-/

namespace Playout.Sample

/-! ## One sample of 16 bits -/

/-- The two bytes of a sample. -/
def wordBytes (order : ByteOrder) (s : Int16) : List UInt8 :=
  let word := s.toUInt16.toNat
  let low := UInt8.ofNat (word % 256)
  let high := UInt8.ofNat (word / 256)
  match order with
  | .little => [low, high]
  | .big => [high, low]

/-- The sample that two bytes hold. -/
def ofWordBytes (order : ByteOrder) (first second : UInt8) : Int16 :=
  let word := match order with
    | .little => first.toNat + 256 * second.toNat
    | .big => 256 * first.toNat + second.toNat
  (UInt16.ofNat word).toInt16

/-- The sample with its two bytes exchanged. -/
def swap (s : Int16) : Int16 :=
  let word := s.toUInt16.toNat
  (UInt16.ofNat (256 * (word % 256) + word / 256)).toInt16

/-- The samples with their bytes exchanged. -/
def swapAll (samples : List Int16) : List Int16 := samples.map swap

/-! ## One sample of 8 bits -/

/-- How an 8-bit sample is written. -/
inductive EightBit where
  | signed
  | unsigned
  deriving DecidableEq, Repr

/-- A sample limited to the values of a signed byte. -/
def clampEight (s : Int16) : Int :=
  let v := s.toInt
  if v < -128 then -128 else if 127 < v then 127 else v

/-- The byte of an 8-bit sample. -/
def eightByte (form : EightBit) (s : Int16) : UInt8 :=
  match form with
  | .signed => UInt8.ofInt (clampEight s)
  | .unsigned => UInt8.ofInt (clampEight s + 128)

/-! ## Whole sample lists -/

/-- The bytes of `samples`. Every width but 8 is written as 16 bits. -/
def toBytes (samples : List Int16) (bits : UInt16) (order : ByteOrder) (form : EightBit) :
    List UInt8 :=
  if bits = 8 then samples.map (eightByte form)
  else samples.flatMap (wordBytes order)

/-- The samples that pairs of bytes hold; an odd last byte is left out. -/
def ofWords (order : ByteOrder) : List UInt8 → List Int16
  | first :: second :: rest => ofWordBytes order first second :: ofWords order rest
  | _ => []

/-- A signed byte widened to the 16-bit range. -/
def widen (b : UInt8) : Int16 := Int16.ofInt (256 * b.toInt8.toInt)

/-- The samples that `bytes` hold, 8-bit ones as signed values widened to the 16-bit range. -/
def ofBytes (bytes : List UInt8) (bits : UInt16) (order : ByteOrder) : List Int16 :=
  if bits = 8 then bytes.map widen else ofWords order bytes

/-! ## Small facts -/

theorem length_wordBytes (order : ByteOrder) (s : Int16) : (wordBytes order s).length = 2 := by
  cases order <;> rfl

/-- Every sample takes up one byte, or two. -/
theorem length_toBytes (samples : List Int16) (bits : UInt16) (order : ByteOrder)
    (form : EightBit) :
    (toBytes samples bits order form).length = (if bits = 8 then 1 else 2) * samples.length := by
  unfold toBytes
  split
  · simp
  · induction samples with
    | nil => rfl
    | cons s rest ih =>
      rw [List.flatMap_cons, List.length_append, ih, length_wordBytes, List.length_cons]
      omega

/-- A 16-bit sample is read back from its two bytes. -/
theorem ofWordBytes_wordBytes (order : ByteOrder) (s : Int16) :
    ∃ first second, wordBytes order s = [first, second] ∧ ofWordBytes order first second = s := by
  have bound : s.toUInt16.toNat < 65536 := s.toUInt16.toNat_lt
  have low : (UInt8.ofNat (s.toUInt16.toNat % 256)).toNat = s.toUInt16.toNat % 256 := by
    rw [UInt8.toNat_ofNat']; omega
  have high : (UInt8.ofNat (s.toUInt16.toNat / 256)).toNat = s.toUInt16.toNat / 256 := by
    rw [UInt8.toNat_ofNat']; omega
  have whole : s.toUInt16.toNat % 256 + 256 * (s.toUInt16.toNat / 256) = s.toUInt16.toNat :=
    Nat.mod_add_div _ _
  cases order
  · refine ⟨_, _, rfl, ?_⟩
    simp only [ofWordBytes, low, high, whole]
    simp
  · refine ⟨_, _, rfl, ?_⟩
    simp only [ofWordBytes, low, high]
    rw [Nat.add_comm, whole]
    simp

/-- 16-bit samples are read back from their bytes. -/
theorem ofWords_flatMap_wordBytes (order : ByteOrder) (samples : List Int16) :
    ofWords order (samples.flatMap (wordBytes order)) = samples := by
  induction samples with
  | nil => rfl
  | cons s rest ih =>
    obtain ⟨first, second, written, read⟩ := ofWordBytes_wordBytes order s
    rw [List.flatMap_cons, written]
    simp [ofWords, read, ih]

example : toBytes [0x0102] 16 .little .signed = [0x02, 0x01] := by decide
example : toBytes [-128, 0, 127, 300] 8 .little .unsigned = [0, 128, 255, 255] := by decide

end Playout.Sample
