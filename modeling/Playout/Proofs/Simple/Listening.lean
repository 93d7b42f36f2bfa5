import Playout.Sample.Bytes
import Playout.Simple.Header
import Mathlib.Data.List.Basic

/-!
# `Playout.Proofs.Simple.Listening` — hearing what comes over a connection

A listener takes what comes over a connection piece by piece. It waits until the header is complete, and hears
the rest as samples in the announced format.

## Contents
- `Listener`, `Listener.feed`, `listen` — a listener, and what it knows after some pieces.
- `listen_encode` — it finds header and audio, wherever the stream was cut.
- `SampleFormat.values` — the values of samples in a format.
- `values_append`, `values_prefix` — values of parts of a stream.
- `Track.values`, `values_toBytes` — the values of a track, and that its bytes hold them.
-/

namespace Playout

/-! ## Listening -/

namespace Simple

/-- What a listener knows. -/
inductive Listener where
  | waiting (buffer : List UInt8)
  | hearing (spec : SampleSpec) (target : UInt32) (audio : List UInt8)
  | refusing (error : HeaderError)

/-- More bytes arrive. -/
def Listener.feed : Listener → List UInt8 → Listener
  | waiting buffer, bytes =>
    match decode (buffer ++ bytes) with
    | (.incomplete, rest) => waiting rest
    | (.message (spec, target), rest) => hearing spec target rest
    | (.malformed error, _) => refusing error
  | hearing spec target audio, bytes => hearing spec target (audio ++ bytes)
  | refusing error, _ => refusing error

/-- What a listener knows when the bytes arrive in these pieces. -/
def listen (pieces : List (List UInt8)) : Listener := pieces.foldl Listener.feed (.waiting [])

/-- A part of a header is kept until there is more. -/
theorem decode_short {buffer : List UInt8} (short : buffer.length < headerLength) :
    decode buffer = (.incomplete, buffer) := by
  unfold decode
  rw [if_pos short]

/-- A listener that hears goes on hearing. -/
theorem foldl_hearing (spec : SampleSpec) (target : UInt32) (audio : List UInt8)
    (pieces : List (List UInt8)) :
    pieces.foldl Listener.feed (.hearing spec target audio) = .hearing spec target (audio ++ pieces.flatten) := by
  induction pieces generalizing audio with
  | nil => simp
  | cons piece pieces ih =>
    show pieces.foldl Listener.feed (.hearing spec target (audio ++ piece)) = _
    rw [ih, List.flatten_cons, List.append_assoc]

/-- A listener that waits for the header finds it, and the audio behind it. -/
theorem foldl_waiting {spec : SampleSpec} {target : UInt32} {audio buffer : List UInt8}
    {pieces : List (List UInt8)} (short : buffer.length < headerLength)
    (whole : buffer ++ pieces.flatten = encode spec target ++ audio) :
    pieces.foldl Listener.feed (.waiting buffer) = .hearing spec target audio := by
  induction pieces generalizing buffer with
  | nil =>
    have length := congrArg List.length whole
    simp only [List.flatten_nil, List.append_nil, List.length_append, length_encode] at length
    omega
  | cons piece pieces ih =>
    rw [List.flatten_cons, ← List.append_assoc] at whole
    show pieces.foldl Listener.feed (Listener.feed (.waiting buffer) piece) = _
    by_cases still : (buffer ++ piece).length < headerLength
    · have kept : Listener.feed (.waiting buffer) piece = .waiting (buffer ++ piece) := by
        simp only [Listener.feed, decode_short still]
      rw [kept]
      exact ih still whole
    · -- The header ends inside this piece.
      have through : encode spec target <+: buffer ++ piece := by
        refine List.prefix_of_prefix_length_le ⟨audio, whole.symm⟩ ⟨pieces.flatten, rfl⟩ ?_
        rw [length_encode]
        omega
      obtain ⟨heard, arrived⟩ := through
      rw [← arrived, List.append_assoc, List.append_cancel_left_eq] at whole
      have found : Listener.feed (.waiting buffer) piece = .hearing spec target heard := by
        simp only [Listener.feed, ← arrived, decode_encode]
      rw [found, foldl_hearing, whole]

/-- **Header and audio are found wherever the stream is cut.** -/
theorem listen_encode {spec : SampleSpec} {target : UInt32} {audio : List UInt8}
    {pieces : List (List UInt8)} (whole : pieces.flatten = encode spec target ++ audio) :
    listen pieces = .hearing spec target audio := by
  refine foldl_waiting ?_ whole
  unfold headerLength
  exact Nat.zero_lt_succ _

end Simple

/-! ## The values of samples -/

namespace Sample

/-- Whole samples in front are read apart from what follows. -/
theorem ofWords_append (order : ByteOrder) {front : List UInt8} (back : List UInt8)
    (even : 2 ∣ front.length) : ofWords order (front ++ back) = ofWords order front ++ ofWords order back := by
  -- Two bytes at a time; a single one is left over only in front of an odd back.
  induction front using ofWords.induct with
  | case1 first second rest ih =>
    have fewer : 2 ∣ rest.length := by
      simp only [List.length_cons] at even
      omega
    show ofWords order (first :: second :: (rest ++ back)) = _
    simp only [ofWords, ih fewer, List.cons_append]
  | case2 bytes few =>
    cases bytes with
    | nil => rfl
    | cons first rest =>
      cases rest with
      | nil => simp at even
      | cons second rest => exact absurd rfl (few first second rest)

/-- A first part of the bytes holds a first part of the samples. -/
theorem ofWords_prefix (order : ByteOrder) {front whole : List UInt8} (first : front <+: whole) :
    ofWords order front <+: ofWords order whole := by
  obtain ⟨back, rfl⟩ := first
  induction front using ofWords.induct with
  | case1 one two rest ih =>
    show _ <+: ofWords order (one :: two :: (rest ++ back))
    simp only [ofWords]
    exact (List.prefix_cons_inj _).2 ih
  | case2 bytes few =>
    cases bytes with
    | nil => exact List.nil_prefix
    | cons one rest =>
      cases rest with
      | nil => exact List.nil_prefix
      | cons two rest => exact absurd rfl (few one two rest)

/-- An unsigned byte is 128 more than the value it stands for. -/
theorem eightByte_unsigned (s : Int16) : ((eightByte .unsigned s).toNat : Int) - 128 = clampEight s := by
  have low : -128 ≤ clampEight s := by
    unfold clampEight
    simp only
    split
    · omega
    · split <;> omega
  have high : clampEight s ≤ 127 := by
    unfold clampEight
    simp only
    split
    · omega
    · split <;> omega
  show ((UInt8.ofInt (clampEight s + 128)).toNat : Int) - 128 = clampEight s
  unfold UInt8.ofInt
  rw [UInt8.toNat_ofNat', Int.emod_eq_of_lt (by omega) (by omega)]
  omega

end Sample

/-- The values of the samples of a track; 8-bit ones are limited to a signed byte. -/
def Track.values (t : Track) : List Int :=
  if t.bits = 8 then t.samples.map Sample.clampEight else t.samples.map Int16.toInt

namespace Simple

/-- The values that bytes stand for in a format; a byte that is no whole sample is left out. -/
def SampleFormat.values : SampleFormat → List UInt8 → List Int
  | unsigned8, bytes => bytes.map fun b => (b.toNat : Int) - 128
  | signed16Little, bytes => (Sample.ofWords .little bytes).map Int16.toInt
  | signed16Big, bytes => (Sample.ofWords .big bytes).map Int16.toInt

@[simp] theorem SampleFormat.values_nil (format : SampleFormat) : format.values [] = [] := by
  cases format <;> rfl

/-- Whole samples in front are heard apart from what follows. -/
theorem values_append (format : SampleFormat) {front : List UInt8} (back : List UInt8)
    (fit : format.bytesPerSample ∣ front.length) :
    format.values (front ++ back) = format.values front ++ format.values back := by
  cases format with
  | unsigned8 => exact List.map_append
  | signed16Little =>
    show List.map _ (Sample.ofWords .little (front ++ back)) = _
    rw [Sample.ofWords_append _ _ fit]
    exact List.map_append
  | signed16Big =>
    show List.map _ (Sample.ofWords .big (front ++ back)) = _
    rw [Sample.ofWords_append _ _ fit]
    exact List.map_append

/-- A first part of the bytes is heard as a first part of the values. -/
theorem values_prefix (format : SampleFormat) {front whole : List UInt8} (first : front <+: whole) :
    format.values front <+: format.values whole := by
  cases format with
  | unsigned8 => exact first.map _
  | signed16Little => exact (Sample.ofWords_prefix _ first).map _
  | signed16Big => exact (Sample.ofWords_prefix _ first).map _

/-- Pieces of whole samples are heard one by one. -/
theorem values_flatten (format : SampleFormat) {pieces : List (List UInt8)} (last : List UInt8)
    (fit : ∀ piece ∈ pieces, format.bytesPerSample ∣ piece.length) :
    format.values (pieces.flatten ++ last) = (pieces.map format.values).flatten ++ format.values last := by
  induction pieces with
  | nil => rfl
  | cons piece pieces ih =>
    have later := ih fun piece mem => fit piece (List.mem_cons_of_mem _ mem)
    rw [List.flatten_cons, List.append_assoc, values_append format _ (fit piece List.mem_cons_self), later,
      List.map_cons, List.flatten_cons, List.append_assoc]

/-- **A track is heard as it is**, in the format that is announced for it. -/
theorem values_toBytes (t : Track) (order : ByteOrder) :
    (SampleSpec.ofTrack t order).format.values (Sample.toBytes t.samples t.bits order .unsigned) = t.values := by
  unfold Track.values SampleSpec.ofTrack Sample.toBytes
  by_cases eight : t.bits = 8
  · simp only [eight, if_true, SampleFormat.values, List.map_map]
    exact List.map_congr_left fun s _ => Sample.eightByte_unsigned s
  · simp only [eight, if_false]
    cases order with
    | little => simp only [SampleFormat.values, Sample.ofWords_flatMap_wordBytes]
    | big => simp only [SampleFormat.values, Sample.ofWords_flatMap_wordBytes]

/-- The bytes of a track are whole samples. -/
theorem bytesPerSample_dvd (t : Track) (order : ByteOrder) :
    (SampleSpec.ofTrack t order).format.bytesPerSample ∣
      (Sample.toBytes t.samples t.bits order .unsigned).length := by
  rw [Sample.length_toBytes]
  refine ⟨t.samples.length, congrArg (· * t.samples.length) ?_⟩
  unfold SampleSpec.ofTrack
  by_cases eight : t.bits = 8
  · simp only [eight, if_true]
    rfl
  · simp only [eight, if_false]
    cases order <;> rfl

end Simple

end Playout
