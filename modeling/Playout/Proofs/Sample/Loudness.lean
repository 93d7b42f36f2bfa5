import Playout.Proofs.Sample.Scaling

/-!
# `Playout.Proofs.Sample.Loudness` — how loud samples are at a volume

Scaling rounds twice and cuts, and each of the three keeps the order: a greater volume has a greater gain,
a greater product and a greater integer part. So although single samples are not what exact arithmetic
makes of them, none gets quieter when the volume is turned up. At the greatest volume the gain is one and
nothing is lost, so that no volume makes a sample louder than it was.

## Contents
- `loudness` — the magnitude that a sample is left with; `scaleSample_eq` — the sample by its sign and that.
- `gain_mono`, `loudness_mono`, `loudness_nonneg` — order.
- `scale_of_full`, `scale_of_silent` — both ends of the range.
- `NowhereLouder` — one list of samples against another.

## Main statement
`scale_mono_in_range` — scaled samples follow the volume, stay within the given ones and keep their signs.
-/

namespace Playout.Sample

open Number

/-! ## Order -/

theorem clampVolume_mono {v w : Int} (le : v ≤ w) : clampVolume v ≤ clampVolume w := by
  unfold clampVolume volumeMin volumeMax
  split <;> split <;> omega

theorem gain_mono {v w : Int} (le : v ≤ w) : gain v ≤ gain w := by
  rw [gain_eq, gain_eq]
  have low : (0 : ℚ) ≤ level v := by exact_mod_cast (level_bounds v).1
  have levels : (level v : ℚ) ≤ level w := by
    exact_mod_cast Int.sub_le_sub_right (clampVolume_mono le) volumeMin
  apply nearest_mono (by decide)
  · positivity
  · gcongr

/-- The magnitude that a sample is left with at a volume. -/
def loudness (volume : Int) (s : Int16) : Int := ⌊nearest single (s.toInt.natAbs * gain volume)⌋

theorem loudness_nonneg (volume : Int) (s : Int16) : 0 ≤ loudness volume s :=
  Int.floor_nonneg.2 (rounded_nonneg volume s.toInt.natAbs)

theorem loudness_mono {v w : Int} (le : v ≤ w) (s : Int16) : loudness v s ≤ loudness w s := by
  apply Int.floor_le_floor
  apply nearest_mono (by decide) (product_nonneg v _)
  gcongr
  exact gain_mono le

theorem scaleSample_eq (volume : Int) (s : Int16) :
    (scaleSample (gain volume) s).toInt = s.toInt.sign * loudness volume s := by
  obtain ⟨low, high⟩ := truncate_product_bounds volume s
  unfold scaleSample
  rw [Int16.toInt_ofInt_of_le low high, truncate_product]
  rfl

theorem natAbs_scaleSample_mono {v w : Int} (le : v ≤ w) (s : Int16) :
    (scaleSample (gain v) s).toInt.natAbs ≤ (scaleSample (gain w) s).toInt.natAbs := by
  have nonneg := loudness_nonneg v s
  have more := loudness_mono le s
  have magnitudes : (loudness v s).natAbs ≤ (loudness w s).natAbs := by omega
  rw [scaleSample_eq, scaleSample_eq, Int.natAbs_mul, Int.natAbs_mul]
  gcongr

/-- What is left of a sample has its sign. -/
theorem sign_scaleSample {volume : Int} {s : Int16} (left : scaleSample (gain volume) s ≠ 0) :
    (scaleSample (gain volume) s).toInt.sign = s.toInt.sign := by
  have nonneg := loudness_nonneg volume s
  have some : loudness volume s ≠ 0 := by
    intro none
    apply left
    rw [← Int16.toInt_inj, scaleSample_eq, none, mul_zero]
    rfl
  have heard : (loudness volume s).sign = 1 := Int.sign_eq_one_of_pos (by omega)
  rw [scaleSample_eq, Int.sign_mul, Int.sign_sign, heard, mul_one]

/-! ## The ends of the range -/

theorem gain_of_full {volume : Int} (full : volumeMax ≤ volume) : gain volume = 1 := by
  have clamped : clampVolume volume = clampVolume volumeMax := by
    unfold clampVolume volumeMin volumeMax at *
    split <;> split <;> omega
  have top : gain volumeMax = 1 := by decide +kernel
  rw [← top]
  unfold gain
  rw [clamped]

theorem gain_of_silent {volume : Int} (silent : volume ≤ volumeMin) : gain volume = 0 := by
  have clamped : clampVolume volume = clampVolume volumeMin := by
    unfold clampVolume volumeMin volumeMax at *
    split <;> split <;> omega
  have bottom : gain volumeMin = 0 := by decide +kernel
  rw [← bottom]
  unfold gain
  rw [clamped]

/-- Samples have fewer binary digits than a single keeps. -/
theorem nearest_sample (s : Int16) : nearest single s.toInt = s.toInt := by
  apply nearest_intCast
  calc |(s.toInt : ℚ)| = s.toInt.natAbs := by rw [Nat.cast_natAbs, Int.cast_abs]
    _ ≤ 32768 := by exact_mod_cast natAbs_toInt_le s
    _ < (2 : ℚ) ^ (23 : ℤ) := by norm_num

theorem scaleSample_one (s : Int16) : scaleSample 1 s = s := by
  unfold scaleSample
  rw [mul_one, nearest_sample]
  have whole : truncate s.toInt = s.toInt := by
    unfold truncate
    split
    · exact Rat.ceil_intCast _
    · exact Rat.floor_intCast _
  rw [whole, Int16.ofInt_toInt]

theorem scaleSample_zero (s : Int16) : scaleSample 0 s = 0 := by
  unfold scaleSample
  rw [mul_zero, nearest_zero]
  rfl

/-- At full volume and beyond samples stay as they are. -/
theorem scale_of_full {volume : Int} (full : volumeMax ≤ volume) (samples : List Int16) :
    scale samples volume = samples := by
  show samples.map (scaleSample (gain volume)) = samples
  rw [gain_of_full full, funext scaleSample_one, List.map_id'']
  exact fun _ => rfl

/-- At no volume nothing is left. -/
theorem scale_of_silent {volume : Int} (silent : volume ≤ volumeMin) (samples : List Int16) :
    scale samples volume = List.replicate samples.length 0 := by
  show samples.map (scaleSample (gain volume)) = _
  rw [gain_of_silent silent, funext scaleSample_zero, List.map_const']

/-! ## All samples -/

/-- No sample of one list is greater in magnitude than the one at the same place in the other. -/
def NowhereLouder (quiet loud : List Int16) : Prop :=
  List.Forall₂ (fun a b => a.toInt.natAbs ≤ b.toInt.natAbs) quiet loud

theorem scale_nowhereLouder {v w : Int} (le : v ≤ w) (samples : List Int16) :
    NowhereLouder (scale samples v) (scale samples w) := by
  show List.Forall₂ _ (samples.map _) (samples.map _)
  rw [List.forall₂_map_left_iff, List.forall₂_map_right_iff, List.forall₂_same]
  exact fun s _ => natAbs_scaleSample_mono le s

/-- **Scaling follows the volume.** At each volume there are as many samples as were given; none is louder
    than at a greater volume, none is louder than it was given, and none that is heard changes its sign. At
    the greatest volume and beyond they are the samples given, at the least and below they are silence. -/
theorem scale_mono_in_range (samples : List Int16) :
    (∀ v, (scale samples v).length = samples.length)
      ∧ (∀ v w, v ≤ w → NowhereLouder (scale samples v) (scale samples w))
      ∧ (∀ v, NowhereLouder (scale samples v) samples)
      ∧ (∀ v, List.Forall₂ (fun left given => left ≠ 0 → left.toInt.sign = given.toInt.sign)
          (scale samples v) samples)
      ∧ (∀ v, volumeMax ≤ v → scale samples v = samples)
      ∧ ∀ v, v ≤ volumeMin → scale samples v = List.replicate samples.length 0 := by
  refine ⟨length_scale samples, fun v w le => scale_nowhereLouder le samples, ?_, ?_,
    fun v full => scale_of_full full samples, fun v silent => scale_of_silent silent samples⟩
  · -- the samples given are those at the greatest volume
    intro v
    have most := scale_nowhereLouder (le_max_left v volumeMax) samples
    rwa [scale_of_full (le_max_right v volumeMax)] at most
  · intro v
    show List.Forall₂ _ (samples.map _) samples
    rw [List.forall₂_map_left_iff, List.forall₂_same]
    exact fun s _ => sign_scaleSample

/-- A sample that comes out one short at -87 is still louder at 5, where another one comes out one short. -/
theorem louder_at_five :
    (-87 : Int) ≤ 5 ∧ NowhereLouder (scale [-32768, 31400, 120] (-87)) (scale [-32768, 31400, 120] 5)
      ∧ volumeMax ≤ 101 ∧ scale [-32768, 31400, 120] 101 = [-32768, 31400, 120]
      ∧ -2147483648 ≤ volumeMin ∧ scale [-32768, 31400, 120] (-2147483648) = [0, 0, 0] :=
  have follows := scale_mono_in_range [-32768, 31400, 120]
  ⟨by decide, follows.2.1 (-87) 5 (by decide), by decide, follows.2.2.2.2.1 101 (by decide), by decide,
    follows.2.2.2.2.2 (-2147483648) (by decide)⟩

end Playout.Sample
