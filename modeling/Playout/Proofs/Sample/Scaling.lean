import Playout.Proofs.Number.Rounding
import Playout.Sample.Volume
import Mathlib.Data.Nat.GCD.Basic

/-!
# `Playout.Proofs.Sample.Scaling` — scaling by a rounded gain against exact arithmetic

A volume stands for a share of each sample: its distance from silence as a part of the whole range.
`share` is that share by exact arithmetic, cut toward zero. `scale` does not compute with it. It rounds
the share of one to a gain, rounds the product of sample and gain, and cuts what is left.

Both roundings together are off by less than one part of the range, and a share that is not whole is
at least one part away from every integer, so such a share is always cut to the same integer. A whole
share has no such margin: a product that stays below it by however little is cut to the integer before
it. The second rounding repairs that when half a unit in the last place, or less, is missing.

## Contents
- `level`, `share` — what scaling aims at; `FallsShort` — where it misses.
- `abs_product_sub_lt`, `floor_of_near` — the error, and the integer part of what is that close.
- `floor_product` — one magnitude; `truncate_product`, `scaleSample_toInt` — a sample of either sign.
- `shortAt` — the volumes at which samples fall short; `lastPlace_below`, `misses_of_fallsShort`,
  `exists_fallsShort_iff` — why there are no others.

## Main statement
`scale_toInt` — every sample comes out as its share, or one closer to zero where it falls short; at all
but 25 volumes every sample comes out as its share.
-/

namespace Playout.Sample

open Number

/-! ## What scaling aims at -/

/-- How far a volume is above silence. -/
def level (volume : Int) : Int := clampVolume volume - volumeMin

/-- A sample at a volume by exact arithmetic, cut toward zero. -/
def share (volume : Int) (s : Int16) : Int :=
  (s.toInt * level volume).tdiv (volumeMax - volumeMin)

/-- A sample falls short at a volume when its share is whole and its product with the gain misses that
    by more than half a unit in the last place. -/
def FallsShort (volume : Int) (s : Int16) : Prop :=
  volumeMax - volumeMin ∣ s.toInt * level volume ∧
    lastPlace single (s.toInt.natAbs * gain volume) / 2
      < (share volume s).natAbs - s.toInt.natAbs * gain volume

instance (volume : Int) (s : Int16) : Decidable (FallsShort volume s) :=
  inferInstanceAs (Decidable (_ ∧ _))

theorem range_eq : volumeMax - volumeMin = 200 := rfl

theorem level_bounds (volume : Int) : 0 ≤ level volume ∧ level volume ≤ 200 := by
  unfold level clampVolume volumeMin volumeMax
  split
  · decide
  · split
    · decide
    · omega

theorem gain_eq (volume : Int) : gain volume = nearest single (level volume / 200) := by
  unfold gain
  rw [range_eq]
  rfl

theorem gain_nonneg (volume : Int) : 0 ≤ gain volume := by
  have : (0 : ℚ) ≤ level volume := by exact_mod_cast (level_bounds volume).1
  rw [gain_eq]
  exact nearest_nonneg _ (by positivity)

theorem product_nonneg (volume : Int) (a : ℕ) : 0 ≤ a * gain volume :=
  mul_nonneg (Nat.cast_nonneg a) (gain_nonneg volume)

theorem rounded_nonneg (volume : Int) (a : ℕ) : 0 ≤ nearest single (a * gain volume) :=
  nearest_nonneg _ (product_nonneg volume a)

/-- A share of some amount, before it is cut, is not more than the amount. -/
theorem part_bounds (volume : Int) (a : ℕ) :
    0 ≤ ((a * level volume : ℤ) : ℚ) / 200 ∧ ((a * level volume : ℤ) : ℚ) / 200 ≤ a := by
  have low : (0 : ℚ) ≤ level volume := by exact_mod_cast (level_bounds volume).1
  have high : (level volume : ℚ) ≤ 200 := by exact_mod_cast (level_bounds volume).2
  push_cast
  constructor
  · positivity
  · calc (a : ℚ) * level volume / 200 ≤ a * 200 / 200 := by gcongr
      _ = a := by ring

/-! ## The error of a product -/

/-- The two roundings together are off by less than one part in two hundred: less than what keeps a
    share that is not whole from the nearest integer. -/
theorem abs_product_sub_lt (volume : Int) {a : ℕ} (bound : a ≤ 32768) :
    |a * gain volume - (a * level volume : ℤ) / 200| ≤ 1 / 512 ∧
      |nearest single (a * gain volume) - (a * level volume : ℤ) / 200| < 1 / 200 := by
  have low : (0 : ℚ) ≤ level volume := by exact_mod_cast (level_bounds volume).1
  have high : (level volume : ℚ) ≤ 200 := by exact_mod_cast (level_bounds volume).2
  have amount : (a : ℚ) ≤ 32768 := by exact_mod_cast bound
  have part : (2 : ℚ) ^ (-single : ℤ) = 1 / 16777216 := by
    show (2 : ℚ) ^ (-24 : ℤ) = _
    norm_num
  have first := abs_nearest_sub_le_mul single (level volume / 200)
  rw [← gain_eq, part, abs_of_nonneg (by positivity : (0 : ℚ) ≤ level volume / 200)] at first
  have second := abs_nearest_sub_le_mul single (a * gain volume)
  rw [part, abs_of_nonneg (product_nonneg volume a)] at second
  have product : |a * gain volume - (a * level volume : ℤ) / 200| ≤ 1 / 512 :=
    calc |a * gain volume - (a * level volume : ℤ) / 200|
        = a * |gain volume - level volume / 200| := by
          rw [← Nat.abs_cast a, ← abs_mul, Nat.abs_cast a]
          congr 1
          push_cast
          ring
      _ ≤ 32768 * (200 / 200 * (1 / 16777216)) := by gcongr; exact first.trans (by gcongr)
      _ = 1 / 512 := by norm_num
  refine ⟨product, ?_⟩
  have size := (part_bounds volume a).2
  have := (abs_le.1 product).1
  have := (abs_le.1 product).2
  have := (abs_le.1 second).1
  have := (abs_le.1 second).2
  rw [abs_lt]
  constructor <;> linarith

/-- What is less than one part away from a fraction has the fraction's integer part, unless the
    fraction is an integer and it lies below. -/
theorem floor_of_near {x : ℚ} {n d : ℤ} (pos : 0 < d) (near : |x - n / d| < 1 / d) :
    ⌊x⌋ = if d ∣ n ∧ x < n / d then n / d - 1 else n / d := by
  have pos' : (0 : ℚ) < d := by exact_mod_cast pos
  have parts : (n : ℚ) / d = (n / d : ℤ) + (n % d : ℤ) / d := by
    have : (n : ℚ) = d * (n / d : ℤ) + (n % d : ℤ) := by exact_mod_cast (Int.mul_ediv_add_emod n d).symm
    field_simp
    linarith
  have part : (1 : ℚ) / d ≤ 1 := by
    rw [div_le_one pos']
    exact_mod_cast pos
  rw [abs_lt, parts] at near
  by_cases whole : d ∣ n
  · have noRest : ((n % d : ℤ) : ℚ) / d = 0 := by rw [Int.emod_eq_zero_of_dvd whole]; simp
    rw [noRest] at near
    rw [parts, noRest, add_zero]
    by_cases below : x < (n / d : ℤ)
    · rw [if_pos ⟨whole, below⟩, Int.floor_eq_iff]
      push_cast
      constructor <;> linarith
    · rw [if_neg (fun short => below short.2), Int.floor_eq_iff]
      constructor <;> linarith
  · -- the fraction is one part or more away from both its neighbours
    have least : 1 ≤ n % d := by
      have := Int.emod_nonneg n pos.ne'
      have := mt Int.dvd_of_emod_eq_zero whole
      omega
    have most : n % d + 1 ≤ d := Int.emod_lt_of_pos n pos
    have least : (1 : ℚ) / d ≤ (n % d : ℤ) / d := by
      gcongr
      exact_mod_cast least
    have most : ((n % d : ℤ) : ℚ) / d + 1 / d ≤ 1 := by
      rw [← add_div, div_le_one pos']
      exact_mod_cast most
    rw [if_neg (fun short => whole short.1), Int.floor_eq_iff]
    constructor <;> linarith

/-! ## One magnitude -/

/-- The integer part of a rounded product: the share, or one less where the product stays below a
    whole share. -/
theorem floor_product (volume : Int) {a : ℕ} (bound : a ≤ 32768) :
    ⌊nearest single (a * gain volume)⌋
      = if 200 ∣ a * level volume
            ∧ lastPlace single (a * gain volume) / 2 < (a * level volume / 200 : ℤ) - a * gain volume
          then a * level volume / 200 - 1 else a * level volume / 200 := by
  obtain ⟨close, near⟩ := abs_product_sub_lt volume bound
  rw [floor_of_near (d := 200) (by norm_num) near]
  apply if_congr (and_congr_right fun whole => ?_) rfl rfl
  have quotient : ((a * level volume : ℤ) : ℚ) / 200 = (a * level volume / 200 : ℤ) := by
    rw [div_eq_iff (by norm_num)]
    exact_mod_cast (Int.ediv_mul_cancel whole).symm
  have small : |a * gain volume| < (2 : ℚ) ^ (single - 1 : ℤ) := by
    have amount : (a : ℚ) ≤ 32768 := by exact_mod_cast bound
    have size := (part_bounds volume a).2
    have := (abs_le.1 close).2
    rw [abs_of_nonneg (product_nonneg volume a)]
    show _ < (2 : ℚ) ^ (23 : ℤ)
    norm_num
    linarith
  show _ < ((a * level volume : ℤ) : ℚ) / 200 ↔ _
  rw [quotient] at near ⊢
  by_cases silent : a * gain volume = 0
  · -- nothing is left of silence, and nothing is missing
    rw [silent, nearest_zero] at near ⊢
    have none : (a * level volume / 200 : ℤ) = 0 := by
      rw [zero_sub, abs_neg] at near
      have : |a * level volume / 200| < 1 := by
        have : |((a * level volume / 200 : ℤ) : ℚ)| < 1 := near.trans (by norm_num)
        exact_mod_cast this
      exact Int.abs_lt_one_iff.1 this
    have := lastPlace_pos single 0
    rw [none]
    constructor
    · intro less
      exact absurd less (by norm_num)
    · intro less
      norm_num at less
      linarith
  · rw [← not_le, ← not_le, intCast_le_nearest_iff silent small]

/-! ## One sample -/

theorem truncate_of_nonneg {x : ℚ} (nonneg : 0 ≤ x) : truncate x = ⌊x⌋ :=
  if_neg (not_lt.2 nonneg)

/-- Cutting toward zero treats both signs alike. -/
theorem truncate_neg_of_nonneg {x : ℚ} (nonneg : 0 ≤ x) : truncate (-x) = -⌊x⌋ := by
  rcases nonneg.eq_or_lt with rfl | pos
  · simp [truncate_of_nonneg]
  · show (if -x < 0 then (-x).ceil else (-x).floor) = -⌊x⌋
    rw [if_pos (neg_lt_zero.2 pos), Rat.ceil_eq_neg_floor_neg, neg_neg]
    rfl

/-- A sample of either sign is scaled as its magnitude is. -/
theorem truncate_product (volume : Int) (z : Int) :
    truncate (nearest single (z * gain volume))
      = z.sign * ⌊nearest single (z.natAbs * gain volume)⌋ := by
  have nonneg := rounded_nonneg volume z.natAbs
  rcases lt_trichotomy z 0 with neg | rfl | pos
  · have mirror : (z : ℚ) = -z.natAbs := by
      rw [Nat.cast_natAbs, abs_of_neg neg, Int.cast_neg, neg_neg]
    rw [mirror, neg_mul, nearest_neg, truncate_neg_of_nonneg nonneg, Int.sign_eq_neg_one_of_neg neg, neg_one_mul]
  · simp [truncate_of_nonneg]
  · have same : (z : ℚ) = z.natAbs := by rw [Nat.cast_natAbs, abs_of_pos pos]
    rw [same, truncate_of_nonneg nonneg, Int.sign_eq_one_of_pos pos, one_mul]

theorem share_eq (volume : Int) (s : Int16) :
    share volume s = s.toInt.sign * (s.toInt.natAbs * level volume / 200) := by
  unfold share
  rw [range_eq]
  have nonneg := (level_bounds volume).1
  generalize s.toInt = z
  rcases lt_trichotomy z 0 with neg | rfl | pos
  · have mirror : z = -z.natAbs := by omega
    conv => lhs; rw [mirror]
    rw [Int.neg_mul, Int.neg_tdiv, Int.tdiv_eq_ediv_of_nonneg (by positivity),
      Int.sign_eq_neg_one_of_neg neg, neg_one_mul]
  · simp
  · have same : (z.natAbs : ℤ) = z := by omega
    rw [same, Int.tdiv_eq_ediv_of_nonneg (by positivity), Int.sign_eq_one_of_pos pos, one_mul]

theorem natAbs_share (volume : Int) (s : Int16) :
    ((share volume s).natAbs : ℤ) = s.toInt.natAbs * level volume / 200 := by
  have nonneg := (level_bounds volume).1
  have quotient : 0 ≤ s.toInt.natAbs * level volume / 200 := by positivity
  rw [share_eq]
  generalize s.toInt = z at *
  rcases lt_trichotomy z 0 with neg | rfl | pos
  · rw [Int.sign_eq_neg_one_of_neg neg]
    omega
  · simp
  · rw [Int.sign_eq_one_of_pos pos]
    omega

theorem fallsShort_iff (volume : Int) (s : Int16) :
    FallsShort volume s
      ↔ 200 ∣ s.toInt.natAbs * level volume
          ∧ lastPlace single (s.toInt.natAbs * gain volume) / 2
            < (s.toInt.natAbs * level volume / 200 : ℤ) - s.toInt.natAbs * gain volume := by
  have whole : (200 : ℤ) ∣ s.toInt * level volume ↔ (200 : ℤ) ∣ s.toInt.natAbs * level volume := by
    rcases Int.natAbs_eq s.toInt with same | mirror
    · rw [← same]
    · conv => lhs; rw [mirror, Int.neg_mul, Int.dvd_neg]
  unfold FallsShort
  rw [range_eq, whole, ← natAbs_share]
  rfl

theorem natAbs_toInt_le (s : Int16) : s.toInt.natAbs ≤ 32768 := by
  have := s.le_toInt
  have := s.toInt_lt
  omega

/-- What is cut fits into a sample again: it lies between zero and the sample. -/
theorem truncate_product_bounds (volume : Int) (s : Int16) :
    -2 ^ 15 ≤ truncate (nearest single (s.toInt * gain volume))
      ∧ truncate (nearest single (s.toInt * gain volume)) < 2 ^ 15 := by
  have least := s.le_toInt
  have most := s.toInt_lt
  have low : 0 ≤ ⌊nearest single (s.toInt.natAbs * gain volume)⌋ :=
    Int.floor_nonneg.2 (rounded_nonneg volume s.toInt.natAbs)
  have high : ⌊nearest single (s.toInt.natAbs * gain volume)⌋ ≤ s.toInt.natAbs := by
    have part : s.toInt.natAbs * level volume / 200 ≤ s.toInt.natAbs := by
      apply Int.ediv_le_of_le_mul (by norm_num)
      exact Int.mul_le_mul_of_nonneg_left (level_bounds volume).2 (Int.natCast_nonneg _)
    rw [floor_product volume (natAbs_toInt_le s)]
    split <;> omega
  rw [truncate_product]
  generalize ⌊nearest single (s.toInt.natAbs * gain volume)⌋ = magnitude at *
  rcases lt_trichotomy s.toInt 0 with neg | zero | pos
  · rw [Int.sign_eq_neg_one_of_neg neg]
    omega
  · rw [zero]
    simp
  · rw [Int.sign_eq_one_of_pos pos]
    omega

/-- A sample comes out as its share, or as the integer before it. -/
theorem scaleSample_toInt (volume : Int) (s : Int16) :
    (scaleSample (gain volume) s).toInt
      = if FallsShort volume s then share volume s - s.toInt.sign else share volume s := by
  have amount := floor_product volume (natAbs_toInt_le s)
  rw [← if_congr (fallsShort_iff volume s) rfl rfl] at amount
  have result : truncate (nearest single (s.toInt * gain volume))
      = if FallsShort volume s then share volume s - s.toInt.sign else share volume s := by
    rw [truncate_product, amount, share_eq]
    split
    · rw [mul_sub, mul_one]
    · rfl
  obtain ⟨low, high⟩ := truncate_product_bounds volume s
  unfold scaleSample
  rw [Int16.toInt_ofInt_of_le low high, result]

/-! ## The volumes concerned -/

/-- The volumes at which samples fall short, each with the least positive sample that does. -/
def shortAt : List (Int × Int16) :=
  [(-87, 1800), (-79, 600), (-74, 900), (-61, 600), (-58, 300), (-48, 450), (-47, 200), (-41, 200),
   (-35, 360), (-29, 11400), (-22, 300), (-16, 150), (4, 225), (5, 120), (6, 100), (17, 200), (18, 100),
   (30, 180), (31, 600), (42, 5700), (43, 600), (55, 1320), (56, 150), (68, 75), (81, 2200)]

/-- The greatest amount of which `m` parts in two hundred are a whole number up to `2 ^ c`. Such amounts
    are the multiples of the least of them. -/
def wholeWithin (m c : ℕ) : ℕ :=
  let least := 200 / Nat.gcd 200 m
  200 * 2 ^ c / (least * m) * least

/-- With `m` parts in two hundred, some whole share up to `2 ^ c` can be missed: what its amount loses by
    the rounding of the gain is more than half a unit in the last place below `2 ^ c`. -/
def Misses (m c : ℕ) : Prop :=
  (2 : ℚ) ^ c < 2 ^ 25 * (wholeWithin m c * (m / 200 - nearest single (m / 200)))

instance (m c : ℕ) : Decidable (Misses m c) := inferInstanceAs (Decidable (_ < _))

theorem le_wholeWithin {a m c : ℕ} (positive : 0 < m) (whole : 200 ∣ a * m) (within : a * m ≤ 200 * 2 ^ c) :
    a ≤ wholeWithin m c := by
  have common : 0 < Nat.gcd 200 m := Nat.gcd_pos_of_pos_left m (by decide)
  have left : 0 < 200 / Nat.gcd 200 m := Nat.div_pos (Nat.gcd_le_left m (by decide)) common
  obtain ⟨j, rfl⟩ : 200 / Nat.gcd 200 m ∣ a := by
    apply (Nat.coprime_div_gcd_div_gcd common).dvd_of_dvd_mul_right
    apply Nat.dvd_of_mul_dvd_mul_right common
    rw [Nat.div_mul_cancel (Nat.gcd_dvd_left 200 m), mul_assoc, Nat.div_mul_cancel (Nat.gcd_dvd_right 200 m)]
    exact whole
  show _ ≤ 200 * 2 ^ c / (200 / Nat.gcd 200 m * m) * (200 / Nat.gcd 200 m)
  rw [mul_comm]
  apply Nat.mul_le_mul_right
  rw [Nat.le_div_iff_mul_le (Nat.mul_pos left positive)]
  calc j * (200 / Nat.gcd 200 m * m) = 200 / Nat.gcd 200 m * j * m := by ring
    _ ≤ 200 * 2 ^ c := within

/-- What lies just below a whole number has its last place from the next power of two. -/
theorem lastPlace_below {x : ℚ} {k : ℕ} (positive : 0 < k) (bound : k ≤ 32768) (near : k - 1 / 512 ≤ x)
    (less : x < k) : ∃ c < 16, k ≤ 2 ^ c ∧ lastPlace single x = 2 ^ c / 2 ^ 24 := by
  have one : (1 : ℚ) ≤ k := by exact_mod_cast positive
  have bound : (k : ℚ) ≤ 32768 := by exact_mod_cast bound
  have pos : 0 < x := by linarith
  obtain ⟨low, high⟩ := floorLog2_spec pos.ne'
  rw [abs_of_pos pos] at low high
  have notSmall : -1 < floorLog2 x + 1 := by
    apply two_zpow_lt_iff.1
    norm_num
    linarith
  have notLarge : floorLog2 x < 15 := by
    apply two_zpow_lt_iff.1
    norm_num
    linarith
  obtain ⟨c, place⟩ : ∃ c : ℕ, floorLog2 x + 1 = c := ⟨_, (Int.toNat_of_nonneg (by omega)).symm⟩
  refine ⟨c, by omega, ?_, ?_⟩
  · rw [place, zpow_natCast] at high
    have : (k : ℚ) < 2 ^ c + 1 := by linarith
    exact Nat.lt_add_one_iff.1 (by exact_mod_cast this)
  · rw [lastPlace_eq, place, zpow_sub₀ (by norm_num), zpow_natCast, zpow_natCast]
    rfl

/-- The magnitude of a sample that falls short, and its share. -/
theorem FallsShort.magnitude {volume : Int} {s : Int16} {m : ℕ} (parts : level volume = m)
    (short : FallsShort volume s) : ∃ a k : ℕ, a ≤ 32768 ∧ a * m = 200 * k ∧
      lastPlace single (a * gain volume) / 2 < k - a * gain volume := by
  obtain ⟨whole, missing⟩ := (fallsShort_iff volume s).1 short
  have bound := natAbs_toInt_le s
  rw [parts] at whole missing
  generalize s.toInt.natAbs = a at *
  obtain ⟨k, share⟩ : 200 ∣ a * m := by exact_mod_cast whole
  have quotient : (a * m / 200 : ℤ) = k := by
    apply Int.ediv_eq_of_eq_mul_right (by norm_num)
    exact_mod_cast share
  rw [quotient] at missing
  exact ⟨a, k, bound, share, missing⟩

/-- A sample falls short only where shares of its size can be missed. -/
theorem misses_of_fallsShort {volume : Int} {s : Int16} {m : ℕ} (parts : level volume = m)
    (short : FallsShort volume s) : ∃ c < 16, Misses m c := by
  obtain ⟨a, k, bound, share, missing⟩ := short.magnitude parts
  have close := (abs_product_sub_lt volume bound).1
  have most := (part_bounds volume a).2
  have nonneg := product_nonneg volume a
  have rounded := gain_eq volume
  rw [parts, Int.cast_natCast] at rounded
  generalize gain volume = g at *
  have fraction : (a : ℚ) * m = 200 * k := by exact_mod_cast share
  have quotient : ((a * level volume : ℤ) : ℚ) / 200 = k := by
    rw [parts]
    push_cast
    rw [fraction, mul_div_cancel_left₀ _ (by norm_num)]
  rw [quotient] at close most
  have unit := lastPlace_pos single (a * g)
  have positive : 0 < k := by
    have : (0 : ℚ) < k := by linarith
    exact_mod_cast this
  have most : k ≤ a := by exact_mod_cast most
  have near := (abs_le.1 close).1
  have less : a * g < k := by linarith
  obtain ⟨c, place, within, last⟩ := lastPlace_below positive (most.trans bound) (by linarith) less
  refine ⟨c, place, ?_⟩
  have lost : (k : ℚ) - a * g = a * (m / 200 - g) := by linarith
  rw [last, lost] at missing
  have loses : 0 < (m : ℚ) / 200 - g := by
    have : 0 < a * ((m : ℚ) / 200 - g) := lt_trans (by positivity) missing
    exact (mul_pos_iff_of_pos_left (by exact_mod_cast positive.trans_le most)).1 this
  have amount : (a : ℚ) ≤ wholeWithin m c := by
    have : a ≤ wholeWithin m c := by
      apply le_wholeWithin _ ⟨k, share⟩
      · rw [share]
        exact Nat.mul_le_mul_left 200 within
      · apply Nat.pos_of_ne_zero
        rintro rfl
        omega
    exact_mod_cast this
  rw [Misses, ← rounded]
  calc (2 : ℚ) ^ c = 2 ^ 25 * (2 ^ c / 2 ^ 24 / 2) := by ring
    _ < 2 ^ 25 * (a * (m / 200 - g)) := by gcongr
    _ ≤ 2 ^ 25 * (wholeWithin m c * (m / 200 - g)) := by gcongr

/-- Shares can be missed at the listed volumes only. -/
theorem mem_shortAt_of_misses : ∀ m < 201, ∀ c < 16, Misses m c → (m : Int) - 100 ∈ shortAt.map Prod.fst := by
  decide +kernel

/-- A volume out of range stands for an end of it, and no sample falls short there. -/
theorem mem_shortAt_of_level {volume : Int} (listed : level volume - 100 ∈ shortAt.map Prod.fst) :
    volume ∈ shortAt.map Prod.fst := by
  have inside : ∀ v ∈ shortAt.map Prod.fst, -100 < v ∧ v < 100 := by decide
  obtain ⟨low, high⟩ := inside _ listed
  have same : level volume - 100 = volume := by
    revert low high
    unfold level clampVolume volumeMin volumeMax
    split
    · omega
    · split <;> omega
  rw [← same]
  exact listed

/-- The listed samples do fall short. -/
theorem fallsShort_of_mem_shortAt : ∀ entry ∈ shortAt, FallsShort entry.1 entry.2 := by
  decide +kernel

/-- Samples fall short at the listed volumes, and at no other. -/
theorem exists_fallsShort_iff (volume : Int) :
    (∃ s, FallsShort volume s) ↔ volume ∈ shortAt.map Prod.fst := by
  constructor
  · rintro ⟨s, short⟩
    obtain ⟨m, parts⟩ := Int.eq_ofNat_of_zero_le (level_bounds volume).1
    have most := (level_bounds volume).2
    obtain ⟨c, place, misses⟩ := misses_of_fallsShort parts short
    apply mem_shortAt_of_level
    rw [parts]
    exact mem_shortAt_of_misses m (by omega) c place misses
  · intro listed
    obtain ⟨entry, mem, rfl⟩ := List.mem_map.1 listed
    exact ⟨entry.2, fallsShort_of_mem_shortAt entry mem⟩

/-! ## All samples -/

/-- Nothing is missing from silence. -/
theorem FallsShort.sign_ne_zero {volume : Int} {s : Int16} (short : FallsShort volume s) :
    s.toInt.sign ≠ 0 := by
  intro zero
  obtain ⟨-, missing⟩ := (fallsShort_iff volume s).1 short
  have := lastPlace_pos single 0
  rw [Int.sign_eq_zero_iff_zero.1 zero] at missing
  norm_num at missing
  linarith

/-- **Scaling, exactly.** Every sample comes out as its share of the volume, except that one which falls
    short comes out one closer to zero. So all samples come out as their shares at every volume but the
    25 listed ones. -/
theorem scale_toInt (volume : Int) :
    (∀ samples, (scale samples volume).map Int16.toInt
        = samples.map fun s => if FallsShort volume s then share volume s - s.toInt.sign else share volume s)
      ∧ ((∀ samples, (scale samples volume).map Int16.toInt = samples.map (share volume))
          ↔ volume ∉ shortAt.map Prod.fst) := by
  have each : ∀ samples, (scale samples volume).map Int16.toInt
      = samples.map fun s => if FallsShort volume s then share volume s - s.toInt.sign else share volume s := by
    intro samples
    show (samples.map (scaleSample (gain volume))).map Int16.toInt = _
    rw [List.map_map]
    exact List.map_congr_left fun s _ => scaleSample_toInt volume s
  refine ⟨each, ?_⟩
  rw [← exists_fallsShort_iff, not_exists]
  constructor
  · intro exactly s short
    have both := (each [s]).symm.trans (exactly [s])
    simp only [List.map_cons, List.map_nil, if_pos short, List.cons.injEq, and_true] at both
    have := short.sign_ne_zero
    omega
  · intro none samples
    rw [each]
    exact List.map_congr_left fun s _ => if_neg (none s)

/-- Thirteen two-hundredths of 31400 are 2041, and 2040 comes out. -/
theorem loud_sample_short :
    (scale [31400] (-87)).map Int16.toInt = [2040] ∧ [(31400 : Int16)].map (share (-87)) = [2041] := by
  decide +kernel

end Playout.Sample
