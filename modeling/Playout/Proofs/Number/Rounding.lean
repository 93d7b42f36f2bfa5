import Playout.Number.Rounding
import Mathlib.Algebra.Order.Field.Power
import Mathlib.Algebra.Order.Field.Rat
import Mathlib.Data.Rat.Floor
import Mathlib.Tactic.FieldSimp
import Mathlib.Tactic.Linarith
import Mathlib.Tactic.Positivity
import Mathlib.Tactic.Ring

/-!
# `Playout.Proofs.Number.Rounding` — what rounding costs, and what it cannot cross

A rounded number is off by half a unit of its grid at most. That is all that most uses need; the
others need to know on which side of a whole number the result lies, since a cut toward zero follows.
Rounding to an integer does not cross an integer, and rounding to a floating-point format does not cross
one either as long as the integers lie on the grid; but it may *reach* one from below, namely when half
a unit or less is missing. At exactly half a unit the even neighbour wins, and in a grid finer than the
integers every integer is even.

## Contents
- `abs_roundEven_sub_le`, `le_roundEven_iff`, `roundEven_neg` — to an integer.
- `floorLog2_spec`, `floorLog2_eq` — the leading digit, by the powers of two around it.
- `abs_nearest_sub_le`, `abs_nearest_sub_le_mul` — the error, in units of the last place and relative to
  the number.
- `nearest_neg` — both signs are rounded alike; `nearest_intCast` — whole numbers stay as they are.
- `roundEven_mono`, `le_nearest_of_le`, `nearest_le_of_le` — no point of the grid is crossed.

## Main statements
`intCast_le_nearest_iff` — rounding reaches a whole number exactly when half a unit or less is missing.
`nearest_mono` — a greater number is not rounded to less, also where the grid becomes coarser in between.
-/

namespace Playout.Number

/-! ## To an integer -/

/-- An integer is rounded to by what is half a unit or less away, an odd one only by what is less
    than half a unit away. -/
theorem roundEven_eq {x : ℚ} {n : ℤ} (near : |(n : ℚ) - x| ≤ 1 / 2)
    (tie : |(n : ℚ) - x| = 1 / 2 → n % 2 = 0) : roundEven x = n := by
  have low : (⌊x⌋ : ℚ) ≤ x := Int.floor_le x
  have high : x < ⌊x⌋ + 1 := Int.lt_floor_add_one x
  rw [abs_le] at near
  have notBelow : ⌊x⌋ ≤ n := by
    have : (⌊x⌋ : ℚ) < n + 1 := by linarith
    exact Int.lt_add_one_iff.1 (by exact_mod_cast this)
  have notAbove : n ≤ ⌊x⌋ + 1 := by
    have : (n : ℚ) < ⌊x⌋ + 1 + 1 := by linarith
    exact Int.lt_add_one_iff.1 (by exact_mod_cast this)
  show (if x - ⌊x⌋ < 1 / 2 then ⌊x⌋ else if 1 / 2 < x - ⌊x⌋ then ⌊x⌋ + 1 else ⌊x⌋ + ⌊x⌋ % 2) = n
  obtain rfl | rfl : n = ⌊x⌋ ∨ n = ⌊x⌋ + 1 := by omega
  · have noMore : ¬ 1 / 2 < x - ⌊x⌋ := by linarith
    rw [if_neg noMore]
    split
    · rfl
    · have : |(⌊x⌋ : ℚ) - x| = 1 / 2 := by rw [abs_of_nonpos] <;> linarith
      have := tie this
      omega
  · push_cast at near tie
    have noLess : ¬ x - ⌊x⌋ < 1 / 2 := by linarith
    rw [if_neg noLess]
    split
    · rfl
    · have : |(⌊x⌋ : ℚ) + 1 - x| = 1 / 2 := by rw [abs_of_nonneg] <;> linarith
      have := tie this
      omega

/-- Every number has such an integer: it is the result. -/
theorem abs_roundEven_sub_le (x : ℚ) :
    |(roundEven x : ℚ) - x| ≤ 1 / 2 ∧ (|(roundEven x : ℚ) - x| = 1 / 2 → roundEven x % 2 = 0) := by
  have low : (⌊x⌋ : ℚ) ≤ x := Int.floor_le x
  have high : x < ⌊x⌋ + 1 := Int.lt_floor_add_one x
  have shape : roundEven x
      = if x - ⌊x⌋ < 1 / 2 then ⌊x⌋ else if 1 / 2 < x - ⌊x⌋ then ⌊x⌋ + 1 else ⌊x⌋ + ⌊x⌋ % 2 := rfl
  rcases lt_trichotomy (x - ⌊x⌋) (1 / 2) with less | half | more
  · rw [shape, if_pos less, abs_of_nonpos (by linarith)]
    exact ⟨by linarith, fun tie => absurd tie (by linarith)⟩
  · rw [shape, if_neg half.not_lt, if_neg half.not_gt]
    rcases Int.emod_two_eq_zero_or_one ⌊x⌋ with even | odd
    · rw [even, Int.add_zero, abs_of_nonpos (by linarith)]
      exact ⟨by linarith, fun _ => even⟩
    · rw [odd]
      push_cast
      rw [abs_of_nonneg (by linarith)]
      exact ⟨by linarith, fun _ => by omega⟩
  · rw [shape, if_neg (by linarith), if_pos more]
    push_cast
    rw [abs_of_nonneg (by linarith)]
    exact ⟨by linarith, fun tie => absurd tie (by linarith)⟩

/-- Both signs are rounded alike. -/
theorem roundEven_neg (x : ℚ) : roundEven (-x) = -roundEven x := by
  obtain ⟨near, tie⟩ := abs_roundEven_sub_le x
  have mirror : |((-roundEven x : ℤ) : ℚ) - -x| = |(roundEven x : ℚ) - x| := by
    rw [← abs_neg]
    congr 1
    push_cast
    ring
  apply roundEven_eq
  · rw [mirror]
    exact near
  · intro half
    rw [mirror] at half
    have := tie half
    omega

/-- An even integer is reached exactly when half a unit or less is missing. -/
theorem le_roundEven_iff {x : ℚ} {n : ℤ} (even : n % 2 = 0) :
    n ≤ roundEven x ↔ (n : ℚ) - 1 / 2 ≤ x := by
  obtain ⟨near, tie⟩ := abs_roundEven_sub_le x
  constructor
  · intro reached
    have : (n : ℚ) ≤ roundEven x := by exact_mod_cast reached
    have := (abs_le.1 near).2
    linarith
  · intro close
    apply Int.not_lt.1
    intro short
    have below : (roundEven x : ℚ) ≤ n - 1 := by exact_mod_cast Int.le_sub_one_of_lt short
    have := (abs_le.1 near).1
    -- nothing is left but a tie, and that goes to an even integer
    have half : |(roundEven x : ℚ) - x| = 1 / 2 := by rw [abs_of_nonpos] <;> linarith
    have next : (roundEven x : ℚ) = n - 1 := by linarith
    have next : roundEven x = n - 1 := by exact_mod_cast next
    have := tie half
    omega

/-- A greater number is not rounded to a lesser integer: both results would be half a unit away from one
    and the same number. -/
theorem roundEven_mono {x y : ℚ} (le : x ≤ y) : roundEven x ≤ roundEven y := by
  apply Int.not_lt.1
  intro less
  have next : (roundEven y : ℚ) + 1 ≤ roundEven x := by exact_mod_cast less
  have above := (abs_le.1 (abs_roundEven_sub_le x).1).2
  have below := (abs_le.1 (abs_roundEven_sub_le y).1).1
  have same : x = y := by linarith
  rw [same] at less
  exact Int.lt_irrefl _ less

/-! ## The leading digit -/

theorem two_zpow_add (a b : ℤ) : (2 : ℚ) ^ (a + b) = 2 ^ a * 2 ^ b :=
  zpow_add₀ (by norm_num) a b

theorem two_zpow_lt_iff {a b : ℤ} : (2 : ℚ) ^ a < 2 ^ b ↔ a < b :=
  zpow_lt_zpow_iff_right₀ (by norm_num)

/-- The leading digit is guessed from the numerator and the denominator: a number of `n` and one of `d`
    digits have a quotient whose leading digit is the one at `n - d` or the one below. -/
theorem floorLog2_spec {x : ℚ} (nonzero : x ≠ 0) :
    (2 : ℚ) ^ floorLog2 x ≤ |x| ∧ |x| < 2 ^ (floorLog2 x + 1) := by
  have abs_rat : x.abs = |x| := by
    unfold Rat.abs
    split
    · rw [abs_of_nonneg ‹_›]
    · rw [abs_of_neg (not_le.1 ‹_›)]
  let a : ℤ := Nat.log2 x.num.natAbs
  let b : ℤ := Nat.log2 x.den
  have shape : floorLog2 x = if (2 : ℚ) ^ (a - b) ≤ |x| then a - b else a - b - 1 := by
    rw [← abs_rat]
    rfl
  have num_low : (2 : ℚ) ^ a ≤ x.num.natAbs := by
    show (2 : ℚ) ^ ((Nat.log2 x.num.natAbs : ℕ) : ℤ) ≤ _
    rw [zpow_natCast]
    exact_mod_cast Nat.log2_self_le (Int.natAbs_ne_zero.2 (Rat.num_ne_zero.2 nonzero))
  have num_high : (x.num.natAbs : ℚ) < 2 ^ (a + 1) := by
    show _ < (2 : ℚ) ^ (((Nat.log2 x.num.natAbs + 1 : ℕ)) : ℤ)
    rw [zpow_natCast]
    exact_mod_cast Nat.lt_log2_self
  have den_low : (2 : ℚ) ^ b ≤ x.den := by
    show (2 : ℚ) ^ ((Nat.log2 x.den : ℕ) : ℤ) ≤ _
    rw [zpow_natCast]
    exact_mod_cast Nat.log2_self_le x.den_nz
  have den_high : (x.den : ℚ) < 2 ^ (b + 1) := by
    show _ < (2 : ℚ) ^ (((Nat.log2 x.den + 1 : ℕ)) : ℤ)
    rw [zpow_natCast]
    exact_mod_cast Nat.lt_log2_self
  have quotient : |x| * x.den = x.num.natAbs := by
    rw [Nat.cast_natAbs, Int.cast_abs, ← Rat.mul_den_eq_num x, abs_mul, Nat.abs_cast]
  have den_pos : (0 : ℚ) < x.den := by exact_mod_cast x.den_pos
  have low : (2 : ℚ) ^ (a - b - 1) ≤ |x| := by
    apply le_of_mul_le_mul_right _ den_pos
    rw [quotient]
    calc (2 : ℚ) ^ (a - b - 1) * x.den ≤ 2 ^ (a - b - 1) * 2 ^ (b + 1) := by gcongr
      _ = 2 ^ a := by rw [← two_zpow_add]; congr 1; ring
      _ ≤ x.num.natAbs := num_low
  have high : |x| < 2 ^ (a - b + 1) := by
    apply lt_of_mul_lt_mul_right _ den_pos.le
    rw [quotient]
    calc (x.num.natAbs : ℚ) < 2 ^ (a + 1) := num_high
      _ = 2 ^ (a - b + 1) * 2 ^ b := by rw [← two_zpow_add]; congr 1; ring
      _ ≤ 2 ^ (a - b + 1) * x.den := by gcongr
  rw [shape]
  split
  · exact ⟨‹_›, high⟩
  · rw [Int.sub_add_cancel]
    exact ⟨low, not_le.1 ‹_›⟩

/-- The powers of two around a number say where its leading digit is. -/
theorem floorLog2_eq {x : ℚ} {e : ℤ} (low : (2 : ℚ) ^ e ≤ |x|) (high : |x| < 2 ^ (e + 1)) :
    floorLog2 x = e := by
  have nonzero : x ≠ 0 := abs_pos.1 (lt_of_lt_of_le (by positivity) low)
  obtain ⟨low', high'⟩ := floorLog2_spec nonzero
  have := two_zpow_lt_iff.1 (lt_of_le_of_lt low high')
  have := two_zpow_lt_iff.1 (lt_of_le_of_lt low' high)
  omega

theorem floorLog2_mono {x y : ℚ} (pos : 0 < x) (le : x ≤ y) : floorLog2 x ≤ floorLog2 y := by
  obtain ⟨low, -⟩ := floorLog2_spec pos.ne'
  obtain ⟨-, high⟩ := floorLog2_spec (pos.trans_le le).ne'
  rw [abs_of_pos pos] at low
  rw [abs_of_pos (pos.trans_le le)] at high
  have := two_zpow_lt_iff.1 (low.trans_lt (le.trans_lt high))
  omega

theorem floorLog2_neg (x : ℚ) : floorLog2 (-x) = floorLog2 x := by
  by_cases zero : x = 0
  · rw [zero, neg_zero]
  · obtain ⟨low, high⟩ := floorLog2_spec zero
    apply floorLog2_eq <;> rw [abs_neg]
    · exact low
    · exact high

/-! ## To a binary format -/

theorem lastPlace_eq (precision : ℕ) (x : ℚ) :
    lastPlace precision x = (2 : ℚ) ^ (floorLog2 x + 1 - precision) := rfl

theorem lastPlace_pos (precision : ℕ) (x : ℚ) : 0 < lastPlace precision x := by
  rw [lastPlace_eq]
  positivity

theorem nearest_eq {x : ℚ} (precision : ℕ) (nonzero : x ≠ 0) :
    nearest precision x = roundEven (x / lastPlace precision x) * lastPlace precision x :=
  if_neg nonzero

/-- Both signs are rounded alike. -/
theorem nearest_neg (precision : ℕ) (x : ℚ) : nearest precision (-x) = -nearest precision x := by
  by_cases zero : x = 0
  · simp [zero]
  · rw [nearest_eq _ zero, nearest_eq _ (neg_ne_zero.2 zero)]
    have unit : lastPlace precision (-x) = lastPlace precision x := by
      rw [lastPlace_eq, lastPlace_eq, floorLog2_neg]
    rw [unit, neg_div, roundEven_neg]
    push_cast
    ring

/-- A rounded number is off by half a unit in the last place at most. -/
theorem abs_nearest_sub_le {x : ℚ} (precision : ℕ) (nonzero : x ≠ 0) :
    |nearest precision x - x| ≤ lastPlace precision x / 2 := by
  have unit := lastPlace_pos precision x
  obtain ⟨near, -⟩ := abs_roundEven_sub_le (x / lastPlace precision x)
  rw [nearest_eq _ nonzero]
  calc |roundEven (x / lastPlace precision x) * lastPlace precision x - x|
      = |(roundEven (x / lastPlace precision x) - x / lastPlace precision x) * lastPlace precision x| := by
        congr 1
        field_simp
    _ = |roundEven (x / lastPlace precision x) - x / lastPlace precision x| * lastPlace precision x := by
        rw [abs_mul, abs_of_pos unit]
    _ ≤ 1 / 2 * lastPlace precision x := by gcongr
    _ = lastPlace precision x / 2 := by ring

/-- With `precision` digits kept, a rounded number is off by the `2 ^ precision`-th part of the number
    at most. -/
theorem abs_nearest_sub_le_mul (precision : ℕ) (x : ℚ) :
    |nearest precision x - x| ≤ |x| * (2 : ℚ) ^ (-precision : ℤ) := by
  by_cases zero : x = 0
  · simp [zero]
  · obtain ⟨low, -⟩ := floorLog2_spec zero
    calc |nearest precision x - x| ≤ lastPlace precision x / 2 := abs_nearest_sub_le precision zero
      _ = 2 ^ floorLog2 x * (2 : ℚ) ^ (-precision : ℤ) := by
          rw [lastPlace_eq, ← two_zpow_add, show floorLog2 x + 1 - (precision : ℤ)
            = floorLog2 x + -precision + 1 by ring, two_zpow_add]
          ring
      _ ≤ |x| * (2 : ℚ) ^ (-precision : ℤ) := by gcongr

theorem nearest_nonneg (precision : ℕ) {x : ℚ} (nonneg : 0 ≤ x) : 0 ≤ nearest precision x := by
  have part : (2 : ℚ) ^ (-precision : ℤ) ≤ 1 := zpow_le_one_of_nonpos₀ (by norm_num) (by omega)
  have off := (abs_le.1 (abs_nearest_sub_le_mul precision x)).1
  rw [abs_of_nonneg nonneg] at off
  have := mul_le_of_le_one_right nonneg part
  linarith

/-- **Reaching a whole number.** Where the grid is finer than the integers, rounding takes a number up
    to a whole one exactly when half a unit in the last place of that number, or less, is missing. -/
theorem intCast_le_nearest_iff {precision : ℕ} {x : ℚ} {n : ℤ} (nonzero : x ≠ 0)
    (fine : |x| < (2 : ℚ) ^ (precision - 1 : ℤ)) :
    (n : ℚ) ≤ nearest precision x ↔ n - x ≤ lastPlace precision x / 2 := by
  have unit := lastPlace_pos precision x
  obtain ⟨low, -⟩ := floorLog2_spec nonzero
  have small := two_zpow_lt_iff.1 (lt_of_le_of_lt low fine)
  -- one is an even number of units, and so is every integer
  obtain ⟨t, exponent⟩ : ∃ t : ℕ, floorLog2 x + 1 - (precision : ℤ) = -((t : ℤ) + 1) :=
    ⟨(precision - floorLog2 x - 2 : ℤ).toNat, by omega⟩
  have one : ((2 ^ (t + 1) : ℤ) : ℚ) * lastPlace precision x = 1 := by
    rw [lastPlace_eq, exponent, zpow_neg]
    push_cast
    rw [← zpow_natCast]
    push_cast
    exact mul_inv_cancel₀ (by positivity)
  have even : n * 2 ^ (t + 1) % 2 = 0 := by
    rw [pow_succ, ← mul_assoc]
    exact Int.mul_emod_left _ 2
  have whole : (n : ℚ) = ((n * 2 ^ (t + 1) : ℤ) : ℚ) * lastPlace precision x := by
    rw [Int.cast_mul, mul_assoc, one, mul_one]
  calc (n : ℚ) ≤ nearest precision x
      ↔ ((n * 2 ^ (t + 1) : ℤ) : ℚ) ≤ roundEven (x / lastPlace precision x) := by
        rw [nearest_eq _ nonzero, whole]
        exact mul_le_mul_iff_left₀ unit
    _ ↔ n * 2 ^ (t + 1) ≤ roundEven (x / lastPlace precision x) := Int.cast_le
    _ ↔ ((n * 2 ^ (t + 1) : ℤ) : ℚ) - 1 / 2 ≤ x / lastPlace precision x := le_roundEven_iff even
    _ ↔ n - x ≤ lastPlace precision x / 2 := by
        rw [le_div_iff₀ unit, sub_mul, ← whole]
        constructor <;> intro close <;> linarith

/-- Whole numbers lie on a grid that is finer than the integers. -/
theorem nearest_intCast {precision : ℕ} {n : ℤ} (fine : |(n : ℚ)| < (2 : ℚ) ^ (precision - 1 : ℤ)) :
    nearest precision n = n := by
  by_cases zero : n = 0
  · simp [zero]
  · have reached : ∀ m : ℤ, m ≠ 0 → |(m : ℚ)| < (2 : ℚ) ^ (precision - 1 : ℤ) → (m : ℚ) ≤ nearest precision m := by
      intro m nonzero fine
      rw [intCast_le_nearest_iff (Int.cast_ne_zero.2 nonzero) fine, sub_self]
      exact (half_pos (lastPlace_pos precision m)).le
    apply le_antisymm
    · have mirror := reached (-n) (neg_ne_zero.2 zero) (by rwa [Int.cast_neg, abs_neg])
      rw [Int.cast_neg, nearest_neg] at mirror
      exact neg_le_neg_iff.1 mirror
    · exact reached n zero fine

/-! ### Order -/

/-- What lies at or above a multiple of its own unit is not rounded below it. -/
theorem le_nearest_of_le {precision : ℕ} {x : ℚ} {n : ℤ} (nonzero : x ≠ 0)
    (le : n * lastPlace precision x ≤ x) : n * lastPlace precision x ≤ nearest precision x := by
  have unit := lastPlace_pos precision x
  have units : n ≤ roundEven (x / lastPlace precision x) := by
    rw [← roundEven_intCast n]
    apply roundEven_mono
    rwa [le_div_iff₀ unit]
  rw [nearest_eq _ nonzero]
  gcongr

/-- What lies at or below a multiple of its own unit is not rounded above it. -/
theorem nearest_le_of_le {precision : ℕ} {x : ℚ} {n : ℤ} (nonzero : x ≠ 0)
    (le : x ≤ n * lastPlace precision x) : nearest precision x ≤ n * lastPlace precision x := by
  have unit := lastPlace_pos precision x
  have units : roundEven (x / lastPlace precision x) ≤ n := by
    rw [← roundEven_intCast n]
    apply roundEven_mono
    rwa [div_le_iff₀ unit]
  rw [nearest_eq _ nonzero]
  gcongr

/-- Each power of two is a whole number of units of the numbers above it and of those below it. -/
theorem two_zpow_eq_mul_lastPlace {precision k : ℕ} {x : ℚ} {e : ℤ} (exponent : e = floorLog2 x + 1 - precision + k) :
    (2 : ℚ) ^ e = ((2 ^ k : ℤ) : ℚ) * lastPlace precision x := by
  rw [exponent, two_zpow_add, lastPlace_eq, mul_comm, zpow_natCast]
  push_cast
  rfl

/-- **Rounding keeps the order.** Where both numbers have the same unit, that is so because it is for
    integers. Otherwise a power of two lies between them that neither of them crosses. -/
theorem nearest_mono {precision : ℕ} (digits : 0 < precision) {x y : ℚ} (nonneg : 0 ≤ x) (le : x ≤ y) :
    nearest precision x ≤ nearest precision y := by
  rcases nonneg.eq_or_lt with rfl | pos
  · rw [nearest_zero]
    exact nearest_nonneg _ le
  have pos' := pos.trans_le le
  rcases (floorLog2_mono pos le).eq_or_lt with same | less
  · have unit : lastPlace precision x = lastPlace precision y := by rw [lastPlace_eq, lastPlace_eq, same]
    rw [nearest_eq _ pos.ne', nearest_eq _ pos'.ne', unit]
    have := lastPlace_pos precision y
    gcongr
    apply roundEven_mono
    gcongr
  · have top : (2 : ℚ) ^ (floorLog2 x + 1) = ((2 ^ precision : ℤ) : ℚ) * lastPlace precision x :=
      two_zpow_eq_mul_lastPlace (by omega)
    have bottom : (2 : ℚ) ^ floorLog2 y = ((2 ^ (precision - 1) : ℤ) : ℚ) * lastPlace precision y :=
      two_zpow_eq_mul_lastPlace (by omega)
    have high := (floorLog2_spec pos.ne').2.le
    have low := (floorLog2_spec pos'.ne').1
    rw [abs_of_pos pos, top] at high
    rw [abs_of_pos pos', bottom] at low
    calc nearest precision x ≤ ((2 ^ precision : ℤ) : ℚ) * lastPlace precision x := nearest_le_of_le pos.ne' high
      _ = 2 ^ (floorLog2 x + 1) := top.symm
      _ ≤ 2 ^ floorLog2 y := by gcongr <;> [norm_num; omega]
      _ = ((2 ^ (precision - 1) : ℤ) : ℚ) * lastPlace precision y := bottom
      _ ≤ nearest precision y := le_nearest_of_le pos'.ne' low

end Playout.Number
