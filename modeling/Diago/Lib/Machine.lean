import Mathlib.Data.Int.Log
import Mathlib.Tactic

/-! # Machine numbers

Signed 64-bit integers as integers with an explicit wrap, and binary
floating-point numbers of 53 significant bits as the rationals they stand for.
-/
namespace Diago.Lib

/-- Two's complement of 64 bits. -/
def wrap64 (x : ℤ) : ℤ := (x + 2 ^ 63) % 2 ^ 64 - 2 ^ 63

theorem wrap64_of_range {x : ℤ} (hlow : -2 ^ 63 ≤ x) (hhigh : x < 2 ^ 63) : wrap64 x = x := by
  unfold wrap64
  omega

theorem wrap64_of_carry {x : ℤ} (hlow : 2 ^ 63 ≤ x) (hhigh : x < 2 ^ 64) :
    wrap64 x = x - 2 ^ 64 := by
  unfold wrap64
  omega

theorem wrap64_lt (x : ℤ) : wrap64 x < 2 ^ 63 := by
  unfold wrap64
  omega

theorem wrap64_wrap64_add (x y : ℤ) : wrap64 (wrap64 x + y) = wrap64 (x + y) := by
  unfold wrap64
  omega

def roundEven (x : ℚ) : ℤ :=
  if x - ⌊x⌋ < 1 / 2 then ⌊x⌋
  else if 1 / 2 < x - ⌊x⌋ then ⌊x⌋ + 1
  else if ⌊x⌋ % 2 = 0 then ⌊x⌋ else ⌊x⌋ + 1

@[simp] theorem roundEven_intCast (k : ℤ) : roundEven k = k := by simp [roundEven]

def lastPlace (x : ℚ) : ℚ := 2 ^ (Int.log 2 |x| - 52)

/-- The nearest number of 53 significant bits. -/
def float64 (x : ℚ) : ℚ := roundEven (x / lastPlace x) * lastPlace x

/-- The last place of a number of at most 53 bits is not past its own scale. -/
theorem log_le_of_lt {m : ℤ} (hzero : m ≠ 0) (hm : |m| < 2 ^ 53) (k : ℤ) :
    Int.log 2 |(m : ℚ) * 2 ^ k| - 52 ≤ k := by
  have hx : 0 < |(m : ℚ) * 2 ^ k| := by
    rw [abs_pos]
    positivity
  have hbits : |(m : ℚ)| < 2 ^ 53 := by exact_mod_cast hm
  have hlt : |(m : ℚ) * 2 ^ k| < ((2 : ℕ) : ℚ) ^ (53 + k) := by
    have hscale : (0 : ℚ) < 2 ^ k := by positivity
    rw [abs_mul, abs_of_pos hscale, Nat.cast_ofNat, zpow_add₀ (by norm_num)]
    exact mul_lt_mul_of_pos_right hbits hscale
  have hlog := (Int.lt_zpow_iff_log_lt (by norm_num) hx).mp hlt
  omega

theorem float64_eq {m : ℤ} (hm : |m| < 2 ^ 53) (k : ℤ) :
    float64 ((m : ℚ) * 2 ^ k) = (m : ℚ) * 2 ^ k := by
  by_cases hzero : m = 0
  · simp [hzero, float64, roundEven]
  obtain ⟨j, hj⟩ := Int.eq_ofNat_of_zero_le (sub_nonneg.mpr (log_le_of_lt hzero hm k))
  have hplace : (2 : ℚ) ^ k = 2 ^ j * lastPlace ((m : ℚ) * 2 ^ k) := by
    rw [lastPlace, ← zpow_natCast, ← zpow_add₀ (by norm_num)]
    congr 1
    omega
  have hpos : lastPlace ((m : ℚ) * 2 ^ k) ≠ 0 := by
    rw [lastPlace]
    positivity
  have hmultiple : (m : ℚ) * 2 ^ k / lastPlace ((m : ℚ) * 2 ^ k) = ((m * 2 ^ j : ℤ) : ℚ) := by
    rw [div_eq_iff hpos, Int.cast_mul, Int.cast_pow, Int.cast_ofNat, mul_assoc, ← hplace]
  rw [float64, hmultiple, roundEven_intCast, ← hmultiple, div_mul_cancel₀ _ hpos]

theorem float64_intCast {m : ℤ} (hm : |m| < 2 ^ 53) : float64 m = m := by
  simpa using float64_eq hm 0

def seconds (d : ℤ) : ℚ :=
  float64 (float64 (d.tdiv 1000000000) + float64 (float64 (d.tmod 1000000000) / 1000000000))

theorem seconds_whole {n : ℤ} (hn : |n| < 2 ^ 53) : seconds (n * 1000000000) = n := by
  have hquot : (n * 1000000000).tdiv 1000000000 = n := Int.mul_tdiv_cancel n (by norm_num)
  have hrem : (n * 1000000000).tmod 1000000000 = 0 := Int.mul_tmod_left n _
  have hzero : float64 0 = 0 := by simpa using @float64_intCast 0 (by norm_num)
  rw [seconds, hquot, hrem, Int.cast_zero, hzero, zero_div, hzero, add_zero,
    float64_intCast hn, float64_intCast hn]

def truncate (x : ℚ) : ℤ := if 0 ≤ x then ⌊x⌋ else ⌈x⌉

end Diago.Lib
