import Diago.Lib.Machine
import Diago.Media.Codec

/-! # The size of a frame

A frame of a codec lasts a fixed time.
-/
namespace Diago.Media
open Lib

/-- How the samples of a duration in nanoseconds are computed, for a clock rate. -/
abbrev SampleCount := ℤ → UInt32 → ℚ

def floatCount : SampleCount := fun d rate => float64 (float64 rate.toNat * seconds d)

def exactCount : SampleCount := fun d rate => (rate.toNat : ℚ) * d / 1000000000

def timestampOf (samples : ℚ) : UInt32 := UInt32.ofInt (truncate samples)

def Codec.sampleTimestamp (count : SampleCount) (c : Codec) : UInt32 :=
  timestampOf (count c.sampleDur c.sampleRate)

def Codec.samples16 (count : SampleCount) (c : Codec) : ℤ :=
  wrap64 (2 * truncate (count c.sampleDur c.sampleRate) * c.numChannels)

theorem truncate_of_nonneg {x : ℚ} (h : 0 ≤ x) : truncate x = ⌊x⌋ := if_pos h

theorem exactCount_nonneg {d : ℤ} (h : 0 ≤ d) (rate : UInt32) : 0 ≤ exactCount d rate := by
  have hd : (0 : ℚ) ≤ d := by exact_mod_cast h
  unfold exactCount
  positivity

theorem exactCount_mono {d e : ℤ} (h : d ≤ e) (rate : UInt32) :
    exactCount d rate ≤ exactCount e rate := by
  have hde : (d : ℚ) ≤ e := by exact_mod_cast h
  unfold exactCount
  gcongr

theorem toNat_timestampOf {x : ℚ} (h : 0 ≤ x) (hx : x < 2 ^ 31) :
    ((timestampOf x).toNat : ℤ) = ⌊x⌋ ∧ (timestampOf x).toNat < 2 ^ 31 := by
  have hlow : 0 ≤ ⌊x⌋ := Int.floor_nonneg.mpr h
  have hhigh : ⌊x⌋ < 2 ^ 31 := Int.floor_lt.mpr (by exact_mod_cast hx)
  have htoNat : (timestampOf x).toNat = ⌊x⌋.toNat := by
    rw [timestampOf, truncate_of_nonneg h, UInt32.ofInt, UInt32.toNat_ofNat']
    omega
  omega

theorem one_le_of_samples16 {c : Codec} (hdur : 0 < c.sampleDur)
    (h : 0 < c.samples16 exactCount) : 1 ≤ ⌊exactCount c.sampleDur c.sampleRate⌋ := by
  have hnonneg := exactCount_nonneg hdur.le c.sampleRate
  rw [Codec.samples16, truncate_of_nonneg hnonneg] at h
  have hlow : 0 ≤ ⌊exactCount c.sampleDur c.sampleRate⌋ := Int.floor_nonneg.mpr hnonneg
  by_contra hzero
  have hnone : ⌊exactCount c.sampleDur c.sampleRate⌋ = 0 := by omega
  simp [hnone, wrap64] at h

end Diago.Media
