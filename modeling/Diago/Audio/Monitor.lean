import Diago.Audio.Playback
import Diago.Media.Frames
import Mathlib.Algebra.Order.Floor.Div

/-! # Recording a monitored stream

The frames of one direction of a call are recorded as they come. Nothing comes
while a party does not send, so before a frame is written the time since the last
one is measured in samples and the frames that are missing are written as
silence.
-/
namespace Diago.Audio
open Lib Media

structure PcmBufioWriter (σ : Type) where
  writer : σ
  stopped : Bool := false
  /-- In nanoseconds. -/
  lastTime : ℤ
  codec : Codec
  silence : Bytes

section Writer

variable {σ : Type} (write : Bytes → σ → (ℕ × Option IOErr) × σ)

/-- The loop that writes silence, with its counter; none when it did not end within the given
number of frames. -/
def silenceLoop (silence : Bytes) (srt diff : UInt32) :
    (fuel : ℕ) → (i : UInt32) → σ → Option (Option IOErr × σ)
  | 0, i, w => if i < diff then none else some (none, w)
  | fuel + 1, i, w =>
    if i < diff then
      match write silence w with
      | ((_, some err), w) => some (some err, w)
      | ((_, none), w) => silenceLoop silence srt diff fuel (i + srt) w
    else some (none, w)

namespace PcmBufioWriter

variable (count : SampleCount)

def writeSilenceUnsafe (fuel : ℕ) (m : PcmBufioWriter σ) (now : ℤ) :
    Option (Option IOErr × PcmBufioWriter σ) :=
  let diff := timestampOf (count (now - m.lastTime) m.codec.sampleRate)
  let srt := m.codec.sampleTimestamp count
  match silenceLoop write m.silence srt diff fuel (2 * srt) m.writer with
  | none => none
  | some (some err, w) => some (some err, { m with writer := w })
  | some (none, w) => some (none, { m with writer := w, lastTime := now })

def writePCM (fuel : ℕ) (m : PcmBufioWriter σ) (now : ℤ) (lpcm : Bytes) :
    Option (Option IOErr × PcmBufioWriter σ) :=
  if m.stopped = true then some (none, m)
  else
    match m.writeSilenceUnsafe write count fuel now with
    | none => none
    | some (some err, m) => some (some err, m)
    | some (none, m) =>
      let r := write lpcm m.writer
      some (r.1.2, { m with writer := r.2 })

end PcmBufioWriter

end Writer

def frameWrite (b : Bytes) (frames : List Bytes) : (ℕ × Option IOErr) × List Bytes :=
  ((b.length, none), frames ++ [b])

/-- The calls of `calls`, each at its time and with its frame. -/
def monitor (fuel : ℕ) (m : PcmBufioWriter (List Bytes)) (calls : List (ℤ × Bytes)) :
    Option (PcmBufioWriter (List Bytes)) :=
  calls.foldlM (fun m call => (m.writePCM frameWrite exactCount fuel call.1 call.2).map (·.2)) m

/-- The times between calls, the first from `start`. -/
def gaps : (start : ℤ) → List (ℤ × Bytes) → List ℤ
  | _, [] => []
  | start, call :: calls => (call.1 - start) :: gaps call.1 calls

def lastCall : (start : ℤ) → List (ℤ × Bytes) → ℤ
  | start, [] => start
  | _, call :: calls => lastCall call.1 calls

theorem sum_gaps (start : ℤ) (calls : List (ℤ × Bytes)) :
    (gaps start calls).sum = lastCall start calls - start := by
  induction calls generalizing start with
  | nil => simp [gaps, lastCall]
  | cons call calls ih =>
    rw [gaps, List.sum_cons, ih, lastCall]
    omega

/-- What one gap leaves out: its length in frames less the frame that ends it and the silence
written for it. -/
def shortfall (codec : Codec) (gap : ℤ) : ℚ :=
  gap / codec.sampleDur -
    max 1 (⌈(⌊exactCount gap codec.sampleRate⌋ : ℚ) /
      ⌊exactCount codec.sampleDur codec.sampleRate⌋⌉ - 1)

theorem exactCount_eq_div_mul_add (gap dur : ℤ) (rate : UInt32) :
    exactCount gap rate = (gap / dur : ℤ) * exactCount dur rate + exactCount (gap % dur) rate := by
  have hsplit : (gap : ℚ) = dur * (gap / dur : ℤ) + (gap % dur : ℤ) := by
    exact_mod_cast (Int.mul_ediv_add_emod gap dur).symm
  unfold exactCount
  rw [hsplit]
  ring

theorem exactCount_emod_lt {dur : ℤ} (hdur : 0 < dur) {rate : UInt32} {n : ℕ} (hn : 0 < n)
    (hwhole : exactCount dur rate = n) (gap : ℤ) : exactCount (gap % dur) rate < n := by
  have hdurq : (0 : ℚ) < dur := by exact_mod_cast hdur
  have hnq : (0 : ℚ) < n := by exact_mod_cast hn
  have hmod : ((gap % dur : ℤ) : ℚ) < dur := by exact_mod_cast Int.emod_lt_of_pos gap hdur
  have hcross : exactCount (gap % dur) rate * dur = n * (gap % dur : ℤ) := by
    rw [← hwhole]
    unfold exactCount
    ring
  refine lt_of_mul_lt_mul_right ?_ hdurq.le
  rw [hcross]
  gcongr

theorem shortfall_whole {codec : Codec} (hdur : 0 < codec.sampleDur) {n : ℕ} (hn : 0 < n)
    (hwhole : exactCount codec.sampleDur codec.sampleRate = n) {gap : ℤ}
    (hgap : codec.sampleDur ≤ gap) :
    shortfall codec gap = gap / codec.sampleDur -
      (if exactCount (gap % codec.sampleDur) codec.sampleRate < 1
        then max 1 (gap / codec.sampleDur - 1) else gap / codec.sampleDur : ℤ) := by
  have hnq : (0 : ℚ) < n := by exact_mod_cast hn
  have hk : 1 ≤ gap / codec.sampleDur := (Int.le_ediv_iff_mul_le hdur).mpr (by omega)
  have hnonneg := exactCount_nonneg (Int.emod_nonneg gap hdur.ne') codec.sampleRate
  have hlt := exactCount_emod_lt hdur hn hwhole gap
  have hfloor : ⌊exactCount gap codec.sampleRate⌋ =
      (gap / codec.sampleDur) * n + ⌊exactCount (gap % codec.sampleDur) codec.sampleRate⌋ := by
    rw [exactCount_eq_div_mul_add gap codec.sampleDur, hwhole]
    exact_mod_cast Int.floor_intCast_add _ _
  rw [shortfall, hfloor, hwhole, Int.floor_natCast, Int.cast_add, Int.cast_mul, Int.cast_natCast,
    add_div, mul_div_cancel_right₀ _ hnq.ne', Int.ceil_intCast_add]
  generalize exactCount (gap % codec.sampleDur) codec.sampleRate = c at *
  split_ifs with hone
  · rw [Int.floor_eq_zero_iff.mpr ⟨hnonneg, hone⟩, Int.cast_zero, zero_div, Int.ceil_zero, add_zero]
  · have hsome : 1 ≤ ⌊c⌋ := Int.le_floor.mpr (by simpa using hone)
    have hless : ⌊c⌋ < n := Int.floor_lt.mpr (by exact_mod_cast hlt)
    have hceil : ⌈(⌊c⌋ : ℚ) / n⌉ = 1 := by
      rw [Int.ceil_eq_iff, Int.cast_one, sub_self, div_le_one hnq]
      exact ⟨by positivity, by exact_mod_cast hless.le⟩
    rw [hceil, add_sub_cancel_right, max_eq_right hk]

theorem ceilDiv_sub_self {n k : ℕ} (hk : 0 < k) : (n - k) ⌈/⌉ k = n ⌈/⌉ k - 1 := by
  refine eq_of_forall_ge_iff fun c => ?_
  rw [ceilDiv_le_iff_le_mul hk, tsub_le_iff_right, tsub_le_iff_right, ceilDiv_le_iff_le_mul hk,
    mul_add, mul_one]

theorem ceilDiv_pos {n k : ℕ} (hk : 0 < k) (hn : 0 < n) : 0 < n ⌈/⌉ k := by
  rw [pos_iff_ne_zero, ne_eq, ← Nat.le_zero, ceilDiv_le_iff_le_mul hk]
  omega

theorem ceil_div_natCast {n k : ℕ} (hk : 0 < k) : ⌈(n : ℚ) / k⌉ = ((n ⌈/⌉ k : ℕ) : ℤ) := by
  have hkq : (0 : ℚ) < k := by exact_mod_cast hk
  refine eq_of_forall_ge_iff fun c => ?_
  rw [Int.ceil_le, div_le_iff₀ hkq]
  obtain hc | hc := le_or_gt 0 c
  · lift c to ℕ using hc
    rw [Int.ofNat_le, ceilDiv_le_iff_le_mul hk, mul_comm]
    exact_mod_cast Iff.rfl
  · have hleft : (c : ℚ) * k < 0 := mul_neg_of_neg_of_pos (by exact_mod_cast hc) hkq
    have hn : (0 : ℚ) ≤ n := n.cast_nonneg
    constructor
    · intro h
      linarith
    · intro h
      omega

theorem silenceLoop_eq {silence : Bytes} {srt diff : UInt32} (hsrt : 0 < srt.toNat)
    (hfit : diff.toNat + srt.toNat < 2 ^ 32) {fuel : ℕ} {i : UInt32}
    (hfuel : diff.toNat - i.toNat ≤ fuel) (frames : List Bytes) :
    silenceLoop frameWrite silence srt diff fuel i frames =
      some (none, frames ++
        List.replicate ((diff.toNat - i.toNat) ⌈/⌉ srt.toNat) silence) := by
  induction fuel generalizing i frames with
  | zero =>
    have hend : ¬ i < diff := by
      rw [UInt32.lt_iff_toNat_lt]
      omega
    rw [silenceLoop, if_neg hend, Nat.sub_eq_zero_of_le (by omega), zero_ceilDiv]
    simp
  | succ fuel ih =>
    rw [silenceLoop]
    split_ifs with hlt
    · rw [UInt32.lt_iff_toNat_lt] at hlt
      have hnext : (i + srt).toNat = i.toNat + srt.toNat := by
        rw [UInt32.toNat_add]
        omega
      have hpos := ceilDiv_pos hsrt (show 0 < diff.toNat - i.toNat by omega)
      obtain ⟨k, hk⟩ : ∃ k, (diff.toNat - i.toNat) ⌈/⌉ srt.toNat = k + 1 :=
        ⟨_, (Nat.succ_pred_eq_of_pos hpos).symm⟩
      simp only [frameWrite]
      rw [ih (by omega), hnext, ← Nat.sub_sub, ceilDiv_sub_self hsrt, hk, List.replicate_succ,
        List.append_assoc, List.singleton_append, Nat.add_sub_cancel]
    · rw [UInt32.lt_iff_toNat_lt] at hlt
      rw [Nat.sub_eq_zero_of_le (by omega), zero_ceilDiv]
      simp

/-- What a call writes for a gap shorter than 2³¹ samples: the silence, and its frame. -/
theorem writePCM_frames {m : PcmBufioWriter (List Bytes)} (hrunning : m.stopped = false)
    (hdur : 0 < m.codec.sampleDur) (hframe : 0 < m.codec.samples16 exactCount) {now : ℤ}
    (hgap : m.codec.sampleDur ≤ now - m.lastTime)
    (hshort : exactCount (now - m.lastTime) m.codec.sampleRate < 2 ^ 31) {fuel : ℕ}
    (hfuel : 2 ^ 31 ≤ fuel) (lpcm : Bytes) :
    ∃ frames, m.writePCM frameWrite exactCount fuel now lpcm =
        some (none, { m with writer := frames, lastTime := now }) ∧
      ((frames.length - m.writer.length : ℤ) : ℚ) =
        (now - m.lastTime : ℤ) / m.codec.sampleDur - shortfall m.codec (now - m.lastTime) := by
  have hone := one_le_of_samples16 hdur hframe
  have hdurcount := exactCount_nonneg hdur.le m.codec.sampleRate
  have hmono := exactCount_mono hgap m.codec.sampleRate
  obtain ⟨hsrt, hsrtlt⟩ := toNat_timestampOf hdurcount (hmono.trans_lt hshort)
  obtain ⟨hdiff, hdifflt⟩ := toNat_timestampOf (hdurcount.trans hmono) hshort
  rw [← Codec.sampleTimestamp] at hsrt hsrtlt
  set srt := m.codec.sampleTimestamp exactCount
  set diff := timestampOf (exactCount (now - m.lastTime) m.codec.sampleRate)
  have htwice : (2 * srt).toNat = 2 * srt.toNat := by
    rw [UInt32.toNat_mul]
    change 2 * srt.toNat % 2 ^ 32 = 2 * srt.toNat
    omega
  have hloop := @silenceLoop_eq m.silence srt diff (by omega) (by omega) fuel (2 * srt)
    (by omega) m.writer
  refine ⟨m.writer ++ List.replicate ((diff.toNat - (2 * srt).toNat) ⌈/⌉ srt.toNat) m.silence ++
    [lpcm], ?_, ?_⟩
  · rw [PcmBufioWriter.writePCM, if_neg (by simp [hrunning]), PcmBufioWriter.writeSilenceUnsafe]
    simp only [srt, diff] at hloop ⊢
    rw [hloop]
    simp only [frameWrite]
  · have hsteps : (diff.toNat - (2 * srt).toNat) ⌈/⌉ srt.toNat =
        diff.toNat ⌈/⌉ srt.toNat - 2 := by
      rw [htwice, two_mul, ← Nat.sub_sub, ceilDiv_sub_self (by omega),
        ceilDiv_sub_self (by omega), Nat.sub_sub]
    rw [shortfall, sub_sub_cancel, ← hsrt, ← hdiff, Int.cast_natCast, Int.cast_natCast,
      ceil_div_natCast (by omega), hsteps, List.length_append, List.length_append,
      List.length_replicate, List.length_singleton]
    have hcount : ((m.writer.length + (diff.toNat ⌈/⌉ srt.toNat - 2) + 1 : ℕ) : ℤ) -
        m.writer.length = max 1 (((diff.toNat ⌈/⌉ srt.toNat : ℕ) : ℤ) - 1) := by
      omega
    rw [hcount]

theorem monitor_frames {m : PcmBufioWriter (List Bytes)} (hrunning : m.stopped = false)
    (hdur : 0 < m.codec.sampleDur) (hframe : 0 < m.codec.samples16 exactCount)
    {calls : List (ℤ × Bytes)} (hgaps : ∀ g ∈ gaps m.lastTime calls, m.codec.sampleDur ≤ g)
    (hshort : exactCount (lastCall m.lastTime calls - m.lastTime) m.codec.sampleRate < 2 ^ 31)
    {fuel : ℕ} (hfuel : 2 ^ 31 ≤ fuel) :
    ∃ m', monitor fuel m calls = some m' ∧
      ((m'.writer.length - m.writer.length : ℤ) : ℚ) =
        (lastCall m.lastTime calls - m.lastTime : ℤ) / m.codec.sampleDur -
          ((gaps m.lastTime calls).map (shortfall m.codec)).sum := by
  induction calls generalizing m with
  | nil => exact ⟨m, rfl, by simp [gaps, lastCall]⟩
  | cons call calls ih =>
    rw [gaps, List.forall_mem_cons] at hgaps
    have hlater : 0 ≤ (gaps call.1 calls).sum :=
      List.sum_nonneg fun g hg => hdur.le.trans (hgaps.2 g hg)
    rw [sum_gaps] at hlater
    have htotal : exactCount (call.1 - m.lastTime) m.codec.sampleRate < 2 ^ 31 :=
      (exactCount_mono (by rw [lastCall]; omega) _).trans_lt hshort
    have hrest : exactCount (lastCall call.1 calls - call.1) m.codec.sampleRate < 2 ^ 31 :=
      (exactCount_mono (by rw [lastCall]; omega) _).trans_lt hshort
    obtain ⟨frames, hcall, hframes⟩ :=
      writePCM_frames hrunning hdur hframe hgaps.1 htotal hfuel call.2
    obtain ⟨m', hrun, hlength⟩ :=
      @ih { m with writer := frames, lastTime := call.1 } hrunning hdur hframe hgaps.2 hrest
    refine ⟨m', ?_, ?_⟩
    · rw [monitor, List.foldlM_cons, hcall]
      exact hrun
    · rw [gaps, List.map_cons, List.sum_cons, lastCall]
      push_cast at hframes hlength ⊢
      have hsplit : ((lastCall call.1 calls : ℚ) - m.lastTime) / m.codec.sampleDur =
          (call.1 - m.lastTime) / m.codec.sampleDur +
            (lastCall call.1 calls - call.1) / m.codec.sampleDur := by
        rw [← add_div]
        ring_nf
      linarith

/-- A recording keeps time within two frames exactly if its gaps leave out no more together. With
frames of whole samples a gap leaves out the part of a frame it ends with and, when that is less
than a sample and the gap more than one frame, a whole one. -/
theorem recording_keeps_time_iff (codec : Codec) (hdur : 0 < codec.sampleDur)
    (hframe : 0 < codec.samples16 exactCount) (silence : Bytes) (start : ℤ)
    (calls : List (ℤ × Bytes)) (hgaps : ∀ g ∈ gaps start calls, codec.sampleDur ≤ g)
    (hshort : exactCount (lastCall start calls - start) codec.sampleRate < 2 ^ 31) (fuel : ℕ)
    (hfuel : 2 ^ 31 ≤ fuel) :
    ((∃ m, monitor fuel { writer := [], lastTime := start, codec, silence } calls = some m ∧
      |(m.writer.length : ℚ) - (lastCall start calls - start : ℤ) / codec.sampleDur| ≤ 2) ↔
    |((gaps start calls).map (shortfall codec)).sum| ≤ 2) ∧
    ∀ n : ℕ, exactCount codec.sampleDur codec.sampleRate = n → ∀ g ∈ gaps start calls,
      shortfall codec g = g / codec.sampleDur -
        (if exactCount (g % codec.sampleDur) codec.sampleRate < 1
          then max 1 (g / codec.sampleDur - 1) else g / codec.sampleDur : ℤ) := by
  refine ⟨?_, fun n hwhole g hg => ?_⟩
  · obtain ⟨m, hrun, hlength⟩ := @monitor_frames
      { writer := [], lastTime := start, codec, silence } rfl hdur hframe calls hgaps hshort fuel
      hfuel
    have hdrift : (m.writer.length : ℚ) - (lastCall start calls - start : ℤ) / codec.sampleDur =
        -((gaps start calls).map (shortfall codec)).sum := by
      rw [List.length_nil, Nat.cast_zero, sub_zero, Int.cast_natCast] at hlength
      linarith
    rw [hrun]
    simp only [Option.some.injEq, exists_eq_left', hdrift, abs_neg]
  · have hone := one_le_of_samples16 hdur hframe
    rw [hwhole, Int.floor_natCast] at hone
    exact shortfall_whole hdur (by omega) hwhole (hgaps g hg)

def ulawMonitor : PcmBufioWriter (List Bytes) :=
  { writer := [], lastTime := 0, codec := codecAudioUlaw, silence := List.replicate 320 0 }

/-- Frames one frame time apart, and one after a gap of four that two frames of silence fill. -/
theorem filled_gap_keeps_time :
    ∃ m, monitor (2 ^ 31) ulawMonitor
        ([20, 40, 120].map fun t => (t * millisecond, List.replicate 320 1)) = some m ∧
      |(m.writer.length : ℚ) - (120 * millisecond : ℤ) / (20 * millisecond : ℤ)| ≤ 2 :=
  (recording_keeps_time_iff codecAudioUlaw (by decide) (by decide +kernel) _ 0 _
    (by decide) (by decide +kernel) _ le_rfl).1.mpr (by decide +kernel)

/-- Of three gaps of two frames each the recording has three frames. -/
theorem three_gaps_lose_time :
    ¬ ∃ m, monitor (2 ^ 31) ulawMonitor
        ([40, 80, 120].map fun t => (t * millisecond, List.replicate 320 1)) = some m ∧
      |(m.writer.length : ℚ) - (120 * millisecond : ℤ) / (20 * millisecond : ℤ)| ≤ 2 := by
  rintro ⟨m, hrun, hkeeps⟩
  have hframes : (monitor (2 ^ 31) ulawMonitor
      ([40, 80, 120].map fun t => (t * millisecond, List.replicate 320 1))).map
        (fun m => m.writer.length) = some 3 := by
    decide +kernel
  rw [hrun, Option.map_some, Option.some.injEq] at hframes
  rw [hframes] at hkeeps
  exact absurd hkeeps (by decide +kernel)

end Diago.Audio
