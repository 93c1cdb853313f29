import Diago.Rtp.Reports

/-! # The round-trip time

One side sends a sender report; the other names it in a reception report, with the
time it held it.
-/
namespace Diago.Rtp
open Lib Media

def ntpUnits (t : ℤ) : ℤ := (t + ntpEpochOffset * second) * 65536 / second

/-- The delay that goes into a report, as it is scaled. -/
def heldUnits (d : ℕ) : ℕ := d * 65356 / second

/-- What is left of the time from sending a report to reading the answer. -/
def measuredUnits (t : ℤ) (r d : ℕ) : ℤ := ntpUnits (t + d + r) - ntpUnits t - heldUnits d

/-- The duration read off a number of units, as its fraction is scaled. -/
def unitsDuration (x : ℤ) : ℤ := x / 65536 * second + x % 65536 * second / 65356

theorem second_eq : second = 1000000000 := rfl

theorem toNat_ntpTimestamp (t : ℤ) :
    ((ntpTimestamp t).toNat : ℤ) =
      (t / second + ntpEpochOffset) % 2 ^ 32 * 2 ^ 32 + t % second * 2 ^ 32 / second := by
  have hnanos : 0 ≤ t % second ∧ t % second < second :=
    ⟨Int.emod_nonneg _ (by decide), Int.emod_lt_of_pos _ (by decide)⟩
  rw [second_eq] at hnanos
  have hfrac : (t % second).toNat * 4294967296 / second < 2 ^ 32 := by
    rw [second_eq]
    omega
  have hsecs : (UInt64.ofInt (t / second + ntpEpochOffset)).toNat =
      ((t / second + ntpEpochOffset) % 2 ^ 64).toNat := by
    rw [UInt64.ofInt, UInt64.toNat_ofNat']
    omega
  have hshift : (UInt64.ofInt (t / second + ntpEpochOffset) <<< 32).toNat =
      2 ^ 32 * ((t / second + ntpEpochOffset) % 2 ^ 32).toNat := by
    rw [UInt64.toNat_shiftLeft, hsecs, show (32 : UInt64).toNat % 64 = 32 from rfl,
      Nat.shiftLeft_eq]
    omega
  unfold ntpTimestamp
  rw [UInt64.toNat_or, hshift, UInt64.toNat_ofNat', Nat.mod_eq_of_lt (by omega),
    ← Nat.two_pow_add_eq_or_of_lt hfrac, second_eq]
  push_cast
  omega

theorem toNat_middle_ntpTimestamp (t : ℤ) :
    ((middle (ntpTimestamp t)).toNat : ℤ) = ntpUnits t % 2 ^ 32 := by
  have hntp := toNat_ntpTimestamp t
  have hunits : ntpUnits t = (t / second + ntpEpochOffset) * 65536 + t % second * 65536 / second := by
    unfold ntpUnits
    rw [second_eq]
    omega
  have hfrac : t % second * 2 ^ 32 / second / 65536 = t % second * 65536 / second := by
    rw [second_eq]
    omega
  have hpos : 0 ≤ t % second * 2 ^ 32 / second ∧ t % second * 2 ^ 32 / second < 2 ^ 32 := by
    rw [second_eq]
    omega
  unfold middle
  rw [UInt64.toNat_toUInt32, UInt64.toNat_shiftRight, show (16 : UInt64).toNat % 64 = 16 from rfl,
    Nat.shiftRight_eq_div_pow, hunits, ← hfrac]
  generalize t / second + ntpEpochOffset = secs at *
  generalize t % second * 2 ^ 32 / second = frac at *
  omega

theorem ntpUnits_add (t : ℤ) (e : ℕ) :
    (e * 65536 / second : ℕ) ≤ ntpUnits (t + e) - ntpUnits t ∧
      ntpUnits (t + e) - ntpUnits t ≤ (e * 65536 / second : ℕ) + 1 := by
  unfold ntpUnits
  rw [second_eq]
  omega

theorem toNat_high_half (x : UInt32) : ((x &&& 0xFFFF0000) >>> 16).toNat = x.toNat / 65536 := by
  have hx := x.toNat_lt
  rw [UInt32.toNat_shiftRight, UInt32.toNat_and, show (16 : UInt32).toNat % 32 = 16 from rfl,
    Nat.shiftRight_and_distrib]
  have hmask : (0xFFFF0000 : UInt32).toNat >>> 16 = 2 ^ 16 - 1 := rfl
  rw [hmask, Nat.and_two_pow_sub_one_eq_mod, Nat.shiftRight_eq_div_pow]
  omega

theorem toNat_low_half (x : UInt32) : (x &&& 0x0000FFFF).toNat = x.toNat % 65536 := by
  rw [UInt32.toNat_and, show (0x0000FFFF : UInt32).toNat = 2 ^ 16 - 1 from rfl,
    Nat.and_two_pow_sub_one_eq_mod]

theorem calcRTT_eq (now : ℤ) (lsr dlsr : UInt32) :
    calcRTT now lsr dlsr =
      ((middle (ntpTimestamp now) - lsr - dlsr).toNat / 65536 * second +
          (middle (ntpTimestamp now) - lsr - dlsr).toNat % 65536 * second / 65356,
        decide (middle (ntpTimestamp now) - dlsr < lsr)) := by
  unfold calcRTT
  dsimp only
  rw [toNat_high_half, toNat_low_half]

/-- What a report names and holds: the sender report that was read, and the time since. -/
theorem reception_of_senderReport (p s : RTPSession) (ssrc : UInt32) (t arrival : ℤ) (d : ℕ) :
    ((p.readRTCPPacket arrival (.sender (s.parseSenderReport t ssrc))).parseReceptionReport
        (arrival + d)).lastSenderReport = middle (ntpTimestamp t) ∧
      ((p.readRTCPPacket arrival (.sender (s.parseSenderReport t ssrc))).parseReceptionReport
        (arrival + d)).delay = UInt32.ofNat (heldUnits d) := by
  have hkept (reports : List ReceptionReport) (q : RTPSession) :
      (reports.foldl (RTPSession.readReceptionReport arrival) q).readStats.lastSenderReportNTP =
          q.readStats.lastSenderReportNTP ∧
        (reports.foldl (RTPSession.readReceptionReport
          arrival) q).readStats.lastSenderReportRecvTime = q.readStats.lastSenderReportRecvTime := by
    induction reports generalizing q with
    | nil => exact ⟨rfl, rfl⟩
    | cons rr reports ih =>
      rw [List.foldl_cons, (ih _).1, (ih _).2, RTPSession.readReceptionReport]
      split_ifs <;> exact ⟨rfl, rfl⟩
  unfold RTPSession.readRTCPPacket RTPSession.parseReceptionReport RTPReadStats.reportDelay
  dsimp only
  rw [(hkept _ _).1, (hkept _ _).2]
  refine ⟨rfl, ?_⟩
  simp [RTPSession.noteSenderReport, heldUnits]

section Exchange

variable {t : ℤ} {r d : ℕ}

theorem measuredUnits_mem (h : r + d < 2 ^ 16 * second) :
    0 ≤ measuredUnits t r d ∧ measuredUnits t r d ≤ 2 ^ 32 ∧
      (measuredUnits t r d = 2 ^ 32 → 3 * second < r * 65536) := by
  have hadd := ntpUnits_add t (d + r)
  rw [Nat.cast_add, ← add_assoc] at hadd
  unfold measuredUnits heldUnits
  rw [second_eq] at *
  omega

theorem toNat_rtt32 (h : r + d < 2 ^ 16 * second) :
    ((middle (ntpTimestamp (t + d + r)) - middle (ntpTimestamp t) -
        UInt32.ofNat (heldUnits d)).toNat : ℤ) = measuredUnits t r d % 2 ^ 32 := by
  have hnow := toNat_middle_ntpTimestamp (t + d + r)
  have hlsr := toNat_middle_ntpTimestamp t
  have hheld : heldUnits d < 2 ^ 32 := by
    unfold heldUnits
    rw [second_eq] at *
    omega
  unfold measuredUnits
  rw [UInt32.toNat_sub, UInt32.toNat_sub, UInt32.toNat_ofNat', Nat.mod_eq_of_lt hheld]
  omega

theorem skewed_iff (h : r + d < 2 ^ 16 * second) (hx : measuredUnits t r d < 2 ^ 32) :
    middle (ntpTimestamp (t + d + r)) - UInt32.ofNat (heldUnits d) < middle (ntpTimestamp t) ↔
      2 ^ 32 ≤ ntpUnits t % 2 ^ 32 + measuredUnits t r d := by
  have hnow := toNat_middle_ntpTimestamp (t + d + r)
  have hlsr := toNat_middle_ntpTimestamp t
  have hpos := (measuredUnits_mem (t := t) h).1
  have hheld : heldUnits d < 2 ^ 32 := by
    unfold heldUnits
    rw [second_eq] at *
    omega
  unfold measuredUnits at *
  rw [UInt32.lt_iff_toNat_lt, UInt32.toNat_sub, UInt32.toNat_ofNat', Nat.mod_eq_of_lt hheld]
  omega

theorem measuredUnits_bounds (t : ℤ) (r d : ℕ) :
    r * 65536 + 180 * d - second < measuredUnits t r d * second ∧
      measuredUnits t r d * second < r * 65536 + 180 * d + 2 * second := by
  have hadd := ntpUnits_add t (d + r)
  rw [Nat.cast_add, ← add_assoc] at hadd
  unfold measuredUnits heldUnits
  rw [second_eq] at *
  omega

theorem close_of_short (hshort : d + r % second ≤ 5000000) :
    |unitsDuration (measuredUnits t r d) - r| * 65536 ≤ 3 * second := by
  have hbounds := measuredUnits_bounds t r d
  unfold unitsDuration
  generalize measuredUnits t r d = x at *
  rw [second_eq] at *
  have hwhole : x / 65536 = r / (1000000000 : ℕ) := by omega
  have hclose : |x / 65536 * (1000000000 : ℕ) + x % 65536 * (1000000000 : ℕ) / 65356 - r| ≤
      45776 := by
    rw [abs_le]
    omega
  omega

theorem short_of_close
    (hclose : |unitsDuration (measuredUnits t r d) - r| * 65536 ≤ 3 * second) :
    d < 23000000 := by
  have hbounds := measuredUnits_bounds t r d
  have hle := le_abs_self (unitsDuration (measuredUnits t r d) - r)
  unfold unitsDuration at *
  generalize measuredUnits t r d = x at *
  rw [second_eq] at *
  omega

/-- The time measured for a report read at `now` is not skewed, and within three units of `r`. -/
def Measures (now : ℤ) (rr : ReceptionReport) (r : ℕ) : Prop :=
  (calcRTT now rr.lastSenderReport rr.delay).2 = false ∧
    |((calcRTT now rr.lastSenderReport rr.delay).1 : ℤ) - r| * 65536 ≤ 3 * second

/-- The round-trip time is measured exactly if the 32-bit clock does not wrap meanwhile and the
scales of the held time and of the fraction leave it there. They do for a hold and a fraction of a
second of 5 ms together, and for no hold of 23 ms. -/
theorem rtt_measured_iff (p s : RTPSession) (ssrc : UInt32) (t arrival : ℤ) (r d : ℕ)
    (h : r + d < 2 ^ 16 * second) (rr : ReceptionReport)
    (hrr : rr = (p.readRTCPPacket arrival
      (.sender (s.parseSenderReport t ssrc))).parseReceptionReport (arrival + d)) :
    (Measures (t + d + r) rr r ↔ ntpUnits t % 2 ^ 32 + measuredUnits t r d < 2 ^ 32 ∧
        |unitsDuration (measuredUnits t r d) - r| * 65536 ≤ 3 * second) ∧
      (ntpUnits t % 2 ^ 32 + measuredUnits t r d < 2 ^ 32 → d + r % second ≤ 5000000 →
        Measures (t + d + r) rr r) ∧
      (Measures (t + d + r) rr r → d < 23000000) := by
  suffices hiff : Measures (t + d + r) rr r ↔ ntpUnits t % 2 ^ 32 + measuredUnits t r d < 2 ^ 32 ∧
      |unitsDuration (measuredUnits t r d) - r| * 65536 ≤ 3 * second from
    ⟨hiff, fun hwrap hshort => hiff.mpr ⟨hwrap, close_of_short hshort⟩,
      fun hmeasures => short_of_close (hiff.mp hmeasures).2⟩
  unfold Measures
  obtain ⟨hlsr, hdelay⟩ := reception_of_senderReport p s ssrc t arrival d
  rw [← hrr] at hlsr hdelay
  rw [calcRTT_eq, hlsr, hdelay]
  dsimp only
  have hrtt := toNat_rtt32 (t := t) h
  obtain ⟨hpos, hle, hlong⟩ := measuredUnits_mem (t := t) h
  have hclock : 0 ≤ ntpUnits t % 2 ^ 32 := Int.emod_nonneg _ (by norm_num)
  obtain hx | hx := lt_or_eq_of_le hle
  · have hsame : (((middle (ntpTimestamp (t + d + r)) - middle (ntpTimestamp t) -
        UInt32.ofNat (heldUnits d)).toNat / 65536 * second +
        (middle (ntpTimestamp (t + d + r)) - middle (ntpTimestamp t) -
          UInt32.ofNat (heldUnits d)).toNat % 65536 * second / 65356 : ℕ) : ℤ) =
        unitsDuration (measuredUnits t r d) := by
      push_cast
      rw [hrtt, Int.emod_eq_of_lt hpos hx, unitsDuration]
    rw [hsame, decide_eq_false_iff_not, skewed_iff h hx, not_le]
  · have hzero : (middle (ntpTimestamp (t + d + r)) - middle (ntpTimestamp t) -
        UInt32.ofNat (heldUnits d)).toNat = 0 := by
      rw [hx] at hrtt
      simpa using hrtt
    rw [hzero]
    constructor
    · rintro ⟨-, hclose⟩
      have := hlong hx
      have habs : |((0 / 65536 * second + 0 % 65536 * second / 65356 : ℕ) : ℤ) - r| = r := by simp
      rw [habs] at hclose
      omega
    · rintro ⟨hwrap, -⟩
      omega

end Exchange

section Sample

def heldReport (d : ℕ) : ReceptionReport :=
  (RTPSession.readRTCPPacket { sess := {} } 0
    (.sender (RTPSession.parseSenderReport { sess := {} } 0 1))).parseReceptionReport (0 + d)

/-- A report held for 5 ms, over a network that takes 2 ms. -/
theorem short_hold_measured :
    2000000 + 5000000 < 2 ^ 16 * second ∧
      |((calcRTT 7000000 (heldReport 5000000).lastSenderReport (heldReport 5000000).delay).1 : ℤ) -
        2000000| * 65536 ≤ 3 * second := by
  have h : 2000000 + 5000000 < 2 ^ 16 * second := by decide
  refine ⟨h, ?_⟩
  have hrtt := (rtt_measured_iff { sess := {} } { sess := {} } 1 0 0 2000000 5000000 h
    (heldReport 5000000) rfl).1.mpr (by decide +kernel)
  exact hrtt.2

/-- A report held for one second over a network that takes no time: the time measured is more than
two milliseconds. -/
theorem held_second_mismeasured :
    calcRTT 1000000000 (heldReport 1000000000).lastSenderReport (heldReport 1000000000).delay =
      (2754146, false) := by
  decide +kernel

end Sample
end Diago.Rtp
