import Diago.Rtp.Reports

/-! # Loss in reception reports

A stream is followed from its first packet: the indices of its packets, as the
sequence numbers wrap, and the reports written between them.
-/
namespace Diago.Rtp
open Lib Media RTPExtendedSequenceNumber

/-- A packet of the stream that passed the checks, with its index. -/
structure Arrival where
  index : ℤ
  n : ℕ
  pkt : RTPPacket
  source : Option UDPAddr

inductive StreamEvent
  | packet (a : Arrival)
  | writeRTCP (now : ℤ)

structure RTPStream where
  session : RTPSession
  first : UInt16
  highest : ℤ
  last : UInt16
  received : ℕ
  /-- The highest index at the previous report, at first the one before the first packet. -/
  base : ℤ
  intervalReceived : ℕ
  intervalFirst : UInt16

namespace RTPStream

def start (s : RTPSession) (n : ℕ) (pkt : RTPPacket) (source : Option UDPAddr) : RTPStream :=
  { session := (s.account n pkt source).2
    first := pkt.sequenceNumber
    highest := pkt.sequenceNumber.toNat
    last := pkt.sequenceNumber
    received := 1
    base := pkt.sequenceNumber.toNat - 1
    intervalReceived := 1
    intervalFirst := pkt.sequenceNumber }

def step (x : RTPStream) : StreamEvent → RTPStream
  | .packet a =>
    { x with
      session := (x.session.account a.n a.pkt a.source).2
      highest := max x.highest a.index
      last := a.pkt.sequenceNumber
      received := x.received + 1
      intervalReceived := x.intervalReceived + 1
      intervalFirst := if x.intervalFirst = 0 then a.pkt.sequenceNumber else x.intervalFirst }
  | .writeRTCP now =>
    match x.session.dueReport now with
    | none => { x with session := (x.session.writeRTCP now).2 }
    | some _ =>
      { x with
        session := (x.session.writeRTCP now).2
        base := x.highest
        intervalReceived := 0
        intervalFirst := 0 }

/-- The packets are of the stream, and within the range that does not resynchronise it. -/
def Accepts (ssrc : UInt32) (x : RTPStream) : StreamEvent → Prop
  | .packet a =>
    a.pkt.ssrc = ssrc ∧ a.pkt.sequenceNumber = sequenceNumber a.index ∧
      a.index < x.highest + 3000 ∧ x.highest - 100 ≤ a.index
  | .writeRTCP _ => True

/-- The packets expected in the interval, as RFC 3550 has it. -/
def intervalExpected (x : RTPStream) : ℤ := x.highest - x.base

def AtReports (P : RTPStream → ReceptionReport → Prop) (x : RTPStream) : StreamEvent → Prop
  | .packet _ => True
  | .writeRTCP now => ∀ rr ∈ x.session.receptions now, P x rr

def IntervalLossRight (x : RTPStream) : Prop :=
  x.session.readStats.readIntervalLost = max (x.intervalExpected - x.intervalReceived) 0

/-- Nothing is lost and the packets counted in 16 bits reach from the number kept for the start to
the highest, or that number is the highest at the previous report but for turns of the counters. -/
def IntervalKept (x : RTPStream) : Prop :=
  (x.intervalExpected ≤ x.intervalReceived ∧
      x.highest % 2 ^ 32 ≤ x.intervalFirst.toNat + (x.intervalReceived % 2 ^ 16 : ℕ)) ∨
    (x.intervalReceived < x.intervalExpected ∧
      x.intervalFirst.toNat + x.highest / 2 ^ 32 * 2 ^ 32 =
        x.base + (x.intervalReceived / 2 ^ 16 * 2 ^ 16 : ℕ))

def TotalRight (x : RTPStream) (rr : ReceptionReport) : Prop :=
  (rr.totalLost.toNat : ℤ) = max (x.highest - x.first.toNat + 1 - x.received) 0 ∧
    (rr.lastSequenceNumber.toNat : ℤ) = x.highest % 2 ^ 32

/-- Nothing is lost, also counted in 64 bits, and the last packet is the highest, before the
first wrap. -/
def TotalKept (x : RTPStream) : Prop :=
  x.highest - x.first.toNat + 1 ≤ x.received ∧
    ((x.highest % 2 ^ 32 - x.first.toNat - x.received) % 2 ^ 64 = 0 ∨
      2 ^ 32 ≤ (x.highest % 2 ^ 32 - x.first.toNat - x.received) % 2 ^ 64) ∧
    (x.last.toNat : ℤ) = x.highest % 2 ^ 32

structure Recorded (ssrc : UInt32) (x : RTPStream) : Prop where
  ssrc : x.session.readStats.ssrc = ssrc
  tracks : Tracks x.session.readStats.lastSeq x.highest
  first : x.session.readStats.firstPktSequenceNumber = x.first
  last : x.session.readStats.lastSequenceNumber = x.last
  received : x.session.readStats.packetsCount = UInt64.ofNat x.received
  intervalReceived : x.session.readStats.intervalPacketsCount = UInt16.ofNat x.intervalReceived
  intervalFirst : x.session.readStats.intervalFirstPktSeqNum = x.intervalFirst
  order : (x.first.toNat : ℤ) ≤ x.highest

variable {ssrc : UInt32} {x : RTPStream}

theorem start_recorded {s : RTPSession} {pkt : RTPPacket} (hnew : s.readStats.ssrc ≠ pkt.ssrc)
    (hcodec : (RTPSession.newStream s.sess.activeCodecs pkt).isSome) (n : ℕ)
    (source : Option UDPAddr) : Recorded pkt.ssrc (start s n pkt source) := by
  obtain ⟨stats, hstream⟩ := Option.isSome_iff_exists.mp hcodec
  obtain ⟨codec, hfind, hstats⟩ := Option.map_eq_some_iff.mp hstream
  have hcodecs : s.sess.activeCodecs ≠ [] := by
    intro h
    rw [h] at hfind
    cases hfind
  have hread : (start s n pkt source).session.readStats = RTPSession.countRead stats n pkt := by
    simp only [start]
    rw [RTPSession.account, if_pos hnew, if_neg hcodecs, hstream]
  subst hstats
  refine ⟨?_, ?_, ?_, ?_, ?_, ?_, ?_, le_rfl⟩
  all_goals rw [hread]
  · rfl
  · exact initSeq_tracks _
  · rfl
  · rfl
  · rfl
  · rfl
  · simp [RTPSession.countRead, start]

theorem Recorded.packet {a : Arrival} (hx : Recorded ssrc x) (ha : x.Accepts ssrc (.packet a)) :
    Recorded ssrc (x.step (.packet a)) := by
  obtain ⟨hssrc, hseq, hlt, hge⟩ := ha
  have hread : (x.step (.packet a)).session.readStats =
      RTPSession.countRead { x.session.readStats with
        lastSeq := (x.session.readStats.lastSeq.updateSeq a.pkt.sequenceNumber).2 } a.n a.pkt := by
    simp only [step]
    rw [RTPSession.account, if_neg (not_not.mpr (hx.ssrc.trans hssrc.symm))]
  refine ⟨?_, ?_, ?_, ?_, ?_, ?_, ?_, hx.order.trans (le_max_left _ _)⟩
  all_goals rw [hread]
  · exact hx.ssrc
  · rw [hseq]
    exact updateSeq_tracks hx.tracks hlt hge
  · exact hx.first
  · rfl
  · simp [RTPSession.countRead, step, hx.received, UInt64.ofNat_add]
  · simp [RTPSession.countRead, step, hx.intervalReceived, UInt16.ofNat_add]
  · simp [RTPSession.countRead, step, hx.intervalFirst]

theorem Recorded.writeRTCP (hx : Recorded ssrc x) (now : ℤ) :
    Recorded ssrc (x.step (.writeRTCP now)) := by
  cases hdue : x.session.dueReport now with
  | none =>
    have hstep : x.step (.writeRTCP now) = x := by
      simp [RTPStream.step, RTPSession.writeRTCP, hdue]
    rw [hstep]
    exact hx
  | some report =>
    have hstep : x.step (.writeRTCP now) = { x with
        session := x.session.nextInterval
        base := x.highest
        intervalReceived := 0
        intervalFirst := 0 } := by
      simp [RTPStream.step, RTPSession.writeRTCP, hdue]
    rw [hstep]
    exact ⟨hx.ssrc, hx.tracks, hx.first, hx.last, hx.received, rfl, rfl, hx.order⟩

theorem Recorded.step {e : StreamEvent} (hx : Recorded ssrc x) (he : x.Accepts ssrc e) :
    Recorded ssrc (x.step e) := by
  cases e with
  | packet a => exact hx.packet he
  | writeRTCP now => exact hx.writeRTCP now

end RTPStream

theorem mem_receptions {s : RTPSession} {now : ℤ} {rr : ReceptionReport}
    (h : rr ∈ s.receptions now) : rr = s.parseReceptionReport now := by
  unfold RTPSession.receptions RTPSession.dueReport at h
  split_ifs at h
  · cases h
  · exact List.mem_singleton.mp h
  · cases h
  · simp only [Report.receptions, RTPSession.parseSenderReport] at h
    split_ifs at h
    · exact List.mem_singleton.mp h
    · cases h

namespace RTPStream

variable {ssrc : UInt32} {x : RTPStream}

theorem Recorded.intervalLossRight_iff (hx : Recorded ssrc x) :
    x.IntervalLossRight ↔ x.IntervalKept := by
  have hext := readExtendedSeq_toNat hx.tracks
  have hcount : (UInt16.ofNat x.intervalReceived).toNat = x.intervalReceived % 2 ^ 16 :=
    UInt16.toNat_ofNat'
  unfold IntervalLossRight RTPReadStats.readIntervalLost RTPReadStats.readIntervalExpectedPkts
    IntervalKept intervalExpected
  rw [hext, hx.intervalFirst, hx.intervalReceived, hcount]
  omega

theorem Recorded.expected_sub (hx : Recorded ssrc x) :
    ((x.session.readStats.expectedPkts - x.session.readStats.packetsCount).toNat : ℤ) =
      (x.highest % 2 ^ 32 - x.first.toNat - x.received) % 2 ^ 64 := by
  have hext := readExtendedSeq_toNat hx.tracks
  have hcount : (UInt64.ofNat x.received).toNat = x.received % 2 ^ 64 := UInt64.toNat_ofNat'
  have hfirst : x.first.toUInt64.toNat = x.first.toNat := UInt16.toNat_toUInt64 x.first
  have hlt := x.first.toNat_lt
  unfold RTPReadStats.expectedPkts
  rw [hx.first, hx.received, UInt64.toNat_sub, UInt64.toNat_sub, hcount, hfirst]
  omega

theorem Recorded.totalRight_iff (hx : Recorded ssrc x) (now : ℤ) :
    x.TotalRight (x.session.parseReceptionReport now) ↔ x.TotalKept := by
  have hsub := hx.expected_sub
  have hlast : (x.session.parseReceptionReport now).lastSequenceNumber.toNat = x.last.toNat := by
    rw [← hx.last]
    simp [RTPSession.parseReceptionReport]
  have htotal : (x.session.parseReceptionReport now).totalLost =
      saturate (x.session.readStats.expectedPkts - x.session.readStats.packetsCount) := rfl
  unfold TotalRight TotalKept
  rw [hlast, htotal, toNat_saturate, ← hsub, ← and_assoc]
  refine and_congr_left fun _ => ?_
  split_ifs with hfits
  · omega
  · omega

/-- Two properties of reports that agree wherever the statistics hold a stream agree along every
run of the stream. -/
theorem along_atReports_congr {P Q : RTPStream → ReceptionReport → Prop} {s : RTPSession}
    {pkt : RTPPacket} (hnew : s.readStats.ssrc ≠ pkt.ssrc)
    (hcodec : (RTPSession.newStream s.sess.activeCodecs pkt).isSome) (n : ℕ)
    (source : Option UDPAddr) {events : List StreamEvent}
    (hevents : Along step (Accepts pkt.ssrc) (start s n pkt source) events)
    (hPQ : ∀ x now, Recorded pkt.ssrc x → ∀ rr ∈ x.session.receptions now, (P x rr ↔ Q x rr)) :
    Along step (AtReports P) (start s n pkt source) events ↔
      Along step (AtReports Q) (start s n pkt source) events := by
  refine along_congr_of_invariant (Recorded pkt.ssrc) (fun x e => Recorded.step) ?_
    (start_recorded hnew hcodec n source) hevents
  intro x e hx _
  cases e with
  | packet a => exact Iff.rfl
  | writeRTCP now => exact forall₂_congr (hPQ x now hx)

/-- Interval loss in reception reports is that of RFC 3550 exactly if, at each report, the number
kept for the start of the interval gives it. -/
theorem interval_loss_iff (s : RTPSession) (n : ℕ) (pkt : RTPPacket) (source : Option UDPAddr)
    (hnew : s.readStats.ssrc ≠ pkt.ssrc)
    (hcodec : (RTPSession.newStream s.sess.activeCodecs pkt).isSome) (events : List StreamEvent)
    (hevents : Along step (Accepts pkt.ssrc) (start s n pkt source) events) :
    Along step (AtReports fun x _ => x.IntervalLossRight) (start s n pkt source) events ↔
      Along step (AtReports fun x _ => x.IntervalKept) (start s n pkt source) events := by
  refine along_atReports_congr hnew hcodec n source hevents ?_
  intro x _ hx _ _
  exact hx.intervalLossRight_iff

/-- Cumulative loss and highest sequence number in reception reports are those of RFC 3550 exactly
if, at each report, nothing is lost and the last packet is the highest, before the first wrap. -/
theorem cumulative_loss_iff (s : RTPSession) (n : ℕ) (pkt : RTPPacket) (source : Option UDPAddr)
    (hnew : s.readStats.ssrc ≠ pkt.ssrc)
    (hcodec : (RTPSession.newStream s.sess.activeCodecs pkt).isSome) (events : List StreamEvent)
    (hevents : Along step (Accepts pkt.ssrc) (start s n pkt source) events) :
    Along step (AtReports TotalRight) (start s n pkt source) events ↔
      Along step (AtReports fun x _ => x.TotalKept) (start s n pkt source) events := by
  refine along_atReports_congr hnew hcodec n source hevents ?_
  intro x now hx rr hrr
  rw [mem_receptions hrr]
  exact hx.totalRight_iff now

end RTPStream

section Sample

open RTPStream

def receivingSession : RTPSession :=
  .new false { toSettings := { codecs := [codecAudioUlaw], prefMode := some .recvonly } }

def arrivalAt (i : ℤ) : Arrival :=
  { index := i
    n := 13
    pkt := { ssrc := 7, sequenceNumber := sequenceNumber i, payload := [0] }
    source := none }

def sampleStart : RTPStream := start receivingSession 13 (arrivalAt 10).pkt none

/-- Packets 10 and 11, and a report. -/
theorem nothing_lost_reported :
    Along step (Accepts 7) sampleStart [.packet (arrivalAt 11), .writeRTCP 0] ∧
      Along step (AtReports fun x _ => x.IntervalLossRight) sampleStart
        [.packet (arrivalAt 11), .writeRTCP 0] := by
  have haccepts : Along step (Accepts 7) sampleStart [.packet (arrivalAt 11), .writeRTCP 0] := by
    refine ⟨⟨rfl, rfl, ?_, ?_⟩, trivial, trivial⟩ <;> decide
  refine ⟨haccepts, (interval_loss_iff receivingSession 13 (arrivalAt 10).pkt none (by decide)
    (by decide) _ haccepts).mpr ⟨trivial, fun rr _ => .inl ?_, trivial⟩⟩
  decide

/-- The totals of the same report. -/
theorem nothing_lost_in_total :
    Along step (Accepts 7) sampleStart [.packet (arrivalAt 11), .writeRTCP 0] ∧
      Along step (AtReports TotalRight) sampleStart [.packet (arrivalAt 11), .writeRTCP 0] := by
  have haccepts : Along step (Accepts 7) sampleStart [.packet (arrivalAt 11), .writeRTCP 0] := by
    refine ⟨⟨rfl, rfl, ?_, ?_⟩, trivial, trivial⟩ <;> decide
  refine ⟨haccepts, (cumulative_loss_iff receivingSession 13 (arrivalAt 10).pkt none (by decide)
    (by decide) _ haccepts).mpr ⟨trivial, fun rr _ => ?_, trivial⟩⟩
  refine ⟨by decide, .inr (by decide), by decide⟩

/-- Packets 10 and 12: the report derives no loss, where one of three packets is missing. -/
theorem lost_packet_not_in_interval :
    (sampleStart.step (.packet (arrivalAt 12))).session.receptions 0 ≠ [] ∧
      (sampleStart.step (.packet (arrivalAt 12))).intervalExpected = 3 ∧
      (sampleStart.step (.packet (arrivalAt 12))).intervalReceived = 2 ∧
      (sampleStart.step (.packet (arrivalAt 12))).session.readStats.readIntervalLost = 0 := by
  decide +kernel

/-- Nor does its cumulative loss count it. -/
theorem lost_packet_not_in_total :
    ((sampleStart.step (.packet (arrivalAt 12))).session.receptions 0).map
        (fun rr => (rr.totalLost, rr.lastSequenceNumber)) = [(0, 12)] ∧
      (sampleStart.step (.packet (arrivalAt 12))).highest = 12 ∧
      (sampleStart.step (.packet (arrivalAt 12))).first = 10 ∧
      (sampleStart.step (.packet (arrivalAt 12))).received = 2 := by
  decide +kernel

end Sample
end Diago.Rtp
