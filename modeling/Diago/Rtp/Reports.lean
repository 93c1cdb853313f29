import Diago.Media.Frames
import Diago.Rtp.Session

/-! # RTCP reports

What a session reports of the packets it wrote and read, and what it takes from the
reports of its peer.
-/
namespace Diago.Rtp
open Lib Media

def second : ℕ := 1000000000

def ntpEpochOffset : ℤ := 2208988800

/-- The seconds since the NTP epoch, and 32 bits of the fraction of the next one. -/
def ntpTimestamp (t : ℤ) : UInt64 :=
  UInt64.ofInt (t / second + ntpEpochOffset) <<< 32 |||
    UInt64.ofNat ((t % second).toNat * 4294967296 / second)

/-- The middle 32 bits, in which a report names a sender report. -/
def middle (ntp : UInt64) : UInt32 := (ntp >>> 16).toUInt32

/-- The conversion to 32 bits that is meant to saturate. -/
def saturate (x : UInt64) : UInt32 := (if x < 4294967296 then x else 4294967296).toUInt32

structure ReceptionReport where
  ssrc : UInt32 := 0
  /-- The fraction lost of 256, before it is cut to 8 bits; none when nothing was expected. -/
  fractionLost : Option ℚ := none
  totalLost : UInt32 := 0
  lastSequenceNumber : UInt32 := 0
  lastSenderReport : UInt32 := 0
  delay : UInt32 := 0
  deriving DecidableEq

structure SenderReport where
  ssrc : UInt32 := 0
  ntpTime : UInt64 := 0
  rtpTime : UInt32 := 0
  packetCount : UInt32 := 0
  octetCount : UInt32 := 0
  reports : List ReceptionReport := []
  deriving DecidableEq

structure ReceiverReport where
  ssrc : UInt32 := 0
  reports : List ReceptionReport := []
  deriving DecidableEq

inductive Report
  | sender (report : SenderReport)
  | receiver (report : ReceiverReport)
  | other
  deriving DecidableEq

def Report.receptions : Report → List ReceptionReport
  | .sender report => report.reports
  | .receiver report => report.reports
  | .other => []

/-- The round-trip time off a reception report, and whether the clock seems to run backwards. -/
def calcRTT (now : ℤ) (lastSenderReport delaySenderReport : UInt32) : ℕ × Bool :=
  let now32 := middle (ntpTimestamp now)
  let rtt32 := now32 - lastSenderReport - delaySenderReport
  let secs := (rtt32 &&& 0xFFFF0000) >>> 16
  (secs.toNat * second + (rtt32 &&& 0x0000FFFF).toNat * second / 65356,
    now32 - delaySenderReport < lastSenderReport)

namespace RTPReadStats

def readIntervalExpectedPkts (stats : RTPReadStats) : ℤ :=
  stats.lastSeq.readExtendedSeq.toNat - stats.intervalFirstPktSeqNum.toNat

def readIntervalLost (stats : RTPReadStats) : ℤ :=
  max (stats.readIntervalExpectedPkts - stats.intervalPacketsCount.toNat) 0

def fractionLost (stats : RTPReadStats) : Option ℚ :=
  if stats.readIntervalExpectedPkts = 0 then none
  else some (max (stats.readIntervalLost / stats.readIntervalExpectedPkts * 256) 0)

def expectedPkts (stats : RTPReadStats) : UInt64 :=
  stats.lastSeq.readExtendedSeq - stats.firstPktSequenceNumber.toUInt64

/-- The time since the last sender report, zero before the first one. -/
def reportDelay (stats : RTPReadStats) (now : ℤ) : ℕ :=
  match stats.lastSenderReportRecvTime with
  | none => 0
  | some t => (now - t).toNat

end RTPReadStats

namespace RTPSession

def parseReceptionReport (s : RTPSession) (now : ℤ) : ReceptionReport :=
  let sequenceCycles : UInt16 := 0
  { ssrc := s.readStats.ssrc
    fractionLost := s.readStats.fractionLost
    totalLost := saturate (s.readStats.expectedPkts - s.readStats.packetsCount)
    lastSequenceNumber :=
      sequenceCycles.toUInt32 <<< 16 + s.readStats.lastSequenceNumber.toUInt32
    lastSenderReport := middle s.readStats.lastSenderReportNTP
    delay := UInt32.ofNat (s.readStats.reportDelay now * 65356 / second) }

def parseReceiverReport (s : RTPSession) (now : ℤ) (ssrc : UInt32) : ReceiverReport :=
  { ssrc := ssrc, reports := [s.parseReceptionReport now] }

/-- The samples written since the last packet, by the clock. -/
def rtpTimestampOffset (stats : RTPWriteStats) (now : ℤ) : UInt32 :=
  match stats.lastPacketTime with
  | none => 0
  | some t => timestampOf (floatCount (now - t) stats.sampleRate)

def parseSenderReport (s : RTPSession) (now : ℤ) (ssrc : UInt32) : SenderReport :=
  { ssrc := ssrc
    ntpTime := ntpTimestamp now
    rtpTime := s.writeStats.lastPacketTimestamp + rtpTimestampOffset s.writeStats now
    packetCount := saturate s.writeStats.packetsCount
    octetCount := saturate s.writeStats.octetCount
    reports := if 0 < s.readStats.ssrc then [s.parseReceptionReport now] else [] }

def dueReport (s : RTPSession) (now : ℤ) : Option Report :=
  if s.sess.prefMode = some .recvonly then
    if s.readStats.ssrc = 0 then none
    else some (.receiver (s.parseReceiverReport now s.readStats.ssrc))
  else if s.writeStats.ssrc = 0 then none
  else some (.sender (s.parseSenderReport now s.writeStats.ssrc))

def receptions (s : RTPSession) (now : ℤ) : List ReceptionReport :=
  match s.dueReport now with
  | none => []
  | some report => report.receptions

def nextInterval (s : RTPSession) : RTPSession :=
  { s with
    readStats := { s.readStats with intervalFirstPktSeqNum := 0, intervalPacketsCount := 0 } }

def writeRTCP (s : RTPSession) (now : ℤ) : Option Report × RTPSession :=
  match s.dueReport now with
  | none => (none, s)
  | some report => (some report, s.nextInterval)

def readReceptionReport (now : ℤ) (s : RTPSession) (rr : ReceptionReport) : RTPSession :=
  if rr.ssrc ≠ s.writeStats.ssrc then s
  else
    { s with
      readStats := { s.readStats with
        rtt :=
          if rr.lastSenderReport ≠ 0 then (calcRTT now rr.lastSenderReport rr.delay).1
          else s.readStats.rtt
        lastReceptionReportSeqNum := rr.lastSequenceNumber } }

/-- Takes over when a sender report was sent and when it came. -/
def noteSenderReport (s : RTPSession) (now : ℤ) (p : SenderReport) : RTPSession :=
  { s with
    readStats := { s.readStats with
      ssrc := if s.readStats.ssrc = 0 then p.ssrc else s.readStats.ssrc
      lastSenderReportNTP := p.ntpTime
      lastSenderReportRecvTime := some now } }

def readRTCPPacket (s : RTPSession) (now : ℤ) : Report → RTPSession
  | .sender p => p.reports.foldl (readReceptionReport now) (s.noteSenderReport now p)
  | .receiver p => p.reports.foldl (readReceptionReport now) s
  | .other => s

/-- The statistics of a new stream we write, or none when its payload type is not one of ours. -/
def newWriteStream (codecs : List Codec) (pkt : RTPPacket) : Option RTPWriteStats :=
  (codecs.find? (·.payloadType = pkt.payloadType)).map fun codec =>
    { ssrc := pkt.ssrc, sampleRate := codec.sampleRate }

def countWrite (stats : RTPWriteStats) (now : ℤ) (pkt : RTPPacket) : RTPWriteStats :=
  { stats with
    packetsCount := stats.packetsCount + 1
    octetCount := stats.octetCount + UInt64.ofNat pkt.payload.length
    lastPacketTime := some now
    lastPacketTimestamp := pkt.timestamp }

/-- Why a packet was not written: the media session's error, or a payload type that is not one of
ours, on a packet that has gone out. -/
inductive WriteErr
  | media (err : Err)
  | unknownPayloadType (payloadType : UInt8)
  deriving DecidableEq

def writeRTP (s : RTPSession) (env : WriteEnv) (now : ℤ) (pkt : RTPPacket) :
    Except WriteErr Unit × RTPSession :=
  match (s.sess.writeRTP env).result with
  | .error err => (.error (.media err), s)
  | .ok () =>
    if s.writeStats.ssrc ≠ pkt.ssrc then
      match newWriteStream s.sess.activeCodecs pkt with
      | none => (.error (.unknownPayloadType pkt.payloadType), s)
      | some stats => (.ok (), { s with writeStats := countWrite stats now pkt })
    else (.ok (), { s with writeStats := countWrite s.writeStats now pkt })

end RTPSession

/-! ### The counters of a sender report -/

structure Write where
  env : WriteEnv
  now : ℤ
  pkt : RTPPacket

/-- A session, with the packets written without an error and the octets of their payloads. -/
structure Sender where
  session : RTPSession
  packets : ℕ := 0
  octets : ℕ := 0

namespace Sender

def Writes (x : Sender) (w : Write) : Prop := (x.session.writeRTP w.env w.now w.pkt).1 = .ok ()

instance (x : Sender) (w : Write) : Decidable (x.Writes w) := by
  unfold Writes
  infer_instance

def step (x : Sender) (w : Write) : Sender :=
  { session := (x.session.writeRTP w.env w.now w.pkt).2
    packets := if x.Writes w then x.packets + 1 else x.packets
    octets := if x.Writes w then x.octets + w.pkt.payload.length else x.octets }

def after (rtpSourceLock : Bool) (sess : MediaSession) (writes : List Write) : Sender :=
  runFrom step { session := .new rtpSourceLock sess } writes

def report (x : Sender) (now : ℤ) : SenderReport :=
  x.session.parseSenderReport now x.session.writeStats.ssrc

/-- The counters are those of the stream `ssrc`, and are zero before it starts. -/
structure Counts (ssrc : UInt32) (x : Sender) : Prop where
  packets : x.session.writeStats.packetsCount = UInt64.ofNat x.packets
  octets : x.session.writeStats.octetCount = UInt64.ofNat x.octets
  fresh : x.session.writeStats.ssrc ≠ ssrc → x.packets = 0 ∧ x.octets = 0

/-- The counters of a report are the totals, cut off at the largest 32-bit value. -/
def Saturates (x : Sender) (report : SenderReport) : Prop :=
  report.packetCount.toNat = min x.packets (2 ^ 32 - 1) ∧
    report.octetCount.toNat = min x.octets (2 ^ 32 - 1)

end Sender

theorem toNat_saturate (x : UInt64) :
    (saturate x).toNat = if x.toNat < 2 ^ 32 then x.toNat else 0 := by
  have hlimit : (4294967296 : UInt64).toNat = 2 ^ 32 := rfl
  have hlt : x < 4294967296 ↔ x.toNat < 2 ^ 32 := by rw [UInt64.lt_iff_toNat_lt, hlimit]
  unfold saturate
  by_cases h : x.toNat < 2 ^ 32
  · rw [if_pos h, if_pos (hlt.mpr h), UInt64.toNat_toUInt32, Nat.mod_eq_of_lt h]
  · rw [if_neg h, if_neg (mt hlt.mp h), UInt64.toNat_toUInt32, hlimit, Nat.mod_self]

/-- A total the conversion saturates as it is meant to. -/
def Fits (n : ℕ) : Prop := n < 2 ^ 32 ∨ n % 2 ^ 64 = 2 ^ 32 - 1

theorem saturate_eq_min_iff (n : ℕ) :
    (saturate (UInt64.ofNat n)).toNat = min n (2 ^ 32 - 1) ↔ Fits n := by
  rw [toNat_saturate, UInt64.toNat_ofNat', Fits]
  split_ifs <;> omega

namespace Sender

variable {ssrc : UInt32} {x : Sender} {w : Write}

theorem Counts.step (hx : Counts ssrc x) (hw : w.pkt.ssrc = ssrc) : Counts ssrc (x.step w) := by
  have hkept (err : RTPSession.WriteErr)
      (h : x.session.writeRTP w.env w.now w.pkt = (.error err, x.session)) :
      Counts ssrc (x.step w) := by
    have hwrites : ¬ x.Writes w := by simp [Writes, h]
    simpa only [Sender.step, hwrites, if_false, h] using hx
  have hcounted (stats : RTPWriteStats)
      (h : x.session.writeRTP w.env w.now w.pkt =
        (.ok (), { x.session with writeStats := RTPSession.countWrite stats w.now w.pkt }))
      (hssrc : stats.ssrc = ssrc) (hpackets : stats.packetsCount = UInt64.ofNat x.packets)
      (hoctets : stats.octetCount = UInt64.ofNat x.octets) : Counts ssrc (x.step w) := by
    have hwrites : x.Writes w := by simp [Writes, h]
    simp only [Sender.step, hwrites, if_true, h]
    refine ⟨?_, ?_, fun hne => absurd hssrc hne⟩
    · simp [RTPSession.countWrite, hpackets, UInt64.ofNat_add]
    · simp [RTPSession.countWrite, hoctets, UInt64.ofNat_add]
  unfold RTPSession.writeRTP at hkept hcounted
  cases hmedia : (x.session.sess.writeRTP w.env).result with
  | error err => exact hkept (.media err) (by rw [hmedia])
  | ok _ =>
    simp only [hmedia] at hkept hcounted
    by_cases hnew : x.session.writeStats.ssrc ≠ w.pkt.ssrc
    · simp only [if_pos hnew] at hkept hcounted
      obtain ⟨hp, ho⟩ := hx.fresh (hw ▸ hnew)
      cases hstream : RTPSession.newWriteStream x.session.sess.activeCodecs w.pkt with
      | none => exact hkept _ (by rw [hstream])
      | some stats =>
        obtain ⟨codec, -, rfl⟩ := Option.map_eq_some_iff.mp hstream
        exact hcounted _ (by rw [hstream]) hw (by rw [hp]; rfl) (by rw [ho]; rfl)
    · simp only [if_neg hnew] at hcounted
      exact hcounted _ rfl ((not_not.mp hnew).trans hw) hx.packets hx.octets

theorem counts_after (rtpSourceLock : Bool) (sess : MediaSession) {writes : List Write}
    (hwrites : ∀ w ∈ writes, w.pkt.ssrc = ssrc) :
    Counts ssrc (after rtpSourceLock sess writes) := by
  have hrun (x : Sender) (hx : Counts ssrc x) : Counts ssrc (runFrom Sender.step x writes) := by
    induction writes generalizing x with
    | nil => exact hx
    | cons w writes ih =>
      exact ih (fun w' hw' => hwrites w' (List.mem_cons_of_mem _ hw')) _
        (hx.step (hwrites w (by simp)))
  exact hrun _ ⟨rfl, rfl, fun _ => ⟨rfl, rfl⟩⟩

theorem Counts.saturates_iff (hx : Counts ssrc x) (now : ℤ) :
    x.Saturates (x.report now) ↔ Fits x.packets ∧ Fits x.octets := by
  have hpackets : (x.report now).packetCount = saturate (UInt64.ofNat x.packets) := by
    rw [← hx.packets]
    rfl
  have hoctets : (x.report now).octetCount = saturate (UInt64.ofNat x.octets) := by
    rw [← hx.octets]
    rfl
  rw [Saturates, hpackets, hoctets, saturate_eq_min_iff, saturate_eq_min_iff]

theorem totals_le (x : Sender) (writes : List Write) :
    x.packets ≤ (runFrom Sender.step x writes).packets ∧
      x.octets ≤ (runFrom Sender.step x writes).octets := by
  induction writes generalizing x with
  | nil => exact ⟨le_rfl, le_rfl⟩
  | cons w writes ih =>
    have hstep : x.packets ≤ (x.step w).packets ∧ x.octets ≤ (x.step w).octets := by
      simp only [Sender.step]
      split_ifs <;> simp
    exact ⟨hstep.1.trans (ih (x.step w)).1, hstep.2.trans (ih (x.step w)).2⟩

/-- Sender report counters saturate, and so never fall, exactly as long as the totals fit 32
bits. -/
theorem sender_report_saturates_iff (rtpSourceLock : Bool) (sess : MediaSession) (ssrc : UInt32)
    (writes more : List Write) (hwrites : ∀ w ∈ writes ++ more, w.pkt.ssrc = ssrc)
    (now later : ℤ) (x y : Sender) (hx : x = after rtpSourceLock sess writes)
    (hy : y = after rtpSourceLock sess (writes ++ more)) :
    (x.Saturates (x.report now) ∧ y.Saturates (y.report later) ∧
        (x.report now).packetCount ≤ (y.report later).packetCount ∧
        (x.report now).octetCount ≤ (y.report later).octetCount) ↔
      (Fits x.packets ∧ Fits x.octets) ∧ Fits y.packets ∧ Fits y.octets := by
  have hxcounts : Counts ssrc x := by
    rw [hx]
    exact counts_after _ _ fun w hw => hwrites w (List.mem_append_left _ hw)
  have hycounts : Counts ssrc y := by
    rw [hy]
    exact counts_after _ _ hwrites
  rw [← hxcounts.saturates_iff now, ← hycounts.saturates_iff later]
  constructor
  · rintro ⟨h, h', -⟩
    exact ⟨h, h'⟩
  · rintro ⟨h, h'⟩
    have hle : x.packets ≤ y.packets ∧ x.octets ≤ y.octets := by
      rw [hy, after, runFrom, List.foldl_append, hx]
      exact totals_le _ more
    refine ⟨h, h', ?_, ?_⟩
    · rw [UInt32.le_iff_toNat_le, h.1, h'.1]
      omega
    · rw [UInt32.le_iff_toNat_le, h.2, h'.2]
      omega

end Sender

section Sample

def sendingSession : MediaSession :=
  { toSettings := { codecs := [codecAudioUlaw] }, rtpConn := some (.udp {}) }

def frameWrite : Write :=
  { env := { marshaled := some [0x80], encrypt := fun _ _ => none, written := some 1 }
    now := 0
    pkt := { ssrc := 7, payload := [1, 2, 3] } }

open Sender

theorem two_frames_counted :
    (after false sendingSession [frameWrite]).packets = 1 ∧
      (after false sendingSession ([frameWrite] ++ [frameWrite])).octets = 6 ∧
      (after false sendingSession [frameWrite]).Saturates
        ((after false sendingSession [frameWrite]).report 0) := by
  refine ⟨by decide, by decide, ?_⟩
  refine ((sender_report_saturates_iff false sendingSession 7 [frameWrite] [frameWrite]
    (by simp [frameWrite]) 0 0 _ _ rfl rfl).mpr ⟨?_, ?_⟩).1
  · exact ⟨.inl (by decide), .inl (by decide)⟩
  · exact ⟨.inl (by decide), .inl (by decide)⟩

def framesSent (n : ℕ) : Sender := after false sendingSession (List.replicate n frameWrite)

theorem frame_written {s : RTPSession} (hsess : s.sess = sendingSession) :
    (s.writeRTP frameWrite.env frameWrite.now frameWrite.pkt).1 = .ok () ∧
      (s.writeRTP frameWrite.env frameWrite.now frameWrite.pkt).2.sess = sendingSession := by
  have hmedia : (s.sess.writeRTP frameWrite.env).result = .ok () := by rw [hsess]; rfl
  have hcodecs : s.sess.activeCodecs = [codecAudioUlaw] := by rw [hsess]; rfl
  have hstream : RTPSession.newWriteStream [codecAudioUlaw] frameWrite.pkt =
      some { ssrc := 7, sampleRate := 8000 } := rfl
  rw [RTPSession.writeRTP, hmedia, hcodecs, hstream]
  dsimp only
  split_ifs <;> exact ⟨rfl, hsess⟩

theorem framesSent_packets (n : ℕ) : (framesSent n).packets = n := by
  have hrun (x : Sender) (hsess : x.session.sess = sendingSession) :
      (runFrom Sender.step x (List.replicate n frameWrite)).packets = x.packets + n := by
    induction n generalizing x with
    | zero => rfl
    | succ n ih =>
      have hwrites : x.Writes frameWrite := (frame_written hsess).1
      have hstep : (x.step frameWrite).packets = x.packets + 1 := if_pos hwrites
      rw [List.replicate_succ, runFrom, List.foldl_cons]
      refine (ih (x.step frameWrite) (frame_written hsess).2).trans ?_
      omega
  exact (hrun _ rfl).trans (by simp)

theorem framesSent_packetCount (n : ℕ) :
    ((framesSent n).report 0).packetCount = saturate (UInt64.ofNat n) := by
  have hcounts : Counts 7 (framesSent n) := by
    refine counts_after _ _ fun w hw => ?_
    rw [List.eq_of_mem_replicate hw]
    rfl
  have hpackets := hcounts.packets
  rw [framesSent_packets] at hpackets
  rw [← hpackets]
  rfl

/-- The packet after the largest 32-bit count takes the reported count back to zero. -/
theorem counter_falls_to_zero :
    (framesSent (2 ^ 32 - 1)).packets = 2 ^ 32 - 1 ∧ (framesSent (2 ^ 32)).packets = 2 ^ 32 ∧
      ((framesSent (2 ^ 32 - 1)).report 0).packetCount.toNat = 2 ^ 32 - 1 ∧
      ((framesSent (2 ^ 32)).report 0).packetCount.toNat = 0 := by
  refine ⟨framesSent_packets _, framesSent_packets _, ?_, ?_⟩
  · rw [framesSent_packetCount, toNat_saturate, UInt64.toNat_ofNat']
    norm_num
  · rw [framesSent_packetCount, toNat_saturate, UInt64.toNat_ofNat']
    norm_num

end Sample
end Diago.Rtp
