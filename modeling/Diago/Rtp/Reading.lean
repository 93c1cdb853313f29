import Diago.Rtp.PacketReader
import Diago.Rtp.Reports

/-! # The reading statistics

What the statistics of a stream hold after any packets: what a sender report may
change in them, and the octets they count.
-/
namespace Diago.Rtp
open Lib Media

/-! ### Sender reports and the reading statistics -/

structure Incoming where
  n : ℕ
  pkt : RTPPacket
  source : Option UDPAddr

namespace RTPSession

def readAll (s : RTPSession) (packets : List Incoming) : RTPSession :=
  runFrom (fun s p => (s.receive p.n p.pkt p.source).2) s packets

/-- The statistics of what was read, without what reports of the peer said. -/
structure ReadSummary where
  firstPktSequenceNumber : UInt16
  lastSequenceNumber : UInt16
  extendedSeq : UInt64
  sampleRate : UInt32
  packetsCount : UInt64
  octetCount : UInt64
  deriving DecidableEq

def readSummary (s : RTPSession) : ReadSummary :=
  { firstPktSequenceNumber := s.readStats.firstPktSequenceNumber
    lastSequenceNumber := s.readStats.lastSequenceNumber
    extendedSeq := s.readStats.lastSeq.readExtendedSeq
    sampleRate := s.readStats.sampleRate
    packetsCount := s.readStats.packetsCount
    octetCount := s.readStats.octetCount }

def withoutReports (s : RTPSession) : RTPSession :=
  { s with
    readStats := { s.readStats with
      lastSenderReportNTP := 0
      lastSenderReportRecvTime := none
      lastReceptionReportSeqNum := 0
      rtt := 0 } }

variable {s : RTPSession}

theorem readSummary_withoutReports (s : RTPSession) :
    s.withoutReports.readSummary = s.readSummary := rfl

theorem account_withoutReports (s : RTPSession) (n : ℕ) (pkt : RTPPacket)
    (source : Option UDPAddr) :
    (s.account n pkt source).2.withoutReports =
      (s.withoutReports.account n pkt source).2.withoutReports := by
  by_cases hssrc : s.readStats.ssrc ≠ pkt.ssrc
  · have hssrc' : s.withoutReports.readStats.ssrc ≠ pkt.ssrc := hssrc
    have hsess : s.withoutReports.sess = s.sess := rfl
    rw [account, account, if_pos hssrc, if_pos hssrc', hsess]
    split_ifs
    · rfl
    · cases newStream s.sess.activeCodecs pkt <;> rfl
  · have hssrc' : ¬ s.withoutReports.readStats.ssrc ≠ pkt.ssrc := hssrc
    rw [account, account, if_neg hssrc, if_neg hssrc']
    rfl

theorem sourceLockProtection_withoutReports (s : RTPSession) (pkt : RTPPacket)
    (source : Option UDPAddr) :
    s.withoutReports.sourceLockProtection pkt source =
      ((s.sourceLockProtection pkt source).1,
        (s.sourceLockProtection pkt source).2.withoutReports) := by
  unfold sourceLockProtection
  cases source with
  | none => rfl
  | some addr =>
    have haddr : s.withoutReports.sourceLockAddr = s.sourceLockAddr := rfl
    have hcount : s.withoutReports.countPacket pkt = (s.countPacket pkt).withoutReports := rfl
    dsimp only
    rw [haddr, hcount]
    cases s.sourceLockAddr with
    | some locked => rfl
    | none =>
      have hpackets : (s.countPacket pkt).withoutReports.sourceLockPackets =
          (s.countPacket pkt).sourceLockPackets := rfl
      dsimp only
      by_cases hfew : (s.countPacket pkt).sourceLockPackets < 4
      · rw [hpackets, if_pos hfew, if_pos hfew]
      · rw [hpackets, if_neg hfew, if_neg hfew]
        rfl

theorem receive_withoutReports (s : RTPSession) (n : ℕ) (pkt : RTPPacket)
    (source : Option UDPAddr) :
    (s.receive n pkt source).2.withoutReports =
      (s.withoutReports.receive n pkt source).2.withoutReports := by
  have hlock : s.withoutReports.sourceLock = s.sourceLock := rfl
  unfold receive
  rw [sourceLockProtection_withoutReports, hlock]
  split_ifs
  · rfl
  · rfl
  · exact account_withoutReports _ n pkt source
  · exact account_withoutReports s n pkt source

theorem readAll_withoutReports (s : RTPSession) (packets : List Incoming) :
    (s.readAll packets).withoutReports = (s.withoutReports.readAll packets).withoutReports := by
  induction packets generalizing s with
  | nil => rfl
  | cons p packets ih =>
    rw [readAll, runFrom, List.foldl_cons]
    refine (ih _).trans ?_
    rw [receive_withoutReports]
    exact (ih _).symm

theorem readReceptionReports_withoutReports (now : ℤ) (reports : List ReceptionReport)
    (s : RTPSession) :
    (reports.foldl (readReceptionReport now) s).withoutReports = s.withoutReports := by
  induction reports generalizing s with
  | nil => rfl
  | cons rr reports ih =>
    rw [List.foldl_cons, ih]
    unfold readReceptionReport
    split_ifs <;> rfl

/-- All a sender report leaves in the statistics of what was read is the source, when there was
none. -/
theorem readRTCPPacket_withoutReports (s : RTPSession) (now : ℤ) (p : SenderReport) :
    (s.readRTCPPacket now (.sender p)).withoutReports =
      { s with readStats := { s.withoutReports.readStats with
          ssrc := if s.readStats.ssrc = 0 then p.ssrc else s.readStats.ssrc } } :=
  readReceptionReports_withoutReports now p.reports _

def streamPacket (ssrc : UInt32) (seq : UInt16) (source : Option UDPAddr) : Incoming :=
  { n := 13, pkt := { ssrc := ssrc, sequenceNumber := seq, payload := [0] }, source := source }

theorem streamPacket_read (ssrc : UInt32) (seq : UInt16) (source : Option UDPAddr) :
    ¬ ((streamPacket ssrc seq source).pkt.version = 0 ∨
      (streamPacket ssrc seq source).pkt.payload = []) := by
  simp [streamPacket]

theorem receive_learning {ssrc : UInt32} {seq : UInt16} {addr : UDPAddr}
    (hlock : s.sourceLock = true) (hnone : s.sourceLockAddr = none)
    (hfew : (s.countPacket (streamPacket ssrc seq (some addr)).pkt).sourceLockPackets < 4) :
    (s.receive 13 (streamPacket ssrc seq (some addr)).pkt (some addr)).2 =
      s.countPacket (streamPacket ssrc seq (some addr)).pkt := by
  have hprotect : s.sourceLockProtection (streamPacket ssrc seq (some addr)).pkt (some addr) =
      (false, s.countPacket (streamPacket ssrc seq (some addr)).pkt) := by
    rw [sourceLockProtection, hnone]
    dsimp only
    rw [if_pos hfew]
  rw [receive, if_neg (streamPacket_read ssrc seq (some addr)), hprotect, if_pos ⟨hlock, rfl⟩]

theorem receive_learned {ssrc : UInt32} {seq : UInt16} {addr : UDPAddr}
    (hlock : s.sourceLock = true) (hnone : s.sourceLockAddr = none)
    (hfull : ¬ (s.countPacket (streamPacket ssrc seq (some addr)).pkt).sourceLockPackets < 4) :
    (s.receive 13 (streamPacket ssrc seq (some addr)).pkt (some addr)).2 =
      ({ s.countPacket (streamPacket ssrc seq (some addr)).pkt with
        sourceLockAddr := some addr }.account 13 (streamPacket ssrc seq (some addr)).pkt
          (some addr)).2 := by
  have hprotect : s.sourceLockProtection (streamPacket ssrc seq (some addr)).pkt (some addr) =
      (true, { s.countPacket (streamPacket ssrc seq (some addr)).pkt with
        sourceLockAddr := some addr }) := by
    rw [sourceLockProtection, hnone]
    dsimp only
    rw [if_neg hfull]
  rw [receive, if_neg (streamPacket_read ssrc seq (some addr)), hprotect,
    if_neg (by simp), if_pos hlock]

theorem countPacket_next {pkt : RTPPacket} (h : s.sourceLockSeq + 1 = pkt.sequenceNumber) :
    (s.countPacket pkt).sourceLockPackets = s.sourceLockPackets + 1 := by
  simp [countPacket, h]

theorem countPacket_restart {pkt : RTPPacket} (h : s.sourceLockSeq + 1 ≠ pkt.sequenceNumber) :
    (s.countPacket pkt).sourceLockPackets = 1 := by
  by_cases hpos : 0 < s.sourceLockPackets
  · simp [countPacket, h, hpos]
  · simp [countPacket, h, Nat.eq_zero_of_not_pos hpos]

def setReadStats (s : RTPSession) (stats : RTPReadStats) : RTPSession :=
  { s with readStats := stats }

/-- Some packets of the stream end with one that gets through to the statistics of the session
`u`, with a number that is not zero. -/
def GetsThrough (s : RTPSession) (ssrc : UInt32) (packets : List Incoming) (q : Incoming)
    (u : RTPSession) : Prop :=
  (∀ r ∈ packets ++ [q], r.pkt.ssrc = ssrc) ∧ q.pkt.sequenceNumber ≠ 0 ∧ u.sess = s.sess ∧
    ∀ stats, (s.setReadStats stats).readAll (packets ++ [q]) =
      ((u.setReadStats stats).account q.n q.pkt q.source).2

def packetAfter (ssrc : UInt32) (m : UInt16) (k : ℕ) : Incoming :=
  streamPacket ssrc (m + UInt16.ofNat k) (some {})

def counted (s : RTPSession) (ssrc : UInt32) (m : UInt16) : ℕ → RTPSession
  | 0 => s
  | k + 1 => (s.counted ssrc m k).countPacket (packetAfter ssrc m k).pkt

theorem counted_keeps (ssrc : UInt32) (m : UInt16) (k : ℕ) :
    (s.counted ssrc m k).sourceLock = s.sourceLock ∧
      (s.counted ssrc m k).sourceLockAddr = s.sourceLockAddr ∧
      (s.counted ssrc m k).sess = s.sess := by
  induction k with
  | zero => exact ⟨rfl, rfl, rfl⟩
  | succ k ih => exact ih

/-- A number out of sequence starts the count over, and those after it are counted. -/
theorem counted_packets {ssrc : UInt32} {m : UInt16} (hm : s.sourceLockSeq + 1 ≠ m) (k : ℕ) :
    (s.counted ssrc m (k + 1)).sourceLockPackets = k + 1 := by
  induction k with
  | zero =>
    apply countPacket_restart
    simpa [packetAfter, streamPacket, counted] using hm
  | succ k ih =>
    rw [counted, countPacket_next, ih]
    simp [counted, countPacket, packetAfter, streamPacket, UInt16.add_assoc]

theorem readAll_concat (s : RTPSession) (packets : List Incoming) (q : Incoming) :
    s.readAll (packets ++ [q]) = ((s.readAll packets).receive q.n q.pkt q.source).2 :=
  List.foldl_concat ..

theorem readAll_counted {ssrc : UInt32} {m : UInt16} (hlock : s.sourceLock = true)
    (hnone : s.sourceLockAddr = none) (hm : s.sourceLockSeq + 1 ≠ m) (stats : RTPReadStats) {k : ℕ}
    (hk : k ≤ 3) : (s.setReadStats stats).readAll ((List.range k).map (packetAfter ssrc m)) =
      (s.counted ssrc m k).setReadStats stats := by
  induction k with
  | zero => rfl
  | succ k ih =>
    obtain ⟨hlocked, haddr, -⟩ := s.counted_keeps ssrc m k
    have hcount : (s.counted ssrc m (k + 1)).sourceLockPackets < 4 := by
      rw [counted_packets hm]
      omega
    rw [List.range_succ, List.map_append, List.map_singleton, readAll_concat, ih (by omega)]
    exact receive_learning (hlocked.trans hlock) (haddr.trans hnone) hcount

theorem getsThrough_learning (ssrc : UInt32) (hlock : s.sourceLock = true)
    (hnone : s.sourceLockAddr = none) : ∃ packets q u, s.GetsThrough ssrc packets q u := by
  obtain ⟨m, hm, hm3⟩ : ∃ m : UInt16, s.sourceLockSeq + 1 ≠ m ∧ m + 3 ≠ 0 := by
    by_cases h : s.sourceLockSeq + 1 = 1
    · exact ⟨2, by rw [h]; decide, by decide⟩
    · exact ⟨1, h, by decide⟩
  obtain ⟨hlocked, haddr, hsess⟩ := s.counted_keeps ssrc m 3
  have hcount : ¬ (s.counted ssrc m 4).sourceLockPackets < 4 := by
    rw [counted_packets hm]
    decide
  have hssrc : ∀ r ∈ (List.range 3).map (packetAfter ssrc m) ++ [packetAfter ssrc m 3],
      r.pkt.ssrc = ssrc := by
    rw [List.forall_mem_append, List.forall_mem_map, List.forall_mem_singleton]
    exact ⟨fun _ _ => rfl, rfl⟩
  refine ⟨(List.range 3).map (packetAfter ssrc m), packetAfter ssrc m 3,
    { s.counted ssrc m 4 with sourceLockAddr := some {} }, hssrc, hm3, hsess, ?_⟩
  intro stats
  rw [readAll_concat, readAll_counted hlock hnone hm stats le_rfl]
  exact receive_learned (hlocked.trans hlock) (haddr.trans hnone) hcount

/-- Whatever the source lock has learned, a packet of the stream gets through after some others. -/
theorem exists_getsThrough (s : RTPSession) (ssrc : UInt32) :
    ∃ packets q u, s.GetsThrough ssrc packets q u := by
  by_cases hlock : s.sourceLock = true
  · obtain hnone | ⟨addr, haddr⟩ := Option.eq_none_or_eq_some s.sourceLockAddr
    · exact getsThrough_learning ssrc hlock hnone
    · refine ⟨[], streamPacket ssrc 1 (some addr), s, by simp [streamPacket],
        show (1 : UInt16) ≠ 0 by decide, rfl, ?_⟩
      intro stats
      have hprotect : (s.setReadStats stats).sourceLockProtection
          (streamPacket ssrc 1 (some addr)).pkt (some addr) = (true, s.setReadStats stats) := by
        simp [sourceLockProtection, setReadStats, haddr]
      change ((s.setReadStats stats).receive 13 (streamPacket ssrc 1 (some addr)).pkt
        (some addr)).2 = _
      rw [receive, if_neg (streamPacket_read ssrc 1 (some addr)), hprotect, if_neg (by simp)]
      simp only [ite_self]
      rfl
  · refine ⟨[], streamPacket ssrc 1 none, s, by simp [streamPacket],
      show (1 : UInt16) ≠ 0 by decide, rfl, ?_⟩
    intro stats
    have hoff : ¬ (s.setReadStats stats).sourceLock = true := hlock
    change ((s.setReadStats stats).receive 13 (streamPacket ssrc 1 none).pkt none).2 = _
    rw [receive, if_neg (streamPacket_read ssrc 1 none), if_neg fun h => hoff h.1, if_neg hoff]
    rfl

/-- What a packet does to the statistics: nothing, or it is counted into those of a new stream,
or into those of its stream. -/
theorem account_stats (s : RTPSession) (n : ℕ) (pkt : RTPPacket) (source : Option UDPAddr) :
    (s.account n pkt source).2.readStats = s.readStats ∨
      (s.readStats.ssrc ≠ pkt.ssrc ∧ ∃ stats, newStream s.sess.activeCodecs pkt = some stats ∧
        (s.account n pkt source).2.readStats = countRead stats n pkt) ∨
      (s.readStats.ssrc = pkt.ssrc ∧ (s.account n pkt source).2.readStats =
        countRead { s.readStats with
          lastSeq := (s.readStats.lastSeq.updateSeq pkt.sequenceNumber).2 } n pkt) := by
  by_cases hssrc : s.readStats.ssrc ≠ pkt.ssrc
  · rw [account, if_pos hssrc]
    split_ifs
    · exact .inl rfl
    · cases hstream : newStream s.sess.activeCodecs pkt with
      | none => exact .inl rfl
      | some stats => exact .inr (.inl ⟨hssrc, stats, rfl, rfl⟩)
  · rw [account, if_neg hssrc]
    exact .inr (.inr ⟨not_not.mp hssrc, rfl⟩)

theorem sourceLockProtection_stats (s : RTPSession) (pkt : RTPPacket) (source : Option UDPAddr) :
    (s.sourceLockProtection pkt source).2.readStats = s.readStats ∧
      (s.sourceLockProtection pkt source).2.sess = s.sess := by
  unfold sourceLockProtection
  split
  · exact ⟨rfl, rfl⟩
  · split
    · exact ⟨rfl, rfl⟩
    · split_ifs <;> exact ⟨rfl, rfl⟩

theorem receive_stats (s : RTPSession) (n : ℕ) (pkt : RTPPacket) (source : Option UDPAddr) :
    (s.receive n pkt source).2.readStats = s.readStats ∨
      (s.readStats.ssrc ≠ pkt.ssrc ∧ ∃ stats, newStream s.sess.activeCodecs pkt = some stats ∧
        (s.receive n pkt source).2.readStats = countRead stats n pkt) ∨
      (s.readStats.ssrc = pkt.ssrc ∧ (s.receive n pkt source).2.readStats =
        countRead { s.readStats with
          lastSeq := (s.readStats.lastSeq.updateSeq pkt.sequenceNumber).2 } n pkt) := by
  obtain ⟨hstats, hsess⟩ := sourceLockProtection_stats s pkt source
  unfold receive
  split_ifs
  · exact .inl rfl
  · exact .inl hstats
  · rw [← hstats, ← hsess]
    exact account_stats _ n pkt source
  · exact account_stats s n pkt source

theorem readAll_ssrc {ssrc : UInt32} {packets : List Incoming}
    (hpackets : ∀ r ∈ packets, r.pkt.ssrc = ssrc)
    (hs : s.readStats = {} ∨ s.readStats.ssrc = ssrc) :
    (s.readAll packets).readStats = {} ∨ (s.readAll packets).readStats.ssrc = ssrc := by
  induction packets generalizing s with
  | nil => exact hs
  | cons p packets ih =>
    refine ih (fun r hr => hpackets r (List.mem_cons_of_mem _ hr)) ?_
    have hp : p.pkt.ssrc = ssrc := hpackets p (by simp)
    obtain hsame | ⟨-, stats, hstream, hstats⟩ | ⟨hold, hstats⟩ :=
      receive_stats s p.n p.pkt p.source
    · exact hsame ▸ hs
    · obtain ⟨codec, -, rfl⟩ := Option.map_eq_some_iff.mp hstream
      exact .inr ((congrArg RTPReadStats.ssrc hstats).trans hp)
    · exact .inr ((congrArg RTPReadStats.ssrc hstats).trans (hold.trans hp))

theorem account_first {u : RTPSession} {pkt : RTPPacket} (n : ℕ) (source : Option UDPAddr)
    (hssrc : u.readStats.ssrc ≠ pkt.ssrc) :
    (u.account n pkt source).2.readStats.packetsCount = u.readStats.packetsCount ∨
      (u.account n pkt source).2.readStats.firstPktSequenceNumber = pkt.sequenceNumber := by
  obtain hsame | ⟨-, stats, hstream, hstats⟩ | ⟨hold, -⟩ := account_stats u n pkt source
  · exact .inl (congrArg RTPReadStats.packetsCount hsame)
  · obtain ⟨codec, -, rfl⟩ := Option.map_eq_some_iff.mp hstream
    exact .inr (congrArg RTPReadStats.firstPktSequenceNumber hstats)
  · exact absurd hold hssrc

theorem account_next {u : RTPSession} {pkt : RTPPacket} (n : ℕ) (source : Option UDPAddr)
    (hssrc : u.readStats.ssrc = pkt.ssrc) :
    (u.account n pkt source).2.readStats.packetsCount = u.readStats.packetsCount + 1 ∧
      (u.account n pkt source).2.readStats.firstPktSequenceNumber =
        u.readStats.firstPktSequenceNumber := by
  rw [account, if_neg (not_not.mpr hssrc)]
  exact ⟨rfl, rfl⟩

/-- A sender report leaves the reception statistics alone, whatever packets of its stream follow,
exactly if the statistics of the stream have been started by a packet, or the stream is numbered
zero. -/
theorem sender_report_harmless_iff (rtpSourceLock : Bool) (sess : MediaSession)
    (packets : List Incoming) (p : SenderReport) (now : ℤ)
    (hpackets : ∀ r ∈ packets, r.pkt.ssrc = p.ssrc) (s : RTPSession)
    (hs : s = (RTPSession.new rtpSourceLock sess).readAll packets) :
    (∀ more : List Incoming, (∀ r ∈ more, r.pkt.ssrc = p.ssrc) →
        ((s.readRTCPPacket now (.sender p)).readAll more).readSummary =
          (s.readAll more).readSummary) ↔
      p.ssrc = 0 ∨ s.readStats.ssrc ≠ 0 := by
  constructor
  · intro hsame
    by_contra hcond
    obtain ⟨hssrc, hzero⟩ := not_or.mp hcond
    rw [not_not] at hzero
    have hfresh : s.readStats = {} := by
      obtain h | h := readAll_ssrc (s := .new rtpSourceLock sess) hpackets (.inl rfl)
      · rw [hs]
        exact h
      · rw [← hs, hzero] at h
        exact absurd h.symm hssrc
    obtain ⟨more, q, u, hstream, hseq, -, hcount⟩ := s.exists_getsThrough p.ssrc
    have hq : q.pkt.ssrc = p.ssrc := hstream q (by simp)
    have hsummary := hsame (more ++ [q]) hstream
    rw [← readSummary_withoutReports, readAll_withoutReports, readRTCPPacket_withoutReports,
      readSummary_withoutReports, if_pos hzero] at hsummary
    have hleft := hcount { s.withoutReports.readStats with ssrc := p.ssrc }
    have hright : s.readAll (more ++ [q]) = _ := hcount s.readStats
    rw [setReadStats] at hleft
    rw [hleft, hright] at hsummary
    have hsource : (u.setReadStats { s.withoutReports.readStats with
        ssrc := p.ssrc }).readStats.ssrc = q.pkt.ssrc := hq.symm
    have hcounted := account_next q.n q.source hsource
    have hnew : (u.setReadStats s.readStats).readStats.ssrc ≠ q.pkt.ssrc := by
      rw [hq, setReadStats, hfresh]
      exact Ne.symm hssrc
    simp only [readSummary, ReadSummary.mk.injEq] at hsummary
    obtain ⟨hfirst, -, -, -, htotal, -⟩ := hsummary
    rw [hcounted.2] at hfirst
    rw [hcounted.1] at htotal
    obtain hnone | hstarted := account_first q.n q.source hnew
    · rw [hnone] at htotal
      simp [setReadStats, withoutReports, hfresh] at htotal
    · rw [hstarted] at hfirst
      simp only [setReadStats, withoutReports, hfresh] at hfirst
      exact hseq hfirst.symm
  · intro hcond more _
    have hssrc : (if s.readStats.ssrc = 0 then p.ssrc else s.readStats.ssrc) = s.readStats.ssrc := by
      split_ifs with hzero
      · obtain h | h := hcond
        · rw [h, hzero]
        · exact absurd hzero h
      · rfl
    have hreport : (s.readRTCPPacket now (.sender p)).withoutReports = s.withoutReports := by
      rw [readRTCPPacket_withoutReports, hssrc]
      rfl
    rw [← readSummary_withoutReports, readAll_withoutReports, hreport, ← readAll_withoutReports,
      readSummary_withoutReports]

end RTPSession

section Sample

open RTPSession

/-- A report after the first packet of its stream does not disturb the statistics. -/
theorem later_report_harmless :
    ((RTPSession.new false sendingSession).readAll [streamPacket 7 100 none]).readStats.ssrc = 7 ∧
      ∀ more : List Incoming, (∀ r ∈ more, r.pkt.ssrc = 7) →
        ((((RTPSession.new false sendingSession).readAll [streamPacket 7 100 none]).readRTCPPacket 0
            (.sender { ssrc := 7 })).readAll more).readSummary =
          (((RTPSession.new false sendingSession).readAll
            [streamPacket 7 100 none]).readAll more).readSummary := by
  have hssrc : ((RTPSession.new false sendingSession).readAll
      [streamPacket 7 100 none]).readStats.ssrc = 7 := by decide
  refine ⟨hssrc, (sender_report_harmless_iff false sendingSession [streamPacket 7 100 none]
    { ssrc := 7 } 0 (by simp [streamPacket]) _ rfl).mpr (.inr ?_)⟩
  rw [hssrc]
  decide

/-- A report before the first packet: the statistics do not know the number of that packet, nor
the clock of the codec. -/
theorem early_report_disturbs :
    ((RTPSession.new false sendingSession).readAll [streamPacket 7 100 none]).readSummary =
        ⟨100, 100, 100, 8000, 1, 1⟩ ∧
      (((RTPSession.new false sendingSession).readRTCPPacket 0 (.sender { ssrc := 7 })).readAll
        [streamPacket 7 100 none]).readSummary = ⟨0, 100, 100, 0, 1, 1⟩ := by
  decide +kernel

end Sample

/-! ### Octets -/

/-- A packet as SRTP decryption gives it: its header, and all of its bytes. -/
structure Decrypted where
  header : RTPPacket
  padding : Bool
  data : Bytes

def Decrypted.unmarshal (d : Decrypted) : Option RTPPacket :=
  (rtpUnmarshalPayload ⟨d.header.version, d.padding, d.header.marshalSize⟩ d.data).map fun payload =>
    { d.header with
      payload := payload
      paddingSize := if d.padding then (d.data.getLast?).getD 0 else 0 }

structure ReadLib extends RtpLib where
  decrypt : SrtpContext → Bytes → Option Decrypted

namespace ReadLib

def env (lib : ReadLib) : ReadEnv where
  unmarshal := lib.toRtpLib.env.unmarshal
  decrypt ctx data := (lib.decrypt ctx data).map fun d =>
    (⟨d.header.version, d.padding, d.header.marshalSize⟩, d.data)

def parse (lib : ReadLib) (m : MediaSession) (data : Bytes) : Option RTPPacket :=
  match m.remoteCtxSRTP with
  | none => lib.unmarshal data
  | some ctx => (lib.decrypt ctx data).bind Decrypted.unmarshal

end ReadLib

/-- A datagram that arrives, with the media session as it is then. -/
structure Arrived where
  sess : MediaSession
  bufLen : ℕ
  data : Bytes
  source : UDPAddr

/-- The packet the media session reads of a datagram, unless it discards or refuses it. -/
def Arrived.incoming (lib : ReadLib) (a : Arrived) : Option Incoming :=
  match a.sess.readRTP lib.env a.bufLen [.datagram a.data a.source],
      lib.parse a.sess (a.data.take a.bufLen) with
  | some (⟨n, none⟩, _), some pkt => some ⟨n, pkt, some a.source⟩
  | _, _ => none

def RTPPacket.size (pkt : RTPPacket) : ℕ :=
  pkt.marshalSize + pkt.payload.length + pkt.paddingSize.toNat

/-- A session, with the payload octets of the packets counted, and the size of those that were
counted while the direction was to send only. -/
structure Tally where
  session : RTPSession
  payload : ℕ := 0
  withheld : ℕ := 0

namespace Tally

def Counts (x : Tally) (m : MediaSession) (p : Incoming) : Prop :=
  ({ x.session with sess := m }.receive p.n p.pkt p.source).2.readStats.packetsCount ≠
    x.session.readStats.packetsCount

instance (x : Tally) (m : MediaSession) (p : Incoming) : Decidable (x.Counts m p) := by
  unfold Counts
  infer_instance

def take (x : Tally) (m : MediaSession) (p : Incoming) : Tally :=
  { session := ({ x.session with sess := m }.receive p.n p.pkt p.source).2
    payload := if x.Counts m p then x.payload + p.pkt.payload.length else x.payload
    withheld :=
      if x.Counts m p ∧ m.mode = some .sendonly then x.withheld + p.pkt.size else x.withheld }

def step (lib : ReadLib) (x : Tally) (a : Arrived) : Tally :=
  match a.incoming lib with
  | none => x
  | some p => x.take a.sess p

def after (lib : ReadLib) (rtpSourceLock : Bool) (sess : MediaSession) (arrived : List Arrived) :
    Tally :=
  runFrom (step lib) { session := .new rtpSourceLock sess } arrived

/-- The octets counted are those of the payloads, less the size of the packets that were read
while the direction was to send only. -/
structure Balanced (ssrc : UInt32) (x : Tally) : Prop where
  octets : x.session.readStats.octetCount = UInt64.ofInt (x.payload - x.withheld)
  fresh : x.session.readStats.ssrc ≠ ssrc →
    x.session.readStats.packetsCount = 0 ∧ x.payload = 0 ∧ x.withheld = 0

end Tally

theorem rtpUnmarshalPayload_length {h : RTPHeader} {buf payload : Bytes}
    (hpayload : rtpUnmarshalPayload h buf = some payload) :
    h.marshalSize + payload.length + (if h.padding then (buf.getLast?).getD 0 else 0).toNat =
      buf.length := by
  by_cases hpadding : h.padding = true
  · rw [rtpUnmarshalPayload, if_pos hpadding] at hpayload
    dsimp only at hpayload
    split_ifs at hpayload with hshort hlong
    obtain rfl := Option.some.inj hpayload
    rw [if_pos hpadding, List.length_drop, List.length_take]
    omega
  · rw [rtpUnmarshalPayload, if_neg hpadding] at hpayload
    split_ifs at hpayload with hshort
    obtain rfl := Option.some.inj hpayload
    rw [if_neg hpadding, List.length_drop]
    simp only [UInt8.toNat_zero]
    omega

theorem unmarshal_size {d : Decrypted} {pkt : RTPPacket} (h : d.unmarshal = some pkt) :
    pkt.size = d.data.length := by
  obtain ⟨payload, hpayload, rfl⟩ := Option.map_eq_some_iff.mp h
  exact rtpUnmarshalPayload_length hpayload

theorem plain_size {lib : RtpLib} {data : Bytes} {pkt : RTPPacket}
    (h : lib.unmarshal data = some pkt) (hext : hasExtension data = false) :
    pkt.size = data.length := by
  have hconsumes := lib.consumes data pkt h
  have hmarshals := lib.marshals data pkt h
  simp only [hext, headerBytes, RTPPacket.size] at *
  simp at *
  omega

theorem readRTP_one {env : ReadEnv} {m t : MediaSession} {bufLen n : ℕ} {data : Bytes}
    {source : UDPAddr} (h : m.readRTP env bufLen [.datagram data source] = some (⟨n, none⟩, t)) :
    ∃ hd k, m.readDatagram env (data.take bufLen) = .packet hd k ∧
      n = if m.mode = some .sendonly then 0 else k := by
  by_cases hbuf : bufLen < rtpBufSize
  · rw [MediaSession.readRTP, if_pos hbuf] at h
    simp at h
  · rw [MediaSession.readRTP, if_neg hbuf] at h
    cases hdatagram : m.readDatagram env (data.take bufLen) with
    | discarded u =>
      simp only [hdatagram] at h
      rw [MediaSession.readRTP, if_neg hbuf] at h
      simp at h
    | refused k => simp [hdatagram] at h
    | packet hd k =>
      simp only [hdatagram, Option.some.injEq, Prod.mk.injEq,
        Media.ReadResult.mk.injEq, and_true] at h
      exact ⟨hd, k, rfl, h.1.symm⟩

theorem parse_size {lib : ReadLib} {m : MediaSession} {data : Bytes} {hd : RTPHeader} {k : ℕ}
    {pkt : RTPPacket} (hread : m.readDatagram lib.env data = .packet hd k)
    (hparse : lib.parse m data = some pkt) (hext : hasExtension data = false) :
    k = pkt.size := by
  unfold MediaSession.readDatagram at hread
  split_ifs at hread
  unfold ReadLib.parse at hparse
  cases hctx : m.remoteCtxSRTP with
  | none =>
    simp only [hctx] at hread hparse
    have hk : data.length = k := by
      cases hun : lib.env.unmarshal data with
      | none => simp [hun] at hread
      | some h' =>
        simp only [hun] at hread
        injection hread
    rw [plain_size hparse hext, hk]
  | some ctx =>
    simp only [hctx] at hread hparse
    obtain ⟨d, hd', hpkt⟩ := Option.bind_eq_some_iff.mp hparse
    have hdec : lib.env.decrypt ctx data =
        some (⟨d.header.version, d.padding, d.header.marshalSize⟩, d.data) := by
      simp [ReadLib.env, hd']
    simp only [hdec] at hread
    split_ifs at hread
    injection hread with _ hk
    rw [unmarshal_size hpkt, hk]

theorem incoming_size {lib : ReadLib} {a : Arrived} {p : Incoming}
    (h : a.incoming lib = some p) (hext : hasExtension (a.data.take a.bufLen) = false) :
    p.n = if a.sess.mode = some .sendonly then 0 else p.pkt.size := by
  unfold Arrived.incoming at h
  split at h
  · rename_i n t pkt hread hparse
    obtain rfl := Option.some.inj h
    obtain ⟨hd, k, hdatagram, hn⟩ := readRTP_one hread
    rw [← parse_size hdatagram hparse hext]
    exact hn
  · cases h

namespace Tally

variable {ssrc : UInt32} {x : Tally} {m : MediaSession} {p : Incoming}

theorem Balanced.take (hx : Balanced ssrc x) (hp : p.pkt.ssrc = ssrc)
    (hn : p.n = if m.mode = some .sendonly then 0 else p.pkt.size) :
    Balanced ssrc (x.take m p) := by
  have hadded : ((p.n : ℤ) - p.pkt.marshalSize - p.pkt.paddingSize.toNat) =
      p.pkt.payload.length - (if m.mode = some .sendonly then p.pkt.size else 0 : ℕ) := by
    rw [hn]
    unfold RTPPacket.size
    split_ifs <;> push_cast <;> ring
  have hcounted (stats : RTPReadStats)
      (hstats : ({ x.session with sess := m }.receive p.n p.pkt p.source).2.readStats =
        RTPSession.countRead stats p.n p.pkt) (hssrc : stats.ssrc = ssrc)
      (htotal : stats.packetsCount = x.session.readStats.packetsCount)
      (hoctets : stats.octetCount = UInt64.ofInt (x.payload - x.withheld)) :
      Balanced ssrc (x.take m p) := by
    have hcounts : x.Counts m p := by
      rw [Counts, hstats, RTPSession.countRead, htotal]
      simp
    refine ⟨?_, fun hne => absurd ?_ hne⟩
    · simp only [Tally.take, hcounts, true_and, if_true, hstats, RTPSession.countRead, hoctets,
        ← UInt64.ofInt_add]
      congr 1
      rw [hadded]
      split_ifs <;> push_cast <;> ring
    · simp only [Tally.take, hstats]
      exact hssrc
  obtain hsame | ⟨hnew, stats, hstream, hstats⟩ | ⟨hold, hstats⟩ :=
    RTPSession.receive_stats { x.session with sess := m } p.n p.pkt p.source
  · have hcounts : ¬ x.Counts m p := by
      rw [Counts, hsame]
      exact fun h => h rfl
    have htake : (x.take m p).session.readStats = x.session.readStats := hsame
    refine ⟨?_, ?_⟩
    · rw [htake, hx.octets]
      simp [Tally.take, hcounts]
    · rw [htake]
      simpa [Tally.take, hcounts] using hx.fresh
  · obtain ⟨codec, -, rfl⟩ := Option.map_eq_some_iff.mp hstream
    obtain ⟨htotal, hpayload, hwithheld⟩ := hx.fresh (hp ▸ hnew)
    refine hcounted _ hstats hp htotal.symm ?_
    rw [hpayload, hwithheld]
    rfl
  · exact hcounted _ hstats (hold.trans hp) rfl hx.octets

theorem Balanced.step {lib : ReadLib} {a : Arrived} (hx : Balanced ssrc x)
    (ha : ∀ p, a.incoming lib = some p → p.pkt.ssrc = ssrc)
    (hext : hasExtension (a.data.take a.bufLen) = false) : Balanced ssrc (x.step lib a) := by
  unfold Tally.step
  cases hin : a.incoming lib with
  | none => exact hx
  | some p => exact hx.take (ha p hin) (incoming_size hin hext)

theorem balanced_after {lib : ReadLib} (rtpSourceLock : Bool) (sess : MediaSession)
    {arrived : List Arrived}
    (hssrc : ∀ a ∈ arrived, ∀ p, a.incoming lib = some p → p.pkt.ssrc = ssrc)
    (hext : ∀ a ∈ arrived, hasExtension (a.data.take a.bufLen) = false) :
    Balanced ssrc (after lib rtpSourceLock sess arrived) := by
  have hrun (x : Tally) (hx : Balanced ssrc x) :
      Balanced ssrc (runFrom (Tally.step lib) x arrived) := by
    induction arrived generalizing x with
    | nil => exact hx
    | cons a arrived ih =>
      exact ih (fun b hb => hssrc b (List.mem_cons_of_mem _ hb))
        (fun b hb => hext b (List.mem_cons_of_mem _ hb)) _
        (hx.step (hssrc a (by simp)) (hext a (by simp)))
  exact hrun _ ⟨rfl, fun _ => ⟨rfl, rfl, rfl⟩⟩

/-- The octets counted are the payload octets of the packets counted exactly if no packet was
counted while the direction was to send only. -/
theorem octets_counted_iff (lib : ReadLib) (rtpSourceLock : Bool) (sess : MediaSession)
    (ssrc : UInt32) (arrived : List Arrived)
    (hssrc : ∀ a ∈ arrived, ∀ p, a.incoming lib = some p → p.pkt.ssrc = ssrc)
    (hext : ∀ a ∈ arrived, hasExtension (a.data.take a.bufLen) = false) (x : Tally)
    (hx : x = after lib rtpSourceLock sess arrived) (hsum : x.payload < 2 ^ 64) :
    x.session.readStats.octetCount.toNat = x.payload ↔ x.withheld % 2 ^ 64 = 0 := by
  have hbalanced : Balanced ssrc x := by
    rw [hx]
    exact balanced_after _ _ hssrc hext
  rw [hbalanced.octets, UInt64.ofInt, UInt64.toNat_ofNat']
  omega

end Tally

section Sample

open Tally

def plainLib : ReadLib := { oneByteLib with decrypt := fun _ _ => none }

def arrivedIn (mode : SDP.Mode) : Arrived :=
  { sess := { sendingSession with mode := some mode }
    bufLen := 1500
    data := plainPacket
    source := {} }

/-- One octet, read while we send and receive. -/
theorem one_octet_counted :
    (after plainLib false sendingSession [arrivedIn .sendrecv]).payload = 1 ∧
      (after plainLib false sendingSession
        [arrivedIn .sendrecv]).session.readStats.octetCount.toNat = 1 := by
  have hpayload : (after plainLib false sendingSession [arrivedIn .sendrecv]).payload = 1 := by
    decide +kernel
  refine ⟨hpayload, ?_⟩
  have h := (octets_counted_iff plainLib false sendingSession 7 [arrivedIn .sendrecv]
    ?_ ?_ _ rfl (by rw [hpayload]; norm_num)).mpr ?_
  · rw [h, hpayload]
  · intro a ha p hp
    obtain rfl := List.mem_singleton.mp ha
    have : (arrivedIn .sendrecv).incoming plainLib =
        some ⟨13, oneBytePacket plainPacket, some {}⟩ := by rfl
    rw [this] at hp
    obtain rfl := Option.some.inj hp
    rfl
  · intro a ha
    obtain rfl := List.mem_singleton.mp ha
    decide
  · decide +kernel

/-- The same packet read while we only send takes the size of its header off the count. -/
theorem withheld_packet_miscounted :
    (after plainLib false sendingSession [arrivedIn .sendonly]).payload = 1 ∧
      (after plainLib false sendingSession
        [arrivedIn .sendonly]).session.readStats.packetsCount = 1 ∧
      (after plainLib false sendingSession
        [arrivedIn .sendonly]).session.readStats.octetCount.toNat = 2 ^ 64 - 12 := by
  decide +kernel

end Sample
end Diago.Rtp
