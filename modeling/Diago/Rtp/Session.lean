import Diago.Lib.Run
import Diago.Media.Wire
import Diago.Rtp.Sequencer

/-! # The RTP session

A session reads packets off its media session, skips those that carry nothing, keeps
statistics of the stream and, with the source lock, learns the address the stream
comes from.
-/
namespace Diago.Rtp
open Lib Media

structure RTPPacket where
  version : ℕ := 2
  marker : Bool := false
  payloadType : UInt8 := 0
  sequenceNumber : UInt16 := 0
  timestamp : UInt32 := 0
  ssrc : UInt32 := 0
  paddingSize : UInt8 := 0
  payload : Bytes := []
  /-- The size the library gives the header when it writes it. -/
  marshalSize : ℕ := 12
  deriving DecidableEq

structure RTPReadStats where
  ssrc : UInt32 := 0
  firstPktSequenceNumber : UInt16 := 0
  lastSequenceNumber : UInt16 := 0
  lastSeq : RTPExtendedSequenceNumber := {}
  intervalFirstPktSeqNum : UInt16 := 0
  intervalPacketsCount : UInt16 := 0
  packetsCount : UInt64 := 0
  octetCount : UInt64 := 0
  sampleRate : UInt32 := 0
  lastSenderReportNTP : UInt64 := 0
  /-- When the last sender report was read, none before the first one. -/
  lastSenderReportRecvTime : Option ℤ := none
  lastReceptionReportSeqNum : UInt32 := 0
  rtt : ℕ := 0
  deriving DecidableEq

structure RTPWriteStats where
  ssrc : UInt32 := 0
  lastPacketTime : Option ℤ := none
  lastPacketTimestamp : UInt32 := 0
  sampleRate : UInt32 := 0
  packetsCount : UInt64 := 0
  octetCount : UInt64 := 0
  deriving DecidableEq

structure RTPSession where
  sess : MediaSession
  readStats : RTPReadStats := {}
  writeStats : RTPWriteStats := {}
  monitorRun : Bool := false
  closed : Bool := false
  sourceLock : Bool := false
  sourceLockPackets : ℕ := 0
  sourceLockSeq : UInt16 := 0
  sourceLockAddr : Option UDPAddr := none

/-- The first codec that is not for events; none without a codec at all, which panics. -/
def codecAudioFromSession (s : MediaSession) : Option Codec :=
  match s.filterCodecs.find? (·.name ≠ lit "telephone-event") with
  | some c => some c
  | none => s.codecs.head?

/-- What reading one packet returns: the packet with its source, or a panic on a session without
codecs. An error is one of the media session. -/
inductive Outcome
  | failed
  | panicked
  | returned (n : ℕ) (pkt : RTPPacket) (source : Option UDPAddr)
  deriving DecidableEq

/-- What the media session reads: a packet with the address it came from, none for one that is no
UDP address, or an error. -/
inductive Received
  | packet (n : ℕ) (pkt : RTPPacket) (source : Option UDPAddr)
  | failure

namespace RTPSession

def new (rtpSourceLock : Bool) (sess : MediaSession) : RTPSession :=
  { sess := sess, sourceLock := rtpSourceLock }

/-- The learned source goes along to a session with the same addresses. -/
def carrySourceLock (s fork : RTPSession) : RTPSession :=
  if s.sess.laddr = fork.sess.laddr ∧ s.sess.raddr = fork.sess.raddr then
    { fork with
      sourceLockPackets := s.sourceLockPackets
      sourceLockSeq := s.sourceLockSeq
      sourceLockAddr := s.sourceLockAddr }
  else fork

/-- The statistics go along, with the clock of the new codec. -/
def fork (s : RTPSession) (sess : MediaSession) : Option RTPSession :=
  match codecAudioFromSession s.sess, codecAudioFromSession sess with
  | some oldCodec, some newCodec =>
    let fork := s.carrySourceLock
      { sess := sess, readStats := s.readStats, writeStats := s.writeStats,
        sourceLock := s.sourceLock }
    if oldCodec.sampleRate ≠ newCodec.sampleRate then
      some { fork with
        readStats := { fork.readStats with sampleRate := newCodec.sampleRate }
        writeStats := { fork.writeStats with sampleRate := newCodec.sampleRate } }
    else some fork
  | _, _ => none

/-- Counts a packet while the source is learned: one that is not next in sequence starts over. -/
def countPacket (s : RTPSession) (pkt : RTPPacket) : RTPSession :=
  { s with
    sourceLockPackets :=
      if 0 < s.sourceLockPackets ∧ s.sourceLockSeq + 1 ≠ pkt.sequenceNumber then 1
      else s.sourceLockPackets + 1
    sourceLockSeq := pkt.sequenceNumber }

def sourceLockProtection (s : RTPSession) (pkt : RTPPacket) (source : Option UDPAddr) :
    Bool × RTPSession :=
  match source with
  | none => (false, s)
  | some addr =>
    match s.sourceLockAddr with
    | some locked => (locked = addr, s)
    | none =>
      if (s.countPacket pkt).sourceLockPackets < 4 then (false, s.countPacket pkt)
      else (true, { s.countPacket pkt with sourceLockAddr := some addr })

/-- The statistics of a new stream, or none when its payload type is not one of ours. -/
def newStream (codecs : List Codec) (pkt : RTPPacket) : Option RTPReadStats :=
  (codecs.find? (·.payloadType = pkt.payloadType)).map fun codec =>
    { ssrc := pkt.ssrc
      firstPktSequenceNumber := pkt.sequenceNumber
      sampleRate := codec.sampleRate
      lastSeq := .initSeq pkt.sequenceNumber }

def countRead (stats : RTPReadStats) (n : ℕ) (pkt : RTPPacket) : RTPReadStats :=
  { stats with
    intervalPacketsCount := stats.intervalPacketsCount + 1
    packetsCount := stats.packetsCount + 1
    octetCount := stats.octetCount + UInt64.ofInt (n - pkt.marshalSize - pkt.paddingSize.toNat)
    lastSequenceNumber := pkt.sequenceNumber
    intervalFirstPktSeqNum :=
      if stats.intervalFirstPktSeqNum = 0 then pkt.sequenceNumber
      else stats.intervalFirstPktSeqNum }

/-- Takes a packet that passed the checks into the statistics. -/
def account (s : RTPSession) (n : ℕ) (pkt : RTPPacket) (source : Option UDPAddr) :
    Outcome × RTPSession :=
  if s.readStats.ssrc ≠ pkt.ssrc then
    if s.sess.activeCodecs = [] then (.panicked, s)
    else
      match newStream s.sess.activeCodecs pkt with
      | none => (.returned 0 pkt source, s)
      | some stats => (.returned n pkt source, { s with readStats := countRead stats n pkt })
  else
    let stats := { s.readStats with lastSeq := (s.readStats.lastSeq.updateSeq pkt.sequenceNumber).2 }
    (.returned n pkt source, { s with readStats := countRead stats n pkt })

def examines (s : RTPSession) (pkt : RTPPacket) : Bool :=
  pkt.version ≠ 0 && pkt.payload ≠ [] && s.sourceLock

/-- One turn of the loop of ReadRTP; none when it goes on to the next packet. -/
def receive (s : RTPSession) (n : ℕ) (pkt : RTPPacket) (source : Option UDPAddr) :
    Option Outcome × RTPSession :=
  if pkt.version = 0 ∨ pkt.payload = [] then (none, s)
  else if s.sourceLock ∧ (s.sourceLockProtection pkt source).1 = false then
    (none, (s.sourceLockProtection pkt source).2)
  else
    let t := if s.sourceLock then (s.sourceLockProtection pkt source).2 else s
    (some (t.account n pkt source).1, (t.account n pkt source).2)

/-- Reads until a packet is returned; none while the media session waits for more. -/
def readRTP : List Received → RTPSession → Option (Outcome × RTPSession)
  | [], _ => none
  | .failure :: _, s => some (.failed, s)
  | .packet n pkt source :: rest, s =>
    match s.receive n pkt source with
    | (some out, t) => some (out, t)
    | (none, t) => readRTP rest t

end RTPSession

/-! ### The packets the source lock examines -/

structure Examined where
  sequenceNumber : UInt16
  source : Option UDPAddr
  deriving DecidableEq

/-- A session with the packets its source lock, or that of the session it continues, examined,
the last one first. -/
structure Watched where
  session : RTPSession
  examined : List Examined := []

inductive WatchedEvent
  | received (n : ℕ) (pkt : RTPPacket) (source : Option UDPAddr)
  | fork (sess : MediaSession)

def Watched.step (x : Watched) : WatchedEvent → Watched
  | .received n pkt source =>
    { session := (x.session.receive n pkt source).2
      examined :=
        if x.session.examines pkt then ⟨pkt.sequenceNumber, source⟩ :: x.examined else x.examined }
  | .fork sess =>
    match x.session.fork sess with
    | some session => { x with session := session }
    | none => x

/-- A session with the source lock, after some packets and forks. -/
def watched (sess : MediaSession) (events : List WatchedEvent) : Watched :=
  runFrom Watched.step { session := .new true sess } events

def CountsDown (seq : UInt16) : ℕ → List Examined → Prop
  | 0, _ => True
  | k + 1, l => ∃ e rest, l = e :: rest ∧ e.sequenceNumber = seq ∧ CountsDown (seq - 1) k rest

/-- While the source is learned, the packets counted are the last ones with an address, in
sequence. -/
structure Learning (x : Watched) : Prop where
  enabled : x.session.sourceLock = true
  few : x.session.sourceLockAddr = none → x.session.sourceLockPackets < 4
  sequence : x.session.sourceLockAddr = none →
    CountsDown x.session.sourceLockSeq x.session.sourceLockPackets
      (x.examined.filter (·.source.isSome))

structure LockState where
  packets : ℕ
  seq : UInt16
  addr : Option UDPAddr

def RTPSession.lock (s : RTPSession) : LockState :=
  ⟨s.sourceLockPackets, s.sourceLockSeq, s.sourceLockAddr⟩

variable {x : Watched} {n : ℕ} {pkt : RTPPacket} {source : Option UDPAddr} {s : RTPSession}

theorem account_lock (s : RTPSession) (n : ℕ) (pkt : RTPPacket) (source : Option UDPAddr) :
    (s.account n pkt source).2.lock = s.lock ∧
      (s.account n pkt source).2.sourceLock = s.sourceLock := by
  unfold RTPSession.account
  split_ifs
  · exact ⟨rfl, rfl⟩
  · split <;> exact ⟨rfl, rfl⟩
  · exact ⟨rfl, rfl⟩

theorem sourceLockProtection_enabled (s : RTPSession) (pkt : RTPPacket) (source : Option UDPAddr) :
    (s.sourceLockProtection pkt source).2.sourceLock = s.sourceLock := by
  unfold RTPSession.sourceLockProtection
  split
  · rfl
  · split
    · rfl
    · split_ifs <;> rfl

theorem receive_lock (hs : s.sourceLock = true) (n : ℕ) (pkt : RTPPacket)
    (source : Option UDPAddr) :
    (s.receive n pkt source).2.lock =
        (if s.examines pkt then (s.sourceLockProtection pkt source).2 else s).lock ∧
      (s.receive n pkt source).2.sourceLock = true := by
  have henabled := (sourceLockProtection_enabled s pkt source).trans hs
  by_cases hskip : pkt.version = 0 ∨ pkt.payload = []
  · have hexamines : s.examines pkt = false := by
      simp only [RTPSession.examines]
      obtain hversion | hpayload := hskip
      · simp [hversion]
      · simp [hpayload]
    rw [hexamines, RTPSession.receive, if_pos hskip]
    exact ⟨rfl, hs⟩
  · have hexamines : s.examines pkt = true := by
      simpa [RTPSession.examines, hs, not_or] using hskip
    rw [hexamines, RTPSession.receive, if_neg hskip]
    by_cases hrefused : (s.sourceLockProtection pkt source).1 = false
    · rw [if_pos ⟨hs, hrefused⟩]
      exact ⟨rfl, henabled⟩
    · rw [if_neg fun h => hrefused h.2]
      simp only [hs, if_true]
      have haccount := account_lock (s.sourceLockProtection pkt source).2 n pkt source
      exact ⟨haccount.1, haccount.2.trans henabled⟩

def RTPSession.Completes (s : RTPSession) (pkt : RTPPacket) : Prop :=
  s.examines pkt = true ∧ s.sourceLockAddr = none ∧ s.sourceLockPackets = 3 ∧
    s.sourceLockSeq + 1 = pkt.sequenceNumber

theorem lock_addr (s : RTPSession) : s.sourceLockAddr = s.lock.addr := rfl

theorem sourceLockProtection_learning (hnone : s.sourceLockAddr = none) (addr : UDPAddr) :
    (s.sourceLockProtection pkt (some addr)).2.lock =
      ⟨(s.countPacket pkt).sourceLockPackets, pkt.sequenceNumber,
        if (s.countPacket pkt).sourceLockPackets < 4 then none else some addr⟩ := by
  unfold RTPSession.sourceLockProtection
  simp only [hnone]
  split_ifs
  · simp [RTPSession.lock, RTPSession.countPacket, hnone]
  · rfl

theorem countPacket_full (hfew : s.sourceLockPackets < 4) :
    ¬ (s.countPacket pkt).sourceLockPackets < 4 ↔
      s.sourceLockPackets = 3 ∧ s.sourceLockSeq + 1 = pkt.sequenceNumber := by
  unfold RTPSession.countPacket
  simp only
  split_ifs with hbreak
  · constructor
    · intro h
      omega
    · rintro ⟨-, hseq⟩
      exact absurd hseq hbreak.2
  · constructor
    · intro h
      have hthree : s.sourceLockPackets = 3 := by omega
      refine ⟨hthree, ?_⟩
      by_contra hseq
      exact hbreak ⟨by omega, hseq⟩
    · rintro ⟨hthree, -⟩
      omega

/-- The address is learned only as the fourth packet in sequence comes. -/
theorem receive_locks_iff (hs : s.sourceLock = true) (hfew : s.sourceLockPackets < 4)
    (hnone : s.sourceLockAddr = none) (n : ℕ) (pkt : RTPPacket) (source : Option UDPAddr)
    (addr : UDPAddr) :
    (s.receive n pkt source).2.sourceLockAddr = some addr ↔
      source = some addr ∧ s.Completes pkt := by
  rw [lock_addr, (receive_lock hs n pkt source).1]
  unfold RTPSession.Completes
  by_cases hexamines : s.examines pkt = true
  · rw [if_pos hexamines]
    cases source with
    | none => simp [RTPSession.sourceLockProtection, RTPSession.lock, hnone]
    | some a =>
      rw [sourceLockProtection_learning hnone]
      simp only [hexamines, hnone, true_and, ← countPacket_full hfew]
      split_ifs <;> simp_all
  · rw [if_neg hexamines]
    simp [RTPSession.lock, hnone, hexamines]

theorem receive_locked (hs : s.sourceLock = true) {addr : UDPAddr}
    (haddr : s.sourceLockAddr = some addr) (n : ℕ) (pkt : RTPPacket) (source : Option UDPAddr) :
    (s.receive n pkt source).2.sourceLockAddr = some addr := by
  rw [lock_addr, (receive_lock hs n pkt source).1]
  split_ifs
  · cases source with
    | none => exact haddr
    | some a => simp [RTPSession.sourceLockProtection, haddr, RTPSession.lock]
  · exact haddr

/-! ### Along a run -/

theorem CountsDown.countPacket {l : List Examined}
    (h : CountsDown s.sourceLockSeq s.sourceLockPackets l) (source : Option UDPAddr) :
    CountsDown pkt.sequenceNumber (s.countPacket pkt).sourceLockPackets
      (⟨pkt.sequenceNumber, source⟩ :: l) := by
  unfold RTPSession.countPacket
  simp only
  split_ifs with hbreak
  · exact ⟨_, l, rfl, rfl, trivial⟩
  · refine ⟨_, l, rfl, rfl, ?_⟩
    obtain hzero | hpos := Nat.eq_zero_or_pos s.sourceLockPackets
    · rw [hzero]
      trivial
    · have hseq : s.sourceLockSeq + 1 = pkt.sequenceNumber := by
        by_contra hne
        exact hbreak ⟨hpos, hne⟩
      rwa [← hseq, UInt16.add_sub_cancel]

theorem Learning.received (hx : Learning x) (n : ℕ) (pkt : RTPPacket) (source : Option UDPAddr) :
    Learning (x.step (.received n pkt source)) := by
  have hlock := receive_lock hx.enabled n pkt source
  have hnone : (x.session.receive n pkt source).2.sourceLockAddr = none →
      x.session.sourceLockAddr = none := by
    intro h
    cases haddr : x.session.sourceLockAddr with
    | none => rfl
    | some addr =>
      rw [receive_locked hx.enabled haddr] at h
      cases h
  by_cases hexamines : x.session.examines pkt = true
  · rw [if_pos hexamines] at hlock
    cases source with
    | none =>
      -- a packet without an address is not counted
      have hsame : (x.session.receive n pkt none).2.lock = x.session.lock := hlock.1
      injection hsame with hpackets hseq _
      refine ⟨hlock.2, fun h => ?_, fun h => ?_⟩
      · rw [Watched.step, hpackets]
        exact hx.few (hnone h)
      · simp only [Watched.step, hpackets, hseq, if_pos hexamines]
        rw [List.filter_cons_of_neg (by simp)]
        exact hx.sequence (hnone h)
    | some addr =>
      refine ⟨hlock.2, fun h => ?_, fun h => ?_⟩
      · have hcount := hlock.1.trans (sourceLockProtection_learning (hnone h) addr)
        injection hcount with hpackets hseq haddr
        rw [Watched.step, hpackets]
        by_contra hfull
        rw [if_neg hfull] at haddr
        exact absurd (haddr.symm.trans h) (by simp)
      · have hcount := hlock.1.trans (sourceLockProtection_learning (hnone h) addr)
        injection hcount with hpackets hseq _
        simp only [Watched.step, hpackets, hseq, if_pos hexamines]
        rw [List.filter_cons_of_pos (by simp)]
        exact (hx.sequence (hnone h)).countPacket (some addr)
  · rw [if_neg hexamines] at hlock
    injection hlock.1 with hpackets hseq _
    refine ⟨hlock.2, fun h => ?_, fun h => ?_⟩
    · rw [Watched.step, hpackets]
      exact hx.few (hnone h)
    · simp only [Watched.step, hpackets, hseq, if_neg hexamines]
      exact hx.sequence (hnone h)

theorem fork_lock {s t : RTPSession} {sess : MediaSession} (h : s.fork sess = some t) :
    t.sourceLock = s.sourceLock ∧ (t.lock = s.lock ∨ t.lock = ⟨0, 0, none⟩) := by
  have hcarry (u : RTPSession) (hu : u.lock = ⟨0, 0, none⟩) (hlock : u.sourceLock = s.sourceLock) :
      (s.carrySourceLock u).sourceLock = s.sourceLock ∧
        ((s.carrySourceLock u).lock = s.lock ∨ (s.carrySourceLock u).lock = ⟨0, 0, none⟩) := by
    unfold RTPSession.carrySourceLock
    split_ifs
    · exact ⟨hlock, .inl rfl⟩
    · exact ⟨hlock, .inr hu⟩
  unfold RTPSession.fork at h
  split at h
  · simp only at h
    split_ifs at h <;> cases h <;> exact hcarry _ rfl rfl
  · cases h

theorem Learning.step (hx : Learning x) (e : WatchedEvent) : Learning (x.step e) := by
  cases e with
  | received n pkt source => exact hx.received n pkt source
  | fork sess =>
    unfold Watched.step
    simp only
    cases hfork : x.session.fork sess with
    | none => exact hx
    | some t =>
      obtain ⟨henabled, hsame | hnew⟩ := fork_lock hfork
      · injection hsame with hpackets hseq haddr
        refine ⟨henabled.trans hx.enabled, fun h => ?_, fun h => ?_⟩
        · rw [hpackets]
          exact hx.few (haddr.symm.trans h)
        · rw [hpackets, hseq]
          exact hx.sequence (haddr.symm.trans h)
      · injection hnew with hpackets _ _
        refine ⟨henabled.trans hx.enabled, fun _ => ?_, fun _ => ?_⟩
        · rw [hpackets]
          norm_num
        · rw [hpackets]
          trivial

theorem watched_learning (sess : MediaSession) (events : List WatchedEvent) :
    Learning (watched sess events) := by
  refine runFrom_invariant Learning (fun _ e h => h.step e) ?_ events
  exact ⟨rfl, fun _ => Nat.zero_lt_succ 3, fun _ => trivial⟩

theorem account_returned {m : ℕ} {q : RTPPacket} {src : Option UDPAddr}
    (h : (s.account m q src).1 = .returned n pkt source) :
    pkt = q ∧ source = src ∧ (n = m ∨ n = 0) := by
  unfold RTPSession.account at h
  split_ifs at h
  · split at h
    · cases h
      exact ⟨rfl, rfl, .inr rfl⟩
    · cases h
      exact ⟨rfl, rfl, .inl rfl⟩
  · cases h
    exact ⟨rfl, rfl, .inl rfl⟩

theorem receive_returned {m : ℕ} {q : RTPPacket} {src : Option UDPAddr}
    (h : (s.receive m q src).1 = some (.returned n pkt source)) :
    (q.version ≠ 0 ∧ q.payload ≠ []) ∧ pkt = q ∧ source = src ∧ (n = m ∨ n = 0) := by
  unfold RTPSession.receive at h
  split_ifs at h with hskip
  · exact ⟨not_or.mp hskip, account_returned (Option.some.inj h)⟩
  · exact ⟨not_or.mp hskip, account_returned (Option.some.inj h)⟩

theorem receive_source (hs : s.sourceLock = true) {addr : UDPAddr}
    (haddr : s.sourceLockAddr = some addr) {m : ℕ} {q : RTPPacket} {src : Option UDPAddr}
    (h : (s.receive m q src).1 = some (.returned n pkt source)) : source = some addr := by
  rw [(receive_returned h).2.2.1]
  unfold RTPSession.receive at h
  split_ifs at h with hskip hrefused
  by_contra hother
  refine hrefused ⟨hs, ?_⟩
  cases src with
  | none => rfl
  | some a =>
    have hne : addr ≠ a := fun heq => hother (by rw [heq])
    simp [RTPSession.sourceLockProtection, haddr, hne]

theorem readRTP_locked (hs : s.sourceLock = true) {addr : UDPAddr}
    (haddr : s.sourceLockAddr = some addr) {received : List Received} {t : RTPSession}
    (h : s.readRTP received = some (.returned n pkt source, t)) :
    source = some addr ∧ t.sourceLockAddr = some addr := by
  induction received generalizing s with
  | nil => cases h
  | cons r rest ih =>
    cases r with
    | failure => cases h
    | packet m q src =>
      have hlock := receive_lock hs m q src
      have hkept := receive_locked hs haddr m q src
      rw [RTPSession.readRTP] at h
      cases hout : s.receive m q src with
      | mk out u =>
        rw [hout] at h hlock hkept
        cases out with
        | none => exact ih hlock.2 hkept h
        | some out =>
          cases h
          exact ⟨receive_source hs haddr (by rw [hout]), hkept⟩

/-- The last four packets examined came from one address, with numbers that follow each other. -/
def LastFour (addr : UDPAddr) (examined : List Examined) : Prop :=
  ∃ seq rest, examined =
    ⟨seq + 3, some addr⟩ :: ⟨seq + 2, some addr⟩ :: ⟨seq + 1, some addr⟩ :: ⟨seq, some addr⟩ :: rest

theorem CountsDown.three {seq : UInt16} {addr : UDPAddr} {l : List Examined}
    (h : CountsDown seq 3 (l.filter (·.source.isSome)))
    (hsources : (l.take 3).map (·.source) = [some addr, some addr, some addr]) :
    ∃ rest, l = ⟨seq, some addr⟩ :: ⟨seq - 1, some addr⟩ :: ⟨seq - 1 - 1, some addr⟩ :: rest := by
  match l with
  | [] | [_] | [_, _] => simp at hsources
  | e₁ :: e₂ :: e₃ :: rest =>
    obtain ⟨s₁, a₁⟩ := e₁
    obtain ⟨s₂, a₂⟩ := e₂
    obtain ⟨s₃, a₃⟩ := e₃
    simp only [List.take_succ_cons, List.take_zero, List.map_cons, List.map_nil, List.cons.injEq,
      and_true] at hsources
    obtain ⟨rfl, rfl, rfl⟩ := hsources
    simp only [Option.isSome_some, List.filter_cons_of_pos] at h
    obtain ⟨_, _, heq₁, rfl, _, _, heq₂, hseq₂, _, _, heq₃, hseq₃, -⟩ := h
    cases heq₁
    cases heq₂
    cases heq₃
    simp only at hseq₂ hseq₃
    exact ⟨rest, by rw [hseq₂, hseq₃]⟩

/-- The RTP source lock locks onto one source: as the address is learned, the last four packets
examined came from it in sequence, and from then on only packets from it are returned; exactly when
the packet that makes up the count comes from the address of the three packets examined before. -/
theorem source_lock_iff (sess : MediaSession) (events : List WatchedEvent) (n : ℕ)
    (pkt : RTPPacket) (source : Option UDPAddr) :
    let x := watched sess events
    ((∀ addr, x.session.sourceLockAddr = none →
        (x.step (.received n pkt source)).session.sourceLockAddr = some addr →
        LastFour addr (x.step (.received n pkt source)).examined) ∧
      ∀ addr, x.session.sourceLockAddr = some addr → ∀ received m q src t,
        x.session.readRTP received = some (.returned m q src, t) →
        src = some addr ∧ t.sourceLockAddr = some addr) ↔
      ∀ addr, source = some addr → x.session.Completes pkt →
        (x.examined.take 3).map (·.source) = [some addr, some addr, some addr] := by
  intro x
  have hx : Learning x := watched_learning sess events
  have hlocks (addr : UDPAddr) (hnone : x.session.sourceLockAddr = none) :=
    receive_locks_iff hx.enabled (hx.few hnone) hnone n pkt source addr
  constructor
  · rintro ⟨hfour, -⟩ addr hsource hcompletes
    obtain ⟨seq, rest, heq⟩ := hfour addr hcompletes.2.1
      ((hlocks addr hcompletes.2.1).mpr ⟨hsource, hcompletes⟩)
    simp only [Watched.step, if_pos hcompletes.1, List.cons.injEq] at heq
    rw [heq.2]
    rfl
  · intro hone
    refine ⟨fun addr hnone hlock => ?_, fun addr haddr received m q src t h =>
      readRTP_locked hx.enabled haddr h⟩
    obtain ⟨hsource, hcompletes⟩ := (hlocks addr hnone).mp hlock
    have hcounted := hx.sequence hnone
    rw [hcompletes.2.2.1] at hcounted
    obtain ⟨rest, hexamined⟩ := hcounted.three (hone addr hsource hcompletes)
    refine ⟨x.session.sourceLockSeq - 1 - 1, rest, ?_⟩
    have hback (seq : UInt16) :
        seq - 1 - 1 + 3 = seq + 1 ∧ seq - 1 - 1 + 2 = seq ∧ seq - 1 - 1 + 1 = seq - 1 := by grind
    simp only [Watched.step, if_pos hcompletes.1, hexamined, hsource, ← hcompletes.2.2.2, hback]

section Sample

/-- Four packets in sequence, the first three from one address and the last from another. -/
def hijacked : List WatchedEvent :=
  [1, 2, 3].map fun seq => .received 13
    { sequenceNumber := seq, payload := [0] } (some { ip := some (.v4 10 0 0 2), port := 4002 })

/-- The source is locked to an address that sent the last packet only. -/
theorem locked_to_last_packet :
    let x := watched { codecs := [codecAudioUlaw] } hijacked
    let other : UDPAddr := { ip := some (.v4 10 0 0 9), port := 9 }
    let y := x.step (.received 13 { sequenceNumber := 4, payload := [0] } (some other))
    x.session.sourceLockAddr = none ∧ y.session.sourceLockAddr = some other ∧
      (y.examined.map (·.source)).count (some other) = 1 := by
  decide +kernel

end Sample

end Diago.Rtp
