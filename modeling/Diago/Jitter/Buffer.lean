import Diago.Lib.Bytes
import Diago.Lib.Seq16
import Mathlib.Data.List.ReduceOption

/-! # The RTP jitter buffer

A read loop takes a free slot, reads a packet into it and files it under its sequence
number modulo the size of the window.
-/
namespace Diago.Jitter
open Lib

structure Packet where
  ssrc : UInt32
  seq : UInt16
  timestamp : UInt32
  payloadType : UInt8
  marker : Bool
  deriving DecidableEq, Repr

structure Slot where
  raw : Bytes
  packet : Packet
  deriving DecidableEq, Repr

abbrev Slot.seq (s : Slot) : UInt16 := s.packet.seq
abbrev Slot.ssrc (s : Slot) : UInt32 := s.packet.ssrc

def Slot.empty : Slot := ⟨[], ⟨0, 0, 0, 0, false⟩⟩

structure Options where
  delayPackets : ℤ := 0
  maxPackets : ℤ := 0
  clockRate : UInt32 := 0

/-- The counters, which wrap at 2 ^ 64 in the source: an equation of them is one modulo 2 ^ 64
there. -/
structure Stats where
  packetsRead : ℕ := 0
  packetsReleased : ℕ := 0
  packetsLost : ℕ := 0
  packetsLate : ℕ := 0
  packetsDuplicate : ℕ := 0
  packetsDropped : ℕ := 0
  ssrcResets : ℕ := 0
  underruns : ℕ := 0
  lastSequenceNumber : UInt16 := 0
  deriving DecidableEq, Repr

namespace Stats

def read (s : Stats) : Stats := { s with packetsRead := s.packetsRead + 1 }
def lost (s : Stats) : Stats := { s with packetsLost := s.packetsLost + 1 }
def late (s : Stats) : Stats := { s with packetsLate := s.packetsLate + 1 }
def duplicate (s : Stats) : Stats := { s with packetsDuplicate := s.packetsDuplicate + 1 }
def dropped (s : Stats) : Stats := { s with packetsDropped := s.packetsDropped + 1 }
def ssrcReset (s : Stats) : Stats := { s with ssrcResets := s.ssrcResets + 1 }
def underrun (s : Stats) : Stats := { s with underruns := s.underruns + 1 }
def released (seq : UInt16) (s : Stats) : Stats :=
  { s with packetsReleased := s.packetsReleased + 1, lastSequenceNumber := seq }

end Stats

/-- The newest packet that arrived, which the next one is compared with. -/
structure StepRef where
  seq : UInt16
  timestamp : UInt32
  payloadType : UInt8
  deriving DecidableEq, Repr

structure JitterBuffer where
  /-- In nanoseconds, as all times. -/
  packetDuration : ℤ
  clockRate : UInt32
  delayPackets : ℕ
  maxPackets : ℕ
  slots : ℕ → Slot
  freeSlots : List ℕ
  sequence : List (Option ℕ)
  queued : ℤ := 0
  ssrc : UInt32 := 0
  ssrcSet : Bool := false
  expectedSeq : UInt16 := 0
  startAt : Option ℤ := none
  releaseAt : ℤ := 0
  playout : Bool := false
  resync : Bool := false
  upstreamEnded : Bool := false
  readErr : Option ℕ := none
  step : Option StepRef := none
  pendingStep : UInt32 := 0
  stats : Stats := {}

def defaultRTPJitterBufferDelayPackets : ℤ := 20
def defaultRTPJitterBufferMaxPackets : ℤ := 40
def maxLearnedRTPPacketDuration : ℤ := 200000000

/-- The options with their defaults, the window at least as long as the delay. -/
def Options.normalized (opts : Options) : Options :=
  let delay :=
    if opts.delayPackets ≤ 0 then defaultRTPJitterBufferDelayPackets else opts.delayPackets
  let max := if opts.maxPackets ≤ 0 then defaultRTPJitterBufferMaxPackets else opts.maxPackets
  let max := if max < delay then delay else max
  { opts with delayPackets := if max < delay then max else delay, maxPackets := max }

def newRTPJitterBuffer (packetDuration : ℤ) (opts : Options) : Option JitterBuffer :=
  if packetDuration ≤ 0 then none else
  let max := opts.normalized.maxPackets.toNat
  some
    { packetDuration := packetDuration
      clockRate := opts.clockRate
      delayPackets := opts.normalized.delayPackets.toNat
      maxPackets := max
      slots := fun _ => .empty
      freeSlots := (List.range (max + 1)).reverse
      sequence := List.replicate max none }

namespace JitterBuffer

def position (j : JitterBuffer) (seq : UInt16) : ℕ := seq.toNat % j.maxPackets

def slotAt (j : JitterBuffer) (seq : UInt16) : Option ℕ := j.sequence.getD (j.position seq) none

/-- How far a sequence number is ahead of the next one to play. -/
def distance (j : JitterBuffer) (seq : UInt16) : ℤ := int16 (seq - j.expectedSeq)

def count (j : JitterBuffer) (f : Stats → Stats) : JitterBuffer := { j with stats := f j.stats }

def freeSlot (j : JitterBuffer) (i : ℕ) : JitterBuffer := { j with freeSlots := i :: j.freeSlots }

/-- The slot at the position of a sequence number is no longer queued. -/
def vacate (j : JitterBuffer) (seq : UInt16) : JitterBuffer :=
  { j with sequence := j.sequence.set (j.position seq) none, queued := j.queued - 1 }

/-- The slot is queued at the position of a sequence number. -/
def occupy (j : JitterBuffer) (seq : UInt16) (i : ℕ) : JitterBuffer :=
  { j with sequence := j.sequence.set (j.position seq) (some i), queued := j.queued + 1 }

/-- The slot the read loop reads into next; none where taking it panics. -/
def takeSlot (j : JitterBuffer) : Option (ℕ × JitterBuffer) :=
  match j.freeSlots with
  | [] => none
  | i :: rest => some (i, { j with freeSlots := rest })

def fill (j : JitterBuffer) (i : ℕ) (slot : Slot) : JitterBuffer :=
  { j with slots := Function.update j.slots i slot }

def clearSequence (j : JitterBuffer) : JitterBuffer :=
  { j.sequence.reduceOption.foldl freeSlot j with
    sequence := j.sequence.map fun _ => none
    queued := 0 }

def delayFrom (j : JitterBuffer) (now : ℤ) : ℤ := now + j.delayPackets * j.packetDuration

def resetStream (now : ℤ) (ssrc : UInt32) (seq : UInt16) (j : JitterBuffer) : JitterBuffer :=
  { j.clearSequence with
    ssrc := ssrc
    ssrcSet := true
    expectedSeq := seq
    playout := false
    resync := false
    step := none
    pendingStep := 0
    startAt := some (j.delayFrom now) }

/-- Drops the packet of this sequence number if it is queued. -/
def dropStale (j : JitterBuffer) (seq : UInt16) : JitterBuffer :=
  match j.slotAt seq with
  | some i =>
    if (j.slots i).seq = seq then ((j.count .dropped).vacate seq).freeSlot i else j
  | none => j

/-- The loop over the sequence numbers the window leaves behind. -/
def dropStaleFrom (j : JitterBuffer) (n : ℕ) : JitterBuffer :=
  (List.range n).foldl (fun k i => k.dropStale (j.expectedSeq + UInt16.ofNat i)) j

def dropBefore (next : UInt16) (j : JitterBuffer) : JitterBuffer :=
  { j.dropStaleFrom (min (j.distance next).toNat j.maxPackets) with expectedSeq := next }

def canMoveExpectedBack (j : JitterBuffer) (seq : UInt16) : Bool :=
  j.sequence.reduceOption.all fun i =>
    0 ≤ int16 ((j.slots i).seq - seq) && int16 ((j.slots i).seq - seq) < j.maxPackets

/-- Two consecutive packets of one payload type step their timestamps by the duration of a packet.
A step becomes the packet duration once it is repeated. -/
def learnPacketDuration (pkt : Packet) (j : JitterBuffer) : JitterBuffer :=
  if j.clockRate = 0 then j else
  let learned : JitterBuffer :=
    match j.step with
    | some ref =>
      if pkt.seq = ref.seq + 1 ∧ pkt.payloadType = ref.payloadType ∧ pkt.marker = false then
        let step := pkt.timestamp - ref.timestamp
        let d : ℤ := step.toNat * 1000000000 / j.clockRate.toNat
        { j with
          packetDuration :=
            if 0 < step ∧ step = j.pendingStep ∧ d ≤ maxLearnedRTPPacketDuration then d
            else j.packetDuration
          pendingStep := step }
      else j
    | none => j
  if j.step.all fun ref => 0 < int16 (pkt.seq - ref.seq) then
    { learned with step := some ⟨pkt.seq, pkt.timestamp, pkt.payloadType⟩ }
  else learned

def followSource (now : ℤ) (pkt : Packet) (j : JitterBuffer) : JitterBuffer :=
  if j.ssrcSet = false ∨ j.ssrc ≠ pkt.ssrc then
    let j := if j.ssrcSet then j.count .ssrcReset else j
    j.resetStream now pkt.ssrc pkt.seq
  else j

/-- Stopped with nothing queued, a packet a window or more away starts the stream again. -/
def outsideWindow (j : JitterBuffer) (seq : UInt16) : Bool :=
  j.resync && j.queued = 0 && (j.maxPackets ≤ j.distance seq || j.maxPackets ≤ -j.distance seq)

def restartOutside (now : ℤ) (pkt : Packet) (j : JitterBuffer) : JitterBuffer :=
  if j.outsideWindow pkt.seq then j.resetStream now pkt.ssrc pkt.seq else j

/-- Moves the window on to end at a packet that does not fit it. -/
def makeRoom (seq : UInt16) (j : JitterBuffer) : JitterBuffer :=
  if j.maxPackets ≤ j.distance seq then
    j.dropBefore (seq - UInt16.ofNat (j.delayPackets - 1))
  else j

/-- With the first packet queued after a stop, the stream buffers as at its start. -/
def resume (now : ℤ) (j : JitterBuffer) : JitterBuffer :=
  if j.resync ∧ j.queued = 1 then { j with startAt := some (j.delayFrom now) } else j

/-- Queues the slot at its position unless that is taken. -/
def enqueue (now : ℤ) (i : ℕ) (j : JitterBuffer) : JitterBuffer :=
  match j.slotAt (j.slots i).seq with
  | some existing =>
    if (j.slots existing).seq = (j.slots i).seq then (j.count .duplicate).freeSlot i
    else (j.count .dropped).freeSlot i
  | none => (j.occupy (j.slots i).seq i).resume now

def moveBackTo (j : JitterBuffer) (seq : UInt16) : JitterBuffer := { j with expectedSeq := seq }

/-- Files the slot once the stream it belongs to is settled. -/
def fileSlot (now : ℤ) (i : ℕ) (j : JitterBuffer) : JitterBuffer :=
  if j.distance (j.slots i).seq < 0 then
    if j.playout ∨ j.resync then (j.count .late).freeSlot i
    else if j.canMoveExpectedBack (j.slots i).seq then
      ((j.moveBackTo (j.slots i).seq).makeRoom (j.slots i).seq).enqueue now i
    else (j.count .dropped).freeSlot i
  else (j.makeRoom (j.slots i).seq).enqueue now i

def handleSlot (now : ℤ) (i : ℕ) (j : JitterBuffer) : JitterBuffer :=
  let pkt := (j.slots i).packet
  ((((j.count .read).followSource now pkt).restartOutside now pkt).learnPacketDuration pkt).fileSlot
    now i

def advance (j : JitterBuffer) : JitterBuffer := { j with expectedSeq := j.expectedSeq + 1 }

/-- The loop over the sequence numbers lost before the first packet queued. It goes round all
sequence numbers without end if nothing stops it in one round. -/
def skipLost : ℕ → JitterBuffer → JitterBuffer
  | 0, j => j
  | fuel + 1, j =>
    if j.resync ∧ 0 < j.queued ∧ j.slotAt j.expectedSeq = none then
      skipLost fuel (j.count .lost).advance
    else j

def startPlayout (now : ℤ) (j : JitterBuffer) : JitterBuffer :=
  { skipLost 65536 { j with startAt := none } with
    resync := false
    playout := true
    releaseAt := now }

def stopPlayout (j : JitterBuffer) : JitterBuffer :=
  { j.count .underrun with playout := false, resync := true }

def startsPlayout (now : ℤ) (j : JitterBuffer) : Bool :=
  !j.playout && (j.startAt.any (· ≤ now) || j.delayPackets ≤ j.queued)

end JitterBuffer

inductive Decision
  | released (pkt : Packet) (raw : Bytes)
  | malformed
  | shortBuffer
  | skipped
  | ended (err : Option ℕ)
  | waiting
  deriving DecidableEq

namespace JitterBuffer

/-- The next decision is a packet duration after this one was due. -/
def schedule (j : JitterBuffer) : JitterBuffer :=
  { j with releaseAt := j.releaseAt + j.packetDuration }

def release (i : ℕ) (j : JitterBuffer) : JitterBuffer :=
  ((j.vacate j.expectedSeq).freeSlot i).advance.schedule

def skip (j : JitterBuffer) : JitterBuffer := (j.count .lost).advance.schedule

/-- The end of the stream once everything queued is played, or the wait for the next decision. -/
def idle (j : JitterBuffer) : Decision :=
  if j.upstreamEnded ∧ j.queued = 0 then .ended j.readErr else .waiting

/-- The packet that is due, if it is the one queued at its position. -/
def dueSlot (j : JitterBuffer) : Option ℕ :=
  (j.slotAt j.expectedSeq).filter fun i => (j.slots i).seq = j.expectedSeq

def playDue (unmarshal : Bytes → Option Packet) (bufLen : ℕ) (j : JitterBuffer) :
    Decision × JitterBuffer :=
  match j.dueSlot with
  | some i =>
    let raw := (j.slots i).raw
    if bufLen < raw.length then (.shortBuffer, j)
    else
      match unmarshal raw with
      | none => (.malformed, j.release i)
      | some pkt =>
        (.released pkt raw, (j.release i).count (.released pkt.seq))
  | none => if j.queued = 0 then (j.stopPlayout.idle, j.stopPlayout) else (.skipped, j.skip)

def readRTP (unmarshal : Bytes → Option Packet) (now : ℤ) (bufLen : ℕ) (j : JitterBuffer) :
    Decision × JitterBuffer :=
  let j := if j.startsPlayout now then j.startPlayout now else j
  if j.playout ∧ j.releaseAt ≤ now then j.playDue unmarshal bufLen else (j.idle, j)

def updateRTPSession (sampleDur : ℤ) (sampleRate : UInt32) (j : JitterBuffer) : JitterBuffer :=
  { j with
    packetDuration := if 0 < sampleDur then sampleDur else j.packetDuration
    clockRate := if j.clockRate ≠ 0 ∧ sampleRate ≠ 0 then sampleRate else j.clockRate
    step := none
    pendingStep := 0 }

end JitterBuffer

structure System where
  buffer : JitterBuffer
  reading : Option ℕ := none

/-- The critical sections of the read loop, of ReadRTP and of UpdateRTPSession. -/
inductive Event
  | take
  | upstreamError (err : ℕ)
  | keepAlive
  | packet (now : ℤ) (slot : Slot)
  | readRTP (now : ℤ) (bufLen : ℕ)
  | update (sampleDur : ℤ) (sampleRate : UInt32)

/-- One critical section. What the read loop cannot do in its state changes nothing: it takes a
slot only without one, and ends with the error of its reader. -/
def stepSystem (unmarshal : Bytes → Option Packet) (x : System) : Event → System
  | .take =>
    if x.reading = none ∧ x.buffer.upstreamEnded = false then
      x.buffer.takeSlot.elim x fun (i, j) => ⟨j, some i⟩
    else x
  | .upstreamError err =>
    match x.reading with
    | some i => ⟨{ x.buffer.freeSlot i with readErr := some err, upstreamEnded := true }, none⟩
    | none => x
  | .keepAlive =>
    match x.reading with
    | some i => ⟨x.buffer.freeSlot i, none⟩
    | none => x
  | .packet now slot =>
    match x.reading with
    | some i => ⟨(x.buffer.fill i slot).handleSlot now i, none⟩
    | none => x
  | .readRTP now bufLen => { x with buffer := (x.buffer.readRTP unmarshal now bufLen).2 }
  | .update sampleDur sampleRate =>
    { x with buffer := x.buffer.updateRTPSession sampleDur sampleRate }

end Diago.Jitter
