import Diago.Lib.Run
import Diago.Media.Frames
import Diago.Rtp.PacketWriter
import Mathlib.Data.UInt

/-! # The stream of a packet writer

The packets of a writer form one stream through every call of it: writes and other
samples, timestamps that are reset or delayed, and a change of the session under it.
-/
namespace Diago.Rtp
open Lib Media

/-! ### The calls of a writer -/

/-- The packet writer with the time of its last sample, none before the first. -/
structure PacketStream extends RTPPacketWriter where
  lastSampleTime : Option ℤ := none

/-- With the source and the sequence number it draws. Panics for a codec without a duration. -/
def newRTPPacketWriter (count : SampleCount) (ssrc : UInt32) (seq : UInt16) (codec : Codec) :
    Option PacketStream :=
  if 0 < codec.sampleDur then
    some
      { ssrc, codec
        sampleRateTimestamp := codec.sampleTimestamp count
        seqWriter := .initSeq seq }
  else none

structure Handed where
  pkt : RTPPacket
  step : UInt32
  byWrite : Bool
  failed : Bool

/-- What a call does to the stream: it hands over a packet, or adds to the timestamp. -/
inductive Entry
  | handed (h : Handed)
  | reset (offset : UInt32)
  | delayed (offset : UInt32)

inductive WriterCall
  | write (b : Bytes) (sampleTime : ℤ) (fails : Bool)
  | writeSamples (payload : Bytes) (sampleRateTimestamp : UInt32) (marker : Bool)
      (payloadType : UInt8) (fails : Bool)
  | resetTimestamp (now : ℤ)
  | delayTimestamp (offset : UInt32)
  | updateRTPSession (sess : MediaSession)

namespace PacketStream

/-- The error of the RTP writer is returned and changes nothing. -/
def writeSamples (p : PacketStream) (payload : Bytes) (sampleRateTimestamp : UInt32)
    (marker : Bool) (payloadType : UInt8) (byWrite fails : Bool) : PacketStream × List Entry :=
  let (pkt, w) := p.toRTPPacketWriter.writeSamples payload sampleRateTimestamp marker payloadType
  ({ p with toRTPPacketWriter := w }, [.handed ⟨pkt, sampleRateTimestamp, byWrite, fails⟩])

def write (p : PacketStream) (b : Bytes) (sampleTime : ℤ) (fails : Bool) :
    PacketStream × List Entry :=
  let (q, entries) := p.writeSamples b p.sampleRateTimestamp (p.nextTimestamp = p.initTimestamp)
    p.codec.payloadType true fails
  ({ q with lastSampleTime := some sampleTime }, entries)

def resetTimestamp (count : SampleCount) (p : PacketStream) (now : ℤ) :
    PacketStream × List Entry :=
  match p.lastSampleTime with
  | none => (p, [])
  | some last =>
    let offset := timestampOf (count (now - last) p.codec.sampleRate)
    ({ p with
        nextTimestamp := p.nextTimestamp + offset
        initTimestamp := p.nextTimestamp + offset },
      [.reset offset])

def delayTimestamp (p : PacketStream) (offset : UInt32) : PacketStream × List Entry :=
  ({ p with nextTimestamp := p.nextTimestamp + offset }, [.delayed offset])

/-- A session without codecs panics before anything is changed. -/
def updateRTPSession (count : SampleCount) (p : PacketStream) (sess : MediaSession) :
    PacketStream :=
  match codecAudioFromSession sess with
  | none => p
  | some codec => { p with codec, sampleRateTimestamp := codec.sampleTimestamp count }

def call (count : SampleCount) (p : PacketStream) : WriterCall → PacketStream × List Entry
  | .write b sampleTime fails => p.write b sampleTime fails
  | .writeSamples payload step marker payloadType fails =>
    p.writeSamples payload step marker payloadType false fails
  | .resetTimestamp now => p.resetTimestamp count now
  | .delayTimestamp offset => p.delayTimestamp offset
  | .updateRTPSession sess => (p.updateRTPSession count sess, [])

end PacketStream

structure WriterRun where
  stream : PacketStream
  log : List Entry := []

def WriterRun.step (count : SampleCount) (s : WriterRun) (c : WriterCall) : WriterRun :=
  ⟨(s.stream.call count c).1, s.log ++ (s.stream.call count c).2⟩

/-! ### What the calls say -/

def Entry.isHanded : Entry → Bool
  | .handed _ => true
  | .reset _ | .delayed _ => false

def Entry.offset : Entry → UInt32
  | .handed _ => 0
  | .reset offset | .delayed offset => offset

/-- All packets have one source, and consecutive ones follow each other. -/
structure Continuous (ssrc : UInt32) (log : List Entry) : Prop where
  ssrc : ∀ h, .handed h ∈ log → h.pkt.ssrc = ssrc
  consecutive : ∀ before prev mid next after,
    log = before ++ .handed prev :: (mid ++ .handed next :: after) →
    (∀ e ∈ mid, e.isHanded = false) →
    next.pkt.sequenceNumber = prev.pkt.sequenceNumber + 1 ∧
      next.pkt.timestamp = prev.pkt.timestamp + prev.step + (mid.map Entry.offset).sum

/-- Write has written nothing since construction or the last reset that moved the timestamp. -/
def fresh (log : List Entry) : Bool :=
  log.foldl (fun unwritten e =>
    match e with
    | .handed h => if h.byWrite = true then false else unwritten
    | .reset offset => if offset ≠ 0 then true else unwritten
    | .delayed _ => unwritten) true

/-- How far the timestamp went since construction or the last reset that found a sample. -/
def advance (log : List Entry) : UInt32 :=
  log.foldl (fun gone e =>
    match e with
    | .handed h => gone + h.step
    | .reset _ => 0
    | .delayed offset => gone + offset) 0

def AtWrites (P : List Entry → Handed → Prop) (log : List Entry) : Prop :=
  EachAfter (fun earlier e => ∀ h, e = .handed h → h.byWrite = true → P earlier h) log

/-- Write sets the marker on the first packet it writes, and on no other. -/
def MarkersRight (log : List Entry) : Prop :=
  AtWrites (fun earlier h => h.pkt.marker = true ↔ fresh earlier = true) log

/-- The timestamp is where the stream began exactly when nothing was written since. -/
def ReturnsOnlyFresh (log : List Entry) : Prop :=
  AtWrites (fun earlier _ => advance earlier = 0 ↔ fresh earlier = true) log

@[simp] theorem advance_concat_handed (log : List Entry) (h : Handed) :
    advance (log ++ [.handed h]) = advance log + h.step := by simp [advance]

@[simp] theorem advance_concat_reset (log : List Entry) (offset : UInt32) :
    advance (log ++ [.reset offset]) = 0 := by simp [advance]

@[simp] theorem advance_concat_delayed (log : List Entry) (offset : UInt32) :
    advance (log ++ [.delayed offset]) = advance log + offset := by simp [advance]

/-! ### The writer keeps up with its calls -/

/-- The last packet's number and the timestamp due after it. -/
structure Cursor where
  seq : UInt16
  next : UInt32

def Cursor.after (c : Option Cursor) : Entry → Option Cursor
  | .handed h => some ⟨h.pkt.sequenceNumber, h.pkt.timestamp + h.step⟩
  | .reset offset | .delayed offset => c.map fun c => { c with next := c.next + offset }

def cursor (log : List Entry) : Option Cursor := log.foldl Cursor.after none

theorem cursor_concat (log : List Entry) (e : Entry) :
    cursor (log ++ [e]) = Cursor.after (cursor log) e := by simp [cursor]

theorem after_of_not_handed (c : Option Cursor) {e : Entry} (h : e.isHanded = false) :
    Cursor.after c e = c.map fun c => { c with next := c.next + e.offset } := by
  cases e with
  | handed _ => exact absurd h (by simp [Entry.isHanded])
  | reset _ => rfl
  | delayed _ => rfl

theorem foldl_after {mid : List Entry} (hmid : ∀ e ∈ mid, e.isHanded = false) (c : Cursor) :
    mid.foldl Cursor.after (some c) = some ⟨c.seq, c.next + (mid.map Entry.offset).sum⟩ := by
  induction mid generalizing c with
  | nil => simp
  | cons e mid ih =>
    rw [List.forall_mem_cons] at hmid
    rw [List.foldl_cons, after_of_not_handed _ hmid.1, Option.map_some, ih hmid.2, List.map_cons,
      List.sum_cons, ← UInt32.add_assoc]

theorem cursor_after_packet (before : List Entry) (prev : Handed) {mid : List Entry}
    (hmid : ∀ e ∈ mid, e.isHanded = false) :
    cursor (before ++ .handed prev :: mid) = some ⟨prev.pkt.sequenceNumber,
      prev.pkt.timestamp + prev.step + (mid.map Entry.offset).sum⟩ := by
  rw [cursor, List.foldl_append, List.foldl_cons]
  exact foldl_after hmid _

structure Handed.InPlace (ssrc : UInt32) (earlier : List Entry) (h : Handed) : Prop where
  ssrc : h.pkt.ssrc = ssrc
  follows : ∀ c, cursor earlier = some c →
    h.pkt.sequenceNumber = c.seq + 1 ∧ h.pkt.timestamp = c.next
  marker : h.byWrite = true → (h.pkt.marker = true ↔ advance earlier = 0)

structure WriterRun.Kept (ssrc : UInt32) (s : WriterRun) : Prop where
  source : s.stream.ssrc = ssrc
  follows : ∀ c, cursor s.log = some c →
    s.stream.seqWriter.seqNum = c.seq ∧ s.stream.nextTimestamp = c.next
  advanced : s.stream.nextTimestamp = s.stream.initTimestamp + advance s.log
  packets : EachAfter (fun earlier e => ∀ h, e = .handed h → h.InPlace ssrc earlier) s.log

namespace WriterRun.Kept

variable {ssrc : UInt32} {s : WriterRun}

theorem marker_iff (h : s.Kept ssrc) :
    s.stream.nextTimestamp = s.stream.initTimestamp ↔ advance s.log = 0 := by
  rw [h.advanced]
  constructor
  · intro heq
    rw [UInt32.add_comm] at heq
    have hback := congrArg (· - s.stream.initTimestamp) heq
    simpa [UInt32.add_sub_cancel] using hback
  · intro hzero
    rw [hzero, UInt32.add_zero]

theorem congr (h : s.Kept ssrc) {t : WriterRun} (hlog : t.log = s.log)
    (hssrc : t.stream.ssrc = s.stream.ssrc) (hseq : t.stream.seqWriter = s.stream.seqWriter)
    (hnext : t.stream.nextTimestamp = s.stream.nextTimestamp)
    (hinit : t.stream.initTimestamp = s.stream.initTimestamp) : t.Kept ssrc := by
  refine ⟨hssrc.trans h.source, ?_, ?_, ?_⟩
  · rw [hlog, hseq, hnext]
    exact h.follows
  · rw [hlog, hnext, hinit]
    exact h.advanced
  · rw [hlog]
    exact h.packets

theorem writeSamples (h : s.Kept ssrc) (payload : Bytes) (step : UInt32) (marker : Bool)
    (payloadType : UInt8) (byWrite fails : Bool)
    (hmarker : byWrite = true → (marker = true ↔ advance s.log = 0)) :
    WriterRun.Kept ssrc
      ⟨(s.stream.writeSamples payload step marker payloadType byWrite fails).1,
        s.log ++ (s.stream.writeSamples payload step marker payloadType byWrite fails).2⟩ := by
  refine ⟨h.source, ?_, ?_, h.packets.concat ?_⟩
  · intro c hc
    rw [PacketStream.writeSamples, cursor_concat] at hc
    cases hc
    exact ⟨rfl, rfl⟩
  · simp only [PacketStream.writeSamples, RTPPacketWriter.writeSamples, advance_concat_handed]
    rw [h.advanced, UInt32.add_assoc]
  · intro handed heq
    cases heq
    refine ⟨h.source, fun c hc => ?_, hmarker⟩
    obtain ⟨hseq, hnext⟩ := h.follows c hc
    exact ⟨congrArg (· + 1) hseq, hnext⟩

theorem moved (h : s.Kept ssrc) {p : PacketStream} {e : Entry} {offset : UInt32}
    (he : e = .reset offset ∧ p.initTimestamp = s.stream.nextTimestamp + offset ∨
      e = .delayed offset ∧ p.initTimestamp = s.stream.initTimestamp)
    (hssrc : p.ssrc = s.stream.ssrc) (hseq : p.seqWriter = s.stream.seqWriter)
    (hnext : p.nextTimestamp = s.stream.nextTimestamp + offset) :
    WriterRun.Kept ssrc ⟨p, s.log ++ [e]⟩ := by
  refine ⟨hssrc.trans h.source, ?_, ?_, h.packets.concat ?_⟩
  · intro c hc
    have hoffset : e.isHanded = false ∧ e.offset = offset := by
      rcases he with ⟨rfl, -⟩ | ⟨rfl, -⟩ <;> exact ⟨rfl, rfl⟩
    rw [cursor_concat, after_of_not_handed _ hoffset.1, hoffset.2, Option.map_eq_some_iff] at hc
    obtain ⟨d, hd, rfl⟩ := hc
    obtain ⟨hnumber, hdue⟩ := h.follows d hd
    exact ⟨by rw [hseq]; exact hnumber, by rw [hnext, hdue]⟩
  · rcases he with ⟨rfl, hinit⟩ | ⟨rfl, hinit⟩
    · rw [advance_concat_reset, hnext, hinit, UInt32.add_zero]
    · rw [advance_concat_delayed, hnext, hinit, h.advanced, UInt32.add_assoc]
  · intro handed heq
    rcases he with ⟨rfl, -⟩ | ⟨rfl, -⟩ <;> cases heq

theorem step (h : s.Kept ssrc) (count : SampleCount) (c : WriterCall) :
    (s.step count c).Kept ssrc := by
  cases c with
  | write b sampleTime fails =>
    have hwritten := h.writeSamples b s.stream.sampleRateTimestamp
      (s.stream.nextTimestamp = s.stream.initTimestamp) s.stream.codec.payloadType true fails
      (fun _ => by rw [decide_eq_true_iff]; exact h.marker_iff)
    exact hwritten.congr rfl rfl rfl rfl rfl
  | writeSamples payload step marker payloadType fails =>
    exact h.writeSamples payload step marker payloadType false fails (by simp)
  | resetTimestamp now =>
    cases hlast : s.stream.lastSampleTime with
    | none =>
      have hstep : s.step count (.resetTimestamp now) = s := by
        simp [WriterRun.step, PacketStream.call, PacketStream.resetTimestamp, hlast]
      rw [hstep]
      exact h
    | some last =>
      simp only [WriterRun.step, PacketStream.call, PacketStream.resetTimestamp, hlast]
      exact h.moved (.inl ⟨rfl, rfl⟩) rfl rfl rfl
  | delayTimestamp offset => exact h.moved (.inr ⟨rfl, rfl⟩) rfl rfl rfl
  | updateRTPSession sess =>
    have hlog : (s.step count (.updateRTPSession sess)).log = s.log := List.append_nil _
    apply h.congr hlog
    all_goals
      simp only [WriterRun.step, PacketStream.call, PacketStream.updateRTPSession]
      cases codecAudioFromSession sess <;> rfl

end WriterRun.Kept

theorem continuous_of_inPlace {ssrc : UInt32} {log : List Entry}
    (h : EachAfter (fun earlier e => ∀ h, e = .handed h → h.InPlace ssrc earlier) log) :
    Continuous ssrc log := by
  constructor
  · intro handed hmem
    obtain ⟨before, after, rfl⟩ := List.append_of_mem hmem
    exact (h before (.handed handed) after rfl handed rfl).ssrc
  · intro before prev mid next after hlog hmid
    have hlog' : log = (before ++ .handed prev :: mid) ++ .handed next :: after := by
      rw [hlog, List.append_assoc, List.cons_append]
    have hplace := h _ _ _ hlog' next rfl
    exact hplace.follows _ (cursor_after_packet before prev hmid)

/-- Through every sequence of calls the packets of a writer are one stream. Write marks the first
packet it writes, and no other, exactly if at each write the timestamp is where the stream began
only when nothing was written since, and is so then. -/
theorem writer_stream_marked_iff (count : SampleCount) (ssrc : UInt32) (seq : UInt16)
    (codec : Codec) (w : PacketStream) (hw : newRTPPacketWriter count ssrc seq codec = some w)
    (calls : List WriterCall) :
    let s := runFrom (WriterRun.step count) ⟨w, []⟩ calls
    Continuous ssrc s.log ∧ (MarkersRight s.log ↔ ReturnsOnlyFresh s.log) := by
  intro s
  have hstart : WriterRun.Kept ssrc ⟨w, []⟩ := by
    unfold newRTPPacketWriter at hw
    split_ifs at hw
    cases hw
    exact ⟨rfl, fun c hc => by simp [cursor] at hc, rfl, eachAfter_nil⟩
  have hkept : s.Kept ssrc := runFrom_invariant _ (fun _ c h => h.step count c) hstart calls
  refine ⟨continuous_of_inPlace hkept.packets, ?_, ?_⟩
  · intro hmarkers earlier e later hlog handed he hwrite
    rw [← (hkept.packets earlier e later hlog handed he).marker hwrite]
    exact hmarkers earlier e later hlog handed he hwrite
  · intro hreturns earlier e later hlog handed he hwrite
    rw [(hkept.packets earlier e later hlog handed he).marker hwrite]
    exact hreturns earlier e later hlog handed he hwrite

section Sample

def ulawStream : PacketStream where
  ssrc := 7
  codec := codecAudioUlaw
  sampleRateTimestamp := codecAudioUlaw.sampleTimestamp floatCount
  seqWriter := .initSeq 65535

theorem ulaw_stream_marked :
    let s := runFrom (WriterRun.step floatCount) ⟨ulawStream, []⟩
      [.write [1] 20 false, .writeSamples [5, 0, 0, 160] 0 true 101 true, .write [2] 40 false]
    Continuous 7 s.log ∧ (MarkersRight s.log ↔ ReturnsOnlyFresh s.log) :=
  writer_stream_marked_iff floatCount 7 65535 codecAudioUlaw ulawStream (if_pos (by decide)) _

/-- The timestamp is delayed before anything was written: the first packet is not marked. -/
theorem delayed_start_unmarked :
    ¬ MarkersRight (runFrom (WriterRun.step floatCount) ⟨ulawStream, []⟩
      [.delayTimestamp 160, .write [1] 20 false]).log := by
  intro h
  have hfirst := h [.delayed 160] _ [] rfl _ rfl rfl
  have hmarker : decide ((0 : UInt32) + 160 = 0) = true := hfirst.mpr rfl
  exact absurd hmarker (by decide)

end Sample

end Diago.Rtp
