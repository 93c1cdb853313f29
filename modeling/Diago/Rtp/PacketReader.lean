import Diago.Lib.BigEndian
import Diago.Rtp.Session

/-! # The payload reader

The reader hands out the payload of the packets of an RTP session.
-/
namespace Diago.Rtp
open Lib Media

/-! ### The RTP library -/

def csrcCount (data : Bytes) : ℕ := (data.headD 0 &&& 0x0F).toNat

def hasExtension (data : Bytes) : Bool := data.headD 0 &&& 0x10 ≠ 0

def fixedBytes (data : Bytes) : ℕ := 12 + 4 * csrcCount data

/-- The length a datagram declares for its header extension, in words. -/
def extensionWords (data : Bytes) : ℕ :=
  256 * (data.getD (fixedBytes data + 2) 0).toNat + (data.getD (fixedBytes data + 3) 0).toNat

def headerBytes (data : Bytes) : ℕ :=
  fixedBytes data + if hasExtension data then 4 + 4 * extensionWords data else 0

def roundUp4 (n : ℕ) : ℕ := (n + 3) / 4 * 4

/-- The RTP library, as it documents itself: the payload is what follows the declared header less
the padding, and the written size of a header counts the extension elements that were parsed. -/
structure RtpLib where
  unmarshal : Bytes → Option RTPPacket
  /-- The bytes of the extension elements parsed off a datagram. -/
  elementBytes : Bytes → ℕ
  consumes : ∀ data pkt, unmarshal data = some pkt →
    headerBytes data + pkt.payload.length + pkt.paddingSize.toNat = data.length
  marshals : ∀ data pkt, unmarshal data = some pkt →
    pkt.marshalSize = fixedBytes data +
      if hasExtension data then roundUp4 (4 + elementBytes data) else 0

def RtpLib.env (lib : RtpLib) : ReadEnv where
  unmarshal data := (lib.unmarshal data).map fun p => ⟨p.version, p.paddingSize ≠ 0, p.marshalSize⟩
  decrypt _ _ := none

def mediaRead (lib : RtpLib) (s : MediaSession) (bufLen : ℕ) (data : Bytes) (source : UDPAddr) :
    Received :=
  match s.readRTP lib.env bufLen [.datagram data source], lib.unmarshal (data.take bufLen) with
  | some (⟨n, none⟩, _), some pkt => .packet n pkt (some source)
  | _, _ => .failure

/-! ### Reading payloads -/

structure RTPPacketReader where
  unread : Bytes := []
  lastSSRC : UInt32 := 0
  seqReader : RTPExtendedSequenceNumber := {}

/-- What Read returns: bytes of a payload, all that fitted of it, nothing, or an error. The two
panics are those of a session without codecs and of a payload of another size. -/
inductive PayloadRead
  | payload (bytes : Bytes)
  | shortBuffer (bytes : Bytes)
  | nothing
  | failed
  | noCodecs
  | mismatch
  deriving DecidableEq

namespace RTPPacketReader

/-- The buffer a packet is read into: the caller's, or one of our own that is large enough. -/
def readLen (bufLen : ℕ) : ℕ := if bufLen < rtpBufSize then rtpBufSize else bufLen

def readPayload (r : RTPPacketReader) (bufLen : ℕ) (payload : Bytes) :
    PayloadRead × RTPPacketReader :=
  (.payload (payload.take bufLen), { r with unread := (payload.drop bufLen).take rtpBufSize })

def track (r : RTPPacketReader) (pkt : RTPPacket) : RTPPacketReader :=
  { r with
    seqReader :=
      if r.lastSSRC = pkt.ssrc then (r.seqReader.updateSeq pkt.sequenceNumber).2
      else .initSeq pkt.sequenceNumber
    lastSSRC := pkt.ssrc }

def take (r : RTPPacketReader) (bufLen n : ℕ) (pkt : RTPPacket) : PayloadRead × RTPPacketReader :=
  if n = 0 then (.nothing, r)
  else if (n : ℤ) - pkt.marshalSize - pkt.paddingSize.toNat ≠ pkt.payload.length then (.mismatch, r)
  else if pkt.payload = [] then (.nothing, r)
  else if bufLen < rtpBufSize then (r.track pkt).readPayload bufLen pkt.payload
  else if bufLen < pkt.payload.length then (.shortBuffer (pkt.payload.take bufLen), r.track pkt)
  else (.payload pkt.payload, r.track pkt)

/-- Reads into a buffer of `bufLen` bytes from what the media session delivers; none while it
waits for more. -/
def read (r : RTPPacketReader) (bufLen : ℕ) (received : List Received) (s : RTPSession) :
    Option (PayloadRead × RTPPacketReader × RTPSession) :=
  if r.unread ≠ [] then
    some ((r.readPayload bufLen r.unread).1, (r.readPayload bufLen r.unread).2, s)
  else
    match s.readRTP received with
    | none => none
    | some (.failed, t) => some (.failed, r, t)
    | some (.panicked, t) => some (.noCodecs, r, t)
    | some (.returned n pkt _, t) => some ((r.take bufLen n pkt).1, (r.take bufLen n pkt).2, t)

end RTPPacketReader

def PlainRTP (s : MediaSession) : Prop := s.remoteCtxSRTP = none ∧ s.dtlsSRTP = false

/-- A read of a datagram that gets as far as the double check does not fail it, whatever the states
of the reader and the session. -/
def NeverMismatches (lib : RtpLib) (data : Bytes) : Prop :=
  ∀ (r : RTPPacketReader) (s : RTPSession) (bufLen : ℕ) (source : UDPAddr), PlainRTP s.sess →
    ∀ r' t, r.read bufLen [mediaRead lib s.sess (RTPPacketReader.readLen bufLen) data source] s ≠
      some (.mismatch, r', t)

variable {lib : RtpLib} {data : Bytes} {pkt : RTPPacket}

theorem readLen_ge (bufLen : ℕ) : rtpBufSize ≤ RTPPacketReader.readLen bufLen := by
  unfold RTPPacketReader.readLen
  split_ifs <;> omega

theorem mediaRead_plain {s : MediaSession} (hs : PlainRTP s) (hdata : data.length ≤ rtpBufSize)
    (bufLen : ℕ) (source : UDPAddr) :
    mediaRead lib s (RTPPacketReader.readLen bufLen) data source =
      match lib.unmarshal data with
      | some pkt => .packet (if s.mode = some .sendonly then 0 else data.length) pkt (some source)
      | none => .failure := by
  have hlong := readLen_ge bufLen
  have htake : data.take (RTPPacketReader.readLen bufLen) = data :=
    List.take_of_length_le (hdata.trans hlong)
  unfold mediaRead
  rw [MediaSession.readRTP, if_neg (not_lt.mpr hlong), htake]
  simp only [MediaSession.readDatagram, hs.1, hs.2, RtpLib.env]
  cases lib.unmarshal data <;> simp

/-- The check fails exactly when the header was longer than the library would write it. -/
theorem check_iff (hpkt : lib.unmarshal data = some pkt) :
    (data.length : ℤ) - pkt.marshalSize - pkt.paddingSize.toNat = pkt.payload.length ↔
      (hasExtension data = true →
        4 + 4 * extensionWords data = roundUp4 (4 + lib.elementBytes data)) := by
  have hconsumes := lib.consumes data pkt hpkt
  have hmarshals := lib.marshals data pkt hpkt
  unfold headerBytes at hconsumes
  by_cases hext : hasExtension data = true
  · rw [if_pos hext] at hconsumes hmarshals
    constructor
    · intro h _
      omega
    · intro h
      have := h hext
      omega
  · rw [if_neg hext] at hconsumes hmarshals
    constructor
    · intro _ h
      exact absurd h hext
    · intro _
      omega

theorem take_mismatch_iff (r : RTPPacketReader) (bufLen n : ℕ) (pkt : RTPPacket) :
    (r.take bufLen n pkt).1 = .mismatch ↔
      n ≠ 0 ∧ (n : ℤ) - pkt.marshalSize - pkt.paddingSize.toNat ≠ pkt.payload.length := by
  unfold RTPPacketReader.take RTPPacketReader.readPayload
  split_ifs <;> simp_all

theorem read_mismatch {r r' : RTPPacketReader} {s t : RTPSession} {bufLen : ℕ} {m : ℕ}
    {q : RTPPacket} {source : Option UDPAddr}
    (h : r.read bufLen [.packet m q source] s = some (.mismatch, r', t)) :
    q.version ≠ 0 ∧ q.payload ≠ [] ∧ m ≠ 0 ∧
      (m : ℤ) - q.marshalSize - q.paddingSize.toNat ≠ q.payload.length := by
  unfold RTPPacketReader.read at h
  split_ifs at h
  · simp [RTPPacketReader.readPayload] at h
  · rw [RTPSession.readRTP] at h
    cases hreceive : s.receive m q source with
    | mk out u =>
      rw [hreceive] at h
      cases out with
      | none => simp [RTPSession.readRTP] at h
      | some out =>
        cases out with
        | failed => simp at h
        | panicked => simp at h
        | returned n pkt src =>
          obtain ⟨⟨hversion, hpayload⟩, rfl, -, hn⟩ := receive_returned (by rw [hreceive])
          have hmismatch : (r.take bufLen n pkt).1 = .mismatch := by
            simpa using congrArg (Option.map Prod.fst) h
          obtain ⟨hpos, hcheck⟩ := (take_mismatch_iff r bufLen n pkt).mp hmismatch
          obtain rfl | hzero := hn
          · exact ⟨hversion, hpayload, hpos, hcheck⟩
          · exact absurd hzero hpos

/-- No datagram crashes the payload reader exactly when it does not have a header extension, in a
packet with a payload, that the library would write shorter than it is declared. -/
theorem payload_check_iff (lib : RtpLib) (data : Bytes) (hdata : data.length ≤ rtpBufSize) :
    NeverMismatches lib data ↔
      ∀ pkt, lib.unmarshal data = some pkt → pkt.version ≠ 0 → pkt.payload ≠ [] →
        hasExtension data = true →
        4 + 4 * extensionWords data = roundUp4 (4 + lib.elementBytes data) := by
  constructor
  · intro hnever pkt hpkt hversion hpayload
    by_contra hshort
    have hcheck := mt (check_iff hpkt).mp hshort
    have hpos : data.length ≠ 0 := by
      have hconsumes := lib.consumes data pkt hpkt
      have hlen := List.length_pos_iff.mpr hpayload
      omega
    let s : RTPSession := { sess := {}, readStats := { ssrc := pkt.ssrc } }
    have hplain : PlainRTP s.sess := ⟨rfl, rfl⟩
    have hreceive : ∃ t, s.receive data.length pkt (some {}) =
        (some (.returned data.length pkt (some {})), t) := by
      simp [RTPSession.receive, hversion, hpayload, s, RTPSession.account]
    obtain ⟨t, ht⟩ := hreceive
    have hmismatch := (take_mismatch_iff {} 0 data.length pkt).mpr ⟨hpos, hcheck⟩
    refine hnever {} s 0 {} hplain (RTPPacketReader.take {} 0 data.length pkt).2 t ?_
    rw [mediaRead_plain hplain hdata, hpkt]
    simp only [RTPPacketReader.read, RTPSession.readRTP, s] at ht ⊢
    simp [ht, hmismatch]
  · intro hfits r s bufLen source hplain r' t h
    rw [mediaRead_plain hplain hdata] at h
    cases hpkt : lib.unmarshal data with
    | none =>
      rw [hpkt] at h
      unfold RTPPacketReader.read at h
      split_ifs at h <;> simp [RTPPacketReader.readPayload, RTPSession.readRTP] at h
    | some pkt =>
      rw [hpkt] at h
      obtain ⟨hversion, hpayload, hpos, hcheck⟩ := read_mismatch h
      by_cases hmode : s.sess.mode = some .sendonly
      · rw [if_pos hmode] at hpos
        exact hpos rfl
      · rw [if_neg hmode] at hcheck
        exact hcheck ((check_iff hpkt).mpr (hfits pkt hpkt hversion hpayload))

section Sample

/-- The bytes of the one-byte elements of an extension block, its padding skipped. -/
def oneByteElements : ℕ → Bytes → ℕ
  | 0, _ | _, [] => 0
  | k + 1, b :: rest =>
    if b = 0 then oneByteElements k rest
    else if b >>> 4 = 15 then 0
    else (b &&& 15).toNat + 2 + oneByteElements k (rest.drop ((b &&& 15).toNat + 1))

def declaredPadding (data : Bytes) : UInt8 :=
  if data.headD 0 &&& 0x20 ≠ 0 then data.getLastD 0 else 0

def oneBytePacket (data : Bytes) : RTPPacket where
  version := (data.headD 0 >>> 6).toNat
  marker := data.getD 1 0 &&& 0x80 ≠ 0
  payloadType := data.getD 1 0 &&& 0x7F
  sequenceNumber := UInt16.ofNat (fromBigEndian ((data.drop 2).take 2))
  timestamp := UInt32.ofNat (fromBigEndian ((data.drop 4).take 4))
  ssrc := UInt32.ofNat (fromBigEndian ((data.drop 8).take 4))
  paddingSize := declaredPadding data
  payload := (data.drop (headerBytes data)).take
    (data.length - headerBytes data - (declaredPadding data).toNat)
  marshalSize := fixedBytes data + if hasExtension data then
    roundUp4 (4 + oneByteElements data.length
      ((data.drop (fixedBytes data + 4)).take (4 * extensionWords data))) else 0

def oneByteLib : RtpLib where
  unmarshal data :=
    if headerBytes data + (declaredPadding data).toNat ≤ data.length then some (oneBytePacket data)
    else none
  elementBytes data := oneByteElements data.length
    ((data.drop (fixedBytes data + 4)).take (4 * extensionWords data))
  consumes data pkt h := by
    split_ifs at h with hlen
    cases h
    simp only [oneBytePacket, List.length_take, List.length_drop]
    omega
  marshals data pkt h := by
    split_ifs at h with hlen
    cases h
    rfl

def paddedExtension : Bytes :=
  [0x90, 0, 0, 1, 0, 0, 0, 0, 0, 0, 0, 7, 0xBE, 0xDE, 0, 1, 0, 0, 0, 0, 0xFF]

def pcmuSession : MediaSession := { toSettings := { codecs := [codecAudioUlaw] } }

/-- The packet makes the reader panic. -/
theorem padded_extension_panics :
    ((RTPPacketReader.read {} 1500
      [mediaRead oneByteLib pcmuSession 1500 paddedExtension {}]
      { sess := pcmuSession }).map fun x => x.1) = some .mismatch := by
  decide +kernel

def plainPacket : Bytes := [0x80, 0, 0, 1, 0, 0, 0, 0, 0, 0, 0, 7, 0xFF]

/-- A packet without an extension does not. -/
theorem plain_packet_checked :
    plainPacket.length ≤ rtpBufSize ∧ NeverMismatches oneByteLib plainPacket :=
  ⟨by decide, (payload_check_iff oneByteLib plainPacket (by decide)).mpr fun _ _ _ _ hext =>
    absurd hext (by decide)⟩

end Sample

end Diago.Rtp
