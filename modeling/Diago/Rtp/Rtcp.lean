import Diago.Media.Wire

/-! # Reading RTCP

A datagram is a sequence of packets, each with a header that says its length. They are
cut off one after the other into a buffer of the caller's and handed to the packet
type of the header.
-/
namespace Diago.Rtp
open Lib Media

inductive PacketKind
  | senderReport
  | receiverReport
  | sourceDescription
  | goodbye
  | raw
  deriving DecidableEq, Repr

def rtcpTypedPacket (htype : UInt8) : PacketKind :=
  if htype = 200 then .senderReport
  else if htype = 201 then .receiverReport
  else if htype = 202 then .sourceDescription
  else if htype = 203 then .goodbye
  else .raw

/-- The RTCP library: it may fail on any input. A header gives a type and a length word. -/
structure RtcpLib (ε π : Type) where
  header : Bytes → Except ε (UInt8 × UInt16)
  packet : PacketKind → Bytes → Except ε π

/-- An error of the library, our own mark, and errors joined or wrapped. -/
inductive RtcpErr (ε : Type)
  | lib (e : ε)
  | failedToUnmarshal
  | join (a b : RtcpErr ε)
  | wrap (text : Bytes) (e : RtcpErr ε)
  deriving DecidableEq

variable {ε π : Type}

/-- The error carries the mark errRTCPFailedToUnmarshal. -/
def RtcpErr.isFailedToUnmarshal : RtcpErr ε → Bool
  | .lib _ => false
  | .failedToUnmarshal => true
  | .join a b => a.isFailedToUnmarshal || b.isFailedToUnmarshal
  | .wrap _ e => e.isFailedToUnmarshal

def cutAt (n : ℕ) (data : Bytes) : Option (Bytes × Bytes) :=
  if n ≤ data.length then some (data.take n, data.drop n) else none

/-- The bytes a packet takes by its length word, which is counted up in 16 bits. -/
def pktLen (length : UInt16) : ℕ := (length + 1).toNat * 4

/-- Reads packets until the buffer of `room` entries is full or the data ends. None is a
panic. -/
def rtcpUnmarshal (lib : RtcpLib ε π) : ℕ → Bytes → Option (Except (RtcpErr ε) (List π))
  | 0, _ => some (.ok [])
  | room + 1, data =>
    if data = [] then some (.ok [])
    else
      match lib.header data with
      | .error e => some (.error (.join (.lib e) .failedToUnmarshal))
      | .ok (htype, length) =>
        if data.length < pktLen length then
          some (.error (.wrap (lit "packet too short") .failedToUnmarshal))
        else
          match cutAt (pktLen length) data with
          | none => none
          | some (inPacket, rest) =>
            match lib.packet (rtcpTypedPacket htype) inPacket with
            | .error e => some (.error (.lib e))
            | .ok packet => (rtcpUnmarshal lib room rest).map (Except.map (packet :: ·))

/-- The packets cut off a datagram as long as headers and lengths are in order. -/
def bodies (lib : RtcpLib ε π) : ℕ → Bytes → List (PacketKind × Bytes)
  | 0, _ => []
  | room + 1, data =>
    if data = [] then []
    else
      match lib.header data with
      | .error _ => []
      | .ok (htype, length) =>
        if data.length < pktLen length then []
        else
          (rtcpTypedPacket htype, data.take (pktLen length)) ::
            bodies lib room (data.drop (pktLen length))

/-! ### The reader of a session -/

/-- The library and the remote context during one read. -/
structure RtcpEnv (ε π : Type) where
  lib : RtcpLib ε π
  decrypt : SrtpContext → Bytes → Option Bytes

def rtcpBufSize : ℕ := 1600

/-- What the RTCP of a datagram is, once decrypted; none when it is discarded. -/
def rtcpData (env : RtcpEnv ε π) (s : MediaSession) (data : Bytes) : Option Bytes :=
  if s.dtlsSRTP ∧ ¬ s.dtlsKeyed then none
  else
    match s.remoteCtxSRTP with
    | none => some data
    | some ctx => env.decrypt ctx data

/-- Behind NAT a new source of RTCP is learned once one of RTP was. -/
def learnRTCPSource (source : UDPAddr) (s : MediaSession) : MediaSession :=
  if s.rtpNAT = .symetric ∧ source ≠ s.rtcpRaddr ∧ s.learnedRTCPFrom = none ∧
      s.learnedRTPFrom ≠ none then
    { s with learnedRTCPFrom := some source }
  else s

inductive ReaderEnd (ε : Type)
  | socket
  | unmarshal (e : RtcpErr ε)
  | panicked
  deriving DecidableEq

/-- The loop of the reader over what the socket delivers, with a buffer of `room` packets: the
packets it handles, and how it ends, if it does. -/
def readRTCP (env : RtcpEnv ε π) (room : ℕ) : List Delivery → MediaSession →
    List π × Option (ReaderEnd ε)
  | [], _ => ([], none)
  | .failure :: _, _ => ([], some .socket)
  | .datagram raw source :: rest, s =>
    match rtcpData env s (raw.take rtcpBufSize) with
    | none => readRTCP env room rest s
    | some data =>
      match rtcpUnmarshal env.lib room data with
      | none => ([], some .panicked)
      | some (.error e) =>
        if e.isFailedToUnmarshal then readRTCP env room rest s else ([], some (.unmarshal e))
      | some (.ok packets) =>
        let next := readRTCP env room rest (learnRTCPSource source s)
        (packets ++ next.1, next.2)

variable {lib : RtcpLib ε π} {room : ℕ} {data : Bytes}

theorem cutAt_of_le {n : ℕ} (h : n ≤ data.length) : cutAt n data = some (data.take n, data.drop n) :=
  if_pos h

theorem rtcpUnmarshal_isSome (lib : RtcpLib ε π) (room : ℕ) (data : Bytes) :
    (rtcpUnmarshal lib room data).isSome = true := by
  induction room generalizing data with
  | zero => rfl
  | succ room ih =>
    unfold rtcpUnmarshal
    split_ifs with hempty
    · rfl
    · cases hheader : lib.header data with
      | error e => rfl
      | ok h =>
        by_cases hshort : data.length < pktLen h.2
        · simp only [if_pos hshort, Option.isSome_some]
        · simp only [if_neg hshort, cutAt_of_le (not_lt.mp hshort)]
          cases lib.packet (rtcpTypedPacket h.1) (data.take (pktLen h.2)) with
          | error e => rfl
          | ok packet => simpa using ih (data.drop (pktLen h.2))

/-- A datagram without an unmarked error: each packet cut off it is one for its type. -/
theorem marked_iff (lib : RtcpLib ε π) (room : ℕ) (data : Bytes) :
    (∀ e, rtcpUnmarshal lib room data = some (.error e) → e.isFailedToUnmarshal = true) ↔
      ∀ b ∈ bodies lib room data, ∃ packet, lib.packet b.1 b.2 = .ok packet := by
  induction room generalizing data with
  | zero => simp [rtcpUnmarshal, bodies]
  | succ room ih =>
    unfold rtcpUnmarshal bodies
    by_cases hempty : data = []
    · simp [hempty]
    · rw [if_neg hempty, if_neg hempty]
      cases hheader : lib.header data with
      | error e => simp [RtcpErr.isFailedToUnmarshal]
      | ok h =>
        by_cases hshort : data.length < pktLen h.2
        · simp [hshort, RtcpErr.isFailedToUnmarshal]
        · simp only [if_neg hshort, cutAt_of_le (not_lt.mp hshort), List.forall_mem_cons]
          rw [← ih (data.drop (pktLen h.2))]
          cases lib.packet (rtcpTypedPacket h.1) (data.take (pktLen h.2)) with
          | error e => simp [RtcpErr.isFailedToUnmarshal]
          | ok packet =>
            obtain ⟨r, hr⟩ := Option.isSome_iff_exists.mp
              (rtcpUnmarshal_isSome lib room (data.drop (pktLen h.2)))
            rw [hr]
            cases r <;> simp [Except.map]

theorem readRTCP_goes_on (env : RtcpEnv ε π) {raw : Bytes} {s : MediaSession}
    (hdata : rtcpData env s (raw.take rtcpBufSize) = some data)
    (hmarked : ∀ e, rtcpUnmarshal env.lib room data = some (.error e) →
      e.isFailedToUnmarshal = true) (source : UDPAddr) (rest : List Delivery) :
    ∃ packets t, readRTCP env room (.datagram raw source :: rest) s =
      (packets ++ (readRTCP env room rest t).1, (readRTCP env room rest t).2) := by
  obtain ⟨r, hr⟩ := Option.isSome_iff_exists.mp (rtcpUnmarshal_isSome env.lib room data)
  rw [readRTCP, hdata]
  simp only [hr]
  cases r with
  | error e =>
    simp only [if_pos (hmarked e hr)]
    exact ⟨[], s, rfl⟩
  | ok packets => exact ⟨packets, learnRTCPSource source s, rfl⟩

/-- Malformed RTCP does not end the reader: the unmarshaling of a datagram ends without slicing
past it, every error of it is marked, and the reader of a session that gets the datagram goes on,
exactly when each packet cut off the datagram is accepted by its packet type. -/
theorem rtcp_reader_goes_on_iff (lib : RtcpLib ε π) (room : ℕ) (data : Bytes) :
    ((rtcpUnmarshal lib room data).isSome = true ∧
      (∀ e, rtcpUnmarshal lib room data = some (.error e) → e.isFailedToUnmarshal = true) ∧
      ∀ (env : RtcpEnv ε π) (raw : Bytes) (s : MediaSession) (source : UDPAddr)
        (rest : List Delivery), env.lib = lib →
        rtcpData env s (raw.take rtcpBufSize) = some data →
        ∃ packets t, readRTCP env room (.datagram raw source :: rest) s =
          (packets ++ (readRTCP env room rest t).1, (readRTCP env room rest t).2)) ↔
      ∀ b ∈ bodies lib room data, ∃ packet, lib.packet b.1 b.2 = .ok packet := by
  rw [← marked_iff]
  constructor
  · exact fun h => h.2.1
  · intro hmarked
    refine ⟨rtcpUnmarshal_isSome lib room data, hmarked, ?_⟩
    rintro env raw s source rest rfl hdata
    exact readRTCP_goes_on env hdata hmarked source rest

section Sample

/-- A header is four bytes of version 2, and a sender report has its 24 bytes of sender
information. -/
def reportLib : RtcpLib Bytes Bytes where
  header
    | b :: htype :: hi :: lo :: _ =>
      if b >>> 6 = 2 then .ok (htype, hi.toUInt16 * 256 + lo.toUInt16) else .error (lit "bad version")
    | _ => .error (lit "packet too short")
  packet kind body :=
    if kind = .senderReport ∧ body.length < 28 then .error (lit "packet too short") else .ok body

/-- A sender report of its header alone ends the reader, and what follows is not read. -/
theorem short_report_ends_reader :
    rtcpUnmarshal reportLib 5 [0x80, 200, 0, 0] = some (.error (.lib (lit "packet too short"))) ∧
      (RtcpErr.lib (lit "packet too short")).isFailedToUnmarshal = false ∧
      readRTCP ⟨reportLib, fun _ _ => none⟩ 5
          [.datagram [0x80, 200, 0, 0] {}, .datagram [0x80, 203, 0, 0] {}] {} =
        ([], some (.unmarshal (.lib (lit "packet too short")))) := by
  refine ⟨by decide +kernel, rfl, by decide +kernel⟩

end Sample

end Diago.Rtp
