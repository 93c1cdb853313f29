import Diago.Media.Session

/-! # Media on the wire

A packet written is encrypted under the local SRTP context when there is one and goes
to the remote address, or to the learned one behind NAT.
-/
namespace Diago.Media
open Lib SDP

structure Datagram where
  conn : Conn
  dest : UDPAddr
  data : Bytes
  deriving DecidableEq

/-- What a write does: the datagram it puts on a socket, and what it returns. -/
structure Written where
  sent : Option Datagram
  result : Except Err Unit

/-- The libraries and the socket during one write: the marshaled packet, encryption under a
context, and the number of bytes the socket takes. -/
structure WriteEnv where
  marshaled : Option Bytes
  encrypt : SrtpContext → Bytes → Option Bytes
  written : Option ℕ

def writeTo (env : WriteEnv) (conn : Option Conn) (dest : UDPAddr) (data : Bytes) : Written :=
  match conn, env.written with
  | none, _ => ⟨none, .error .noConn⟩
  | some .unbound, _ => ⟨none, .error .write⟩
  | some _, none => ⟨none, .error .write⟩
  | some conn, some n =>
    ⟨some ⟨conn, dest, data⟩, if n = data.length then .ok () else .error .shortWrite⟩

def protect (env : WriteEnv) (ctx : Option SrtpContext) (data : Bytes) : Option Bytes :=
  match ctx with
  | some ctx => env.encrypt ctx data
  | none => some data

namespace MediaSession

def rtpDest (s : MediaSession) : UDPAddr :=
  if s.rtpNAT = .symetric then s.learnedRTPFrom.getD s.raddr else s.raddr

def rtcpDest (s : MediaSession) : UDPAddr :=
  if s.rtpNAT = .symetric then s.learnedRTCPFrom.getD s.rtcpRaddr else s.rtcpRaddr

def writeRTP (env : WriteEnv) (s : MediaSession) : Written :=
  if s.dtlsUnkeyed then ⟨none, .error .dtlsNotKeyed⟩
  else if s.mode = some .recvonly then ⟨none, .ok ()⟩
  else
    match env.marshaled with
    | none => ⟨none, .error .marshal⟩
    | some plain =>
      match protect env s.localCtxSRTP plain with
      | none => ⟨none, .error .encrypt⟩
      | some data => writeTo env s.rtpConn s.rtpDest data

def writeRTCPData (env : WriteEnv) (s : MediaSession) (plain : Bytes) : Written :=
  match protect env s.localCtxSRTP plain with
  | none => ⟨none, .error .encrypt⟩
  | some data => writeTo env s.rtcpConn s.rtcpDest data

def sendRTCP (env : WriteEnv) (s : MediaSession) : Written :=
  if s.dtlsUnkeyed then ⟨none, .error .dtlsNotKeyed⟩
  else
    match env.marshaled with
    | none => ⟨none, .error .marshal⟩
    | some plain => s.writeRTCPData env plain

def writeRTCP (env : WriteEnv) (s : MediaSession) : Written := s.sendRTCP env

def writeRTCPs (env : WriteEnv) (s : MediaSession) : Written := s.sendRTCP env

end MediaSession

structure RTPHeader where
  version : ℕ
  padding : Bool
  marshalSize : ℕ
  deriving DecidableEq

/-- The RTP library and the remote context during one read. -/
structure ReadEnv where
  unmarshal : Bytes → Option RTPHeader
  decrypt : SrtpContext → Bytes → Option (RTPHeader × Bytes)

inductive Delivery
  | datagram (data : Bytes) (source : UDPAddr)
  | failure

def rtpBufSize : ℕ := 1500

def rtpUnmarshalPayload (h : RTPHeader) (buf : Bytes) : Option Bytes :=
  if h.padding then
    if buf.length ≤ h.marshalSize then none
    else
      let paddingSize := ((buf.getLast?).getD 0).toNat
      if buf.length < h.marshalSize + paddingSize then none
      else some ((buf.take (buf.length - paddingSize)).drop h.marshalSize)
  else if buf.length < h.marshalSize then none
  else some (buf.drop h.marshalSize)

/-- What a read returns: a number of bytes and an error. -/
structure ReadResult where
  n : ℕ
  err : Option Err
  deriving DecidableEq

/-- What the read makes of one datagram: it goes on to the next, or it returns with a packet
read or refused. -/
inductive Reading
  | discarded (s : MediaSession)
  | packet (h : RTPHeader) (n : ℕ)
  | refused (n : ℕ)

namespace MediaSession

def readDatagram (env : ReadEnv) (s : MediaSession) (data : Bytes) : Reading :=
  if s.dtlsSRTP ∧ ¬ s.dtlsKeyed then .discarded s
  else
    match s.remoteCtxSRTP with
    | none =>
      match env.unmarshal data with
      | some h => .packet h data.length
      | none => .refused data.length
    | some ctx =>
      match env.decrypt ctx data with
      | none => .discarded { s with srtpAuthFailures := s.srtpAuthFailures + 1 }
      | some (h, decrypted) =>
        if (rtpUnmarshalPayload h decrypted).isSome then .packet h decrypted.length
        else .refused decrypted.length

/-- Behind NAT the first other source of a valid packet is learned. -/
def learnSource (h : RTPHeader) (source : UDPAddr) (s : MediaSession) : MediaSession :=
  if s.rtpNAT = .symetric ∧ source ≠ s.raddr ∧ h.version = 2 ∧ s.learnedRTPFrom = none then
    { s with learnedRTPFrom := some source }
  else s

/-- Reads from the datagrams the socket delivers; none while it waits for more. -/
def readRTP (env : ReadEnv) (bufLen : ℕ) : List Delivery → MediaSession →
    Option (ReadResult × MediaSession)
  | deliveries, s =>
    if bufLen < rtpBufSize then some (⟨0, some .shortBuffer⟩, s)
    else
      match deliveries with
      | [] => none
      | .failure :: _ => some (⟨0, some .read⟩, s)
      | .datagram data source :: rest =>
        match s.readDatagram env (data.take bufLen) with
        | .discarded t => readRTP env bufLen rest t
        | .refused n => some (⟨n, some .rtpParse⟩, s)
        | .packet h n =>
          some (⟨if s.mode = some .sendonly then 0 else n, none⟩, s.learnSource h source)

end MediaSession
end Diago.Media
