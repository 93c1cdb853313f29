import Diago.Media.Association

/-! # Binding the sockets

A session binds an RTP socket and an RTCP socket on the next port, on a port it was
given, on the first free pair of a range or on one the system picks.
-/
namespace Diago.Media
open Lib SDP

/-- The address the system gave a socket; the port counts when none was asked for. -/
structure Bound where
  ip : IP
  port : UInt16

/-- One try at binding: the RTP socket when it binds, and whether the RTCP port is free. -/
structure Attempt where
  rtp : Option Bound
  rtcp : Bool

structure ListenEnv where
  attempts : ℕ → Attempt
  rtpPortOffset : ℤ := 0

structure ICEEnv where
  ufrag : ℕ → UInt8
  pwd : ℕ → UInt8
  gathers : Bool
  candidates : List Candidate

structure InitEnv where
  listen : ListenEnv
  ice : ICEEnv

def bindUDP (port : ℤ) (given : Option Bound) : Option UDPAddr :=
  match given with
  | some b =>
    if 0 ≤ port ∧ port ≤ 65535 then
      some { ip := some b.ip, port := if port = 0 then b.port.toNat else port }
    else none
  | none => none

def listenICE (port : ℤ) (a : Attempt) : Op MediaSession Err Unit :=
  match bindUDP port a.rtp with
  | none => Op.fail .bind
  | some bound => Op.update fun s =>
      { s with iceUDPConn := some bound, laddr := bound, rtcpMux := true }

/-- A failed bind leaves a nil connection in its place. -/
def listenRTPandRTCP (port : ℤ) (a : Attempt) : Op MediaSession Err Unit :=
  match bindUDP port a.rtp with
  | none => do
    Op.update fun s => { s with rtpConn := some .unbound }
    Op.fail .bind
  | some bound => do
    Op.update fun s => { s with rtpConn := some (.udp bound) }
    if a.rtcp ∧ bound.port + 1 ≤ 65535 then
      Op.update fun s =>
        { s with rtcpConn := some (.udp { bound with port := bound.port + 1 }), laddr := bound }
    else do
      Op.update fun s => { s with rtcpConn := some .unbound }
      Op.fail .bind

def listen (port : ℤ) (a : Attempt) : Op MediaSession Err Unit := do
  let s ← Op.read
  if s.iceEnabled then listenICE port a else listenRTPandRTCP port a

/-- The ports of a range tried from `port` on. -/
def portsFrom (port rtpPortEnd : ℤ) : List ℤ :=
  (List.range ((rtpPortEnd - port + 1) / 2).toNat).map fun i => port + 2 * i

/-- Binds the sockets and gives the next offset into the port range. `own` says that the address
is the session's own, whose port then follows the tries. -/
def createListeners (g : Globals) (env : ListenEnv) (own : Bool) (port : ℤ) :
    Op MediaSession Err ℤ :=
  if port ≠ 0 then do
    listen port (env.attempts 0)
    return env.rtpPortOffset
  else if 0 < g.rtpPortStart ∧ g.rtpPortStart < g.rtpPortEnd then do
    let first := g.rtpPortStart + env.rtpPortOffset
    let tryPort := fun k p => do
      Op.update fun s => { s with laddr := { s.laddr with port := if own then p else s.laddr.port } }
      listen p (env.attempts k)
    let bound ← fun s =>
      match Op.firstOk tryPort 0 (portsFrom first g.rtpPortEnd) s with
      | (.ok p, t) => (.ok p, t)
      | (.error e, t) => (.error (.noPorts e), t)
    return (bound.getD first + 2 - g.rtpPortStart).tmod (g.rtpPortEnd - g.rtpPortStart)
  else do
    let _ ← Op.firstOk (fun k p => listen p (env.attempts k)) 0 (List.replicate 10 port)
    return env.rtpPortOffset

def hexEncode (bs : Bytes) : Bytes :=
  bs.flatMap fun b => [digitByte (b.toNat / 16), digitByte (b.toNat % 16)]

def generateICEString (random : ℕ → UInt8) (length : ℕ) : Bytes :=
  (hexEncode (draw random (length / 2 + 1))).take length

def initICE (env : ICEEnv) : Op MediaSession Err Unit := do
  let s ← Op.read
  let conf := s.iceConf.getD {}
  if conf.lite ∧ conf.stunServers ≠ [] then do
    Op.update fun s => { s with iceUDPConn := none }
    Op.fail .iceAgent
  else if s.iceUDPConn.isNone ∨ ¬ env.gathers then do
    Op.update fun s => { s with iceUDPConn := none }
    Op.fail .iceInit
  else
    Op.update fun s =>
      { s with
        iceAgent := some
          { ufrag := generateICEString env.ufrag 16
            pwd := generateICEString env.pwd 22
            candidates := env.candidates } }

def checkCertificates (certificates : List Certificate) : Except Err Unit :=
  if certificates = [] then .error .noCertificate
  else
    match certificates.findIdx? fun cert => (dtlsSHA256Fingerprint cert).isNone with
    | some i => .error (.certificateNoFingerprint i)
    | none => .ok ()

def checkSettings : Op MediaSession Err Unit := do
  let s ← Op.read
  Op.require (s.codecs ≠ []) .noFormats
  Op.require (s.prefMode ≠ none) .noMode
  Op.require (s.laddr.ip ≠ none) .noLocalAddr

def MediaSession.defaultAlg (s : MediaSession) : MediaSession :=
  { s with
    srtpAlg :=
      if s.secureRTP ≠ .none ∧ s.srtpAlg = 0 then profileAes128CmHmacSha1_80 else s.srtpAlg }

/-- An address of a socket given up does not describe the new one. -/
def MediaSession.dropExternalIP (s : MediaSession) : MediaSession :=
  { s with externalIP := if s.rtpConn.isSome then none else s.externalIP }

def MediaSession.init (g : Globals) (env : InitEnv) : Op MediaSession Err ℤ := do
  checkSettings
  Op.update MediaSession.defaultAlg
  let s ← Op.read
  Op.only (s.secureRTP = .dtls) (Op.ofExcept (checkCertificates s.dtlsConf.certificates))
  Op.update MediaSession.dropExternalIP
  let offset ← createListeners g env.listen true s.laddr.port
  Op.only (s.iceEnabled = true) (initICE env.ice)
  return offset

end Diago.Media
