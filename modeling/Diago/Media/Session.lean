import Diago.Lib.Op
import Diago.Media.Codec
import Diago.Media.Srtp

/-! # The state of a media session

What the caller sets and what negotiation records. A DTLS association is
described by what a later offer or answer is compared against; the SRTP
contexts are the ones its handshake keyed.
-/
namespace Diago.Media
open Lib SDP

structure UDPAddr where
  ip : Option IP := none
  port : ℤ := 0
  zone : Bytes := []
  deriving DecidableEq

inductive SecureRTP
  | none
  | sdes
  | dtls
  deriving DecidableEq, Repr

inductive EndpointRole
  | unknown
  | offerer
  | answerer
  deriving DecidableEq, Repr

inductive SetupRole
  | active
  | passive
  | actpass
  deriving DecidableEq, Repr

def SetupRole.text : SetupRole → Bytes
  | .active => lit "active"
  | .passive => lit "passive"
  | .actpass => lit "actpass"

inductive NAT
  | disabled
  | symetric
  deriving DecidableEq, Repr

/-- A certificate by the SHA-256 digest of its leaf, none when it has no readable leaf. -/
structure Certificate where
  digest : Option (Fin 32 → UInt8)

structure DTLSConfig where
  certificates : List Certificate := []
  /-- The a=setup value to advertise, by whether we are the offerer. -/
  sdpSetupRole : Option (Bool → SetupRole) := none

structure ICEConfig where
  stunServers : List Bytes := []
  lite : Bool := false
  deriving DecidableEq

structure SdpFingerprint where
  fingerprint : Bytes
  alg : Bytes
  deriving DecidableEq

structure Candidate where
  foundation : Bytes
  component : ℕ
  network : Bytes
  priority : ℕ
  address : Bytes
  port : ℕ
  type : Bytes
  deriving DecidableEq

structure ICEAgent where
  ufrag : Bytes
  pwd : Bytes
  candidates : List Candidate
  remoteUfrag : Bytes := []
  remotePwd : Bytes := []
  /-- The candidate texts it was given, those it skips as malformed included. -/
  remoteCandidates : List Bytes := []
  deriving DecidableEq

structure ICESetup where
  ufrag : Bytes
  pwd : Bytes
  candidates : List Bytes
  rtcpMux : Bool
  lite : Bool
  deriving DecidableEq

structure EstablishedICE where
  localSetup : ICESetup
  remoteUfrag : Bytes
  remotePwd : Bytes
  deriving DecidableEq

structure DTLSAssociation where
  setup : SetupRole
  localFingerprints : List Bytes
  remoteFingerprints : List Bytes
  remoteTLSID : Bytes
  localTLSID : Bytes
  laddr : UDPAddr
  raddr : UDPAddr
  deriving DecidableEq

/-- A socket of the session: bound, a nil one left by a failed bind, or a stream of the ICE pair. -/
inductive Conn
  | udp (laddr : UDPAddr)
  | unbound
  | ice (raddr : UDPAddr)
  deriving DecidableEq

structure OfferedStreams where
  media : List MediaDescription := []
  audio : ℕ := 0
  deriving DecidableEq

inductive Stage
  | checks
  | dial
  | handshake
  | retire
  | state
  | keyLen
  | saltLen
  | keyingMaterial
  | localContext
  | remoteContext
  deriving DecidableEq, Repr

inductive Change
  | roles
  | remoteFingerprints
  | localFingerprints
  | tlsID
  | localTransport
  | remoteTransport
  deriving DecidableEq, Repr

/-- The errors, one for each place that returns one. The two panics are `codecsOutOfRange`, a
codec written past the end of its destination, and `noConn`, a write on a nil connection. -/
inductive Err
  | parse (e : SDP.Err)
  | sdp (e : SDP.Err)
  | noAudio
  | unsupportedProto (proto : Bytes)
  | codecsOutOfRange
  | noCodecsFound
  | noSupportedCodecs
  | unusablePort (port : ℤ)
  | notAnIP (addressType : Bytes)
  | badCrypto (attr : Bytes)
  | badCryptoTag (attr : Bytes)
  | badSDESKey
  | sdesKeyLength (n : ℕ)
  | sdesContext
  | iceNoCredentials
  | iceNoRTCPMux
  | iceCredentialsChanged
  | iceNoPair
  | badFingerprint (attr : Bytes)
  | noFingerprint (n : ℕ)
  | emptySetup
  | unknownSetup (v : Bytes)
  | associationNeedsICERestart (reason : Change)
  | associationOverSameTransport (reason : Change)
  | associationListen (e : Err)
  | dtlsConn
  | noCommonCrypto (proto : Bytes)
  | noFormats
  | noMode
  | noLocalAddr
  | noCertificate
  | certificateNoFingerprint (i : ℕ)
  | bind
  | noPorts (e : Err)
  | iceAgent
  | iceInit
  | noICEAgent
  | finalize (stage : Stage)
  | finalizeInProgress
  | contextDone
  | finalizeTimeout
  | dtlsNotKeyed
  | noConn
  | marshal
  | encrypt
  | write
  | shortWrite
  | shortBuffer
  | read
  | rtpParse
  deriving DecidableEq

structure Settings where
  codecs : List Codec := []
  remoteSDPIsAnswer : Bool := false
  /-- The direction we prefer, none when it was not set. -/
  prefMode : Option Mode := none
  laddr : UDPAddr := {}
  raddr : UDPAddr := {}
  externalIP : Option IP := none
  secureRTP : SecureRTP := .none
  srtpAlg : ProtectionProfile := 0
  dtlsConf : DTLSConfig := {}
  iceConf : Option ICEConfig := none
  dtlsRole : EndpointRole := .unknown
  rtpNAT : NAT := .disabled

inductive HandshakeRole
  | client
  | server
  deriving DecidableEq, Repr

/-- The negotiation a remote description armed: the role of the handshake, the fingerprints
the peer is checked against and the association it records. -/
structure Armed where
  role : HandshakeRole
  fingerprints : List SdpFingerprint
  assoc : DTLSAssociation
  deriving DecidableEq

/-- A negotiation on a goroutine of its own, with its result once it has returned. -/
structure FinalizeRun where
  armed : Armed
  result : Option (Except Err Unit) := none

structure MediaSession extends Settings where
  sdp : Bytes := []
  mode : Option Mode := none
  filterCodecs : List Codec := []
  rtpConn : Option Conn := none
  rtcpConn : Option Conn := none
  rtcpRaddr : UDPAddr := {}
  localCtxSRTP : Option SrtpContext := none
  remoteCtxSRTP : Option SrtpContext := none
  srtpRemoteTag : ℤ := 0
  learnedRTPFrom : Option UDPAddr := none
  learnedRTCPFrom : Option UDPAddr := none
  remoteProto : Bytes := []
  offeredStreams : OfferedStreams := {}
  srtpAuthFailures : ℕ := 0
  dtlsRemoteSetup : Option SetupRole := none
  localTLSID : Bytes := []
  dtlsRemoteTLSID : Bytes := []
  iceAgent : Option ICEAgent := none
  iceUDPConn : Option UDPAddr := none
  iceMux : Option UDPAddr := none
  rtcpMux : Bool := false
  remoteICEUfrag : Bytes := []
  remoteICEPwd : Bytes := []
  remoteICELite : Bool := false
  establishedICE : Option EstablishedICE := none
  dtlsAssoc : Option DTLSAssociation := none
  onFinalize : Option Armed := none
  finalizeRun : Option FinalizeRun := none
  finalizeErr : Option Err := none
  dtlsUnkeyed : Bool := false
  dtlsKeyed : Bool := false
  sessionID : UInt64 := 0
  sessionVersion : UInt64 := 0

structure Globals where
  rtpPortStart : ℤ := 0
  rtpPortEnd : ℤ := 0
  rtpProfileSAVPDisable : Bool := false
  sdpCodecPreferLocalOrder : Bool := false

namespace MediaSession

def iceEnabled (s : MediaSession) : Bool := s.iceConf.isSome && s.secureRTP == .dtls

def dtlsSRTP (s : MediaSession) : Bool :=
  !s.dtlsConf.certificates.isEmpty || s.secureRTP == .dtls

def answeringOffer (s : MediaSession) : Bool := s.remoteProto != [] && !s.remoteSDPIsAnswer

def dtlsEndpointRole (s : MediaSession) : EndpointRole :=
  if s.dtlsRole ≠ .unknown then s.dtlsRole
  else if s.answeringOffer then .answerer
  else .offerer

/-- What negotiation settled on, the local list until then. -/
def activeCodecs (s : MediaSession) : List Codec :=
  if s.filterCodecs ≠ [] then s.filterCodecs else s.codecs

def setRemoteAddr (raddr : UDPAddr) (s : MediaSession) : MediaSession :=
  { s with
    raddr := raddr
    rtcpRaddr := { ip := raddr.ip, port := raddr.port + 1, zone := raddr.zone } }

/-- A session for a renegotiation: the transport, the settings and, once keyed, the association
with its contexts. -/
def fork (s : MediaSession) : MediaSession :=
  { laddr := s.laddr
    codecs := s.codecs
    prefMode := s.prefMode
    rtpNAT := s.rtpNAT
    dtlsConf := s.dtlsConf
    iceConf := s.iceConf
    dtlsRole := s.dtlsRole
    externalIP := s.externalIP
    remoteSDPIsAnswer := s.remoteSDPIsAnswer
    secureRTP := s.secureRTP
    srtpAlg := s.srtpAlg
    rtpConn := s.rtpConn
    rtcpConn := s.rtcpConn
    sdp := s.sdp
    sessionID := s.sessionID
    sessionVersion := s.sessionVersion
    rtcpMux := s.rtcpMux
    iceMux := s.iceMux
    localTLSID := s.localTLSID
    offeredStreams := s.offeredStreams
    establishedICE := s.establishedICE
    dtlsAssoc := s.dtlsAssoc
    localCtxSRTP := if s.dtlsAssoc.isSome then s.localCtxSRTP else none
    remoteCtxSRTP := if s.dtlsAssoc.isSome then s.remoteCtxSRTP else none
    dtlsKeyed := s.dtlsAssoc.isSome }

end MediaSession
end Diago.Media
