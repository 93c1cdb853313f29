import Diago.Media.Association

/-! # The description a session writes

An offer is written from the local settings; an answer mirrors the streams and
the protocol of the offer. Every stream but the audio one is rejected in its
place.
-/
namespace Diago.Media
open Lib SDP

structure DTLSSetup where
  setup : SetupRole
  fingerprints : List SdpFingerprint
  /-- Empty to write none. -/
  tlsID : Bytes
  deriving DecidableEq

def line (type value : Bytes) : Line := ⟨type, value⟩

def ipText : Option IP → Bytes
  | some ip => ipString ip
  | none => lit "<nil>"

def sdpIP (ip : Option IP) : Bytes := if (to4 ip).isSome then lit "IP4" else lit "IP6"

def iceCandidateSDP (c : Candidate) : Bytes :=
  lit "candidate:" ++ joinSpace
    [c.foundation, formatNat c.component, c.network, formatNat c.priority, c.address,
      formatNat c.port, lit "typ", c.type]

/-- The m= line alone: a stream rejected keeps its protocol and formats, on port zero. -/
def rejectedSection (md : MediaDescription) : MediaSection :=
  let rejected := { md with port := 0, portNumbers := 0 }
  ⟨rejected, [line (lit "m") rejected.value]⟩

def OfferedStreams.rejectedBefore (o : OfferedStreams) : List MediaSection :=
  (o.media.take o.audio).map rejectedSection

def OfferedStreams.rejectedAfter (o : OfferedStreams) : List MediaSection :=
  (o.media.drop (o.audio + 1)).map rejectedSection

def cryptoLines (sdes : Option SdesInline) : List Line :=
  (sdes.toList.filter fun d => d.alg ≠ []).map fun d => attr d.value

def dtlsLines : Option DTLSSetup → List Line
  | none => []
  | some d =>
    [attr (lit "setup:" ++ d.setup.text)] ++
      ((d.fingerprints.filter fun fp => fp.fingerprint ≠ []).map fun fp =>
        attr (lit "fingerprint:" ++ fp.alg ++ space :: fp.fingerprint)) ++
      (if d.tlsID ≠ [] then [attr (lit "tls-id:" ++ d.tlsID)] else [])

def iceLines : Option ICESetup → List Line
  | none => []
  | some i =>
    [attr (lit "ice-ufrag:" ++ i.ufrag), attr (lit "ice-pwd:" ++ i.pwd)] ++
      i.candidates.map attr ++ (if i.rtcpMux then [attr (lit "rtcp-mux")] else [])

def iceLiteLines (ice : Option ICESetup) : List Line :=
  if ice.any (·.lite) then [attr (lit "ice-lite")] else []

structure Description where
  sessionID : UInt64
  sessionVersion : UInt64
  rtpProfile : Bytes
  originIP : Option IP
  connectionIP : Option IP
  rtpPort : ℤ
  mode : Option Mode
  codecs : List Codec
  sdes : Option SdesInline
  dtls : Option DTLSSetup
  ice : Option ICESetup
  streams : OfferedStreams

def Description.origin (d : Description) : Bytes :=
  joinSpace [lit "-", formatNat d.sessionID.toNat, formatNat d.sessionVersion.toNat, lit "IN",
    sdpIP d.originIP, ipText d.originIP]

def Description.sessionLines (d : Description) : List Line :=
  [line (lit "v") (lit "0"), line (lit "o") d.origin, line (lit "s") (lit "Sip Go Media"),
    line (lit "c") (joinSpace [lit "IN", sdpIP d.connectionIP, ipText d.connectionIP]),
    line (lit "t") (lit "0 0")] ++ iceLiteLines d.ice

def Description.audioMedia (d : Description) : MediaDescription :=
  { mediaType := lit "audio"
    port := d.rtpPort
    portNumbers := 0
    proto := d.rtpProfile
    formats := d.codecs.map formatOf }

section Fold
variable [UnicodeCase]

def Description.audioSection (d : Description) : MediaSection :=
  ⟨d.audioMedia,
    line (lit "m") d.audioMedia.value ::
      (d.codecs.flatMap formatRTPMap ++
        [attr (lit "ptime:20"), attr (lit "maxptime:20"),
          attr ((d.mode.map Mode.text).getD [])] ++
        cryptoLines d.sdes ++ dtlsLines d.dtls ++ iceLines d.ice)⟩

def Description.sections (d : Description) : Sections :=
  { session := d.sessionLines
    media := d.streams.rejectedBefore ++ d.audioSection :: d.streams.rejectedAfter }

def generateSDPForAudio (d : Description) : Bytes := marshalLines d.sections.lines

end Fold

/-- What one call draws: the time, random bytes, the handle of a new context and a tls-id. -/
structure LocalEnv where
  ntp : UInt64
  random : ℕ → UInt8
  handle : ℕ
  tlsID : TLSID

def MediaSession.agentICESetup (s : MediaSession) (agent : ICEAgent) : ICESetup :=
  { ufrag := agent.ufrag
    pwd := agent.pwd
    candidates := agent.candidates.map iceCandidateSDP
    rtcpMux := s.rtcpMux
    lite := s.iceConf.any (·.lite) }

/-- Our side of the pair: the agent's, or the one a fork continues. -/
def MediaSession.localICESetup (s : MediaSession) : Option ICESetup :=
  match s.iceAgent with
  | some agent => some (s.agentICESetup agent)
  | none => s.establishedICE.map (·.localSetup)

section Lib
variable [UnicodeCase] [SrtpLib]

/-- SDES is written in an offer, and in an answer to an offer that had a usable key. -/
def MediaSession.offersSDES (s : MediaSession) : Bool :=
  s.secureRTP = .sdes ∧ (s.raddr.ip = none ∨ s.remoteCtxSRTP.isSome)

/-- The a=crypto line and the context behind it. The line stands also when the context could
not be created, with our own tag. -/
def MediaSession.localSDES (s : MediaSession) (env : LocalEnv) :
    Option SdesInline × Option SrtpContext :=
  if ¬ s.offersSDES then (none, none) else
  match generateMasterKeySalt env.random s.srtpAlg with
  | none => (none, none)
  | some (keysalt, keyLen) =>
    let inline : SdesInline := ⟨srtpProfileString s.srtpAlg, base64Encode keysalt, 1⟩
    match createContext env.handle (keysalt.take keyLen) (keysalt.drop keyLen) s.srtpAlg with
    | none => (some inline, none)
    | some ctx =>
      (some { inline with tag := if 0 < s.srtpRemoteTag then s.srtpRemoteTag else 1 }, some ctx)

/-- The protocol we would offer; `keyed` says that an SDES context was created for it. -/
def MediaSession.offeredProfile (g : Globals) (s : MediaSession) (keyed : Bool) : Bytes :=
  if s.secureRTP = .dtls then lit "UDP/TLS/RTP/SAVP"
  else if keyed ∧ ¬ g.rtpProfileSAVPDisable then lit "RTP/SAVP"
  else lit "RTP/AVP"

/-- The a=setup value of the description: an answer that continues an association keeps its
role. -/
def MediaSession.advertisedSetup (s : MediaSession) : SetupRole :=
  match s.dtlsAssoc with
  | some a => if s.answeringOffer then a.setup else s.localDTLSSetup
  | none => s.localDTLSSetup

def MediaSession.localDTLS (s : MediaSession) (env : LocalEnv) : Option DTLSSetup :=
  if s.secureRTP = .dtls then
    some ⟨s.advertisedSetup, s.localDTLSFingerprints, (s.localSDPTLSID env.tlsID).1⟩
  else none

/-- The session after a description was written: keyed for SDES, with the tls-id it offered, and
with the o= id of the first description and a version counted up on every later one. -/
def MediaSession.described (s : MediaSession) (env : LocalEnv) : MediaSession :=
  { s with
    localCtxSRTP := (s.localSDES env).2 <|> s.localCtxSRTP
    localTLSID :=
      if s.secureRTP = .dtls then (s.localSDPTLSID env.tlsID).2.localTLSID else s.localTLSID
    sessionID := if s.sessionID = 0 then env.ntp >>> 32 else s.sessionID
    sessionVersion := if s.sessionID = 0 then env.ntp >>> 32 else s.sessionVersion + 1 }

def MediaSession.description (g : Globals) (env : LocalEnv) (s : MediaSession) : Description :=
  { sessionID := (s.described env).sessionID
    sessionVersion := (s.described env).sessionVersion
    rtpProfile :=
      if s.answeringOffer then s.remoteProto else s.offeredProfile g (s.localSDES env).2.isSome
    originIP := s.laddr.ip
    connectionIP := s.externalIP <|> s.laddr.ip
    rtpPort := s.laddr.port
    mode := s.mode <|> s.prefMode
    codecs := s.activeCodecs
    sdes := (s.localSDES env).1
    dtls := s.localDTLS env
    ice := s.localICESetup
    streams := s.offeredStreams }

/-- The next description: the static one when the session has it. -/
def MediaSession.localSDP (g : Globals) (env : LocalEnv) (s : MediaSession) :
    Bytes × MediaSession :=
  if s.sdp ≠ [] then (s.sdp, s)
  else (generateSDPForAudio (s.description g env), s.described env)

end Lib
end Diago.Media
