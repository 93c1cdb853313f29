import Diago.Media.Finalize
import Diago.Media.Listen

/-! # Applying the peer's description

The stages of applying a remote description, in the order in which they read it
and change the session: a stage that refuses leaves what the stages before it
changed.
-/
namespace Diago.Media
open Lib SDP

structure RTPProfile where
  secure : Bool := false
  feedback : Bool := false
  dtls : Bool := false
  deriving DecidableEq, Repr

/-- What one call draws and what the system and the DTLS library do for it. `ending` is what
happens to a negotiation still running when a refused session is closed. -/
structure RemoteEnv where
  handle : ℕ
  tlsID : TLSID
  listen : ListenEnv
  dials : Bool
  ending : HandshakeEnv

def trimPre (pre s : Bytes) : Bytes := (cutPre pre s).getD s

/-- The trimmed value of the last attribute of a name, empty without one. -/
def lastValue (pre : Bytes) (attrs : List Bytes) : Bytes :=
  (((attrs.filterMap (cutPre pre)).getLast?).map trimSpace).getD []

def negotiateMediaDirection (remoteMode : Mode) (localPref : Option Mode) : Mode :=
  let pref := localPref.getD .sendrecv
  match remoteMode with
  | .inactive => .inactive
  | .sendonly => if pref = .inactive then .inactive else .recvonly
  | .recvonly => if pref = .inactive then .inactive else .sendonly
  | .sendrecv => pref

def readFingerprint (v : Bytes) : Except Err SdpFingerprint :=
  match (trimPre (lit "fingerprint:") v).splitOn space with
  | alg :: fp :: _ => .ok ⟨fp, alg⟩
  | _ => .error (.badFingerprint v)

def fingerprintAttrs (attrs : List Bytes) : List Bytes :=
  attrs.filter fun v => (cutPre (lit "fingerprint:") v).isSome

section Fold
variable [UnicodeCase]

def baseProfile (p : Bytes) : Option RTPProfile :=
  if p = lit "RTP/AVP" then some {}
  else if p = lit "RTP/AVPF" then some { feedback := true }
  else if p = lit "RTP/SAVP" then some { secure := true }
  else if p = lit "RTP/SAVPF" then some { secure := true, feedback := true }
  else none

/-- The axes of a transport protocol, none outside the RTP profiles. -/
def parseRTPProfile (proto : Bytes) : Option RTPProfile :=
  let p := toUpper (trimSpace proto)
  match cutPre (lit "UDP/TLS/") p with
  | some rest => ((baseProfile rest).filter (·.secure)).map fun prof => { prof with dtls := true }
  | none => baseProfile p

def sdpHasFingerprint (attrs : List Bytes) : Bool :=
  attrs.any fun a => (cutPre (lit "fingerprint:") (toLower (trimSpace a))).isSome

def isAudio (m : MediaSection) : Bool := m.media.mediaType = lit "audio"

def isUsable (m : MediaSection) : Bool :=
  isAudio m && (parseRTPProfile m.media.proto).isSome && 0 < m.media.port

/-- The first audio stream we can use, the first audio stream without one. -/
def audioStream (media : List MediaSection) : Option ℕ :=
  media.findIdx? isUsable <|> media.findIdx? isAudio

/-- The sections of a body and the one that carries the call. -/
def chooseAudio (body : Bytes) : Except Err (Sections × ℕ × MediaSection) :=
  match unmarshalSections body with
  | .error e => .error (.parse e)
  | .ok sections =>
    match audioStream sections.media with
    | none => .error .noAudio
    | some audio =>
      match sections.media[audio]? with
      | none => .error .noAudio
      | some m => .ok (sections, audio, m)

def hashSupported (alg : Bytes) : Bool :=
  toLower alg ∈ [lit "sha-1", lit "sha-224", lit "sha-256", lit "sha-384", lit "sha-512"]

def dtlsAttributes (attrs : List Bytes) : Except Err (SetupRole × List SdpFingerprint × Bytes) := do
  let fingerprints ← (fingerprintAttrs attrs).mapM readFingerprint
  if ¬ fingerprints.any (fun fp => hashSupported fp.alg) then
    throw (.noFingerprint fingerprints.length)
  let setup := lastValue (lit "setup:") attrs
  if setup = [] then throw .emptySetup
  match parseSetup setup with
  | none => throw (.unknownSetup setup)
  | some role => return (role, fingerprints, lastValue (lit "tls-id:") attrs)

/-- The o= id of the peer becomes ours; another id than ours brings its version along. -/
def MediaSession.adoptOrigin (si : SessionInformation) (s : MediaSession) : MediaSession :=
  { s with
    sessionID := si.sessionID
    sessionVersion :=
      if s.sessionID ≠ si.sessionID then si.sessionVersion + 1 else s.sessionVersion }

def applyOrigin (lines : List Line) : Op MediaSession Err Unit :=
  match sessionInformation lines with
  | .error e => Op.fail (.sdp e)
  | .ok si => Op.update (MediaSession.adoptOrigin si)

def applyProfile (md : MediaDescription) (attrs : List Bytes) : Op MediaSession Err Bool :=
  match parseRTPProfile md.proto with
  | none => Op.fail (.unsupportedProto md.proto)
  | some prof => do
    Op.update fun s => { s with remoteProto := md.proto }
    return prof.secure && !prof.dtls && !sdpHasFingerprint attrs

def applyStreams (media : List MediaSection) (audio : ℕ) : Op MediaSession Err Unit :=
  Op.update fun s =>
    { s with
      offeredStreams :=
        if s.remoteSDPIsAnswer then s.offeredStreams else ⟨media.map (·.media), audio⟩ }

/-- The codecs negotiation settles on; a session without codecs takes the peer's instead. -/
def MediaSession.negotiatedCodecs (g : Globals) (remote : List Codec) (s : MediaSession) :
    List Codec :=
  commonCodecs (g.sdpCodecPreferLocalOrder && !s.remoteSDPIsAnswer) s.codecs remote

def MediaSession.updateRemoteCodecs (g : Globals) (remote : List Codec) (s : MediaSession) :
    MediaSession :=
  { s with
    codecs := if s.codecs = [] then remote else s.codecs
    filterCodecs := if s.codecs = [] then s.filterCodecs else s.negotiatedCodecs g remote }

def applyCodecs (g : Globals) (md : MediaDescription) (attrs : List Bytes) :
    Op MediaSession Err Unit :=
  match codecsFromSDPRead md.formats attrs md.formats.length with
  | none => Op.fail .codecsOutOfRange
  | some [] => Op.fail .noCodecsFound
  | some codecs => do
    let s ← Op.read
    Op.update (MediaSession.updateRemoteCodecs g codecs)
    Op.require (s.codecs = [] ∨ s.negotiatedCodecs g codecs ≠ []) .noSupportedCodecs

def applyConnection (lines : List Line) (md : MediaDescription) : Op MediaSession Err Unit :=
  match connectionInformation lines with
  | .error e => Op.fail (.sdp e)
  | .ok ci => do
    Op.require (0 < md.port ∧ md.port ≤ 65535) (.unusablePort md.port)
    Op.require (ci.ip ≠ none) (.notAnIP ci.addressType)
    Op.update (MediaSession.setRemoteAddr { ip := ci.ip, port := md.port })

def applyDirection (lines : List Line) : Op MediaSession Err Unit :=
  Op.update fun s => { s with mode := some (negotiateMediaDirection (mediaDirection lines) s.prefMode) }

/-- What an a=crypto attribute names: its tag, profile and key. -/
structure CryptoAttr where
  tag : ℤ × Option NumError
  profile : ProtectionProfile
  inline : Bytes

/-- None for another attribute, an error for one with too few parts. -/
def readCrypto (v : Bytes) : Option (Except Err CryptoAttr) :=
  match cutPre (lit "crypto:") v with
  | none => none
  | some _ =>
    match v.splitOn space with
    | tag :: alg :: key :: _ => some (.ok
        { tag := atoi (trimPre (lit "crypto:") tag)
          profile := srtpProfileParse alg
          inline := trimPre (lit "inline:") key })
    | _ => some (.error (.badCrypto v))

/-- The attribute is one for the profile of the session. -/
def offersKey (alg : ProtectionProfile) (v : Bytes) : Bool :=
  match readCrypto v with
  | some (.ok c) => c.profile ≠ 0 ∧ alg = c.profile
  | _ => false

end Fold

section Lib
variable [SrtpLib]

/-- The context of an inline key: sixteen bytes of key and fourteen of salt, whatever the
profile. -/
def sdesContext (handle : ℕ) (c : CryptoAttr) : Except Err SrtpContext :=
  match base64Decode c.inline with
  | none => .error .badSDESKey
  | some keyBytes =>
    if keyBytes.length ≠ 30 then .error (.sdesKeyLength keyBytes.length)
    else
      match createContext handle (keyBytes.take 16) (keyBytes.drop 16) c.profile with
      | none => .error .sdesContext
      | some ctx => .ok ctx

def applyCrypto (handle : ℕ) : List Bytes → Op MediaSession Err Unit
  | [] => pure ()
  | v :: attrs =>
    match readCrypto v with
    | none => applyCrypto handle attrs
    | some (.error e) => Op.fail e
    | some (.ok c) => do
      Op.update fun s => { s with srtpRemoteTag := c.tag.1 }
      Op.require (c.tag.2 = none) (.badCryptoTag v)
      let s ← Op.read
      if c.profile = 0 ∨ s.srtpAlg ≠ c.profile then applyCrypto handle attrs
      else do
        let ctx ← Op.ofExcept (sdesContext handle c)
        Op.update fun s => { s with remoteCtxSRTP := some ctx }

end Lib

def candidateAttrs (attrs : List Bytes) : List Bytes :=
  (attrs.filter fun v => (cutPre (lit "candidate:") v).isSome).map trimSpace

/-- Feeds the peer's credentials and candidates to the agent; a fork compares them with the pair it continues. -/
def remoteICE (attrs : List Bytes) : Op MediaSession Err Unit := do
  let ufrag := lastValue (lit "ice-ufrag:") attrs
  let pwd := lastValue (lit "ice-pwd:") attrs
  Op.require (ufrag ≠ [] ∧ pwd ≠ []) .iceNoCredentials
  Op.require (lit "rtcp-mux" ∈ attrs) .iceNoRTCPMux
  let s ← Op.read
  match s.iceAgent, s.establishedICE with
  | some agent, _ => Op.update fun s =>
      { s with
        remoteICEUfrag := ufrag
        remoteICEPwd := pwd
        remoteICELite := decide (lit "ice-lite" ∈ attrs)
        iceAgent := some
          { agent with
            remoteUfrag := ufrag
            remotePwd := pwd
            remoteCandidates := agent.remoteCandidates ++ candidateAttrs attrs } }
  | none, some e => do
    Op.require (ufrag = e.remoteUfrag ∧ pwd = e.remotePwd) .iceCredentialsChanged
    Op.update fun s => { s with remoteICEUfrag := ufrag, remoteICEPwd := pwd }
  | none, none => Op.fail .iceNoPair

section Lib
variable [UnicodeCase] [SrtpLib]

/-- The negotiation armed for the attributes just read. -/
def MediaSession.armedFor (s : MediaSession) (fingerprints : List SdpFingerprint)
    (tlsID : Bytes) : Armed :=
  { role := if s.dtlsActsAsClient then .client else .server
    fingerprints := fingerprints
    assoc :=
      { setup := if s.dtlsActsAsClient then .active else .passive
        localFingerprints := fingerprintSet s.localDTLSFingerprints
        remoteFingerprints := fingerprintSet fingerprints
        remoteTLSID := tlsID
        localTLSID := s.localTLSID
        laddr := s.laddr
        raddr := s.raddr } }

def MediaSession.arm (s : MediaSession) (fingerprints : List SdpFingerprint) (tlsID : Bytes) :
    MediaSession :=
  { s with onFinalize := some (s.armedFor fingerprints tlsID) }

def armDTLSHandshake (env : RemoteEnv) (fingerprints : List SdpFingerprint) (tlsID : Bytes) :
    Op MediaSession Err Unit := do
  let s ← Op.read
  Op.require (s.iceEnabled = true ∨ env.dials = true) .dtlsConn
  Op.update fun s => s.arm fingerprints tlsID

/-- The session gives up the keys of the association it had. -/
def MediaSession.unkeyed (s : MediaSession) : MediaSession :=
  { s with dtlsKeyed := false, dtlsAssoc := none, localCtxSRTP := none, remoteCtxSRTP := none }

def rebindForAssociation (g : Globals) (env : RemoteEnv) : Op MediaSession Err Unit := do
  Op.update fun s => { s with rtpConn := none, rtcpConn := none }
  fun s =>
    match createListeners g env.listen false 0 s with
    | (.ok _, t) => (.ok (), t)
    | (.error e, t) => (.error (.associationListen e), t)

def armRebound (env : RemoteEnv) (rebound : Bool) (fingerprints : List SdpFingerprint)
    (tlsID : Bytes) : Op MediaSession Err Unit := fun s =>
  match armDTLSHandshake env fingerprints tlsID s with
  | (.ok _, t) => (.ok (), t)
  | (.error e, t) => (.error e, if rebound then t.close env.ending else t)

def negotiateDTLSAssociation (g : Globals) (env : RemoteEnv) (setup : SetupRole)
    (fingerprints : List SdpFingerprint) (tlsID : Bytes) : Op MediaSession Err Unit := do
  let s ← Op.read
  match s.dtlsAssoc with
  | none => do
    Op.update fun s => s.newAnswerTLSID env.tlsID tlsID
    armDTLSHandshake env fingerprints tlsID
  | some a =>
    match a.changedBy s setup fingerprints tlsID with
    | none => pure ()
    | some reason => do
      Op.require (s.iceEnabled = false) (.associationNeedsICERestart reason)
      -- still on the sockets of the session this one was forked from
      Op.only (s.laddr = a.laddr) do
        Op.require (s.remoteSDPIsAnswer = false) (.associationOverSameTransport reason)
        rebindForAssociation g env
      Op.update fun s => s.unkeyed.newAnswerTLSID env.tlsID tlsID
      armRebound env (s.laddr = a.laddr) fingerprints tlsID

/-- Records the peer's role and tls-id and settles the association. -/
def applyDTLSAttributes (g : Globals) (env : RemoteEnv) (attrs : List Bytes) :
    Op MediaSession Err Unit := do
  let (setup, fingerprints, tlsID) ← Op.ofExcept (dtlsAttributes attrs)
  Op.update fun s => { s with dtlsRemoteSetup := some setup, dtlsRemoteTLSID := tlsID }
  negotiateDTLSAssociation g env setup fingerprints tlsID

def applyDTLS (g : Globals) (env : RemoteEnv) (attrs : List Bytes) : Op MediaSession Err Unit := do
  let s ← Op.read
  Op.only (s.dtlsSRTP = true) (applyDTLSAttributes g env attrs)

/-- A key of ours without one of the peer's is dropped, unless the profile needs SDES: then the
body is refused. -/
def settleContexts (secureRequest : Bool) (proto : Bytes) : Op MediaSession Err Unit := do
  Op.update fun s =>
    { s with
      localCtxSRTP :=
        if s.remoteCtxSRTP = none ∧ ¬ secureRequest then none else s.localCtxSRTP }
  let s ← Op.read
  Op.require (¬ (secureRequest ∧ s.remoteCtxSRTP = none)) (.noCommonCrypto proto)

def applyICE (attrs : List Bytes) : Op MediaSession Err Unit := do
  let s ← Op.read
  Op.only (s.iceEnabled = true) (remoteICE attrs)

/-- The part of a description that says what the stream is and where it goes. Gives whether the
media must be keyed by SDES. -/
def applyStream (g : Globals) (sections : Sections) (audio : ℕ) (m : MediaSection) :
    Op MediaSession Err Bool := do
  let lines := sections.description m
  let attrs := values lines (lit "a")
  applyOrigin lines
  let secureRequest ← applyProfile m.media attrs
  applyStreams sections.media audio
  applyCodecs g m.media attrs
  applyConnection lines m.media
  applyDirection lines
  return secureRequest

def applyKeying (g : Globals) (env : RemoteEnv) (attrs : List Bytes) (secureRequest : Bool)
    (proto : Bytes) : Op MediaSession Err Unit := do
  applyCrypto env.handle attrs
  applyICE attrs
  applyDTLS g env attrs
  settleContexts secureRequest proto

def MediaSession.remoteSDP (g : Globals) (env : RemoteEnv) (body : Bytes) :
    Op MediaSession Err Unit := do
  let (sections, audio, m) ← Op.ofExcept (chooseAudio body)
  let secureRequest ← applyStream g sections audio m
  applyKeying g env (values (sections.description m) (lit "a")) secureRequest m.media.proto

end Lib
end Diago.Media
