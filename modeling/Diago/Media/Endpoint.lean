import Diago.Media.Exchange

/-! # DTLS endpoints

A session that runs DTLS-SRTP without ICE and leaves its role and address to the
defaults stays one when it is forked, moved to another port, describes itself or
applies the description of another one.
-/
namespace Diago.Media
open Lib SDP Op

structure Standing where
  sdp : Bytes
  secureRTP : SecureRTP
  iceConf : Option ICEConfig
  iceAgent : Option ICEAgent
  establishedICE : Option EstablishedICE
  dtlsConf : DTLSConfig
  dtlsRole : EndpointRole
  externalIP : Option IP

def MediaSession.standing (s : MediaSession) : Standing :=
  { sdp := s.sdp
    secureRTP := s.secureRTP
    iceConf := s.iceConf
    iceAgent := s.iceAgent
    establishedICE := s.establishedICE
    dtlsConf := s.dtlsConf
    dtlsRole := s.dtlsRole
    externalIP := s.externalIP }

/-- DTLS-SRTP without ICE, with role and address left to the defaults. -/
structure Standing.Plain (v : Standing) : Prop where
  sdp : v.sdp = []
  secureRTP : v.secureRTP = .dtls
  iceConf : v.iceConf = none
  iceAgent : v.iceAgent = none
  establishedICE : v.establishedICE = none
  setupRole : v.dtlsConf.sdpSetupRole = none
  dtlsRole : v.dtlsRole = .unknown
  externalIP : v.externalIP = none

structure MediaSession.Endpoint (s : MediaSession) : Prop where
  plain : s.standing.Plain
  codecs : s.codecs ≠ []
  names : ∀ c ∈ s.codecs ++ s.filterCodecs, OneLine c.name
  laddr : s.laddr.Usable
  remoteProto : NoSpace s.remoteProto
  streams : s.offeredStreams.audio = 0 ∧ s.offeredStreams.media.length ≤ 1 ∧
    ∀ md ∈ s.offeredStreams.media, md.Words

namespace MediaSession.Endpoint
variable {s t : MediaSession}

theorem iceEnabled (hs : s.Endpoint) : s.iceEnabled = false := by
  have hice : s.iceConf = none := hs.plain.iceConf
  simp [MediaSession.iceEnabled, hice]

theorem fork (hs : s.Endpoint) : s.fork.Endpoint :=
  { hs with
    plain := { hs.plain with iceAgent := rfl }
    names := fun c hc => hs.names c (by
      simp only [MediaSession.fork, List.append_nil] at hc
      exact List.mem_append_left _ hc)
    remoteProto := NoSpace.nil }

theorem withAnswer (hs : s.Endpoint) (b : Bool) :
    MediaSession.Endpoint { s with remoteSDPIsAnswer := b } :=
  { hs with }

/-- Moving to another port leaves an endpoint, and all of it but its sockets, the external
address and the SRTP profile. -/
theorem init {g : Globals} {env : InitEnv} {n : ℤ} (hs : s.Endpoint) (port : ℤ)
    (h : MediaSession.init g env { s with laddr := { s.laddr with port := port } } =
      (.ok n, t)) :
    t.Endpoint ∧ ∀ {γ : Type} (f : MediaSession → γ),
      (∀ s x a e, f { MediaSession.withSockets s x with srtpAlg := a, externalIP := e } = f s) →
        f t = f s := by
  obtain ⟨-, -, husable, hoff⟩ := init_ok
    (s := { s with laddr := { s.laddr with port := port } }) hs.iceEnabled (fun _ => hs.laddr.zone) h
  obtain ⟨alg, ext, x, ht, hext⟩ : ∃ alg ext x, t =
      { MediaSession.withSockets s x with srtpAlg := alg, externalIP := ext } ∧
      ext = none := by
    refine ⟨t.srtpAlg, t.externalIP, t.sockets, ?_, ?_⟩
    · have hback := congrArg (fun u => { MediaSession.withSockets u t.sockets with
        srtpAlg := t.srtpAlg, externalIP := t.externalIP }) hoff
      exact hback
    · have hnone : s.externalIP = none := hs.plain.externalIP
      have heq : t.externalIP = _ := congrArg (·.externalIP) hoff
      rw [heq]
      simp [MediaSession.offSockets, MediaSession.withSockets, MediaSession.dropExternalIP,
        MediaSession.defaultAlg, hnone]
  subst hext
  rw [ht] at husable ⊢
  exact ⟨⟨{ hs.plain with externalIP := rfl }, hs.codecs, hs.names, husable, hs.remoteProto,
    hs.streams⟩, fun f hf => hf s x alg none⟩

end MediaSession.Endpoint

section Lib
variable [UnicodeCase] [SrtpLib]

/-- A description of one audio stream whose DTLS part is `x`, for a session on `laddr`. -/
structure Description.Carries (d : Description) (x : DTLSSetup) (laddr : UDPAddr) : Prop where
  legible : d.Legible
  ice : d.ice = none
  dtls : d.dtls = some x
  attributes : x.Legible
  one : d.sections.media = [d.audioSection]
  connectionIP : d.connectionIP = laddr.ip
  rtpPort : d.rtpPort = laddr.port

namespace MediaSession.Endpoint
variable {s t : MediaSession}

omit [UnicodeCase] in
theorem localSDES (hs : s.Endpoint) (env : LocalEnv) : s.localSDES env = (none, none) := by
  have hsecure : s.secureRTP = .dtls := hs.plain.secureRTP
  simp [MediaSession.localSDES, MediaSession.offersSDES, hsecure]

theorem carries (hs : s.Endpoint) (g : Globals) (env : LocalEnv)
    (hid : ∀ b ∈ (s.localSDPTLSID env.tlsID).1, Graphic b) :
    (s.description g env).Carries
      ⟨s.advertisedSetup, s.localDTLSFingerprints, (s.localSDPTLSID env.tlsID).1⟩ s.laddr := by
  have hsecure : s.secureRTP = .dtls := hs.plain.secureRTP
  have hice : s.localICESetup = none := by
    have hagent : s.iceAgent = none := hs.plain.iceAgent
    have hpair : s.establishedICE = none := hs.plain.establishedICE
    simp [MediaSession.localICESetup, hagent, hpair]
  have hdtls : s.localDTLS env =
      some ⟨s.advertisedSetup, s.localDTLSFingerprints, (s.localSDPTLSID env.tlsID).1⟩ :=
    if_pos hsecure
  have hsdes := hs.localSDES env
  have hactive : s.activeCodecs ≠ [] ∧ ∀ c ∈ s.activeCodecs, OneLine c.name := by
    unfold MediaSession.activeCodecs
    split
    · exact ⟨‹_›, fun c hc => hs.names c (List.mem_append_right _ hc)⟩
    · exact ⟨hs.codecs, fun c hc => hs.names c (List.mem_append_left _ hc)⟩
  have hproto : (s.description g env).rtpProfile ≠ [] ∧
      NoSpace (s.description g env).rtpProfile := by
    have hown : lit "UDP/TLS/RTP/SAVP" ≠ [] ∧ ∀ b ∈ lit "UDP/TLS/RTP/SAVP", Graphic b := by decide
    simp only [MediaSession.description, MediaSession.offeredProfile, hsecure, if_true]
    split
    · rename_i hanswering
      simp only [MediaSession.answeringOffer, Bool.and_eq_true, bne_iff_ne] at hanswering
      exact ⟨hanswering.1, hs.remoteProto⟩
    · exact ⟨hown.1, .of_graphic hown.2⟩
  obtain ⟨haudio, hlen, hwords⟩ := hs.streams
  refine ⟨⟨hproto, ?_, hactive.1, hactive.2, hwords, ?_, ?_, ?_⟩, hice, hdtls,
    ⟨localDTLSFingerprints_graphic s, hid⟩, ?_, ?_, rfl⟩
  · have hport := hs.laddr.port
    change -2 ^ 63 ≤ s.laddr.port ∧ s.laddr.port < 2 ^ 63
    omega
  · simp [MediaSession.description, hsdes]
  · intro x hx
    obtain rfl := Option.some.inj (hdtls.symm.trans hx)
    exact ⟨.of_graphic hid, fun fp hfp => ⟨.of_graphic (localDTLSFingerprints_graphic s fp hfp).1,
      .of_graphic (localDTLSFingerprints_graphic s fp hfp).2⟩⟩
  · simp [MediaSession.description, hice]
  · have hdrop : s.offeredStreams.media.drop 1 = [] := List.drop_eq_nil_of_le hlen
    simp [Description.sections, MediaSession.description, OfferedStreams.rejectedBefore,
      OfferedStreams.rejectedAfter, haudio, hdrop]
  · have hext : s.externalIP = none := hs.plain.externalIP
    simp [MediaSession.description, hext]

theorem described (hs : s.Endpoint) (env : LocalEnv) : (s.described env).Endpoint :=
  ⟨hs.plain, hs.codecs, hs.names, hs.laddr, hs.remoteProto, hs.streams⟩

theorem localSDP (hs : s.Endpoint) (g : Globals) (env : LocalEnv) :
    s.localSDP g env = (generateSDPForAudio (s.description g env), s.described env) := by
  have hsdp : s.sdp = [] := hs.plain.sdp
  simp [MediaSession.localSDP, hsdp]

end MediaSession.Endpoint

namespace MediaSession.Endpoint
variable {s t : MediaSession}

theorem remoteSDP {g : Globals} {env : RemoteEnv} {d : Description} {x : DTLSSetup}
    {laddr : UDPAddr} (hs : s.Endpoint) (hd : d.Carries x laddr) (hladdr : laddr.Usable)
    (h : MediaSession.remoteSDP g env (generateSDPForAudio d) s = (.ok (), t)) :
    t.Endpoint ∧ t.dtlsConf = s.dtlsConf ∧ t.remoteSDPIsAnswer = s.remoteSDPIsAnswer ∧
      t.finalizeRun = s.finalizeRun ∧ t.finalizeErr = s.finalizeErr ∧
      t.remoteProto = d.rtpProfile ∧ t.dtlsRemoteSetup = some x.setup ∧
      t.dtlsRemoteTLSID = x.tlsID ∧ (s.Continues t x laddr ∨ s.Arms t env x laddr) := by
  obtain ⟨ip, hip⟩ := Option.ne_none_iff_exists'.mp hladdr.ip
  obtain ⟨r, hbare, husable, hremote, hremoteID, hcase⟩ := remoteSDP_written hd.legible hd.ice
    hd.dtls hd.attributes hd.one (hd.connectionIP.trans hip) hs.plain.secureRTP hs.plain.iceConf
    hs.plain.setupRole hs.laddr h
  have hraddr : ({ ip := some ip, port := d.rtpPort } : UDPAddr) = laddr := by
    obtain ⟨ip', port, zone⟩ := laddr
    simp only at hip
    simp [hip, hd.rtpPort, show zone = [] from hladdr.zone]
  rw [hraddr] at hcase
  obtain ⟨x', k, ht⟩ : ∃ x' k, t = MediaSession.withKeys (MediaSession.withSockets
      (s.onStream g r d.lines d.audioMedia ⟨[d.audioMedia], 0⟩) x') k := by
    refine ⟨t.sockets, t.keyFields, ?_⟩
    have hback := congrArg (fun u => MediaSession.withKeys (MediaSession.withSockets u t.sockets)
      t.keyFields) hbare
    exact hback
  have hcodecs : t.codecs = s.codecs := by
    rw [ht]
    exact if_neg hs.codecs
  have hfilter : t.filterCodecs = s.negotiatedCodecs g r.remote := by
    rw [ht]
    exact if_neg hs.codecs
  have hendpoint : t.Endpoint := by
    refine ⟨?_, hcodecs ▸ hs.codecs, ?_, husable, ?_, ?_⟩
    · rw [ht]
      exact hs.plain
    · rw [hcodecs, hfilter]
      intro c hc
      rcases List.mem_append.mp hc with hc | hc
      · exact hs.names c (List.mem_append_left _ hc)
      · obtain ⟨lc, hlc, hname⟩ := commonCodecs_name c hc
        exact hname ▸ hs.names lc (List.mem_append_left _ hlc)
    · rw [ht]
      exact hd.legible.proto.2
    · have hstreams : t.offeredStreams =
          if s.remoteSDPIsAnswer then s.offeredStreams else ⟨[d.audioMedia], 0⟩ := by
        rw [ht]
        rfl
      rw [hstreams]
      split
      · exact hs.streams
      · refine ⟨rfl, le_rfl, ?_⟩
        simp only [List.forall_mem_singleton]
        exact hd.legible.audioMedia_words
  refine ⟨hendpoint, ?_, ?_, ?_, ?_, ?_, hremote, hremoteID, hcase⟩
  all_goals
    rw [ht]
    rfl

end MediaSession.Endpoint
end Lib
end Diago.Media
