import Diago.Media.SecureProfile

/-! # Continuing an association

A fork of a keyed session that continues its association keeps the contexts the
fork was handed, unless the body brings an SDES key of the session's profile.
-/
namespace Diago.Media
open Lib SDP Op

def MediaSession.endpoint (s : MediaSession) :
    DTLSConfig × Option ICEConfig × SecureRTP × UDPAddr × UDPAddr :=
  (s.dtlsConf, s.iceConf, s.secureRTP, s.laddr, s.raddr)

theorem localDTLSFingerprints_congr {s t : MediaSession} (h : s.dtlsConf = t.dtlsConf) :
    s.localDTLSFingerprints = t.localDTLSFingerprints := by
  simp only [MediaSession.localDTLSFingerprints, h]

theorem changedBy_congr [UnicodeCase] {s t : MediaSession} (h : s.endpoint = t.endpoint)
    (a : DTLSAssociation) (setup : SetupRole) (fingerprints : List SdpFingerprint)
    (tlsID : Bytes) :
    a.changedBy s setup fingerprints tlsID = a.changedBy t setup fingerprints tlsID := by
  simp only [MediaSession.endpoint, Prod.mk.injEq] at h
  obtain ⟨hconf, hice, hsecure, hladdr, hraddr⟩ := h
  have hfingerprints := localDTLSFingerprints_congr hconf
  have henabled : s.iceEnabled = t.iceEnabled := by
    simp only [MediaSession.iceEnabled, hice, hsecure]
  simp only [DTLSAssociation.changedBy, hfingerprints, henabled, hladdr, hraddr]

section Lib
variable [UnicodeCase] [SrtpLib]

/-- The keying part of a body that continues the association leaves the local context alone and
replaces the remote one exactly when the body offers a key. -/
theorem applyKeying_continues {g : Globals} {env : RemoteEnv} {attrs : List Bytes} {req : Bool}
    {proto : Bytes} {s t : MediaSession} {a : DTLSAssociation} {setup : SetupRole}
    {fingerprints : List SdpFingerprint} {tlsID : Bytes} (hs : s.Sound)
    (hdtls : s.dtlsSRTP = true) (ha : s.dtlsAssoc = some a)
    (hattrs : dtlsAttributes attrs = .ok (setup, fingerprints, tlsID))
    (hsame : a.changedBy s setup fingerprints tlsID = none)
    (h : applyKeying g env attrs req proto s = (.ok (), t)) :
    t.localCtxSRTP = s.localCtxSRTP ∧
      ((¬ OffersKey s.srtpAlg attrs ∧ t.remoteCtxSRTP = s.remoteCtxSRTP) ∨
        (OffersKey s.srtpAlg attrs ∧ ∃ ctx ∈ t.remoteCtxSRTP, ctx.handle = env.handle)) := by
  obtain ⟨s₁, s₂, s₃, hcrypto, hice, hDTLS, hsettle⟩ := applyKeying_eq_ok.mp h
  have hview₁ : s₁.endpoint = s.endpoint ∧ s₁.dtlsAssoc = some a ∧
      s₁.localCtxSRTP = s.localCtxSRTP := by
    obtain ⟨tag, ⟨-, rfl⟩ | ⟨-, ctx, -, rfl⟩⟩ := applyCrypto_ok hcrypto
    all_goals exact ⟨rfl, ha, rfl⟩
  have hframe := (keeps_applyICE (f := fun s => (s.endpoint, s.keying)) (fun _ _ _ _ _ => rfl)
    attrs).ok hice
  obtain ⟨hend, hkeying⟩ := Prod.mk.inj hframe
  have hassoc₂ : s₂.dtlsAssoc = some a := (congrArg Keying.assoc hkeying).trans hview₁.2.1
  have hend₂ : s₂.endpoint = s.endpoint := hend.trans hview₁.1
  have hdtls₂ : s₂.dtlsSRTP = true := by
    have hconf : s₂.dtlsConf = s.dtlsConf := congrArg (·.1) hend₂
    have hsecure : s₂.secureRTP = s.secureRTP := congrArg (·.2.2.1) hend₂
    rw [MediaSession.dtlsSRTP, hconf, hsecure]
    exact hdtls
  obtain ⟨setup', fingerprints', tlsID', hattrs', hneg⟩ := applyDTLS_ok hdtls₂ hDTLS
  rw [hattrs] at hattrs'
  cases hattrs'
  have hsame₂ : a.changedBy { s₂ with dtlsRemoteSetup := some setup, dtlsRemoteTLSID := tlsID }
      setup fingerprints tlsID = none :=
    (changedBy_congr hend₂ a setup fingerprints tlsID).trans hsame
  have hs₃ : s₃ = { s₂ with dtlsRemoteSetup := some setup, dtlsRemoteTLSID := tlsID } := by
    rcases negotiateDTLSAssociation_ok hneg with ⟨hnone, -⟩ | ⟨b, -, -, rfl⟩ |
      ⟨b, reason, u, hb, hchanged, -⟩
    · cases hnone.symm.trans hassoc₂
    · rfl
    · obtain rfl := Option.some.inj (hassoc₂.symm.trans hb)
      rw [hsame₂] at hchanged
      cases hchanged
  have hremote₃ : s₃.remoteCtxSRTP = s₁.remoteCtxSRTP := by
    rw [hs₃]
    exact congrArg Keying.remoteCtx hkeying
  have hlocal₃ : s₃.localCtxSRTP = s.localCtxSRTP := by
    rw [hs₃]
    exact (congrArg Keying.localCtx hkeying).trans hview₁.2.2
  have hkeyed : s.remoteCtxSRTP.isSome = true :=
    (hs.contexts (hs.keyed (by simp [MediaSession.keying, ha]))).2
  have hremote₁ : s₁.remoteCtxSRTP ≠ none := by
    obtain ⟨tag, ⟨-, rfl⟩ | ⟨-, ctx, -, rfl⟩⟩ := applyCrypto_ok hcrypto
    · exact Option.isSome_iff_ne_none.mp hkeyed
    · exact Option.some_ne_none ctx
  obtain ⟨-, rfl⟩ := settleContexts_eq_ok.mp hsettle
  refine ⟨?_, ?_⟩
  · change (if s₃.remoteCtxSRTP = none ∧ ¬ req then none else s₃.localCtxSRTP) = _
    rw [if_neg (fun hno => hremote₁ (hremote₃ ▸ hno.1)), hlocal₃]
  · change (_ ∧ s₃.remoteCtxSRTP = _) ∨ (_ ∧ ∃ ctx ∈ s₃.remoteCtxSRTP, _)
    rw [hremote₃]
    obtain ⟨tag, ⟨hno, rfl⟩ | ⟨hyes, ctx, hctx, rfl⟩⟩ := applyCrypto_ok hcrypto
    · exact .inl ⟨hno, rfl⟩
    · exact .inr ⟨hyes, ctx, rfl, hctx⟩

/-- A fork of a keyed DTLS session that continues its association keeps the contexts it was
handed exactly when the body offers no SDES key of the session's profile. -/
theorem continued_contexts_kept_iff (g : Globals) (env : RemoteEnv) (settings : Settings)
    (events : List Event) (s t : MediaSession) (a : DTLSAssociation) (body : Bytes)
    (sections : Sections) (audio : ℕ) (m : MediaSection) (ci : ConnectionInformation)
    (setup : SetupRole) (fingerprints : List SdpFingerprint) (tlsID : Bytes)
    (hs : s ∈ runFrom (stepSessions g) [{ toSettings := settings }] events)
    (hdtls : s.secureRTP = .dtls) (ha : s.dtlsAssoc = some a)
    (hnew : ∀ ctx ∈ s.remoteCtxSRTP, ctx.handle ≠ env.handle)
    (hok : MediaSession.remoteSDP g env body s.fork = (.ok (), t))
    (hbody : chooseAudio body = .ok (sections, audio, m))
    (hci : connectionInformation (sections.description m) = .ok ci)
    (hattrs : dtlsAttributes (values (sections.description m) (lit "a")) =
      .ok (setup, fingerprints, tlsID))
    (hsame : a.changedBy (s.fork.setRemoteAddr { ip := ci.ip, port := m.media.port }) setup
      fingerprints tlsID = none) :
    (t.localCtxSRTP = s.localCtxSRTP ∧ t.remoteCtxSRTP = s.remoteCtxSRTP) ↔
      ¬ OffersKey s.srtpAlg (values (sections.description m) (lit "a")) := by
  obtain ⟨sections', audio', m', r, hchoose, hr, hkey⟩ := remoteSDP_eq_ok.mp hok
  rw [hbody] at hchoose
  cases hchoose
  obtain rfl : r.ci = ci := Except.ok.inj (hr.connection.symm.trans hci)
  have hsound : s.Sound := sound_of_reached hs
  have hassoc : s.dtlsAssoc.isSome = true := by simp [ha]
  have hlocal : s.fork.localCtxSRTP = s.localCtxSRTP := if_pos hassoc
  have hremote : s.fork.remoteCtxSRTP = s.remoteCtxSRTP := if_pos hassoc
  obtain ⟨hkeep, hcase⟩ := applyKeying_continues (s := s.fork.onStream g r _ _ _) (a := a)
    hsound.fork (by simp [MediaSession.dtlsSRTP, MediaSession.onStream, MediaSession.withStream,
      MediaSession.fork, hdtls]) ha hattrs
    ((changedBy_congr rfl a setup fingerprints tlsID).trans hsame) hkey
  have hkeep' : t.localCtxSRTP = s.localCtxSRTP := hkeep.trans hlocal
  rcases hcase with ⟨hno, heq⟩ | ⟨hyes, ctx, hmem, hhandle⟩
  · exact iff_of_true ⟨hkeep', heq.trans hremote⟩ hno
  · refine iff_of_false (fun hsame => ?_) (not_not.mpr hyes)
    rw [hsame.2] at hmem
    exact hnew ctx hmem hhandle

end Lib

section Sample

attribute [local instance] asciiOnly documentedSrtp

def repeatedOffer (attrs : List Bytes) : Bytes :=
  audioBody (lit "UDP/TLS/RTP/SAVP")
    ([lit "setup:actpass", lit "fingerprint:SHA-256 AA"] ++ attrs)

def zeroKey : Bytes :=
  lit "crypto:1 AES_CM_128_HMAC_SHA1_80 inline:AAAAAAAAAAAAAAAAAAAAAAAAAAAAAAAAAAAAAAAA"

/-- What a body says about the peer's address and association. -/
structure Peer where
  ip : Option IP
  port : ℤ
  setup : SetupRole
  fingerprints : List SdpFingerprint
  tlsID : Bytes
  deriving DecidableEq

def readPeer (body : Bytes) : Option Peer := do
  let (sections, _, m) ← (chooseAudio body).toOption
  let ci ← (connectionInformation (sections.description m)).toOption
  let (setup, fingerprints, tlsID) ←
    (dtlsAttributes (values (sections.description m) (lit "a"))).toOption
  pure ⟨ci.ip, m.media.port, setup, fingerprints, tlsID⟩

theorem readPeer_eq_some {body : Bytes} {peer : Peer} (h : readPeer body = some peer) :
    ∃ sections audio m ci, chooseAudio body = .ok (sections, audio, m) ∧
      connectionInformation (sections.description m) = .ok ci ∧
      dtlsAttributes (values (sections.description m) (lit "a")) =
        .ok (peer.setup, peer.fingerprints, peer.tlsID) ∧
      ci.ip = peer.ip ∧ m.media.port = peer.port := by
  simp only [readPeer, Option.bind_eq_bind, Option.bind_eq_some_iff, Option.pure_def,
    Option.some.injEq] at h
  obtain ⟨⟨sections, audio, m⟩, hbody, ci, hci, ⟨setup, fingerprints, tlsID⟩, hattrs, rfl⟩ := h
  exact ⟨sections, audio, m, ci, ok_of_toOption hbody, ok_of_toOption hci,
    ok_of_toOption hattrs, rfl, rfl⟩

def samplePeer : Peer :=
  { ip := some (.v4 10 0 0 2)
    port := 4002
    setup := .actpass
    fingerprints := [⟨lit "AA", lit "SHA-256"⟩]
    tlsID := [] }

/-- The keyed session of the sample run continues its association on the repeated offer. -/
def ContinuesWith (body : Bytes) (s : MediaSession) : Prop :=
  s.secureRTP = .dtls ∧ (∀ ctx ∈ s.remoteCtxSRTP, ctx.handle ≠ plainRemote.handle) ∧
    (∃ a ∈ s.dtlsAssoc, a.changedBy
      (s.fork.setRemoteAddr { ip := samplePeer.ip, port := samplePeer.port })
      samplePeer.setup samplePeer.fingerprints samplePeer.tlsID = none) ∧
    (MediaSession.remoteSDP {} plainRemote body s.fork).1 = .ok ()

instance (body : Bytes) : DecidablePred (ContinuesWith body) := fun s => by
  unfold ContinuesWith
  infer_instance

/-- Without a key in the body the contexts are kept. -/
theorem repeated_offer_keeps_contexts :
    ∃ s ∈ runFrom (stepSessions {}) [{ toSettings := dtlsSettings }] (handshakeRun true),
      ∃ sections audio m t, chooseAudio (repeatedOffer []) = .ok (sections, audio, m) ∧
        MediaSession.remoteSDP {} plainRemote (repeatedOffer []) s.fork = (.ok (), t) ∧
        ((t.localCtxSRTP = s.localCtxSRTP ∧ t.remoteCtxSRTP = s.remoteCtxSRTP) ↔
          ¬ OffersKey s.srtpAlg (values (sections.description m) (lit "a"))) := by
  have hrun : ((runFrom (stepSessions {}) [{ toSettings := dtlsSettings }]
      (handshakeRun true))[0]?.map fun s => decide (ContinuesWith (repeatedOffer []) s)) =
      some true := by decide +kernel
  have hpeer : readPeer (repeatedOffer []) = some samplePeer := by decide +kernel
  obtain ⟨s, hs, hcont⟩ := Option.map_eq_some_iff.mp hrun
  obtain ⟨hdtls, hnew, ⟨a, ha, hsame⟩, hok⟩ := of_decide_eq_true hcont
  obtain ⟨t, hok, -⟩ := exists_ok (P := fun _ => True) ⟨hok, trivial⟩
  obtain ⟨sections, audio, m, ci, hbody, hci, hattrs, hip, hport⟩ := readPeer_eq_some hpeer
  refine ⟨s, List.mem_of_getElem? hs, sections, audio, m, t, hbody, hok, ?_⟩
  exact continued_contexts_kept_iff {} plainRemote dtlsSettings _ s t a _ sections audio m ci _ _ _
    (List.mem_of_getElem? hs) hdtls ha hnew hok hbody hci hattrs (by rw [hip, hport]; exact hsame)

/-- A continuing offer with an SDES key replaces the remote context of the association. -/
theorem sdes_key_replaces_continued_context :
    ∃ s ∈ runFrom (stepSessions {}) [{ toSettings := dtlsSettings }] (handshakeRun true),
      s.secureRTP = .dtls ∧ ∃ a ∈ s.dtlsAssoc, ∃ sections audio m ci setup fingerprints tlsID t,
        chooseAudio (repeatedOffer [zeroKey]) = .ok (sections, audio, m) ∧
        connectionInformation (sections.description m) = .ok ci ∧
        dtlsAttributes (values (sections.description m) (lit "a")) =
          .ok (setup, fingerprints, tlsID) ∧
        a.changedBy (s.fork.setRemoteAddr { ip := ci.ip, port := m.media.port }) setup
          fingerprints tlsID = none ∧
        MediaSession.remoteSDP {} plainRemote (repeatedOffer [zeroKey]) s.fork = (.ok (), t) ∧
        t.localCtxSRTP = s.localCtxSRTP ∧ t.remoteCtxSRTP ≠ s.remoteCtxSRTP := by
  have hrun : ((runFrom (stepSessions {}) [{ toSettings := dtlsSettings }]
      (handshakeRun true))[0]?.map fun s => decide (ContinuesWith (repeatedOffer [zeroKey]) s ∧
        (MediaSession.remoteSDP {} plainRemote (repeatedOffer [zeroKey]) s.fork).2.localCtxSRTP =
          s.localCtxSRTP ∧
        (MediaSession.remoteSDP {} plainRemote (repeatedOffer [zeroKey]) s.fork).2.remoteCtxSRTP ≠
          s.remoteCtxSRTP)) = some true := by decide +kernel
  have hpeer : readPeer (repeatedOffer [zeroKey]) = some samplePeer := by decide +kernel
  obtain ⟨s, hs, hcont⟩ := Option.map_eq_some_iff.mp hrun
  obtain ⟨⟨hdtls, -, ⟨a, ha, hsame⟩, hok⟩, hlocal, hremote⟩ := of_decide_eq_true hcont
  obtain ⟨t, hok, hlocal, hremote⟩ := exists_ok (P := fun t : MediaSession =>
    t.localCtxSRTP = s.localCtxSRTP ∧ t.remoteCtxSRTP ≠ s.remoteCtxSRTP) ⟨hok, hlocal, hremote⟩
  obtain ⟨sections, audio, m, ci, hbody, hci, hattrs, hip, hport⟩ := readPeer_eq_some hpeer
  exact ⟨s, List.mem_of_getElem? hs, hdtls, a, ha, sections, audio, m, ci, _, _, _, t, hbody, hci,
    hattrs, by rw [hip, hport]; exact hsame, hok, hlocal, hremote⟩

end Sample
end Diago.Media
