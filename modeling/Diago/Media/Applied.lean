import Diago.Media.Frame

/-! # A body that is accepted

What has to be read off a body for each stage to succeed, and the session the
stages then leave.
-/
namespace Diago.Media
open Lib SDP Op
variable {s t : MediaSession} {attrs : List Bytes} {g : Globals} {env : RemoteEnv} {u : Unit}
  {fingerprints : List SdpFingerprint} {tlsID : Bytes} {md : MediaDescription} {req : Bool}
  {handle : ℕ} {proto : Bytes}

theorem applyOrigin_eq_ok {lines : List Line} :
    applyOrigin lines s = (.ok u, t) ↔
      ∃ si, sessionInformation lines = .ok si ∧ s.adoptOrigin si = t := by
  unfold applyOrigin
  cases sessionInformation lines <;> simp

theorem applyConnection_eq_ok {lines : List Line} :
    applyConnection lines md s = (.ok u, t) ↔
      ∃ ci, connectionInformation lines = .ok ci ∧ (0 < md.port ∧ md.port ≤ 65535) ∧
        ci.ip ≠ none ∧ s.setRemoteAddr { ip := ci.ip, port := md.port } = t := by
  unfold applyConnection
  cases connectionInformation lines <;> simp [bind_eq_ok]

section Fold
variable [UnicodeCase]

def RTPProfile.needsSDES (prof : RTPProfile) (attrs : List Bytes) : Bool :=
  prof.secure && !prof.dtls && !sdpHasFingerprint attrs

theorem applyProfile_eq_ok :
    applyProfile md attrs s = (.ok req, t) ↔
      ∃ prof, parseRTPProfile md.proto = some prof ∧ prof.needsSDES attrs = req ∧
        { s with remoteProto := md.proto } = t := by
  unfold applyProfile
  cases parseRTPProfile md.proto <;> simp [bind_eq_ok, RTPProfile.needsSDES]

theorem applyCodecs_eq_ok :
    applyCodecs g md attrs s = (.ok u, t) ↔
      ∃ remote, codecsFromSDPRead md.formats attrs md.formats.length = some remote ∧
        remote ≠ [] ∧ (s.codecs = [] ∨ s.negotiatedCodecs g remote ≠ []) ∧
        s.updateRemoteCodecs g remote = t := by
  unfold applyCodecs
  cases codecsFromSDPRead md.formats attrs md.formats.length with
  | none => simp
  | some remote => cases remote <;> simp [bind_eq_ok]

/-- What is read off the description of a stream that is accepted. -/
structure StreamRead where
  si : SessionInformation
  prof : RTPProfile
  remote : List Codec
  ci : ConnectionInformation

/-- The description reads as `r`, and the session can run the stream. -/
structure StreamRead.Accepted (r : StreamRead) (g : Globals) (s : MediaSession)
    (lines : List Line) (md : MediaDescription) : Prop where
  origin : sessionInformation lines = .ok r.si
  profile : parseRTPProfile md.proto = some r.prof
  codecs : codecsFromSDPRead md.formats (values lines (lit "a")) md.formats.length = some r.remote
  remote : r.remote ≠ []
  common : s.codecs = [] ∨ s.negotiatedCodecs g r.remote ≠ []
  connection : connectionInformation lines = .ok r.ci
  port : 0 < md.port ∧ md.port ≤ 65535
  ip : r.ci.ip ≠ none

def MediaSession.onStream (g : Globals) (r : StreamRead) (lines : List Line)
    (md : MediaDescription) (streams : OfferedStreams) (s : MediaSession) : MediaSession :=
  s.withStream
    { sessionID := r.si.sessionID
      sessionVersion :=
        if s.sessionID ≠ r.si.sessionID then r.si.sessionVersion + 1 else s.sessionVersion
      remoteProto := md.proto
      offeredStreams := if s.remoteSDPIsAnswer then s.offeredStreams else streams
      codecs := if s.codecs = [] then r.remote else s.codecs
      filterCodecs :=
        if s.codecs = [] then s.filterCodecs else s.negotiatedCodecs g r.remote
      raddr := { ip := r.ci.ip, port := md.port }
      rtcpRaddr := { ip := r.ci.ip, port := md.port + 1 }
      mode := some (negotiateMediaDirection (mediaDirection lines) s.prefMode) }

theorem applyStream_eq_ok {sections : Sections} {audio : ℕ} {m : MediaSection} :
    applyStream g sections audio m s = (.ok req, t) ↔
      ∃ r : StreamRead, r.Accepted g s (sections.description m) m.media ∧
        r.prof.needsSDES (values (sections.description m) (lit "a")) = req ∧
        s.onStream g r (sections.description m) m.media
          ⟨sections.media.map (·.media), audio⟩ = t := by
  unfold applyStream
  simp only [bind_eq_ok, applyOrigin_eq_ok, applyProfile_eq_ok, applyStreams, update_apply,
    applyCodecs_eq_ok, applyConnection_eq_ok, applyDirection, pure_apply]
  constructor
  · rintro ⟨_, s₁, ⟨si, hsi, rfl⟩, b, s₂, ⟨prof, hprof, rfl, rfl⟩, _, s₃, h₃, _, s₄,
      ⟨remote, hread, hne, hcommon, rfl⟩, _, s₅, ⟨ci, hci, hport, hip, rfl⟩, _, s₆, h₆, h₇⟩
    obtain rfl := (Prod.mk.inj h₃).2
    obtain rfl := (Prod.mk.inj h₆).2
    obtain ⟨hreq, rfl⟩ := Prod.mk.inj h₇
    refine ⟨⟨si, prof, remote, ci⟩, ⟨hsi, hprof, hread, hne, hcommon, hci, hport, hip⟩,
      Except.ok.inj hreq, rfl⟩
  · rintro ⟨⟨si, prof, remote, ci⟩, h, rfl, rfl⟩
    exact ⟨(), _, ⟨si, h.origin, rfl⟩, _, _, ⟨prof, h.profile, rfl, rfl⟩, (), _, rfl, (), _,
      ⟨remote, h.codecs, h.remote, h.common, rfl⟩, (), _, ⟨ci, h.connection, h.port, h.ip, rfl⟩,
      (), _, rfl, rfl⟩

theorem audioStream_isAudio {media : List MediaSection} {i : ℕ} (h : audioStream media = some i) :
    ∃ m, media[i]? = some m ∧ isAudio m = true := by
  have hfound (p : MediaSection → Bool) (hp : ∀ m, p m = true → isAudio m = true)
      (h : media.findIdx? p = some i) : ∃ m, media[i]? = some m ∧ isAudio m = true := by
    obtain ⟨hlt, hi, -⟩ := List.findIdx?_eq_some_iff_getElem.mp h
    exact ⟨media[i], List.getElem?_eq_getElem hlt, hp _ hi⟩
  unfold audioStream at h
  cases hu : media.findIdx? isUsable with
  | some j =>
    rw [hu] at h
    obtain rfl := Option.some.inj h
    exact hfound isUsable (fun m hm => by simp_all [isUsable]) hu
  | none =>
    rw [hu] at h
    exact hfound isAudio (fun m hm => hm) h

theorem chooseAudio_eq_ok {body : Bytes} {sections : Sections} {audio : ℕ} {m : MediaSection} :
    chooseAudio body = .ok (sections, audio, m) ↔
      unmarshalSections body = .ok sections ∧ audioStream sections.media = some audio ∧
        sections.media[audio]? = some m := by
  unfold chooseAudio
  constructor
  · intro h
    split at h
    · cases h
    split at h
    · cases h
    split at h
    · cases h
    · cases h
      exact ⟨‹_›, ‹_›, ‹_›⟩
  · rintro ⟨hbody, haudio, hm⟩
    simp [hbody, haudio, hm]

/-- The first half of an accepted body is the description of a stream the session can run. -/
theorem remoteSDP_eq_ok [SrtpLib] {body : Bytes} :
    MediaSession.remoteSDP g env body s = (.ok (), t) ↔
      ∃ sections audio m, ∃ r : StreamRead,
        chooseAudio body = .ok (sections, audio, m) ∧
        r.Accepted g s (sections.description m) m.media ∧
        applyKeying g env (values (sections.description m) (lit "a"))
          (r.prof.needsSDES (values (sections.description m) (lit "a"))) m.media.proto
          (s.onStream g r (sections.description m) m.media
            ⟨sections.media.map (·.media), audio⟩) = (.ok (), t) := by
  unfold MediaSession.remoteSDP
  simp only [bind_eq_ok, ofExcept_apply, applyStream_eq_ok]
  constructor
  · rintro ⟨⟨sections, audio, m⟩, s₁, h₁, req, s₂, ⟨r, hr, rfl, rfl⟩, hkey⟩
    obtain ⟨hchoose, rfl⟩ := Prod.mk.inj h₁
    exact ⟨sections, audio, m, r, hchoose, hr, hkey⟩
  · rintro ⟨sections, audio, m, r, hchoose, hr, hkey⟩
    exact ⟨⟨sections, audio, m⟩, s, by rw [hchoose], _, _, ⟨r, hr, rfl, rfl⟩, hkey⟩

end Fold

section Lib
variable [SrtpLib]

def OffersKey (alg : ProtectionProfile) (attrs : List Bytes) : Prop :=
  ∃ v ∈ attrs, offersKey alg v = true

omit [SrtpLib] in
theorem offersKey_cons {alg : ProtectionProfile} {v : Bytes} :
    OffersKey alg (v :: attrs) ↔ offersKey alg v = true ∨ OffersKey alg attrs := by
  simp [OffersKey]

/-- The ways the a=crypto attributes of a body leave a session, without an error: those for other
profiles leave their tag, and the first one for the profile of the session its key as well. -/
inductive KeysRead (handle : ℕ) : List Bytes → MediaSession → MediaSession → Prop
  | done (s : MediaSession) : KeysRead handle [] s s
  | other {v : Bytes} {attrs : List Bytes} {s t : MediaSession} (hv : readCrypto v = none)
    (h : KeysRead handle attrs s t) : KeysRead handle (v :: attrs) s t
  | foreign {v : Bytes} {attrs : List Bytes} {s t : MediaSession} {c : CryptoAttr}
    (hv : readCrypto v = some (.ok c)) (htag : c.tag.2 = none)
    (hskip : c.profile = 0 ∨ s.srtpAlg ≠ c.profile)
    (h : KeysRead handle attrs { s with srtpRemoteTag := c.tag.1 } t) :
    KeysRead handle (v :: attrs) s t
  | taken {v : Bytes} {attrs : List Bytes} {s : MediaSession} {c : CryptoAttr} {ctx : SrtpContext}
    (hv : readCrypto v = some (.ok c)) (htag : c.tag.2 = none)
    (htake : ¬(c.profile = 0 ∨ s.srtpAlg ≠ c.profile))
    (hctx : sdesContext handle c = .ok ctx) :
    KeysRead handle (v :: attrs) s
      { s with srtpRemoteTag := c.tag.1, remoteCtxSRTP := some ctx }

theorem applyCrypto_keysRead (h : applyCrypto handle attrs s = (.ok (), t)) :
    KeysRead handle attrs s t := by
  induction attrs generalizing s with
  | nil =>
    obtain rfl := (Prod.mk.inj h).2
    exact .done s
  | cons v attrs ih =>
    unfold applyCrypto at h
    cases hv : readCrypto v with
    | none =>
      rw [hv] at h
      exact .other hv (ih h)
    | some r =>
      rw [hv] at h
      cases r with
      | error e => cases h
      | ok c =>
        simp only [bind_eq_ok, update_apply, require_eq_ok, read_apply] at h
        obtain ⟨_, s₁, h₁, _, s₂, ⟨htag, rfl⟩, s₃, s₄, h₄, h⟩ := h
        obtain rfl := (Prod.mk.inj h₁).2
        obtain ⟨hs₃, rfl⟩ := Prod.mk.inj h₄
        obtain rfl := Except.ok.inj hs₃
        split at h
        · rename_i hskip
          exact .foreign hv htag hskip (ih h)
        · rename_i htake
          simp only [bind_eq_ok, ofExcept_apply, update_apply] at h
          obtain ⟨ctx, s₅, h₅, h₆⟩ := h
          obtain ⟨hctx, rfl⟩ := Prod.mk.inj h₅
          obtain rfl := (Prod.mk.inj h₆).2
          exact .taken hv htag htake hctx

theorem sdesContext_handle {c : CryptoAttr} {ctx : SrtpContext}
    (h : sdesContext handle c = .ok ctx) : ctx.handle = handle := by
  unfold sdesContext at h
  split at h
  · cases h
  split at h
  · cases h
  split at h
  · cases h
  · rename_i c' hc'
    obtain rfl := Except.ok.inj h
    rw [createContext_eq_some hc']

/-- The keys of a body are taken exactly when one is for the profile of the session: the remote
context is then a new one, and it stays what it was otherwise. -/
theorem applyCrypto_ok (h : applyCrypto handle attrs s = (.ok (), t)) :
    ∃ tag, (¬ OffersKey s.srtpAlg attrs ∧ t = { s with srtpRemoteTag := tag }) ∨
      (OffersKey s.srtpAlg attrs ∧ ∃ ctx, ctx.handle = handle ∧
        t = { s with srtpRemoteTag := tag, remoteCtxSRTP := some ctx }) := by
  have hread := applyCrypto_keysRead h
  clear h
  induction hread with
  | done s => exact ⟨s.srtpRemoteTag, .inl ⟨by simp [OffersKey], rfl⟩⟩
  | other hv _ ih => simpa [offersKey_cons, offersKey, hv] using ih
  | @foreign v attrs s t c hv _ hskip _ ih =>
    have hno : offersKey s.srtpAlg v = false := by
      simp only [offersKey, hv, decide_eq_false_iff_not]
      tauto
    obtain ⟨tag, hcase⟩ := ih
    refine ⟨tag, ?_⟩
    simpa [offersKey_cons, hno] using hcase
  | @taken v attrs s c ctx hv _ htake hctx =>
    have hyes : offersKey s.srtpAlg v = true := by
      simp only [offersKey, hv, decide_eq_true_eq]
      tauto
    exact ⟨c.tag.1, .inr ⟨offersKey_cons.mpr (.inl hyes), ctx, sdesContext_handle hctx, rfl⟩⟩

section Fold
variable [UnicodeCase]

omit [SrtpLib] in
theorem armDTLSHandshake_eq_ok :
    armDTLSHandshake env fingerprints tlsID s = (.ok u, t) ↔
      (s.iceEnabled = true ∨ env.dials = true) ∧ s.arm fingerprints tlsID = t := by
  unfold armDTLSHandshake
  simp only [bind_eq_ok, read_apply, require_eq_ok, update_apply]
  constructor
  · rintro ⟨s₁, s₂, h₁, _, s₃, ⟨hdial, rfl⟩, h₂⟩
    obtain ⟨hs, rfl⟩ := Prod.mk.inj h₁
    obtain rfl := Except.ok.inj hs
    exact ⟨hdial, (Prod.mk.inj h₂).2⟩
  · rintro ⟨hdial, rfl⟩
    exact ⟨s, s, rfl, (), s, ⟨hdial, rfl⟩, rfl⟩

theorem armRebound_eq_ok {rebound : Bool} :
    armRebound env rebound fingerprints tlsID s = (.ok u, t) ↔
      (s.iceEnabled = true ∨ env.dials = true) ∧ s.arm fingerprints tlsID = t := by
  rw [← armDTLSHandshake_eq_ok (u := u)]
  unfold armRebound
  rcases armDTLSHandshake env fingerprints tlsID s with ⟨r, v⟩
  cases r <;> simp

/-- The sockets a new association runs on: the session's own, or new ones when it is still on
those of the association it leaves, which only an answerer can do. -/
def MovesTo (g : Globals) (env : RemoteEnv) (a : DTLSAssociation) (s u : MediaSession) : Prop :=
  (s.laddr = a.laddr ∧ s.remoteSDPIsAnswer = false ∧
    rebindForAssociation g env s = (.ok (), u)) ∨ (s.laddr ≠ a.laddr ∧ u = s)

omit [SrtpLib] [UnicodeCase] in
theorem movesTo_iff {a : DTLSAssociation} {e : Err} :
    (Op.only (s.laddr = a.laddr) do
      Op.require (s.remoteSDPIsAnswer = false) e
      rebindForAssociation g env) s = (.ok (), t) ↔ MovesTo g env a s t := by
  unfold MovesTo
  by_cases hsame : s.laddr = a.laddr
  · rw [only_of _ hsame]
    simp [bind_eq_ok, hsame]
  · rw [only_of_not _ hsame]
    simp [hsame, eq_comm (a := t)]

/-- An accepted description starts the first association, continues the one there is or starts
a new one. -/
theorem negotiateDTLSAssociation_ok {setup : SetupRole}
    (h : negotiateDTLSAssociation g env setup fingerprints tlsID s = (.ok (), t)) :
    (s.dtlsAssoc = none ∧ t = (s.newAnswerTLSID env.tlsID tlsID).arm fingerprints tlsID) ∨
    (∃ a, s.dtlsAssoc = some a ∧ a.changedBy s setup fingerprints tlsID = none ∧ t = s) ∨
    (∃ a reason u, s.dtlsAssoc = some a ∧
      a.changedBy s setup fingerprints tlsID = some reason ∧ s.iceEnabled = false ∧
      MovesTo g env a s u ∧
      t = (u.unkeyed.newAnswerTLSID env.tlsID tlsID).arm fingerprints tlsID) := by
  unfold negotiateDTLSAssociation at h
  rw [bind_of_ok (read_apply s)] at h
  cases ha : s.dtlsAssoc with
  | none =>
    simp only [ha] at h
    rw [bind_of_ok (update_apply _ s), armDTLSHandshake_eq_ok] at h
    exact .inl ⟨rfl, h.2.symm⟩
  | some a =>
    simp only [ha] at h
    right
    cases hc : a.changedBy s setup fingerprints tlsID with
    | none =>
      simp only [hc] at h
      exact .inl ⟨a, rfl, hc, (Prod.mk.inj h).2.symm⟩
    | some reason =>
      simp only [hc] at h
      simp only [bind_eq_ok, require_eq_ok, update_apply, armRebound_eq_ok] at h
      obtain ⟨_, s₁, ⟨hice, rfl⟩, _, u, hmove, _, s₂, h₂, -, rfl⟩ := h
      obtain rfl := (Prod.mk.inj h₂).2
      exact .inr ⟨a, reason, u, rfl, hc, hice, movesTo_iff.mp hmove, rfl⟩

/-- A DTLS session accepts a body that names its side of an association, and settles it. -/
theorem applyDTLS_ok (hdtls : s.dtlsSRTP = true) (h : applyDTLS g env attrs s = (.ok (), t)) :
    ∃ setup fingerprints tlsID, dtlsAttributes attrs = .ok (setup, fingerprints, tlsID) ∧
      negotiateDTLSAssociation g env setup fingerprints tlsID
        { s with dtlsRemoteSetup := some setup, dtlsRemoteTLSID := tlsID } = (.ok (), t) := by
  unfold applyDTLS at h
  rw [bind_of_ok (read_apply s), only_of _ hdtls] at h
  unfold applyDTLSAttributes at h
  simp only [bind_eq_ok, ofExcept_apply, update_apply] at h
  obtain ⟨⟨setup, fingerprints, tlsID⟩, s₁, h₁, _, s₂, h₂, h₃⟩ := h
  obtain ⟨hattrs, rfl⟩ := Prod.mk.inj h₁
  obtain rfl := (Prod.mk.inj h₂).2
  exact ⟨setup, fingerprints, tlsID, hattrs, h₃⟩

theorem applyDTLS_of_not {s : MediaSession} (h : s.dtlsSRTP = false) (g : Globals)
    (env : RemoteEnv) (attrs : List Bytes) : applyDTLS g env attrs s = (.ok (), s) := by
  unfold applyDTLS
  rw [bind_of_ok (read_apply s), only_of_not _ (by simp [h])]
  rfl

omit [SrtpLib] [UnicodeCase] in
theorem settleContexts_eq_ok {secureRequest : Bool} :
    settleContexts secureRequest proto s = (.ok u, t) ↔
      ¬ (secureRequest = true ∧ s.remoteCtxSRTP = none) ∧
        { s with
          localCtxSRTP :=
            if s.remoteCtxSRTP = none ∧ ¬ secureRequest then none else s.localCtxSRTP } = t := by
  unfold settleContexts
  rw [bind_of_ok (update_apply _ s), bind_of_ok (read_apply _), require_eq_ok]

theorem applyKeying_eq_ok {secureRequest : Bool} :
    applyKeying g env attrs secureRequest proto s = (.ok (), t) ↔
      ∃ s₁ s₂ s₃, applyCrypto env.handle attrs s = (.ok (), s₁) ∧
        applyICE attrs s₁ = (.ok (), s₂) ∧ applyDTLS g env attrs s₂ = (.ok (), s₃) ∧
        settleContexts secureRequest proto s₃ = (.ok (), t) := by
  unfold applyKeying
  simp only [bind_eq_ok]
  constructor
  · rintro ⟨_, s₁, h₁, _, s₂, h₂, _, s₃, h₃, h₄⟩
    exact ⟨s₁, s₂, s₃, h₁, h₂, h₃, h₄⟩
  · rintro ⟨s₁, s₂, s₃, h₁, h₂, h₃, h₄⟩
    exact ⟨(), s₁, h₁, (), s₂, h₂, (), s₃, h₃, h₄⟩

end Fold
end Lib

/-- The fields keying changes in an accepted body, apart from those of the ICE agent. -/
structure KeyFields where
  localCtxSRTP : Option SrtpContext
  remoteCtxSRTP : Option SrtpContext
  srtpRemoteTag : ℤ
  dtlsRemoteSetup : Option SetupRole
  dtlsRemoteTLSID : Bytes
  localTLSID : Bytes
  dtlsAssoc : Option DTLSAssociation
  dtlsKeyed : Bool
  onFinalize : Option Armed

def MediaSession.keyFields (s : MediaSession) : KeyFields :=
  { localCtxSRTP := s.localCtxSRTP
    remoteCtxSRTP := s.remoteCtxSRTP
    srtpRemoteTag := s.srtpRemoteTag
    dtlsRemoteSetup := s.dtlsRemoteSetup
    dtlsRemoteTLSID := s.dtlsRemoteTLSID
    localTLSID := s.localTLSID
    dtlsAssoc := s.dtlsAssoc
    dtlsKeyed := s.dtlsKeyed
    onFinalize := s.onFinalize }

def MediaSession.withKeys (s : MediaSession) (x : KeyFields) : MediaSession :=
  { s with
    localCtxSRTP := x.localCtxSRTP
    remoteCtxSRTP := x.remoteCtxSRTP
    srtpRemoteTag := x.srtpRemoteTag
    dtlsRemoteSetup := x.dtlsRemoteSetup
    dtlsRemoteTLSID := x.dtlsRemoteTLSID
    localTLSID := x.localTLSID
    dtlsAssoc := x.dtlsAssoc
    dtlsKeyed := x.dtlsKeyed
    onFinalize := x.onFinalize }

section Frame
variable [UnicodeCase] [SrtpLib] {γ : Type} {f : MediaSession → γ}
  (hkeys : ∀ s x, f (MediaSession.withKeys s x) = f s)
  (hsockets : ∀ s x, f (MediaSession.withSockets s x) = f s)
include hkeys hsockets

theorem negotiateDTLSAssociation_frame {setup : SetupRole}
    (h : negotiateDTLSAssociation g env setup fingerprints tlsID s = (.ok (), t)) : f t = f s := by
  have harm (u : MediaSession) : f (u.arm fingerprints tlsID) = f u :=
    hkeys u { u.keyFields with onFinalize := some (u.armedFor fingerprints tlsID) }
  have htlsID (u : MediaSession) : f (u.newAnswerTLSID env.tlsID tlsID) = f u :=
    hkeys u { u.keyFields with localTLSID := (u.newAnswerTLSID env.tlsID tlsID).localTLSID }
  have hunkeyed (u : MediaSession) : f u.unkeyed = f u :=
    hkeys u
      { u.keyFields with
        dtlsKeyed := false
        dtlsAssoc := none
        localCtxSRTP := none
        remoteCtxSRTP := none }
  rcases negotiateDTLSAssociation_ok h with ⟨-, rfl⟩ | ⟨a, -, -, rfl⟩ |
    ⟨a, reason, u, -, -, -, hmove, rfl⟩
  · rw [harm, htlsID]
  · rfl
  · rw [harm, htlsID, hunkeyed]
    rcases hmove with ⟨-, -, hbind⟩ | ⟨-, rfl⟩
    · exact (keeps_rebindForAssociation hsockets g env).ok hbind
    · rfl

theorem applyKeying_frame (hice : ∀ s u p l a, f (MediaSession.withRemoteICE s u p l a) = f s)
    (h : applyKeying g env attrs req proto s = (.ok (), t)) : f t = f s := by
  obtain ⟨s₁, s₂, s₃, hcrypto, hICE, hdtls, hsettle⟩ := applyKeying_eq_ok.mp h
  have h₁ : f s₁ = f s := by
    obtain ⟨tag, ⟨-, rfl⟩ | ⟨-, ctx, -, rfl⟩⟩ := applyCrypto_ok hcrypto
    · exact hkeys s { s.keyFields with srtpRemoteTag := tag }
    · exact hkeys s { s.keyFields with srtpRemoteTag := tag, remoteCtxSRTP := some ctx }
  have h₂ : f s₂ = f s₁ := (keeps_applyICE hice attrs).ok hICE
  have h₃ : f s₃ = f s₂ := by
    cases hd : s₂.dtlsSRTP with
    | false =>
      rw [applyDTLS_of_not hd] at hdtls
      rw [(Prod.mk.inj hdtls).2]
    | true =>
      obtain ⟨setup, fingerprints, tlsID, -, hneg⟩ := applyDTLS_ok hd hdtls
      rw [negotiateDTLSAssociation_frame hkeys hsockets hneg]
      exact hkeys s₂
        { s₂.keyFields with dtlsRemoteSetup := some setup, dtlsRemoteTLSID := tlsID }
  have h₄ : f t = f s₃ := by
    obtain ⟨-, rfl⟩ := settleContexts_eq_ok.mp hsettle
    exact hkeys s₃
      { s₃.keyFields with
        localCtxSRTP := if s₃.remoteCtxSRTP = none ∧ ¬ req then none else s₃.localCtxSRTP }
  rw [h₄, h₃, h₂, h₁]

end Frame

section Stream
variable [UnicodeCase] [SrtpLib] {g : Globals} {env : RemoteEnv} {body : Bytes}
  {s t : MediaSession} {sections : Sections} {audio : ℕ} {m : MediaSection}

theorem remoteSDP_stream (hbody : chooseAudio body = .ok (sections, audio, m))
    (h : MediaSession.remoteSDP g env body s = (.ok (), t)) :
    ∃ r : StreamRead, r.Accepted g s (sections.description m) m.media ∧
      ∀ {γ : Type} (f : MediaSession → γ), (∀ s x, f (MediaSession.withKeys s x) = f s) →
        (∀ s x, f (MediaSession.withSockets s x) = f s) →
        (∀ s u p l a, f (MediaSession.withRemoteICE s u p l a) = f s) →
        f t = f (s.onStream g r (sections.description m) m.media
          ⟨sections.media.map (·.media), audio⟩) := by
  obtain ⟨sections', audio', m', r, hbody', hr, hkey⟩ := remoteSDP_eq_ok.mp h
  obtain ⟨rfl, rfl, rfl⟩ : sections = sections' ∧ audio = audio' ∧ m = m' := by
    simpa using Except.ok.inj (hbody.symm.trans hbody')
  exact ⟨r, hr, fun f hkeys hsockets hice => applyKeying_frame hkeys hsockets hice hkey⟩

/-- What a session has after a body it accepted, in the fields that neither keys nor sockets
touch. -/
structure StreamRead.Applied (r : StreamRead) (g : Globals) (sections : Sections) (audio : ℕ)
    (m : MediaSection) (s t : MediaSession) : Prop where
  accepted : r.Accepted g s (sections.description m) m.media
  sdp : t.sdp = s.sdp
  codecs : t.codecs = if s.codecs = [] then r.remote else s.codecs
  filterCodecs : t.filterCodecs =
    if s.codecs = [] then s.filterCodecs else s.negotiatedCodecs g r.remote
  remoteProto : t.remoteProto = m.media.proto
  mode : t.mode =
    some (negotiateMediaDirection (mediaDirection (sections.description m)) s.prefMode)
  offeredStreams : t.offeredStreams =
    if s.remoteSDPIsAnswer then s.offeredStreams else ⟨sections.media.map (·.media), audio⟩
  remoteSDPIsAnswer : t.remoteSDPIsAnswer = s.remoteSDPIsAnswer
  establishedICE : t.establishedICE = s.establishedICE
  externalIP : t.externalIP = s.externalIP
  secureRTP : t.secureRTP = s.secureRTP
  srtpAlg : t.srtpAlg = s.srtpAlg
  dtlsConf : t.dtlsConf = s.dtlsConf
  dtlsRole : t.dtlsRole = s.dtlsRole

theorem remoteSDP_applied (hbody : chooseAudio body = .ok (sections, audio, m))
    (h : MediaSession.remoteSDP g env body s = (.ok (), t)) :
    ∃ r : StreamRead, r.Applied g sections audio m s t := by
  obtain ⟨r, hr, hframe⟩ := remoteSDP_stream hbody h
  have hfield {γ : Type} (f : MediaSession → γ)
      (hkeys : ∀ s x, f (MediaSession.withKeys s x) = f s := by intros; rfl)
      (hsockets : ∀ s x, f (MediaSession.withSockets s x) = f s := by intros; rfl)
      (hice : ∀ s u p l a, f (MediaSession.withRemoteICE s u p l a) = f s := by intros; rfl) :=
    hframe f hkeys hsockets hice
  exact ⟨r,
    { accepted := hr
      sdp := hfield (·.sdp)
      codecs := hfield (·.codecs)
      filterCodecs := hfield (·.filterCodecs)
      remoteProto := hfield (·.remoteProto)
      mode := hfield (·.mode)
      offeredStreams := hfield (·.offeredStreams)
      remoteSDPIsAnswer := hfield (·.remoteSDPIsAnswer)
      establishedICE := hfield (·.establishedICE)
      externalIP := hfield (·.externalIP)
      secureRTP := hfield (·.secureRTP)
      srtpAlg := hfield (·.srtpAlg)
      dtlsConf := hfield (·.dtlsConf)
      dtlsRole := hfield (·.dtlsRole) }⟩

end Stream
end Diago.Media
