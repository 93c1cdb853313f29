import Diago.Media.Protection

/-! # Secured profiles

When a body with a secured profile is accepted, and the session has or will have keys
for it.
-/
namespace Diago.Media
open Lib SDP Op

/-- The session has a key of the peer's, a handshake armed, or an association that is keyed. -/
def MediaSession.Secured (s : MediaSession) : Prop :=
  s.remoteCtxSRTP.isSome = true ∨ s.onFinalize.isSome = true ∨
    (s.dtlsAssoc.isSome = true ∧ s.dtlsKeyed = true)

instance (s : MediaSession) : Decidable s.Secured := inferInstanceAs (Decidable (_ ∨ _ ∨ _ ∧ _))

theorem secured_settleContexts {req : Bool} {proto : Bytes} {s t : MediaSession}
    (h : settleContexts req proto s = (.ok (), t)) : t.Secured ↔ s.Secured := by
  rw [settleContexts_eq_ok] at h
  obtain ⟨-, rfl⟩ := h
  exact Iff.rfl

section Lib
variable [UnicodeCase] [SrtpLib]

/-- Sessions reached from one session by calls on it and its forks have sound keys. -/
theorem sound_of_reached {g : Globals} {settings : Settings} {events : List Event}
    {s : MediaSession} (hs : s ∈ runFrom (stepSessions g) [{ toSettings := settings }] events) :
    s.Sound :=
  runFrom_invariant (fun sessions => ∀ s ∈ sessions, s.Sound)
    (fun _ e h => sound_stepSessions g h e) (by simpa using sound_new settings) events s hs

/-- A DTLS session that accepts a body arms a handshake or continues a keyed association. -/
theorem secured_of_applyDTLS {g : Globals} {env : RemoteEnv} {attrs : List Bytes}
    {s t : MediaSession} (hs : s.Sound) (hdtls : s.dtlsSRTP = true)
    (h : applyDTLS g env attrs s = (.ok (), t)) :
    t.onFinalize.isSome = true ∨ (t.dtlsAssoc.isSome = true ∧ t.dtlsKeyed = true) := by
  obtain ⟨setup, fingerprints, tlsID, -, hneg⟩ := applyDTLS_ok hdtls h
  rcases negotiateDTLSAssociation_ok hneg with ⟨-, rfl⟩ | ⟨a, ha, -, rfl⟩ |
    ⟨a, reason, u, -, -, -, -, rfl⟩
  · exact .inl rfl
  · have hassoc : s.dtlsAssoc.isSome = true := by
      rw [show s.dtlsAssoc = some a from ha]
      rfl
    exact .inr ⟨hassoc, hs.keyed hassoc⟩
  · exact .inl rfl

/-- A body is keyed as it is asked to be exactly when the session runs DTLS, had keys before, or
finds a key of its profile in the body. -/
theorem applyKeying_secured_iff {g : Globals} {env : RemoteEnv} {attrs : List Bytes} {req : Bool}
    {proto : Bytes} {s t : MediaSession} (hs : s.Sound)
    (h : applyKeying g env attrs req proto s = (.ok (), t)) :
    t.Secured ↔ s.dtlsSRTP = true ∨ s.Secured ∨ req = true ∨ OffersKey s.srtpAlg attrs := by
  obtain ⟨s₁, s₂, s₃, hcrypto, hice, hdtls, hsettle⟩ := applyKeying_eq_ok.mp h
  have hframe := (keeps_applyICE (f := fun s => (s.keying, s.onFinalize, s.dtlsSRTP))
    (fun _ _ _ _ _ => rfl) attrs).ok hice
  simp only [Prod.mk.injEq] at hframe
  obtain ⟨hkeying, hfinalize, hsrtp⟩ := hframe
  have hsecured₂ : s₂.Secured ↔ s₁.Secured := by
    have hremote : s₂.remoteCtxSRTP = s₁.remoteCtxSRTP := congrArg Keying.remoteCtx hkeying
    have hassoc : s₂.dtlsAssoc = s₁.dtlsAssoc := congrArg Keying.assoc hkeying
    have hkeyed : s₂.dtlsKeyed = s₁.dtlsKeyed := congrArg Keying.keyed hkeying
    rw [MediaSession.Secured, MediaSession.Secured, hremote, hfinalize, hassoc, hkeyed]
  have hsecured₁ : s₁.Secured ↔ s.Secured ∨ OffersKey s.srtpAlg attrs := by
    obtain ⟨tag, ⟨hno, rfl⟩ | ⟨hyes, ctx, -, rfl⟩⟩ := applyCrypto_ok hcrypto
    · simp only [hno, or_false]
      exact Iff.rfl
    · simp only [hyes, or_true, iff_true]
      exact .inl rfl
  have hsrtp₁ : s₁.dtlsSRTP = s.dtlsSRTP := by
    obtain ⟨tag, ⟨-, rfl⟩ | ⟨-, ctx, -, rfl⟩⟩ := applyCrypto_ok hcrypto
    all_goals rfl
  rw [secured_settleContexts hsettle]
  by_cases hd : s.dtlsSRTP = true
  · have hd₂ : s₂.dtlsSRTP = true := by rw [hsrtp, hsrtp₁, hd]
    have hs₁ : s₁.Sound := by
      have := maintains_applyCrypto env.handle attrs s hs
      rwa [hcrypto] at this
    have hs₂ : s₂.Sound := by
      change s₂.keying.Sound
      rw [hkeying]
      exact hs₁
    simp only [hd, true_or, iff_true]
    exact .inr (secured_of_applyDTLS hs₂ hd₂ hdtls)
  · have hd₂ : s₂.dtlsSRTP = false := by
      rw [hsrtp, hsrtp₁]
      simpa using hd
    rw [applyDTLS_of_not hd₂] at hdtls
    obtain rfl := (Prod.mk.inj hdtls).2
    rw [hsecured₂, hsecured₁]
    simp only [hd, Bool.false_eq_true, false_or]
    constructor
    · rintro (h | h)
      · exact .inl h
      · exact .inr (.inr h)
    · rintro (h | hreq | h)
      · exact .inl h
      · have hremote : s₂.remoteCtxSRTP ≠ none := fun hnone =>
          (settleContexts_eq_ok.mp hsettle).1 ⟨hreq, hnone⟩
        exact hsecured₁.mp (hsecured₂.mp (.inl (Option.isSome_iff_ne_none.mpr hremote)))
      · exact .inr h

/-- A body with a secured profile leaves the session secured exactly when the session runs
DTLS or was secured before, the profile asks for SDES, or the body has a key of its profile. -/
theorem secure_profile_secured_iff (g : Globals) (env : RemoteEnv) (settings : Settings)
    (events : List Event) (s t : MediaSession) (body : Bytes) (sections : Sections) (audio : ℕ)
    (m : MediaSection) (prof : RTPProfile)
    (hs : s ∈ runFrom (stepSessions g) [{ toSettings := settings }] events)
    (hbody : chooseAudio body = .ok (sections, audio, m))
    (hprof : parseRTPProfile m.media.proto = some prof) (hsecure : prof.secure = true)
    (hok : MediaSession.remoteSDP g env body s = (.ok (), t)) :
    t.Secured ↔ s.dtlsSRTP = true ∨ s.Secured ∨
      (prof.dtls = false ∧ sdpHasFingerprint (values (sections.description m) (lit "a")) = false) ∨
      OffersKey s.srtpAlg (values (sections.description m) (lit "a")) := by
  obtain ⟨sections', audio', m', r, hchoose, hr, hkey⟩ := remoteSDP_eq_ok.mp hok
  rw [hbody] at hchoose
  cases hchoose
  have hprof' : r.prof = prof := Option.some.inj (hr.profile.symm.trans hprof)
  have hsound : s.Sound := sound_of_reached hs
  rw [applyKeying_secured_iff (s := s.onStream g r _ _ _) hsound hkey, hprof']
  have hreq : prof.needsSDES (values (sections.description m) (lit "a")) = true ↔
      prof.dtls = false ∧
        sdpHasFingerprint (values (sections.description m) (lit "a")) = false := by
    simp [RTPProfile.needsSDES, hsecure]
  rw [hreq]
  exact Iff.rfl

end Lib

section Sample

attribute [local instance] asciiOnly documentedSrtp

def plainSettings : Settings := { dtlsSettings with secureRTP := .none, dtlsConf := {} }

theorem dtlsOffer_audio : ∃ sections audio m, chooseAudio dtlsOffer = .ok (sections, audio, m) ∧
    parseRTPProfile m.media.proto = some { secure := true, dtls := true } := by
  have hread : ((chooseAudio dtlsOffer).toOption.map fun x => parseRTPProfile x.2.2.media.proto) =
      some (some { secure := true, dtls := true }) := by decide +kernel
  obtain ⟨⟨sections, audio, m⟩, hx, hprof⟩ := Option.map_eq_some_iff.mp hread
  exact ⟨sections, audio, m, ok_of_toOption hx, hprof⟩

theorem dtlsOffer_accepted :
    ∃ t, MediaSession.remoteSDP {} plainRemote dtlsOffer { toSettings := plainSettings } =
      (.ok (), t) ∧ ¬ t.Secured := by
  have h : (MediaSession.remoteSDP {} plainRemote dtlsOffer { toSettings := plainSettings }).1 =
      .ok () ∧ ¬ (MediaSession.remoteSDP {} plainRemote dtlsOffer
        { toSettings := plainSettings }).2.Secured := by decide +kernel
  exact exists_ok h

theorem plain_session_secured_iff : ∃ sections audio m, ∃ t : MediaSession,
    chooseAudio dtlsOffer = .ok (sections, audio, m) ∧
      (t.Secured ↔
        MediaSession.dtlsSRTP { toSettings := plainSettings } = true ∨
        MediaSession.Secured { toSettings := plainSettings } ∨
        (true = false ∧
          sdpHasFingerprint (values (sections.description m) (lit "a")) = false) ∨
        OffersKey 0 (values (sections.description m) (lit "a"))) := by
  obtain ⟨sections, audio, m, hbody, hprof⟩ := dtlsOffer_audio
  obtain ⟨t, hok, -⟩ := dtlsOffer_accepted
  exact ⟨sections, audio, m, t, hbody, secure_profile_secured_iff {} plainRemote plainSettings []
    { toSettings := plainSettings } t dtlsOffer sections audio m _ (by simp [runFrom]) hbody hprof
    rfl hok⟩

/-- A session without DTLS accepts a DTLS offer and has no keys for it. -/
theorem dtls_offer_accepted_without_keys :
    ∃ sections audio m prof t, chooseAudio dtlsOffer = .ok (sections, audio, m) ∧
      parseRTPProfile m.media.proto = some prof ∧ prof.secure = true ∧
      MediaSession.remoteSDP {} plainRemote dtlsOffer { toSettings := plainSettings } =
        (.ok (), t) ∧ ¬ t.Secured := by
  obtain ⟨sections, audio, m, hbody, hprof⟩ := dtlsOffer_audio
  obtain ⟨t, hok, hnot⟩ := dtlsOffer_accepted
  exact ⟨sections, audio, m, _, t, hbody, hprof, rfl, hok, hnot⟩

end Sample
end Diago.Media
