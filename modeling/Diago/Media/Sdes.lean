import Diago.Media.Legible
import Diago.Media.Protection

/-! # SDES keys through an offer and its answer

The generator draws a key and a salt of the lengths of the profile; the reader splits
thirty bytes into sixteen of key and fourteen of salt whatever the profile.
-/
namespace Diago.Media
open Lib SDP Op
variable {alg : ProtectionProfile} {s t : MediaSession} {env : RemoteEnv} {keyLen saltLen : ℕ}

def namedProfiles : List ProtectionProfile :=
  [profileAes128CmHmacSha1_80, profileAes256CmHmacSha1_80, profileAeadAes128Gcm,
    profileAeadAes256Gcm, profileNullHmacSha1_80]

/-- The library gives the named profiles the lengths it documents. -/
def DocumentedLens [SrtpLib] : Prop :=
  ∀ p ∈ namedProfiles, SrtpLib.keyLen p = (documentedLens p).map Prod.fst ∧
    SrtpLib.saltLen p = (documentedLens p).map Prod.snd

section Fold
variable [UnicodeCase]

/-- The session after it took over the codecs the peer wrote, none when they have none in
common. -/
def MediaSession.takeCodecs (g : Globals) (written : List Codec) (s : MediaSession) :
    Option MediaSession := do
  let remote ← readBack written
  if remote ≠ [] ∧ (s.codecs = [] ∨ s.negotiatedCodecs g remote ≠ []) then
    some (s.updateRemoteCodecs g remote)
  else none

/-- The codecs of an offer and of its answer, as they are written, leave both sides some. -/
def CodecsAgree (g : Globals) (a b : MediaSession) : Prop :=
  ∃ b', b.takeCodecs g a.activeCodecs = some b' ∧
    (MediaSession.takeCodecs g b'.activeCodecs { a with remoteSDPIsAnswer := true }).isSome = true

end Fold

structure SdesCalls where
  offer : LocalEnv
  applied : RemoteEnv
  answer : LocalEnv
  settled : RemoteEnv

section Lib
variable [UnicodeCase] [SrtpLib]

/-- Both sides accept the description of the other, and each side's remote context has the keys
of the other's local one. -/
def KeysSurvive (g : Globals) (x : SdesCalls) (a b : MediaSession) : Prop :=
  ∃ b' a', MediaSession.remoteSDP g x.applied (a.localSDP g x.offer).1 b = (.ok (), b') ∧
    MediaSession.remoteSDP g x.settled (b'.localSDP g x.answer).1
      { (a.localSDP g x.offer).2 with remoteSDPIsAnswer := true } = (.ok (), a') ∧
    (∃ ours theirs, a'.localCtxSRTP = some ours ∧
      (b'.localSDP g x.answer).2.remoteCtxSRTP = some theirs ∧ theirs.SameKeys ours) ∧
    ∃ ours theirs, (b'.localSDP g x.answer).2.localCtxSRTP = some ours ∧
      a'.remoteCtxSRTP = some theirs ∧ theirs.SameKeys ours

end Lib

/-- A session that keys its media by SDES with the profile `alg`. -/
structure MediaSession.SdesParty (alg : ProtectionProfile) (s : MediaSession) : Prop where
  legible : s.Legible
  sdp : s.sdp = []
  secureRTP : s.secureRTP = .sdes
  srtpAlg : s.srtpAlg = alg
  noICE : s.iceAgent = none ∧ s.establishedICE = none
  ip : s.laddr.ip ≠ none
  port : 0 < s.laddr.port ∧ s.laddr.port ≤ 65535
  tag : s.srtpRemoteTag < 2 ^ 63

section Crypto

theorem srtpProfileParse_string [SrtpLib] {p : ProtectionProfile} (h : p ∈ namedProfiles) :
    srtpProfileParse (srtpProfileString p) = p ∧ p ≠ 0 ∧
      ∀ b ∈ srtpProfileString p, Graphic b := by
  obtain ⟨name, hname, hparse⟩ : ∃ name, srtpProfileString p = name ∧
      srtpProfileParse name = p ∧ p ≠ 0 ∧ ∀ b ∈ name, Graphic b := by
    simp only [namedProfiles, List.mem_cons, List.not_mem_nil, or_false] at h
    rcases h with rfl | rfl | rfl | rfl | rfl
    · exact ⟨lit "AES_CM_128_HMAC_SHA1_80", rfl, by decide⟩
    · exact ⟨lit "AES_CM_256_HMAC_SHA1_80", rfl, by decide⟩
    · exact ⟨lit "AEAD_AES_128_GCM", rfl, by decide⟩
    · exact ⟨lit "AEAD_AES_256_GCM", rfl, by decide⟩
    · exact ⟨lit "NULL_HMAC_SHA1_80", rfl, by decide⟩
  rwa [hname]

theorem readCrypto_value [SrtpLib] (halg : alg ∈ namedProfiles) (keysalt : Bytes) {tag : ℤ}
    (hlo : 0 < tag) (hhi : tag < 2 ^ 63) :
    readCrypto (SdesInline.value ⟨srtpProfileString alg, base64Encode keysalt, tag⟩) =
      some (.ok ⟨(tag, none), alg, base64Encode keysalt⟩) := by
  obtain ⟨hparse, -, hname⟩ := srtpProfileParse_string halg
  have hinline : ∀ b ∈ lit "inline:", Graphic b := by decide
  have hcrypto : ∀ b ∈ lit "crypto:", Graphic b := by decide
  have htext : SdesInline.value ⟨srtpProfileString alg, base64Encode keysalt, tag⟩ =
      lit "crypto:" ++ (itoa tag ++ space :: (srtpProfileString alg ++
        space :: (lit "inline:" ++ base64Encode keysalt))) := by
    have hsep : lit " inline:" = space :: lit "inline:" := by decide
    simp [SdesInline.value, hsep]
  have hsplit : (SdesInline.value ⟨srtpProfileString alg, base64Encode keysalt, tag⟩).splitOn
      space = [lit "crypto:" ++ itoa tag, srtpProfileString alg,
        lit "inline:" ++ base64Encode keysalt] := by
    have hwords : ∀ w ∈ [lit "crypto:" ++ itoa tag, srtpProfileString alg,
        lit "inline:" ++ base64Encode keysalt], space ∉ w := by
      simp only [List.forall_mem_cons]
      refine ⟨space_not_graphic ?_, space_not_graphic hname, space_not_graphic ?_, by simp⟩
      · exact List.forall_mem_append.mpr ⟨hcrypto, graphic_itoa tag⟩
      · exact List.forall_mem_append.mpr ⟨hinline, graphic_base64Encode keysalt⟩
    have hjoin := List.splitOn_intercalate space hwords (by simp)
    rw [htext]
    simpa [List.intercalate_cons_cons] using hjoin
  unfold readCrypto
  rw [hsplit, htext, cutPre_append]
  simp only [trimPre, cutPre_append, Option.getD_some, hparse,
    atoi_itoa (show -2 ^ 63 ≤ tag by omega) hhi]

end Crypto

/-- A description that offers the key `keysalt` for the profile `alg`. -/
structure Description.OffersKeys [UnicodeCase] [SrtpLib] (d : Description)
    (alg : ProtectionProfile) (keysalt : Bytes) (tag : ℤ) : Prop where
  legible : d.Legible
  ice : d.ice = none
  dtls : d.dtls = none
  sdes : d.sdes = some ⟨srtpProfileString alg, base64Encode keysalt, tag⟩
  named : alg ∈ namedProfiles
  tag : 0 < tag ∧ tag < 2 ^ 63
  ip : d.connectionIP ≠ none
  port : 0 < d.rtpPort ∧ d.rtpPort ≤ 65535
  profile : (parseRTPProfile d.rtpProfile).isSome = true

section Lib
variable [UnicodeCase] [SrtpLib]

omit [SrtpLib] in
theorem MediaSession.takeCodecs_eq_some {g : Globals} {written : List Codec} :
    s.takeCodecs g written = some t ↔ ∃ remote, readBack written = some remote ∧ remote ≠ [] ∧
      (s.codecs = [] ∨ s.negotiatedCodecs g remote ≠ []) ∧ s.updateRemoteCodecs g remote = t := by
  simp only [MediaSession.takeCodecs, Option.bind_eq_bind, Option.bind_eq_some_iff]
  constructor
  · rintro ⟨remote, hread, h⟩
    split at h
    · rename_i hcommon
      exact ⟨remote, hread, hcommon.1, hcommon.2, Option.some.inj h⟩
    · cases h
  · rintro ⟨remote, hread, hne, hcommon, rfl⟩
    exact ⟨remote, hread, if_pos ⟨hne, hcommon⟩⟩

omit [UnicodeCase] in
theorem applyCrypto_append {xs : List Bytes} (h : ∀ v ∈ xs, cutPre (lit "crypto:") v = none)
    (handle : ℕ) (ys : List Bytes) : applyCrypto handle (xs ++ ys) = applyCrypto handle ys := by
  induction xs with
  | nil => rfl
  | cons v xs ih =>
    simp only [List.forall_mem_cons] at h
    have hnone : readCrypto v = none := by
      unfold readCrypto
      rw [h.1]
    rw [List.cons_append, applyCrypto, hnone]
    exact ih h.2

section Read
variable {g : Globals} {d : Description} {alg : ProtectionProfile} {keysalt : Bytes} {tag : ℤ}
  (hd : d.OffersKeys alg keysalt tag)
include hd

/-- A session of the profile takes the key of the description, or refuses it. -/
theorem Description.OffersKeys.applyCrypto (handle : ℕ) (hs : s.srtpAlg = alg) :
    applyCrypto handle d.attributes s = (.ok (), t) ↔
      ∃ ctx, sdesContext handle ⟨(tag, none), alg, base64Encode keysalt⟩ = .ok ctx ∧
        { s with srtpRemoteTag := tag, remoteCtxSRTP := some ctx } = t := by
  obtain ⟨-, hne, -⟩ := srtpProfileParse_string hd.named
  have hname : srtpProfileString alg ≠ [] := by
    intro hnil
    have hparse := (srtpProfileParse_string hd.named).1
    rw [hnil] at hparse
    exact hne hparse.symm
  have hattrs : d.attributes = d.formatAttributes ++
      [SdesInline.value ⟨srtpProfileString alg, base64Encode keysalt, tag⟩] := by
    rw [d.attributes_eq hd.ice, hd.sdes, hd.dtls]
    simp [cryptoLines, dtlsLines, hname, attr]
  have helse : Elsewhere (lit "crypto:") := by decide
  rw [hattrs, applyCrypto_append (helse.formatAttributes d), Media.applyCrypto,
    readCrypto_value hd.named keysalt hd.tag.1 hd.tag.2]
  have htake : ¬ (alg = 0 ∨ s.srtpAlg ≠ alg) := by simp [hne, hs]
  dsimp only
  rw [bind_of_ok (update_apply _ s), bind_of_ok (require_of _ _ rfl), bind_of_ok (read_apply _),
    if_neg htake]
  simp only [bind_eq_ok, ofExcept_apply, update_apply, Prod.mk.injEq, true_and]
  constructor
  · rintro ⟨ctx, _, ⟨hctx, rfl⟩, rfl⟩
    exact ⟨ctx, hctx, rfl⟩
  · rintro ⟨ctx, hctx, rfl⟩
    exact ⟨ctx, _, ⟨hctx, rfl⟩, rfl⟩

theorem Description.OffersKeys.accepted {s : MediaSession} {r : StreamRead}
    (h : r.Accepted g s d.lines d.audioMedia) : readBack d.codecs = some r.remote := by
  have hread := h.codecs
  rwa [values_lines_attributes, codecsFromSDPRead_attributes d (by simp [hd.ice])] at hread

theorem Description.OffersKeys.exists_accepted {s : MediaSession} {remote : List Codec}
    (hread : readBack d.codecs = some remote) (hne : remote ≠ [])
    (hcommon : s.codecs = [] ∨ s.negotiatedCodecs g remote ≠ []) :
    ∃ r : StreamRead, r.remote = remote ∧ r.Accepted g s d.lines d.audioMedia := by
  obtain ⟨ip, hip⟩ := Option.ne_none_iff_exists'.mp hd.ip
  obtain ⟨ci, hci, hciip⟩ := connectionInformation_lines d hip
  obtain ⟨prof, hprof⟩ := Option.isSome_iff_exists.mp hd.profile
  refine ⟨⟨_, prof, remote, ci⟩, rfl, sessionInformation_lines d, hprof, ?_, hne, hcommon, hci,
    hd.port, by simp [hciip]⟩
  rwa [values_lines_attributes, codecsFromSDPRead_attributes d (by simp [hd.ice])]

theorem Description.OffersKeys.dtlsAttributes
    {read : SetupRole × List SdpFingerprint × Bytes} : dtlsAttributes d.attributes ≠ .ok read := by
  have helse : Elsewhere (lit "fingerprint:") := by decide
  have hnone : fingerprintAttrs d.attributes = [] := by
    have hquiet : ∀ v ∈ d.formatAttributes ++ (cryptoLines d.sdes).map Line.value,
        cutPre (lit "fingerprint:") v = none :=
      List.forall_mem_append.mpr
        ⟨helse.formatAttributes d, cutPre_cryptoLines (by decide) d.sdes⟩
    rw [d.attributes_eq hd.ice, hd.dtls, fingerprintAttrs_append hquiet]
    rfl
  unfold Media.dtlsAttributes
  rw [hnone]
  intro h
  cases h

/-- The keying part: a session with a certificate waits for a fingerprint that is not there. -/
theorem Description.OffersKeys.applyKeying {req : Bool} {proto : Bytes}
    (hsecure : s.secureRTP = .sdes) (hs : s.srtpAlg = alg) :
    applyKeying g env d.attributes req proto s = (.ok (), t) ↔
      s.dtlsConf.certificates = [] ∧
        ∃ ctx, sdesContext env.handle ⟨(tag, none), alg, base64Encode keysalt⟩ = .ok ctx ∧
          { s with srtpRemoteTag := tag, remoteCtxSRTP := some ctx } = t := by
  have hICE {u : MediaSession} (hu : u.secureRTP = .sdes) : applyICE d.attributes u = (.ok (), u) := by
    unfold applyICE
    rw [bind_of_ok (read_apply u), only_of_not _ (by simp [MediaSession.iceEnabled, hu])]
    rfl
  have hDTLS {u : MediaSession} (hu : u.secureRTP = .sdes) (hcerts : u.dtlsConf.certificates = []) :
      applyDTLS g env d.attributes u = (.ok (), u) :=
    applyDTLS_of_not (by simp [MediaSession.dtlsSRTP, hu, hcerts]) ..
  rw [applyKeying_eq_ok]
  constructor
  · rintro ⟨s₁, s₂, s₃, hcrypto, hice, hdtls, hsettle⟩
    obtain ⟨ctx, hctx, hs₁⟩ := (hd.applyCrypto env.handle hs).mp hcrypto
    have hsecure₁ : s₁.secureRTP = .sdes := by rw [← hs₁]; exact hsecure
    rw [hICE hsecure₁] at hice
    obtain rfl := (Prod.mk.inj hice).2
    have hcerts₁ : s₁.dtlsConf.certificates = [] := by
      by_contra hne
      obtain ⟨setup, fingerprints, tlsID, hread, -⟩ := applyDTLS_ok
        (by simp [MediaSession.dtlsSRTP, hne]) hdtls
      exact hd.dtlsAttributes hread
    rw [hDTLS hsecure₁ hcerts₁] at hdtls
    obtain rfl := (Prod.mk.inj hdtls).2
    obtain ⟨-, rfl⟩ := settleContexts_eq_ok.mp hsettle
    rw [← hs₁] at hcerts₁ ⊢
    exact ⟨hcerts₁, ctx, hctx, by simp⟩
  · rintro ⟨hcerts, ctx, hctx, ht⟩
    have hcrypto := (hd.applyCrypto env.handle hs).mpr ⟨ctx, hctx, ht⟩
    have hsecure' : t.secureRTP = .sdes := by rw [← ht]; exact hsecure
    have hcerts' : t.dtlsConf.certificates = [] := by rw [← ht]; exact hcerts
    refine ⟨t, t, t, hcrypto, hICE hsecure', hDTLS hsecure' hcerts', ?_⟩
    rw [settleContexts_eq_ok, ← ht]
    exact ⟨by simp, by simp⟩

/-- A session without DTLS takes the description exactly when it has a codec of it and the key
makes a context. -/
theorem Description.OffersKeys.remoteSDP (hsecure : s.secureRTP = .sdes) (hs : s.srtpAlg = alg) :
    MediaSession.remoteSDP g env (generateSDPForAudio d) s = (.ok (), t) ↔
      s.dtlsConf.certificates = [] ∧ ∃ r : StreamRead, r.Accepted g s d.lines d.audioMedia ∧
        ∃ ctx, sdesContext env.handle ⟨(tag, none), alg, base64Encode keysalt⟩ = .ok ctx ∧
          t = { s.onStream g r d.lines d.audioMedia
                  ⟨d.sections.media.map (·.media), d.streams.rejectedBefore.length⟩ with
                srtpRemoteTag := tag
                remoteCtxSRTP := some ctx } := by
  have hchoose := chooseAudio_generateSDPForAudio hd.legible hd.port.1 hd.profile
  have hattrs : values (d.sections.description d.audioSection) (lit "a") = d.attributes :=
    values_lines_attributes d
  rw [remoteSDP_eq_ok]
  constructor
  · rintro ⟨sections, audio, m, r, hbody, hr, hkey⟩
    obtain ⟨rfl, rfl, rfl⟩ : d.sections = sections ∧ d.streams.rejectedBefore.length = audio ∧
        d.audioSection = m := by
      simpa using Except.ok.inj (hchoose.symm.trans hbody)
    rw [hattrs] at hkey
    obtain ⟨hcerts, ctx, hctx, rfl⟩ := (hd.applyKeying (by exact hsecure) (by exact hs)).mp hkey
    exact ⟨hcerts, r, hr, ctx, hctx, rfl⟩
  · rintro ⟨hcerts, r, hr, ctx, hctx, rfl⟩
    refine ⟨d.sections, _, d.audioSection, r, hchoose, hr, ?_⟩
    rw [hattrs]
    exact (hd.applyKeying (by exact hsecure) (by exact hs)).mpr ⟨hcerts, ctx, hctx, rfl⟩

end Read

omit [UnicodeCase] in
theorem lens_of_named (hlib : DocumentedLens) (halg : alg ∈ namedProfiles) :
    ∃ keyLen saltLen, SrtpLib.keyLen alg = some keyLen ∧
      SrtpLib.saltLen alg = some saltLen ∧ (keyLen + saltLen = 30 ↔
        alg = profileAes128CmHmacSha1_80 ∨ alg = profileNullHmacSha1_80) ∧
      (keyLen + saltLen = 30 → keyLen = 16) := by
  obtain ⟨hkey, hsalt⟩ := hlib alg halg
  simp only [namedProfiles, List.mem_cons, List.not_mem_nil, or_false] at halg
  rcases halg with rfl | rfl | rfl | rfl | rfl
  · exact ⟨16, 14, hkey, hsalt, by decide, by decide⟩
  · exact ⟨32, 14, hkey, hsalt, by decide, by decide⟩
  · exact ⟨16, 12, hkey, hsalt, by decide, by decide⟩
  · exact ⟨32, 12, hkey, hsalt, by decide, by decide⟩
  · exact ⟨16, 14, hkey, hsalt, by decide, by decide⟩

omit [UnicodeCase] in
theorem sdesContext_eq_ok (handle : ℕ) (tag : ℤ × Option NumError) {keysalt : Bytes}
    (hkey : SrtpLib.keyLen alg = some keyLen) (hsalt : SrtpLib.saltLen alg = some saltLen)
    (hlen : keysalt.length = keyLen + saltLen) (hsplit : keyLen + saltLen = 30 → keyLen = 16)
    {ctx : SrtpContext} :
    sdesContext handle ⟨tag, alg, base64Encode keysalt⟩ = .ok ctx ↔ keyLen + saltLen = 30 ∧
      ctx = ⟨handle, keysalt.take keyLen, keysalt.drop keyLen, alg⟩ := by
  unfold sdesContext
  simp only [base64Decode_encode, hlen]
  by_cases hthirty : keyLen + saltLen = 30
  · have hsixteen := hsplit hthirty
    have haccepts : SrtpLib.accepts (keysalt.take 16) (keysalt.drop 16) alg = true := by
      rw [SrtpLib.accepts_iff, hkey, hsalt, List.length_take, List.length_drop, hlen]
      simp only [Option.some.injEq]
      omega
    rw [if_neg (by simp [hthirty])]
    simp only [createContext, haccepts, if_true, Except.ok.injEq, hthirty, true_and]
    rw [hsixteen]
    exact eq_comm
  · simp [hthirty]

omit [UnicodeCase] in
theorem MediaSession.SdesParty.localSDES {s : MediaSession} (hs : s.SdesParty alg)
    (hoffer : s.offersSDES = true) (env : LocalEnv) (hkey : SrtpLib.keyLen alg = some keyLen)
    (hsalt : SrtpLib.saltLen alg = some saltLen) :
    s.localSDES env =
      (some ⟨srtpProfileString alg, base64Encode (draw env.random (keyLen + saltLen)),
          if 0 < s.srtpRemoteTag then s.srtpRemoteTag else 1⟩,
        some ⟨env.handle, (draw env.random (keyLen + saltLen)).take keyLen,
          (draw env.random (keyLen + saltLen)).drop keyLen, alg⟩) := by
  have haccepts : SrtpLib.accepts ((draw env.random (keyLen + saltLen)).take keyLen)
      ((draw env.random (keyLen + saltLen)).drop keyLen) alg = true := by
    rw [SrtpLib.accepts_iff, hkey, hsalt, List.length_take, List.length_drop, length_draw]
    simp only [Option.some.injEq]
    omega
  simp [MediaSession.localSDES, hoffer, generateMasterKeySalt, hs.srtpAlg, hkey, hsalt,
    createContext, haccepts]

section Lengths
variable {g : Globals} {d : Description} {alg : ProtectionProfile} {random : ℕ → UInt8} {tag : ℤ}
  {keyLen saltLen : ℕ} {env : RemoteEnv} {s : MediaSession}
  (hkey : SrtpLib.keyLen alg = some keyLen) (hsalt : SrtpLib.saltLen alg = some saltLen)
  (hsplit : keyLen + saltLen = 30 → keyLen = 16)
  (hd : d.OffersKeys alg (draw random (keyLen + saltLen)) tag) (hsecure : s.secureRTP = .sdes)
  (hs : s.srtpAlg = alg)
include hkey hsalt hsplit hd hsecure hs

theorem Description.OffersKeys.taken {t : MediaSession}
    (h : MediaSession.remoteSDP g env (generateSDPForAudio d) s = (.ok (), t)) :
    s.dtlsConf.certificates = [] ∧ keyLen + saltLen = 30 ∧ t.localCtxSRTP = s.localCtxSRTP ∧
      t.remoteCtxSRTP = some ⟨env.handle, (draw random (keyLen + saltLen)).take keyLen,
        (draw random (keyLen + saltLen)).drop keyLen, alg⟩ ∧
      ∃ s', s.takeCodecs g d.codecs = some s' ∧ t.activeCodecs = s'.activeCodecs := by
  obtain ⟨hcerts, r, hr, ctx, hctx, ht⟩ := (hd.remoteSDP hsecure hs).mp h
  obtain ⟨hthirty, rfl⟩ := (sdesContext_eq_ok env.handle (tag, none) hkey hsalt (length_draw ..) hsplit).mp hctx
  refine ⟨hcerts, hthirty, ?_, ?_, s.updateRemoteCodecs g r.remote, ?_, ?_⟩
  · rw [ht]
    rfl
  · rw [ht]
  · exact MediaSession.takeCodecs_eq_some.mpr
      ⟨r.remote, hd.accepted hr, hr.remote, hr.common, rfl⟩
  · rw [ht]
    rfl

variable (env) in
theorem Description.OffersKeys.exists_taken (hcerts : s.dtlsConf.certificates = [])
    (hthirty : keyLen + saltLen = 30) (hcodecs : (s.takeCodecs g d.codecs).isSome = true) :
    ∃ t, MediaSession.remoteSDP g env (generateSDPForAudio d) s = (.ok (), t) := by
  obtain ⟨s', hs'⟩ := Option.isSome_iff_exists.mp hcodecs
  obtain ⟨remote, hread, hne, hcommon, -⟩ := MediaSession.takeCodecs_eq_some.mp hs'
  obtain ⟨r, rfl, hr⟩ := hd.exists_accepted hread hne hcommon
  have hctx := (sdesContext_eq_ok env.handle (tag, none) hkey hsalt
    (length_draw random _) hsplit).mpr ⟨hthirty, rfl⟩
  exact ⟨_, (hd.remoteSDP hsecure hs).mpr ⟨hcerts, r, hr, _, hctx, rfl⟩⟩

end Lengths

omit [SrtpLib] in
theorem parseRTPProfile_offered {p : Bytes} (h : p = lit "RTP/AVP" ∨ p = lit "RTP/SAVP") :
    (parseRTPProfile p).isSome = true := by
  have hgraphic : ∀ b ∈ p, Graphic b := by
    rcases h with rfl | rfl
    all_goals decide
  unfold parseRTPProfile
  rw [trimSpace_of_forall_graphic hgraphic, toUpper_of_ascii (.of_graphic hgraphic)]
  rcases h with rfl | rfl
  all_goals decide

section Party
variable {g : Globals} {alg : ProtectionProfile} {s : MediaSession} (hs : s.SdesParty alg)
include hs

omit [UnicodeCase] [SrtpLib] in
theorem MediaSession.SdesParty.tag_pos :
    0 < (if 0 < s.srtpRemoteTag then s.srtpRemoteTag else 1) ∧
      (if 0 < s.srtpRemoteTag then s.srtpRemoteTag else 1) < 2 ^ 63 := by
  have htag := hs.tag
  split
  · exact ⟨‹_›, htag⟩
  · decide

theorem MediaSession.SdesParty.localSDP (g : Globals) (env : LocalEnv) :
    s.localSDP g env = (generateSDPForAudio (s.description g env), s.described env) := by
  simp [MediaSession.localSDP, hs.sdp]

theorem MediaSession.SdesParty.offersKeys (halg : alg ∈ namedProfiles)
    (hoffer : s.offersSDES = true) (hcodecs : s.activeCodecs ≠ [])
    (hkey : SrtpLib.keyLen alg = some keyLen) (hsalt : SrtpLib.saltLen alg = some saltLen)
    (env : LocalEnv)
    (hprofile : s.answeringOffer = true → (parseRTPProfile s.remoteProto).isSome = true) :
    (s.description g env).OffersKeys alg (draw env.random (keyLen + saltLen))
      (if 0 < s.srtpRemoteTag then s.srtpRemoteTag else 1) where
  legible := hs.legible.description hcodecs g env
  ice := by simp [MediaSession.description, MediaSession.localICESetup, hs.noICE]
  dtls := by simp [MediaSession.description, MediaSession.localDTLS, hs.secureRTP]
  sdes := by simp [MediaSession.description, hs.localSDES hoffer env hkey hsalt]
  named := halg
  tag := hs.tag_pos
  ip := by
    have hip := hs.ip
    simp only [MediaSession.description]
    cases s.externalIP with
    | none => exact hip
    | some ip => simp
  port := hs.port
  profile := by
    simp only [MediaSession.description]
    split
    · exact hprofile ‹_›
    · apply parseRTPProfile_offered
      simp only [MediaSession.offeredProfile, hs.secureRTP]
      split_ifs <;> simp_all

theorem MediaSession.SdesParty.answers {d : Description} {keysalt : Bytes} {tag : ℤ}
    {t : MediaSession} (hd : d.OffersKeys alg keysalt tag)
    (h : MediaSession.remoteSDP g env (generateSDPForAudio d) s = (.ok (), t)) :
    t.SdesParty alg ∧ t.offersSDES = true ∧ (parseRTPProfile t.remoteProto).isSome = true ∧
      t.activeCodecs ≠ [] := by
  have hlegible := hs.legible.remoteSDP h
  obtain ⟨-, r, hr, ctx, -, ht⟩ := (hd.remoteSDP hs.secureRTP hs.srtpAlg).mp h
  refine ⟨⟨hlegible, ?_, ?_, ?_, ?_, ?_, ?_, ?_⟩, ?_, ?_, ?_⟩
  · rw [ht]
    exact hs.sdp
  · rw [ht]
    exact hs.secureRTP
  · rw [ht]
    exact hs.srtpAlg
  · rw [ht]
    exact hs.noICE
  · rw [ht]
    exact hs.ip
  · rw [ht]
    exact hs.port
  · rw [ht]
    exact hd.tag.2
  · have hsecure : t.secureRTP = .sdes := by rw [ht]; exact hs.secureRTP
    have hctx : t.remoteCtxSRTP = some ctx := by rw [ht]
    simp [MediaSession.offersSDES, hsecure, hctx]
  · have hproto : t.remoteProto = d.rtpProfile := by rw [ht]; rfl
    rw [hproto]
    exact hd.profile
  · have hcodecs : t.codecs = if s.codecs = [] then r.remote else s.codecs := by rw [ht]; rfl
    have hne : t.codecs ≠ [] := by
      rw [hcodecs]
      split
      · exact hr.remote
      · assumption
    unfold MediaSession.activeCodecs
    split
    · assumption
    · exact hne

end Party

/-- The keys of both sides survive the exchange exactly when the profile has a key of sixteen and
a salt of fourteen bytes, no side has a certificate and the codecs agree as they are written. -/
theorem sdes_keys_survive_iff (g : Globals) (x : SdesCalls) (alg : ProtectionProfile)
    (a b : MediaSession) (hlib : DocumentedLens) (halg : alg ∈ namedProfiles)
    (ha : a.SdesParty alg) (hb : b.SdesParty alg) (hoffering : a.answeringOffer = false)
    (hoffer : a.offersSDES = true) (hcodecs : a.activeCodecs ≠ []) :
    KeysSurvive g x a b ↔
      (alg = profileAes128CmHmacSha1_80 ∨ alg = profileNullHmacSha1_80) ∧
        a.dtlsConf.certificates = [] ∧ b.dtlsConf.certificates = [] ∧ CodecsAgree g a b := by
  obtain ⟨keyLen, saltLen, hkey, hsalt, hthirty, hsplit⟩ := lens_of_named hlib halg
  have hofferKeys := ha.offersKeys (g := g) halg hoffer hcodecs hkey hsalt x.offer
    (by simp [hoffering])
  obtain ⟨a₁, ha₁⟩ : ∃ a₁ : MediaSession,
      a₁ = { a.described x.offer with remoteSDPIsAnswer := true } := ⟨_, rfl⟩
  have hsecure₁ : a₁.secureRTP = .sdes := by rw [ha₁]; exact ha.secureRTP
  have halg₁ : a₁.srtpAlg = alg := by rw [ha₁]; exact ha.srtpAlg
  have hcerts₁ : a₁.dtlsConf = a.dtlsConf := by rw [ha₁]; rfl
  have hlocal₁ : a₁.localCtxSRTP = (a.localSDES x.offer).2 := by
    rw [ha₁]
    simp [MediaSession.described, ha.localSDES hoffer x.offer hkey hsalt]
  have htake₁ (written : List Codec) : (a₁.takeCodecs g written).isSome = true ↔
      (MediaSession.takeCodecs g written { a with remoteSDPIsAnswer := true }).isSome = true := by
    simp only [Option.isSome_iff_exists, MediaSession.takeCodecs_eq_some, ha₁]
    constructor
    all_goals
      rintro ⟨_, remote, hread, hne, hcommon, -⟩
      exact ⟨_, remote, hread, hne, hcommon, rfl⟩
  unfold KeysSurvive
  rw [ha.localSDP]
  simp only [← ha₁]
  constructor
  · rintro ⟨b', a', happly, hsettle, -, -⟩
    obtain ⟨hcertsB, hlen, -, -, b₁, hb₁, hactive₁⟩ :=
      hofferKeys.taken hkey hsalt hsplit hb.secureRTP hb.srtpAlg happly
    obtain ⟨hparty, hoffer', hproto, hactive⟩ := hb.answers hofferKeys happly
    have hanswerKeys := hparty.offersKeys (g := g) halg hoffer' hactive hkey hsalt x.answer
      fun _ => hproto
    rw [hparty.localSDP] at hsettle
    obtain ⟨hcertsA, -, -, -, a₂, ha₂, -⟩ :=
      hanswerKeys.taken hkey hsalt hsplit hsecure₁ halg₁ hsettle
    refine ⟨hthirty.mp hlen, hcerts₁ ▸ hcertsA, hcertsB, b₁, hb₁, ?_⟩
    rw [← hactive₁, ← htake₁]
    exact Option.isSome_iff_exists.mpr ⟨a₂, ha₂⟩
  · rintro ⟨hprofile, hcertsA, hcertsB, b₁, hb₁, ha₂⟩
    have hlen := hthirty.mpr hprofile
    obtain ⟨b', happly⟩ := hofferKeys.exists_taken x.applied hkey hsalt hsplit hb.secureRTP
      hb.srtpAlg hcertsB hlen (Option.isSome_iff_exists.mpr ⟨b₁, hb₁⟩)
    obtain ⟨-, -, -, hremoteB, b₂, hb₂, hactive₂⟩ :=
      hofferKeys.taken hkey hsalt hsplit hb.secureRTP hb.srtpAlg happly
    obtain rfl := Option.some.inj (hb₁.symm.trans hb₂)
    obtain ⟨hparty, hoffer', hproto, hactive⟩ := hb.answers hofferKeys happly
    have hanswerKeys := hparty.offersKeys (g := g) halg hoffer' hactive hkey hsalt x.answer
      fun _ => hproto
    rw [← hactive₂, ← htake₁] at ha₂
    obtain ⟨a', hsettle⟩ := hanswerKeys.exists_taken x.settled hkey hsalt hsplit hsecure₁
      halg₁ (hcerts₁ ▸ hcertsA) hlen ha₂
    obtain ⟨-, -, hlocalA, hremoteA, -⟩ :=
      hanswerKeys.taken hkey hsalt hsplit hsecure₁ halg₁ hsettle
    have hlocalB : (b'.described x.answer).localCtxSRTP = (b'.localSDES x.answer).2 := by
      simp [MediaSession.described, hparty.localSDES hoffer' x.answer hkey hsalt]
    rw [hparty.localSDES hoffer' x.answer hkey hsalt] at hlocalB
    rw [hlocal₁, ha.localSDES hoffer x.offer hkey hsalt] at hlocalA
    refine ⟨b', a', happly, ?_, ?_, ?_⟩
    · rw [hparty.localSDP]
      exact hsettle
    · rw [hparty.localSDP]
      exact ⟨_, _, hlocalA, hremoteB, rfl, rfl, rfl⟩
    · rw [hparty.localSDP]
      exact ⟨_, _, hlocalB, hremoteA, rfl, rfl, rfl⟩

end Lib

section Sample

attribute [local instance] asciiOnly documentedSrtp

def sdesSession (alg : ProtectionProfile) : MediaSession :=
  { toSettings :=
      { codecs := [codecAudioUlaw]
        prefMode := some .sendrecv
        laddr := { ip := some (.v4 10 0 0 1), port := 4000 }
        secureRTP := .sdes
        srtpAlg := alg } }

theorem sdesSession_party (alg : ProtectionProfile) : (sdesSession alg).SdesParty alg where
  legible := ⟨by simp +decide [sdesSession], by simp [sdesSession], NoSpace.nil,
    by simp [sdesSession], by simp [sdesSession], by simp [sdesSession], by simp [sdesSession],
    by simp [sdesSession]⟩
  sdp := rfl
  secureRTP := rfl
  srtpAlg := rfl
  noICE := ⟨rfl, rfl⟩
  ip := by simp [sdesSession]
  port := by simp [sdesSession]
  tag := by simp [sdesSession]

def sdesCalls : SdesCalls :=
  { offer := ⟨0x100000000, fun _ => 1, 4, sameLetter 0⟩
    applied := plainRemote
    answer := ⟨0x100000000, fun _ => 2, 5, sameLetter 0⟩
    settled := plainRemote }

/-- The default profile keeps its keys. -/
theorem aes128_keys_survive : KeysSurvive {} sdesCalls (sdesSession profileAes128CmHmacSha1_80)
    (sdesSession profileAes128CmHmacSha1_80) := by
  have hagree : ((sdesSession profileAes128CmHmacSha1_80).takeCodecs {} [codecAudioUlaw]).map
      (fun b => (MediaSession.takeCodecs {} b.activeCodecs
        { sdesSession profileAes128CmHmacSha1_80 with remoteSDPIsAnswer := true }).isSome) =
      some true := by decide +kernel
  exact (sdes_keys_survive_iff {} sdesCalls profileAes128CmHmacSha1_80 _ _ (fun _ _ => ⟨rfl, rfl⟩)
    (by decide) (sdesSession_party _) (sdesSession_party _) rfl rfl (by decide)).mpr
    ⟨.inl rfl, rfl, rfl, Option.map_eq_some_iff.mp hagree⟩

/-- The answerer refuses the key the offerer drew for the longer profile. -/
theorem aes256_keys_refused :
    (sdesSession profileAes256CmHmacSha1_80).SdesParty profileAes256CmHmacSha1_80 ∧
    (MediaSession.remoteSDP {} plainRemote
      ((sdesSession profileAes256CmHmacSha1_80).localSDP {} sdesCalls.offer).1
      (sdesSession profileAes256CmHmacSha1_80)).1 = .error (.sdesKeyLength 46) ∧
    ¬ KeysSurvive {} sdesCalls (sdesSession profileAes256CmHmacSha1_80)
      (sdesSession profileAes256CmHmacSha1_80) := by
  have hrefused : (MediaSession.remoteSDP {} plainRemote
      ((sdesSession profileAes256CmHmacSha1_80).localSDP {} sdesCalls.offer).1
      (sdesSession profileAes256CmHmacSha1_80)).1 = .error (.sdesKeyLength 46) := by
    decide +kernel
  refine ⟨sdesSession_party _, hrefused, ?_⟩
  rintro ⟨b', a', happly, -⟩
  have happly : (MediaSession.remoteSDP {} plainRemote
      ((sdesSession profileAes256CmHmacSha1_80).localSDP {} sdesCalls.offer).1
      (sdesSession profileAes256CmHmacSha1_80)).1 = .ok () := by
    exact congrArg Prod.fst happly
  rw [hrefused] at happly
  cases happly

end Sample
end Diago.Media
