import Diago.Media.RemoteSDP

/-! # What a description is refused for

RemoteSDP fails in the choice of the stream, in what the stream is and where it goes,
in its codecs, or in how it is keyed.
-/
namespace Diago.Media
open Lib SDP Op

inductive ChoiceErr (body : Bytes) : Err → Prop
  | parse {e : SDP.Err} (h : unmarshalSections body = .error e) : ChoiceErr body (.parse e)
  | noAudio : ChoiceErr body .noAudio

/-- The errors of a stream's origin, profile and connection. -/
inductive StreamErr (lines : List Line) (md : MediaDescription) : Err → Prop
  | origin {e : SDP.Err} (h : sessionInformation lines = .error e) : StreamErr lines md (.sdp e)
  | unsupportedProto : StreamErr lines md (.unsupportedProto md.proto)
  | connection {e : SDP.Err} (h : connectionInformation lines = .error e) :
      StreamErr lines md (.sdp e)
  | unusablePort : StreamErr lines md (.unusablePort md.port)
  | notAnIP {ci : ConnectionInformation} (h : connectionInformation lines = .ok ci) :
      StreamErr lines md (.notAnIP ci.addressType)

/-- The errors of a stream's codecs, the panic among them. -/
inductive CodecsErr : Err → Prop
  | outOfRange : CodecsErr .codecsOutOfRange
  | noneFound : CodecsErr .noCodecsFound
  | noneSupported : CodecsErr .noSupportedCodecs

inductive CryptoErr : Err → Prop
  | badCrypto (v : Bytes) : CryptoErr (.badCrypto v)
  | badCryptoTag (v : Bytes) : CryptoErr (.badCryptoTag v)
  | badSDESKey : CryptoErr .badSDESKey
  | sdesKeyLength (n : ℕ) : CryptoErr (.sdesKeyLength n)
  | sdesContext : CryptoErr .sdesContext

inductive IceErr : Err → Prop
  | noCredentials : IceErr .iceNoCredentials
  | noRTCPMux : IceErr .iceNoRTCPMux
  | credentialsChanged : IceErr .iceCredentialsChanged
  | noPair : IceErr .iceNoPair

/-- The errors of the attributes a DTLS association is read from. -/
inductive DtlsErr : Err → Prop
  | badFingerprint (v : Bytes) : DtlsErr (.badFingerprint v)
  | noFingerprint (n : ℕ) : DtlsErr (.noFingerprint n)
  | emptySetup : DtlsErr .emptySetup
  | unknownSetup (v : Bytes) : DtlsErr (.unknownSetup v)

inductive KeyingErr (proto : Bytes) : Err → Prop
  | crypto {e : Err} (h : CryptoErr e) : KeyingErr proto e
  | ice {e : Err} (h : IceErr e) : KeyingErr proto e
  | dtls {e : Err} (h : DtlsErr e) : KeyingErr proto e
  | needsICERestart (c : Change) : KeyingErr proto (.associationNeedsICERestart c)
  | overSameTransport (c : Change) : KeyingErr proto (.associationOverSameTransport c)
  | listen (e : Err) : KeyingErr proto (.associationListen e)
  | dtlsConn : KeyingErr proto .dtlsConn
  | noCommonCrypto : KeyingErr proto (.noCommonCrypto proto)

section Stream
variable {P : Err → Prop} {lines : List Line} {md : MediaDescription}

theorem applyOrigin_failsWith (h : ∀ e, sessionInformation lines = .error e → P (.sdp e)) :
    FailsWith P (applyOrigin lines) := by
  unfold applyOrigin
  split
  · rename_i e he
    exact failsWith_fail (h e he)
  · exact failsWith_update _ _

theorem applyProfile_failsWith [UnicodeCase] (h : P (.unsupportedProto md.proto))
    (attrs : List Bytes) : FailsWith P (applyProfile md attrs) := by
  unfold applyProfile
  split
  · exact failsWith_fail h
  · exact (failsWith_update _ _).bind fun _ => failsWith_pure _ _

theorem applyConnection_failsWith (h : ∀ e, StreamErr lines md e → P e) :
    FailsWith P (applyConnection lines md) := by
  unfold applyConnection
  split
  · rename_i e he
    exact failsWith_fail (h _ (.connection he))
  · rename_i ci hci
    exact (failsWith_require (h _ .unusablePort) _).bind fun _ =>
      (failsWith_require (h _ (.notAnIP hci)) _).bind fun _ => failsWith_update _ _

end Stream

section Fold
variable [UnicodeCase]

theorem chooseAudio_failsWith {body : Bytes} {e : Err} (h : chooseAudio body = .error e) :
    ChoiceErr body e := by
  unfold chooseAudio at h
  split at h
  · rename_i he
    cases h
    exact .parse he
  · split at h
    · cases h
      exact .noAudio
    · split at h <;> cases h
      exact .noAudio

theorem applyCodecs_failsWith (g : Globals) (md : MediaDescription) (attrs : List Bytes) :
    FailsWith CodecsErr (applyCodecs g md attrs) := by
  unfold applyCodecs
  split
  · exact failsWith_fail .outOfRange
  · exact failsWith_fail .noneFound
  · exact (failsWith_read _).bind fun s =>
      (failsWith_update _ _).bind fun _ => failsWith_require .noneSupported _

theorem applyStream_failsWith {g : Globals} {sections : Sections} {audio : ℕ} {m : MediaSection}
    {P : Err → Prop} (hstream : ∀ e, StreamErr (sections.description m) m.media e → P e)
    (hcodecs : FailsWith P
      (applyCodecs g m.media (values (sections.description m) (lit "a")))) :
    FailsWith P (applyStream g sections audio m) :=
  (applyOrigin_failsWith fun _ he => hstream _ (.origin he)).bind fun _ =>
    (applyProfile_failsWith (hstream _ .unsupportedProto) _).bind fun _ =>
    (failsWith_update _ _).bind fun _ => hcodecs.bind fun _ =>
    (applyConnection_failsWith hstream).bind fun _ =>
      (failsWith_update _ _).bind fun _ => failsWith_pure _ _

end Fold

theorem sdesContext_failsWith [SrtpLib] (handle : ℕ) (c : CryptoAttr) (e : Err)
    (h : sdesContext handle c = .error e) : CryptoErr e := by
  unfold sdesContext at h
  split at h
  · cases h
    exact .badSDESKey
  · split at h
    · cases h
      exact .sdesKeyLength _
    · split at h <;> cases h
      exact .sdesContext

theorem applyCrypto_failsWith [SrtpLib] (handle : ℕ) (attrs : List Bytes) :
    FailsWith CryptoErr (applyCrypto handle attrs) := by
  induction attrs with
  | nil => exact failsWith_pure _ _
  | cons v attrs ih =>
    unfold applyCrypto
    split
    · exact ih
    · rename_i e he
      refine failsWith_fail ?_
      unfold readCrypto at he
      split at he
      · cases he
      · split at he <;> cases he
        exact .badCrypto v
    · refine (failsWith_update _ _).bind fun _ =>
        (failsWith_require (.badCryptoTag v) _).bind fun _ => (failsWith_read _).bind fun s => ?_
      split
      · exact ih
      · exact (failsWith_ofExcept (sdesContext_failsWith handle _)).bind fun _ =>
          failsWith_update _ _

theorem applyICE_failsWith (attrs : List Bytes) : FailsWith IceErr (applyICE attrs) := by
  refine (failsWith_read _).bind fun s => FailsWith.only ?_ _
  refine (failsWith_require .noCredentials _).bind fun _ =>
    (failsWith_require .noRTCPMux _).bind fun _ => (failsWith_read _).bind fun s => ?_
  split
  · exact failsWith_update _ _
  · exact (failsWith_require .credentialsChanged _).bind fun _ => failsWith_update _ _
  · exact failsWith_fail .noPair

theorem dtlsAttributes_failsWith [UnicodeCase] (attrs : List Bytes) (e : Err)
    (h : dtlsAttributes attrs = .error e) : DtlsErr e := by
  unfold dtlsAttributes at h
  cases hmap : (fingerprintAttrs attrs).mapM readFingerprint with
  | error e' =>
    rw [hmap] at h
    cases h
    obtain ⟨v, -, hv⟩ := mapM_error hmap
    unfold readFingerprint at hv
    split at hv <;> cases hv
    exact .badFingerprint v
  | ok fingerprints =>
    rw [hmap] at h
    simp only [Bind.bind, Except.bind, throw, throwThe, MonadExceptOf.throw] at h
    split_ifs at h
    · cases h
      exact .emptySetup
    · split at h <;> cases h
      exact .unknownSetup _
    · cases h
      exact .noFingerprint _

section Lib
variable [UnicodeCase] [SrtpLib]

theorem negotiateDTLSAssociation_failsWith (proto : Bytes) (g : Globals) (env : RemoteEnv)
    (setup : SetupRole) (fingerprints : List SdpFingerprint) (tlsID : Bytes) :
    FailsWith (KeyingErr proto) (negotiateDTLSAssociation g env setup fingerprints tlsID) := by
  have harm : FailsWith (KeyingErr proto) (armDTLSHandshake env fingerprints tlsID) :=
    (failsWith_read _).bind fun s =>
      (failsWith_require .dtlsConn _).bind fun _ => failsWith_update _ _
  have hrebound (rebound : Bool) :
      FailsWith (KeyingErr proto) (armRebound env rebound fingerprints tlsID) := by
    intro s e he
    unfold armRebound at he
    split at he
    · cases he
    · rename_i t h
      cases he
      exact harm s e (by rw [h])
  have hrebind : FailsWith (KeyingErr proto) (rebindForAssociation g env) := by
    refine (failsWith_update _ _).bind fun _ s e he => ?_
    split at he <;> cases he
    exact .listen _
  refine (failsWith_read _).bind fun s => ?_
  split
  · exact (failsWith_update _ _).bind fun _ => harm
  · split
    · exact failsWith_pure _ _
    · rename_i change _
      refine (failsWith_require (.needsICERestart change) _).bind fun _ => ?_
      refine (((failsWith_require (.overSameTransport change) _).bind fun _ =>
        hrebind).only _).bind fun _ => ?_
      exact (failsWith_update _ _).bind fun _ => hrebound _

theorem applyKeying_failsWith (g : Globals) (env : RemoteEnv) (attrs : List Bytes)
    (secureRequest : Bool) (proto : Bytes) :
    FailsWith (KeyingErr proto) (applyKeying g env attrs secureRequest proto) := by
  have hdtls : FailsWith (KeyingErr proto) (applyDTLS g env attrs) :=
    (failsWith_read _).bind fun s => FailsWith.only
      ((failsWith_ofExcept fun e he => .dtls (dtlsAttributes_failsWith attrs e he)).bind fun _ =>
        (failsWith_update _ _).bind fun _ => negotiateDTLSAssociation_failsWith proto g env _ _ _) _
  have hsettle : FailsWith (KeyingErr proto) (settleContexts secureRequest proto) :=
    (failsWith_update _ _).bind fun _ => (failsWith_read _).bind fun s =>
      failsWith_require .noCommonCrypto _
  exact ((applyCrypto_failsWith _ _).mono fun _ => .crypto).bind fun _ =>
    ((applyICE_failsWith attrs).mono fun _ => .ice).bind fun _ => hdtls.bind fun _ => hsettle

inductive RemoteErr (body : Bytes) : Err → Prop
  | choice {e : Err} (h : chooseAudio body = .error e) : RemoteErr body e
  | stream {sections : Sections} {audio : ℕ} {m : MediaSection} {e : Err}
      (h : chooseAudio body = .ok (sections, audio, m))
      (he : StreamErr (sections.description m) m.media e) : RemoteErr body e
  | codecs {e : Err} (he : CodecsErr e) : RemoteErr body e
  | keying {sections : Sections} {audio : ℕ} {m : MediaSection} {e : Err}
      (h : chooseAudio body = .ok (sections, audio, m)) (he : KeyingErr m.media.proto e) :
      RemoteErr body e

theorem remoteSDP_failsWith (g : Globals) (env : RemoteEnv) (body : Bytes) :
    FailsWith (RemoteErr body) (MediaSession.remoteSDP g env body) := by
  intro s e he
  rw [MediaSession.remoteSDP] at he
  cases hbody : chooseAudio body with
  | error e' =>
    rw [hbody] at he
    cases he
    exact .choice hbody
  | ok chosen =>
    obtain ⟨sections, audio, m⟩ := chosen
    rw [hbody, bind_of_ok (ofExcept_apply _ s)] at he
    have hstream : FailsWith (RemoteErr body) (applyStream g sections audio m) :=
      applyStream_failsWith (fun e he => .stream hbody he)
        ((applyCodecs_failsWith g _ _).mono fun e he => .codecs he)
    refine (hstream.bind fun _ => ?_) s e he
    exact (applyKeying_failsWith g env _ _ _).mono fun e he => .keying hbody he

end Lib

end Diago.Media
