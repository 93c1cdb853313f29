import Diago.Media.Isolation

/-! # The offer of an INVITE placed for an originator

A dialog that places an INVITE on behalf of another call applies the INVITE of that
call to the session that is about to make the offer, so that only codecs both know are
offered.
-/
namespace Diago.Dialog
open Lib SDP Media Op
variable {env : RemoteEnv} {s t : MediaSession} {env' : LocalEnv} {sections : Sections} {audio : ℕ}
  {m : MediaSection} {d d' : Description} {attrs : List Bytes} {g : Globals}

inductive InviteErr
  | originatorSDP (e : Media.Err)
  | noCodecs
  deriving DecidableEq

/-- The INVITE of the originator, as far as the offer depends on it. -/
structure OriginatorInvite where
  body : Option Bytes
  contentType : Option Bytes

def OriginatorInvite.sdp (o : OriginatorInvite) : Option Bytes :=
  if o.contentType = some (lit "application/sdp") then o.body else none

def noCodec : Codec := ⟨[], 0, 0, 0, 0⟩

def isTelephoneEvent (c : Codec) : Bool := (cutPre (lit "telephone-event") c.name).isSome

/-- One round of the loop over the codecs: the audio and the telephone-event codec so far. A codec
without a rate counts as none. -/
def pickCodec (picked : Codec × Codec) (c : Codec) : Codec × Codec :=
  if isTelephoneEvent c then
    if picked.2.sampleRate = 0 then (picked.1, c) else picked
  else if picked.1.sampleRate = 0 then (c, picked.2) else picked

def originatorCodecs (codecs : List Codec) : List Codec :=
  let picked := codecs.foldl pickCodec (noCodec, noCodec)
  [picked.1, picked.2].filter fun c => c.sampleRate ≠ 0

section Lib
variable [UnicodeCase] [SrtpLib]

/-- The codecs of the originator and us take the place of ours. -/
def applyOriginator (g : Globals) (env : RemoteEnv) (body : Bytes) :
    Op MediaSession InviteErr Unit := do
  fun s =>
    match MediaSession.remoteSDP g env body s with
    | (.ok _, t) => (.ok (), t)
    | (.error e, t) => (.error (.originatorSDP e), t)
  -- the originator is not the remote side
  Op.update (MediaSession.setRemoteAddr {})
  let s ← Op.read
  let codecs := originatorCodecs (if s.filterCodecs = [] then s.codecs else s.filterCodecs)
  Op.require (codecs ≠ []) .noCodecs
  Op.update fun s => { s with codecs := codecs }

def inviteOffer (g : Globals) (env : RemoteEnv) (env' : LocalEnv)
    (originator : Option OriginatorInvite) : Op MediaSession InviteErr Bytes := do
  match originator.bind OriginatorInvite.sdp with
  | some body => applyOriginator g env body
  | none => pure ()
  fun s => (.ok (s.localSDP g env').1, (s.localSDP g env').2)

end Lib

/-- The two bodies are one, but for the o= line. -/
def SameOffer (a b : Bytes) : Prop :=
  ∃ x y, unmarshalSections a = .ok x ∧ unmarshalSections b = .ok y ∧
    x.session.filter (fun l => l.type ≠ lit "o") = y.session.filter (fun l => l.type ≠ lit "o") ∧
    x.media = y.media

/-- What an offer takes from the originator's body beside its codecs. -/
structure Borrowed where
  proto : Bytes
  direction : Mode
  /-- The streams before and after the audio, as they are rejected. -/
  before : List MediaSection
  after : List MediaSection
  /-- The tag of our a=crypto line, where one is written. -/
  tag : ℤ
  /-- Our a=setup, and whether an a=tls-id stands with it, where DTLS is offered. -/
  setup : SetupRole
  tlsID : Bool
  deriving DecidableEq

/-- The tag that is left by the a=crypto lines, up to the first one for the profile. -/
def recordedTag (alg : ProtectionProfile) (tag : ℤ) : List Bytes → ℤ
  | [] => tag
  | v :: attrs =>
    match readCrypto v with
    | some (.ok c) => if c.profile = 0 ∨ alg ≠ c.profile then recordedTag alg c.tag.1 attrs else c.tag.1
    | _ => recordedTag alg tag attrs

section Lib
variable [UnicodeCase] [SrtpLib]

def writesKey (s : MediaSession) : Bool :=
  s.secureRTP = .sdes && srtpProfileString s.srtpAlg ≠ [] &&
    (SrtpLib.keyLen s.srtpAlg).isSome && (SrtpLib.saltLen s.srtpAlg).isSome

/-- The session once it knows the profile and the DTLS role of the other side. -/
def heard (s : MediaSession) (proto : Bytes) (setup : Option SetupRole) : MediaSession :=
  { s with remoteProto := proto, dtlsRemoteSetup := setup }

def borrowed (s : MediaSession) (sections : Sections) (audio : ℕ) (m : MediaSection) : Borrowed :=
  let lines := sections.description m
  let attrs := values lines (lit "a")
  let tag := recordedTag s.srtpAlg s.srtpRemoteTag attrs
  let remoteSetup := (dtlsAttributes attrs).toOption.map (·.1)
  { proto := m.media.proto
    direction := negotiateMediaDirection (mediaDirection lines) s.prefMode
    before := (sections.media.take audio).map fun m => rejectedSection m.media
    after := (sections.media.drop (audio + 1)).map fun m => rejectedSection m.media
    tag := if writesKey s ∧ 0 < tag then tag else 1
    setup :=
      if s.secureRTP = .dtls then
        (heard s m.media.proto remoteSetup).localDTLSSetup
      else .actpass
    tlsID := s.secureRTP = .dtls ∧ lastValue (lit "tls-id:") attrs ≠ [] }

omit [UnicodeCase] in
theorem applyCrypto_tag {handle : ℕ} (h : applyCrypto handle attrs s = (.ok (), t)) :
    t.srtpRemoteTag = recordedTag s.srtpAlg s.srtpRemoteTag attrs := by
  have hread := applyCrypto_keysRead h
  clear h
  induction hread with
  | done s => rfl
  | other hv _ ih => rwa [recordedTag, hv]
  | foreign hv _ hskip _ ih =>
    rw [recordedTag, hv]
    dsimp only
    rwa [if_pos hskip]
  | taken hv _ htake _ =>
    rw [recordedTag, hv]
    dsimp only
    rw [if_neg htake]

omit [UnicodeCase] [SrtpLib] in
theorem applyICE_localSetup (h : applyICE attrs s = (.ok (), t)) :
    t.localICESetup = s.localICESetup := by
  unfold applyICE at h
  rw [bind_of_ok (read_apply s)] at h
  by_cases hice : s.iceEnabled = true
  · rw [only_of _ hice] at h
    unfold remoteICE at h
    simp only [bind_eq_ok, require_eq_ok, read_apply] at h
    obtain ⟨_, _, ⟨-, rfl⟩, _, _, ⟨-, rfl⟩, s₁, s₂, h₁, h⟩ := h
    obtain ⟨hs, rfl⟩ := Prod.mk.inj h₁
    obtain rfl := Except.ok.inj hs
    cases hagent : s.iceAgent with
    | some agent =>
      simp only [hagent] at h
      obtain rfl := (Prod.mk.inj h).2
      simp [MediaSession.localICESetup, hagent, MediaSession.agentICESetup]
    | none =>
      cases hpair : s.establishedICE with
      | none =>
        simp only [hagent, hpair] at h
        cases h
      | some e =>
        simp only [hagent, hpair, bind_eq_ok, require_eq_ok, update_apply] at h
        obtain ⟨_, _, ⟨-, rfl⟩, h⟩ := h
        obtain rfl := (Prod.mk.inj h).2
        simp [MediaSession.localICESetup, hagent, hpair]
  · rw [only_of_not _ hice] at h
    obtain rfl := (Prod.mk.inj h).2
    rfl

/-- What a session without an association keeps of the keying part of an offer. -/
structure KeyedBy (env : RemoteEnv) (attrs : List Bytes) (s t : MediaSession) : Prop where
  tag : t.srtpRemoteTag = recordedTag s.srtpAlg s.srtpRemoteTag attrs
  laddr : t.laddr = s.laddr
  association : t.dtlsAssoc = none
  ice : t.localICESetup = s.localICESetup
  dtls : s.secureRTP = .dtls → ∃ setup fingerprints tlsID,
    dtlsAttributes attrs = .ok (setup, fingerprints, tlsID) ∧ t.dtlsRemoteSetup = some setup ∧
      t.dtlsRemoteTLSID = tlsID ∧ t.localTLSID = if tlsID ≠ [] then env.tlsID.text else []

theorem keyedBy_of_applyKeying {req : Bool} {proto : Bytes} (hassoc : s.dtlsAssoc = none)
    (hoffer : s.remoteSDPIsAnswer = false) (h : applyKeying g env attrs req proto s = (.ok (), t)) :
    KeyedBy env attrs s t := by
  obtain ⟨s₁, s₂, s₃, hcrypto, hice, hdtls, hsettle⟩ := applyKeying_eq_ok.mp h
  obtain ⟨-, rfl⟩ := settleContexts_eq_ok.mp hsettle
  have htag := applyCrypto_tag hcrypto
  obtain ⟨tag, hs₁⟩ := applyCrypto_ok hcrypto
  have hfields : s₁.laddr = s.laddr ∧ s₁.dtlsAssoc = none ∧ s₁.secureRTP = s.secureRTP ∧
      s₁.remoteSDPIsAnswer = false ∧ s₁.localICESetup = s.localICESetup := by
    rcases hs₁ with ⟨-, rfl⟩ | ⟨-, ctx, -, rfl⟩
    all_goals exact ⟨rfl, hassoc, rfl, hoffer, rfl⟩
  obtain ⟨hladdr₁, hassoc₁, hsecure₁, hoffer₁, hice₁⟩ := hfields
  have hkept := (keeps_applyICE (f := fun s : MediaSession =>
    (s.laddr, s.dtlsAssoc, s.secureRTP, s.remoteSDPIsAnswer, s.srtpRemoteTag))
    (fun _ _ _ _ _ => rfl) attrs).ok hice
  simp only [Prod.mk.injEq] at hkept
  obtain ⟨hladdr₂, hassoc₂, hsecure₂, hoffer₂, htag₂⟩ := hkept
  have hice₂ := applyICE_localSetup hice
  by_cases hsrtp : s₂.dtlsSRTP = true
  · obtain ⟨setup, fingerprints, tlsID, hread, hnegotiate⟩ := applyDTLS_ok hsrtp hdtls
    have hs₃ : s₃ = ({ s₂ with dtlsRemoteSetup := some setup, dtlsRemoteTLSID := tlsID }.newAnswerTLSID
        env.tlsID tlsID).arm fingerprints tlsID := by
      rcases negotiateDTLSAssociation_ok hnegotiate with ⟨-, hs₃⟩ | ⟨a, ha, -⟩ | ⟨a, _, _, ha, -⟩
      · exact hs₃
      · exact absurd (ha.symm.trans (hassoc₂.trans hassoc₁)) (by simp)
      · exact absurd (ha.symm.trans (hassoc₂.trans hassoc₁)) (by simp)
    rw [hs₃]
    refine ⟨htag₂.trans htag, hladdr₂.trans hladdr₁, hassoc₂.trans hassoc₁, hice₂.trans hice₁,
      fun _ => ⟨setup, fingerprints, tlsID, hread, rfl, rfl, ?_⟩⟩
    simp [MediaSession.arm, MediaSession.newAnswerTLSID, hoffer₂, hoffer₁]
  · have hs₃ : s₃ = s₂ := by
      rw [applyDTLS_of_not (by simpa using hsrtp)] at hdtls
      exact (Prod.mk.inj hdtls).2.symm
    rw [hs₃]
    refine ⟨htag₂.trans htag, hladdr₂.trans hladdr₁, hassoc₂.trans hassoc₁, hice₂.trans hice₁,
      fun hmode => absurd ?_ hsrtp⟩
    simp [MediaSession.dtlsSRTP, hsecure₂, hsecure₁, hmode]

def offeredKey (s : MediaSession) (env : LocalEnv) (tag : ℤ) : SdesInline :=
  ⟨srtpProfileString s.srtpAlg,
    base64Encode (((generateMasterKeySalt env.random s.srtpAlg).map (·.1)).getD []), tag⟩

def offeredDTLS (s : MediaSession) (env : RemoteEnv) (b : Borrowed) : DTLSSetup :=
  ⟨b.setup, s.localDTLSFingerprints, if b.tlsID then env.tlsID.text else []⟩

/-- The description is the offer of the session under what it borrowed. -/
structure Borrowed.Shapes (b : Borrowed) (s : MediaSession) (env : RemoteEnv) (env' : LocalEnv)
    (d : Description) : Prop where
  proto : d.rtpProfile = b.proto
  mode : d.mode = some b.direction
  before : d.streams.rejectedBefore = b.before
  after : d.streams.rejectedAfter = b.after
  connection : d.connectionIP = (s.externalIP <|> s.laddr.ip)
  port : d.rtpPort = s.laddr.port
  ice : d.ice = s.localICESetup
  key : cryptoLines d.sdes =
    if writesKey s then [attr (offeredKey s env' b.tag).value] else []
  tag : writesKey s = false → b.tag = 1
  dtls : dtlsLines d.dtls =
    if s.secureRTP = .dtls then dtlsLines (some (offeredDTLS s env b)) else []
  setup : s.secureRTP ≠ .dtls → b.setup = .actpass ∧ b.tlsID = false

def offering (t : MediaSession) : MediaSession :=
  { t.setRemoteAddr {} with
    codecs := originatorCodecs (if t.filterCodecs = [] then t.codecs else t.filterCodecs) }

omit [UnicodeCase] in
theorem localSDES_offering (t : MediaSession) (env : LocalEnv) :
    cryptoLines ((offering t).localSDES env).1 = if writesKey t then
      [attr (offeredKey t env (if 0 < t.srtpRemoteTag then t.srtpRemoteTag else 1)).value]
      else [] := by
  have hoffers : (offering t).offersSDES = decide (t.secureRTP = .sdes) := by
    simp [MediaSession.offersSDES, offering, MediaSession.setRemoteAddr]
  have halg : (offering t).srtpAlg = t.srtpAlg := rfl
  have htag : (offering t).srtpRemoteTag = t.srtpRemoteTag := rfl
  unfold MediaSession.localSDES writesKey offeredKey
  rw [hoffers, halg, htag]
  by_cases hsdes : t.secureRTP = .sdes
  · simp only [hsdes, decide_true, not_true_eq_false, if_false]
    cases hkey : SrtpLib.keyLen t.srtpAlg with
    | none => simp [generateMasterKeySalt, hkey, cryptoLines]
    | some keyLen =>
      cases hsalt : SrtpLib.saltLen t.srtpAlg with
      | none => simp [generateMasterKeySalt, hkey, hsalt, cryptoLines]
      | some saltLen =>
        have hfits : (createContext env.handle ((draw env.random (keyLen + saltLen)).take keyLen)
            ((draw env.random (keyLen + saltLen)).drop keyLen) t.srtpAlg).isSome = true :=
          createContext_isSome.mpr ⟨by simp [hkey, length_draw], by simp [hsalt, length_draw]⟩
        obtain ⟨ctx, hctx⟩ := Option.isSome_iff_exists.mp hfits
        by_cases hname : srtpProfileString t.srtpAlg = []
        · simp [generateMasterKeySalt, hkey, hsalt, hctx, cryptoLines, hname]
        · simp [generateMasterKeySalt, hkey, hsalt, hctx, cryptoLines, hname]
  · simp [hsdes, cryptoLines]

theorem localDTLSSetup_offering {setup : SetupRole} {fingerprints : List SdpFingerprint}
    {tlsID : Bytes} (hword : m.media.proto ≠ []) (hoffer : s.remoteSDPIsAnswer = false)
    (hanswering : (offering t).answeringOffer = true) (hconf : t.dtlsConf = s.dtlsConf)
    (hrole : t.dtlsRole = s.dtlsRole) (hdtls : s.secureRTP = .dtls)
    (hread : dtlsAttributes (values (sections.description m) (lit "a")) =
      .ok (setup, fingerprints, tlsID))
    (hsetup : t.dtlsRemoteSetup = some setup) :
    (offering t).localDTLSSetup = (borrowed s sections audio m).setup := by
  have hchosen : (offering t).dtlsConf.sdpSetupRole = s.dtlsConf.sdpSetupRole := by
    rw [← hconf]
    rfl
  have hremote : (offering t).dtlsRemoteSetup = some setup := hsetup
  have hendpoint : (offering t).dtlsEndpointRole =
      (heard s m.media.proto (some setup)).dtlsEndpointRole := by
    have hrole : (offering t).dtlsRole = s.dtlsRole := hrole
    have hown : (heard s m.media.proto (some setup)).answeringOffer = true := by
      simp [MediaSession.answeringOffer, heard, hword, hoffer]
    simp only [MediaSession.dtlsEndpointRole, hrole, hanswering, hown]
    rfl
  simp only [borrowed, hdtls, if_true, hread, Except.toOption, Option.map_some,
    MediaSession.localDTLSSetup, hchosen, hremote, hendpoint]
  rfl

theorem localSDPTLSID_offering {setup : SetupRole} {fingerprints : List SdpFingerprint}
    {tlsID : Bytes} (hanswering : (offering t).answeringOffer = true) (hdtls : s.secureRTP = .dtls)
    (hread : dtlsAttributes (values (sections.description m) (lit "a")) =
      .ok (setup, fingerprints, tlsID))
    (hid : t.dtlsRemoteTLSID = tlsID)
    (hlocal : t.localTLSID = if tlsID ≠ [] then env.tlsID.text else []) :
    ((offering t).localSDPTLSID env'.tlsID).1 =
      if (borrowed s sections audio m).tlsID then env.tlsID.text else [] := by
  have hremote : (offering t).dtlsRemoteTLSID = tlsID := hid
  have hown : (offering t).localTLSID = if tlsID ≠ [] then env.tlsID.text else [] := hlocal
  simp only [MediaSession.localSDPTLSID, hanswering, if_true, hremote, hown, borrowed, hdtls,
    true_and, ← dtlsAttributes_tlsID hread]
  by_cases hnil : tlsID = []
  · simp [hnil]
  · simp [hnil]

theorem dtlsLines_offering (hword : m.media.proto ≠ []) (hoffer : s.remoteSDPIsAnswer = false)
    (hanswering : (offering t).answeringOffer = true) (hsecure : t.secureRTP = s.secureRTP)
    (hconf : t.dtlsConf = s.dtlsConf) (hrole : t.dtlsRole = s.dtlsRole)
    (hassoc : t.dtlsAssoc = none)
    (hheard : s.secureRTP = .dtls → ∃ setup fingerprints tlsID,
      dtlsAttributes (values (sections.description m) (lit "a")) =
        .ok (setup, fingerprints, tlsID) ∧ t.dtlsRemoteSetup = some setup ∧
      t.dtlsRemoteTLSID = tlsID ∧ t.localTLSID = if tlsID ≠ [] then env.tlsID.text else [])
     :
    dtlsLines ((offering t).localDTLS env') =
      if s.secureRTP = .dtls then dtlsLines (some (offeredDTLS s env (borrowed s sections audio m)))
      else [] := by
  have hmode : (offering t).secureRTP = s.secureRTP := hsecure
  unfold MediaSession.localDTLS
  rw [hmode]
  split_ifs with hdtls
  · obtain ⟨setup, fingerprints, tlsID, hread, hsetup, hid, hlocal⟩ := hheard hdtls
    have hassoc : (offering t).dtlsAssoc = none := hassoc
    have hfingerprints : (offering t).localDTLSFingerprints = s.localDTLSFingerprints := by
      change t.dtlsConf.certificates.map _ = _
      rw [hconf]
      rfl
    rw [MediaSession.advertisedSetup, hassoc,
      localDTLSSetup_offering hword hoffer hanswering hconf hrole hdtls hread hsetup,
      hfingerprints, localSDPTLSID_offering hanswering hdtls hread hid hlocal]
    rfl
  · rfl

theorem shapes_of_remoteSDP {body : Bytes} (hassoc : s.dtlsAssoc = none)
    (hoffer : s.remoteSDPIsAnswer = false) (hbody : chooseAudio body = .ok (sections, audio, m))
    (h : MediaSession.remoteSDP g env body s = (.ok (), t)) :
    (borrowed s sections audio m).Shapes s env env' ((offering t).description g env') := by
  obtain ⟨sections', audio', m', r, hbody', hr, hkey⟩ := remoteSDP_eq_ok.mp h
  obtain ⟨rfl, rfl, rfl⟩ : sections = sections' ∧ audio = audio' ∧ m = m' := by
    simpa using Except.ok.inj (hbody.symm.trans hbody')
  have hkeyed := keyedBy_of_applyKeying (by exact hassoc) (by exact hoffer) hkey
  obtain ⟨_, happlied⟩ := remoteSDP_applied hbody h
  have hproto := happlied.remoteProto
  have hmode := happlied.mode
  have hstreams := happlied.offeredStreams
  have hexternal := happlied.externalIP
  have hsecure := happlied.secureRTP
  have halg := happlied.srtpAlg
  have hisAnswer := happlied.remoteSDPIsAnswer
  rw [hoffer, if_neg (by simp)] at hstreams
  have hword : m.media.proto ≠ [] := by
    obtain ⟨hread, -, hm⟩ := chooseAudio_eq_ok.mp hbody
    exact (words_of_mem hread (List.mem_of_getElem? hm)).proto.1
  have hanswering : (offering t).answeringOffer = true := by
    change (t.remoteProto != [] && !t.remoteSDPIsAnswer) = true
    simp [hproto, hword, hisAnswer, hoffer]
  have hwrites : writesKey t = writesKey s := by
    simp only [writesKey, hsecure, halg]
  refine
    { proto := ?_
      mode := ?_
      before := ?_
      after := ?_
      connection := ?_
      port := ?_
      ice := hkeyed.ice
      key := ?_
      tag := fun hkey => by simp [borrowed, hkey]
      dtls := ?_
      setup := fun hdtls => by simp [borrowed, hdtls] }
  · simp only [MediaSession.description, hanswering, if_true]
    exact hproto
  · simp only [MediaSession.description]
    change (t.mode <|> _) = _
    rw [hmode]
    rfl
  · change t.offeredStreams.rejectedBefore = _
    simp [hstreams, OfferedStreams.rejectedBefore, borrowed, List.map_take, Function.comp_def]
  · change t.offeredStreams.rejectedAfter = _
    simp [hstreams, OfferedStreams.rejectedAfter, borrowed, List.map_drop, Function.comp_def]
  · change (t.externalIP <|> t.laddr.ip) = _
    rw [hexternal, hkeyed.laddr]
    rfl
  · change t.laddr.port = _
    rw [hkeyed.laddr]
    rfl
  · change cryptoLines ((offering t).localSDES env').1 = _
    have htag : t.srtpRemoteTag = recordedTag s.srtpAlg s.srtpRemoteTag
        (values (sections.description m) (lit "a")) := hkeyed.tag
    rw [localSDES_offering, hwrites]
    by_cases hkey : writesKey s = true
    · simp [offeredKey, halg, htag, borrowed, hkey]
    · simp [hkey]
  · exact dtlsLines_offering hword hoffer hanswering hsecure happlied.dtlsConf happlied.dtlsRole
      hkeyed.association hkeyed.dtls

omit [SrtpLib] in
/-- A description is one of the streams around its audio stream: these are the only ones of a
single line. -/
theorem media_inj (h : d.sections.media = d'.sections.media) :
    d.streams.rejectedBefore = d'.streams.rejectedBefore ∧ d.audioSection = d'.audioSection ∧
      d.streams.rejectedAfter = d'.streams.rejectedAfter := by
  have hsingle (o : OfferedStreams) :
      ∀ x ∈ o.rejectedBefore ++ o.rejectedAfter, x.lines.length = 1 := by
    simp only [List.forall_mem_append, OfferedStreams.rejectedBefore, OfferedStreams.rejectedAfter,
      List.forall_mem_map]
    exact ⟨fun _ _ => rfl, fun _ _ => rfl⟩
  have hmany (d : Description) : ¬ d.audioSection.lines.length = 1 := by
    simp [Description.audioSection]
  exact (append_cons_inj_of (List.forall_mem_append.mp (hsingle d.streams)).1
    (List.forall_mem_append.mp (hsingle d'.streams)).1 (hmany d) (hmany d')).mp h

omit [UnicodeCase] [SrtpLib] in
theorem dtlsLines_inj {x y : DTLSSetup} (hfingerprints : x.fingerprints = y.fingerprints) :
    dtlsLines (some x) = dtlsLines (some y) ↔ x.setup = y.setup ∧ x.tlsID = y.tlsID := by
  have hsetup : attr (lit "setup:" ++ x.setup.text) = attr (lit "setup:" ++ y.setup.text) ↔
      x.setup = y.setup := by
    simp only [attr, Line.mk.injEq, true_and, List.append_cancel_left_eq]
    cases x.setup <;> cases y.setup <;> decide
  simp only [dtlsLines, hfingerprints, List.cons_append, List.cons.injEq, hsetup,
    List.append_cancel_left_eq]
  refine and_congr_right fun _ => ?_
  by_cases hx : x.tlsID = []
  · by_cases hy : y.tlsID = []
    · simp [hx, hy]
    · simp [hx, hy, Ne.symm hy]
  · by_cases hy : y.tlsID = []
    · simp [hx, hy]
    · simp [hx, hy, attr]

omit [UnicodeCase] in
theorem offeredKey_inj {s : MediaSession} {env : LocalEnv} {tag tag' : ℤ} :
    (offeredKey s env tag).value = (offeredKey s env tag').value ↔ tag = tag' := by
  constructor
  · intro h
    simp only [SdesInline.value, offeredKey, List.append_assoc, List.append_cancel_left_eq,
      List.cons_append] at h
    have hspace (n : ℤ) : space ∉ itoa n := space_not_graphic (graphic_itoa n)
    exact itoa_injective ((append_sep_inj (hspace tag) (hspace tag')).mp h).1
  · rintro rfl
    rfl

omit [UnicodeCase] in
theorem Borrowed.Shapes.keyLines_iff {b b' : Borrowed} {s : MediaSession}
    (hb : b.Shapes s env env' d) (hb' : b'.Shapes s env env' d') :
    cryptoLines d.sdes ++ dtlsLines d.dtls = cryptoLines d'.sdes ++ dtlsLines d'.dtls ↔
      b.tag = b'.tag ∧ b.setup = b'.setup ∧ b.tlsID = b'.tlsID := by
  rw [hb.key, hb'.key, hb.dtls, hb'.dtls]
  cases hwrites : writesKey s with
  | true =>
    have hsdes : s.secureRTP ≠ .dtls := by
      simp only [writesKey, Bool.and_eq_true, decide_eq_true_eq] at hwrites
      simp [hwrites.1.1.1]
    obtain ⟨hsetup, htlsID⟩ := hb.setup hsdes
    obtain ⟨hsetup', htlsID'⟩ := hb'.setup hsdes
    simp [hsdes, hsetup, hsetup', htlsID, htlsID', attr, offeredKey_inj]
  | false =>
    simp only [Bool.false_eq_true, if_false, List.nil_append, hb.tag hwrites, hb'.tag hwrites,
      true_and]
    by_cases hdtls : s.secureRTP = .dtls
    · have htext := env.tlsID.text_ne_nil
      simp only [hdtls, if_true]
      refine (dtlsLines_inj (by rfl)).trans (and_congr_right fun _ => ?_)
      simp only [offeredDTLS]
      generalize b.tlsID = x
      generalize b'.tlsID = y
      cases x <;> cases y <;> simp [htext, Ne.symm htext]
    · obtain ⟨hsetup, htlsID⟩ := hb.setup hdtls
      obtain ⟨hsetup', htlsID'⟩ := hb'.setup hdtls
      simp [hdtls, hsetup, hsetup', htlsID, htlsID']

theorem Borrowed.Shapes.audioSection_iff {b b' : Borrowed} {s : MediaSession}
    (hb : b.Shapes s env env' d) (hb' : b'.Shapes s env env' d') (hcodecs : d.codecs = d'.codecs) :
    d.audioSection = d'.audioSection ↔ b.proto = b'.proto ∧ b.direction = b'.direction ∧
      b.tag = b'.tag ∧ b.setup = b'.setup ∧ b.tlsID = b'.tlsID := by
  have hmode {x y : Mode} : x.text = y.text ↔ x = y := by
    cases x <;> cases y <;> decide
  have hdirection : (d.mode.map Mode.text).getD [] = (d'.mode.map Mode.text).getD [] ↔
      b.direction = b'.direction := by
    simp [hb.mode, hb'.mode, hmode]
  have hlines : d.codecs.flatMap formatRTPMap ++
        [attr (lit "ptime:20"), attr (lit "maxptime:20"),
          attr ((d.mode.map Mode.text).getD [])] ++
        cryptoLines d.sdes ++ dtlsLines d.dtls ++ iceLines d.ice =
      d'.codecs.flatMap formatRTPMap ++
        [attr (lit "ptime:20"), attr (lit "maxptime:20"),
          attr ((d'.mode.map Mode.text).getD [])] ++
        cryptoLines d'.sdes ++ dtlsLines d'.dtls ++ iceLines d'.ice ↔
      b.direction = b'.direction ∧
        b.tag = b'.tag ∧ b.setup = b'.setup ∧ b.tlsID = b'.tlsID := by
    rw [hb.ice, hb'.ice, List.append_cancel_right_eq, hcodecs]
    simp only [List.append_assoc, List.append_cancel_left_eq, List.cons_append, List.nil_append,
      List.cons.injEq, attr, Line.mk.injEq, true_and, hdirection, hb.keyLines_iff hb']
  have hmedia : d.audioMedia = d'.audioMedia ↔ b.proto = b'.proto := by
    simp [Description.audioMedia, hb.port, hb'.port, hb.proto, hb'.proto, hcodecs]
  unfold Description.audioSection
  simp only [MediaSection.mk.injEq, List.cons.injEq, hlines, hmedia]
  constructor
  · rintro ⟨hproto, -, hrest⟩
    exact ⟨hproto, hrest⟩
  · rintro ⟨hproto, hrest⟩
    exact ⟨hproto, by rw [hmedia.mpr hproto], hrest⟩

/-- Two offers of one session with the same codecs are the same exactly when they borrow the
same. -/
theorem Borrowed.Shapes.sameOffer_iff {b b' : Borrowed} {s : MediaSession}
    (hb : b.Shapes s env env' d) (hb' : b'.Shapes s env env' d') (hd : d.Legible) (hd' : d'.Legible)
    (hcodecs : d.codecs = d'.codecs) :
    SameOffer (generateSDPForAudio d) (generateSDPForAudio d') ↔ b = b' := by
  have haudio := hb.audioSection_iff hb' hcodecs
  have hsession : d.sections.session.filter (fun l => l.type ≠ lit "o") =
      d'.sections.session.filter (fun l => l.type ≠ lit "o") := by
    have hlite : iceLiteLines d.ice = iceLiteLines d'.ice := by rw [hb.ice, hb'.ice]
    simp [Description.sections, Description.sessionLines, line, hlite, hb.connection, hb'.connection,
      List.filter_cons]
  constructor
  · rintro ⟨x, y, hx, hy, -, hmedia⟩
    obtain rfl := Except.ok.inj ((unmarshalSections_generateSDPForAudio hd).symm.trans hx)
    obtain rfl := Except.ok.inj ((unmarshalSections_generateSDPForAudio hd').symm.trans hy)
    obtain ⟨hbefore, hsection, hafter⟩ := media_inj hmedia
    rw [hb.before, hb'.before] at hbefore
    rw [hb.after, hb'.after] at hafter
    obtain ⟨hproto, hdirection, htag, hsetup, htlsID⟩ := haudio.mp hsection
    cases b
    cases b'
    simp_all
  · rintro rfl
    refine ⟨_, _, unmarshalSections_generateSDPForAudio hd, unmarshalSections_generateSDPForAudio hd',
      hsession, ?_⟩
    have hsection : d.audioSection = d'.audioSection := haudio.mpr ⟨rfl, rfl, rfl, rfl, rfl⟩
    change d.streams.rejectedBefore ++ d.audioSection :: d.streams.rejectedAfter =
      d'.streams.rejectedBefore ++ d'.audioSection :: d'.streams.rejectedAfter
    rw [hb.before, hb.after, hb'.before, hb'.after, hsection]

omit [UnicodeCase] [SrtpLib] in
theorem pickCodec_mem (picked : Codec × Codec) (c : Codec) :
    (pickCodec picked c).1 ∈ [picked.1, c] ∧ (pickCodec picked c).2 ∈ [picked.2, c] := by
  unfold pickCodec
  split_ifs <;> simp

omit [UnicodeCase] [SrtpLib] in
theorem foldl_pickCodec_mem (l : List Codec) (picked : Codec × Codec) :
    (l.foldl pickCodec picked).1 ∈ picked.1 :: l ∧ (l.foldl pickCodec picked).2 ∈ picked.2 :: l := by
  induction l generalizing picked with
  | nil => simp
  | cons c l ih =>
    have hmem {x next start : Codec} (hnext : next ∈ [start, c]) (hx : x ∈ next :: l) :
        x ∈ start :: c :: l := by
      rcases List.mem_cons.mp hx with rfl | hx
      · exact List.mem_append_left l hnext
      · exact List.mem_append_right [start, c] hx
    obtain ⟨hnext₁, hnext₂⟩ := pickCodec_mem picked c
    obtain ⟨hrest₁, hrest₂⟩ := ih (pickCodec picked c)
    exact ⟨hmem hnext₁ hrest₁, hmem hnext₂ hrest₂⟩

omit [UnicodeCase] [SrtpLib] in
theorem mem_originatorCodecs {codecs : List Codec} : ∀ c ∈ originatorCodecs codecs, c ∈ codecs := by
  intro c hc
  obtain ⟨hpick₁, hpick₂⟩ := foldl_pickCodec_mem codecs (noCodec, noCodec)
  obtain ⟨hmem, hrate⟩ := List.mem_filter.mp hc
  have hnone : c ≠ noCodec := by
    rintro rfl
    simp [noCodec] at hrate
  simp only [List.mem_cons, List.not_mem_nil, or_false] at hmem
  rcases hmem with rfl | rfl
  · exact (List.mem_cons.mp hpick₁).resolve_left hnone
  · exact (List.mem_cons.mp hpick₂).resolve_left hnone

/-- An INVITE for an originator is the offer of the session that took the originator's body. -/
theorem inviteOffer_ok {o : OriginatorInvite} {body offer : Bytes} {s u : MediaSession}
    (ho : o.sdp = some body) (h : inviteOffer g env env' (some o) s = (.ok offer, u)) :
    ∃ t, MediaSession.remoteSDP g env body s = (.ok (), t) ∧ (offering t).codecs ≠ [] ∧
      offer = ((offering t).localSDP g env').1 := by
  unfold inviteOffer at h
  simp only [Option.bind_some, ho] at h
  obtain ⟨_, v, happly, hlocal⟩ := bind_eq_ok.mp h
  unfold applyOriginator at happly
  obtain ⟨_, t, hremote, hrest⟩ := bind_eq_ok.mp happly
  have happlied : MediaSession.remoteSDP g env body s = (.ok (), t) := by
    revert hremote
    rcases MediaSession.remoteSDP g env body s with ⟨_ | _, w⟩
    · intro hremote
      cases hremote
    · intro hremote
      cases hremote
      rfl
  simp only [bind_eq_ok, update_apply, read_apply, require_eq_ok] at hrest
  obtain ⟨_, t₁, h₁, t₂, t₃, h₂, _, t₄, ⟨hne, rfl⟩, hv⟩ := hrest
  obtain rfl := (Prod.mk.inj h₁).2
  obtain ⟨ht₂, rfl⟩ := Prod.mk.inj h₂
  obtain rfl := Except.ok.inj ht₂
  obtain rfl := (Prod.mk.inj hv).2
  exact ⟨t, happlied, hne, (Except.ok.inj (Prod.mk.inj hlocal).1).symm⟩

omit [UnicodeCase] [SrtpLib] in
theorem legible_offering {t : MediaSession} (ht : t.Legible) : (offering t).Legible where
  names := by
    obtain ⟨hcodecs, hfilter⟩ := List.forall_mem_append.mp ht.names
    refine List.forall_mem_append.mpr ⟨fun c hc => ?_, hfilter⟩
    have hmem := mem_originatorCodecs c hc
    split at hmem
    · exact hcodecs c hmem
    · exact hfilter c hmem
  port := ht.port
  remoteProto := ht.remoteProto
  streams := ht.streams
  localTLSID := ht.localTLSID
  association := ht.association
  agent := ht.agent
  established := ht.established

/-- The offers of an INVITE for two originators with the same codecs are the same exactly when the
session borrows the same from both. -/
theorem originator_offers_same_iff (g : Globals) (env : RemoteEnv) (env' : LocalEnv)
    (s u u' : MediaSession) (o o' : OriginatorInvite) (body body' offer offer' : Bytes)
    (sections sections' : Sections) (audio audio' : ℕ) (m m' : MediaSection) (hs : s.Legible)
    (hsdp : s.sdp = []) (hassoc : s.dtlsAssoc = none) (hrole : s.remoteSDPIsAnswer = false)
    (ho : o.sdp = some body) (ho' : o'.sdp = some body')
    (hbody : chooseAudio body = .ok (sections, audio, m))
    (hbody' : chooseAudio body' = .ok (sections', audio', m'))
    (hcodecs : codecsFromSDPRead m.media.formats (values (sections.description m) (lit "a"))
        m.media.formats.length =
      codecsFromSDPRead m'.media.formats (values (sections'.description m') (lit "a"))
        m'.media.formats.length)
    (h : inviteOffer g env env' (some o) s = (.ok offer, u))
    (h' : inviteOffer g env env' (some o') s = (.ok offer', u')) :
    SameOffer offer offer' ↔ borrowed s sections audio m = borrowed s sections' audio' m' := by
  obtain ⟨t, happly, hne, rfl⟩ := inviteOffer_ok ho h
  obtain ⟨t', happly', hne', rfl⟩ := inviteOffer_ok ho' h'
  obtain ⟨r, happlied⟩ := remoteSDP_applied hbody happly
  obtain ⟨r', happlied'⟩ := remoteSDP_applied hbody' happly'
  have hremote : r.remote = r'.remote := by
    have hread := happlied.accepted.codecs
    rw [hcodecs, happlied'.accepted.codecs] at hread
    exact (Option.some.inj hread).symm
  have hlocal : t.codecs = t'.codecs := by rw [happlied.codecs, happlied'.codecs, hremote]
  have hfilter : t.filterCodecs = t'.filterCodecs := by
    rw [happlied.filterCodecs, happlied'.filterCodecs, hremote]
  have hactive {t : MediaSession} (hne : (offering t).codecs ≠ []) :
      (offering t).activeCodecs ≠ [] := by
    unfold MediaSession.activeCodecs
    split <;> assumption
  have hwritten {t : MediaSession} (hst : t.sdp = s.sdp) : ((offering t).localSDP g env').1 =
      generateSDPForAudio ((offering t).description g env') := by
    have hnil : (offering t).sdp = [] := hst.trans hsdp
    simp [MediaSession.localSDP, hnil]
  have hsame : ((offering t).description g env').codecs =
      ((offering t').description g env').codecs := by
    change (if t.filterCodecs ≠ [] then t.filterCodecs else originatorCodecs
      (if t.filterCodecs = [] then t.codecs else t.filterCodecs)) = _
    rw [hlocal, hfilter]
    rfl
  rw [hwritten happlied.sdp, hwritten happlied'.sdp]
  exact (shapes_of_remoteSDP hassoc hrole hbody happly).sameOffer_iff
    (shapes_of_remoteSDP hassoc hrole hbody' happly')
    ((legible_offering (hs.remoteSDP happly)).description (hactive hne) g env')
    ((legible_offering (hs.remoteSDP happly')).description (hactive hne') g env') hsame

end Lib

section Sample

attribute [local instance] asciiOnly documentedSrtp

def callFrom (address : Bytes) (attrs : List Bytes) : OriginatorInvite :=
  { body := some (marshalLines
      ([⟨lit "v", lit "0"⟩, ⟨lit "o", lit "- 1 1 IN IP4 " ++ address⟩, ⟨lit "s", lit "-"⟩,
        ⟨lit "c", lit "IN IP4 " ++ address⟩, ⟨lit "t", lit "0 0"⟩,
        ⟨lit "m", lit "audio 4002 RTP/AVP 0"⟩] ++ attrs.map attr))
    contentType := some (lit "application/sdp") }

def inviteEnv : LocalEnv := ⟨0x100000000, fun _ => 0, 4, sameLetter 0⟩

def offerFor (o : OriginatorInvite) : Option Bytes :=
  (inviteOffer {} plainRemote inviteEnv (some o) plainSession).1.toOption

theorem offerFor_eq_some {o : OriginatorInvite} {offer : Bytes} (h : offerFor o = some offer) :
    ∃ u, inviteOffer {} plainRemote inviteEnv (some o) plainSession = (.ok offer, u) := by
  unfold offerFor at h
  revert h
  rcases inviteOffer {} plainRemote inviteEnv (some o) plainSession with ⟨_ | a, u⟩
  · intro h
    cases h
  · intro h
    obtain rfl := Option.some.inj h
    exact ⟨u, rfl⟩

/-- The address of the caller does not show in our offer. -/
theorem address_not_borrowed : ∃ offer offer',
    offerFor (callFrom (lit "10.0.0.2") []) = some offer ∧
      offerFor (callFrom (lit "10.0.0.3") []) = some offer' ∧ SameOffer offer offer' := by
  have hread : ((callFrom (lit "10.0.0.2") []).sdp.bind fun body =>
      (callFrom (lit "10.0.0.3") []).sdp.bind fun body' =>
        (chooseAudio body).toOption.bind fun x => (chooseAudio body').toOption.map fun y =>
          decide (codecsFromSDPRead x.2.2.media.formats (values (x.1.description x.2.2) (lit "a"))
              x.2.2.media.formats.length =
            codecsFromSDPRead y.2.2.media.formats (values (y.1.description y.2.2) (lit "a"))
              y.2.2.media.formats.length ∧
            borrowed plainSession x.1 x.2.1 x.2.2 = borrowed plainSession y.1 y.2.1 y.2.2)) =
      some true := by
    decide +kernel
  obtain ⟨body, hbody, hread⟩ := Option.bind_eq_some_iff.mp hread
  obtain ⟨body', hbody', hread⟩ := Option.bind_eq_some_iff.mp hread
  obtain ⟨⟨sections, audio, m⟩, hx, hread⟩ := Option.bind_eq_some_iff.mp hread
  obtain ⟨⟨sections', audio', m'⟩, hy, hread⟩ := Option.map_eq_some_iff.mp hread
  obtain ⟨hcodecs, hsame⟩ := of_decide_eq_true hread
  have hoffer : (offerFor (callFrom (lit "10.0.0.2") [])).isSome = true := by decide +kernel
  have hoffer' : (offerFor (callFrom (lit "10.0.0.3") [])).isSome = true := by decide +kernel
  obtain ⟨offer, ho⟩ := Option.isSome_iff_exists.mp hoffer
  obtain ⟨offer', ho'⟩ := Option.isSome_iff_exists.mp hoffer'
  obtain ⟨u, hu⟩ := offerFor_eq_some ho
  obtain ⟨u', hu'⟩ := offerFor_eq_some ho'
  exact ⟨offer, offer', ho, ho', (originator_offers_same_iff {} plainRemote inviteEnv plainSession u u'
    _ _ body body' offer offer' sections sections' audio audio' m m' plainSession_legible rfl rfl rfl
    hbody hbody' (ok_of_toOption hx) (ok_of_toOption hy) hcodecs hu hu').mpr hsame⟩

/-- The direction of a caller on hold becomes the direction of our offer. -/
theorem direction_borrowed : ∃ offer offer',
    offerFor (callFrom (lit "10.0.0.2") []) = some offer ∧
      offerFor (callFrom (lit "10.0.0.2") [lit "sendonly"]) = some offer' ∧
      ¬ SameOffer offer offer' := by
  have hoffer : (offerFor (callFrom (lit "10.0.0.2") [])).isSome = true := by decide +kernel
  have hoffer' : (offerFor (callFrom (lit "10.0.0.2") [lit "sendonly"])).isSome = true := by
    decide +kernel
  obtain ⟨offer, ho⟩ := Option.isSome_iff_exists.mp hoffer
  obtain ⟨offer', ho'⟩ := Option.isSome_iff_exists.mp hoffer'
  refine ⟨offer, offer', ho, ho', ?_⟩
  rintro ⟨x, y, hx, hy, -, hmedia⟩
  have hdiffer : ((offerFor (callFrom (lit "10.0.0.2") [])).bind fun offer =>
      (unmarshalSections offer).toOption.map (·.media)) ≠
      (offerFor (callFrom (lit "10.0.0.2") [lit "sendonly"])).bind fun offer =>
        (unmarshalSections offer).toOption.map (·.media) := by
    decide +kernel
  rw [ho, ho'] at hdiffer
  simp only [Option.bind_some, hx, hy, Except.toOption, Option.map_some, hmedia] at hdiffer
  exact hdiffer rfl

end Sample
end Diago.Dialog
