import Diago.Media.Applied
import Diago.Media.Attributes
import Diago.Media.Bound

/-! # Sessions whose descriptions can be read

The texts of a session stay on their lines.
-/
namespace Diago.Media
open Lib SDP Op
variable {body : Bytes} {g : Globals} {attrs : List Bytes} {sections : Sections} {m : MediaSection}
  {env : RemoteEnv}

theorem readRTPMap_name {pt : UInt8} {str : Bytes} {c : Codec} (h : readRTPMap pt str = some c) :
    ∀ b ∈ c.name, b ∈ str := by
  unfold readRTPMap at h
  split at h
  · rename_i name rate rest hsplit
    split at h
    · obtain rfl := Option.some.inj h
      intro b hb
      have hhead : b ∈ (str.splitOn space).headD [] :=
        mem_of_mem_splitOn (by rw [hsplit]; exact List.mem_cons_self) hb
      cases hwords : str.splitOn space with
      | nil => simp [hwords] at hhead
      | cons w ws =>
        rw [hwords, List.headD_cons] at hhead
        exact mem_of_mem_splitOn (by rw [hwords]; exact List.mem_cons_self) hhead
    · cases h
  · cases h

theorem readFormat_oneLine (h : ∀ a ∈ attrs, OneLine a) (f : Bytes) :
    ∀ c ∈ readFormat attrs f, OneLine c.name := by
  unfold readFormat
  split_ifs
  · simp only [List.forall_mem_singleton]
    decide
  · simp only [List.forall_mem_singleton]
    decide
  · simp only [List.forall_mem_singleton]
    decide
  · split
    · simp
    · intro c hc
      obtain ⟨a, ha, hread⟩ := List.mem_filterMap.mp hc
      obtain ⟨str, hcut, hread⟩ := Option.bind_eq_some_iff.mp hread
      refine (h a ha).of_subset fun b hb => ?_
      rw [cutPre_eq_some.mp hcut]
      exact List.mem_append_right _ (readRTPMap_name hread b hb)

theorem codecsFromSDPRead_oneLine {formats attrs : List Bytes} {room : ℕ} {codecs : List Codec}
    (hattrs : ∀ a ∈ attrs, OneLine a) (h : codecsFromSDPRead formats attrs room = some codecs) :
    ∀ c ∈ codecs, OneLine c.name := by
  unfold codecsFromSDPRead at h
  dsimp only at h
  split at h
  · obtain rfl := Option.some.inj h
    intro c hc
    obtain ⟨f, -, hc⟩ := List.mem_flatMap.mp hc
    exact readFormat_oneLine hattrs f c hc
  · cases h

theorem oneLine_values (h : unmarshalSections body = .ok sections) (hm : m ∈ sections.media)
    (key : Bytes) :
    ∀ v ∈ values (sections.description m) key, OneLine v := by
  intro v hv
  obtain ⟨l, hl, rfl⟩ := List.mem_map.mp hv
  refine unmarshalSections_oneLine h l ?_
  rcases List.mem_append.mp (List.mem_of_mem_filter hl) with hl | hl
  · exact List.mem_append_left _ hl
  · exact List.mem_append_right _ (List.mem_flatMap.mpr ⟨m, hm, hl⟩)

theorem words_of_mem (h : unmarshalSections body = .ok sections) (hm : m ∈ sections.media) :
    m.media.Words := by
  obtain ⟨v, rest, -, hparse, -⟩ := ((unmarshalSections_wellFormed h).media m hm).opened
  exact parseMediaLine_words hparse

/-- The texts of the session stay on their lines, and its port is one of the machine. -/
structure MediaSession.Legible (s : MediaSession) : Prop where
  names : ∀ c ∈ s.codecs ++ s.filterCodecs, OneLine c.name
  port : -2 ^ 63 ≤ s.laddr.port ∧ s.laddr.port < 2 ^ 63
  remoteProto : NoSpace s.remoteProto
  streams : ∀ md ∈ s.offeredStreams.media, md.Words
  localTLSID : OneLine s.localTLSID
  association : ∀ a ∈ s.dtlsAssoc, OneLine a.localTLSID
  agent : ∀ a ∈ s.iceAgent, OneLine a.ufrag ∧ OneLine a.pwd ∧
    ∀ c ∈ a.candidates, OneLine (iceCandidateSDP c)
  established : ∀ e ∈ s.establishedICE, OneLine e.localSetup.ufrag ∧ OneLine e.localSetup.pwd ∧
    ∀ c ∈ e.localSetup.candidates, OneLine c

theorem UDPAddr.Usable.representable {a : UDPAddr} (h : a.Usable) :
    -2 ^ 63 ≤ a.port ∧ a.port < 2 ^ 63 := by
  have hport := h.port
  omega

theorem oneLine_srtpProfileString [SrtpLib] (p : ProtectionProfile) :
    OneLine (srtpProfileString p) := by
  unfold srtpProfileString
  split_ifs
  · decide
  · decide
  · decide
  · decide
  · decide
  · have hwhole : OneLine (lit "SRTP_") := by decide
    cases hcut : cutPre (SrtpLib.profileName p) (lit "SRTP_") with
    | none => exact hwhole
    | some rest =>
      rw [cutPre_eq_some.mp hcut, oneLine_append] at hwhole
      exact hwhole.2

section Lib
variable [UnicodeCase] [SrtpLib] {s t : MediaSession}

omit [SrtpLib] in
theorem MediaSession.Legible.offerTLSID (hs : s.Legible) (drawn : TLSID) :
    OneLine (s.offerTLSID drawn) := by
  have hdrawn : OneLine drawn.text := .of_graphic drawn.graphic_text
  unfold MediaSession.offerTLSID
  split
  · rename_i a ha
    split_ifs
    · exact hdrawn
    · exact hs.localTLSID
    · exact hs.association a ha
  · split_ifs
    · exact hdrawn
    · exact hs.localTLSID

omit [SrtpLib] in
theorem MediaSession.Legible.localSDPTLSID (hs : s.Legible) (drawn : TLSID) :
    OneLine (s.localSDPTLSID drawn).1 := by
  unfold MediaSession.localSDPTLSID
  split
  · dsimp only
    split_ifs
    · exact oneLine_nil
    · exact hs.localTLSID
  · exact hs.offerTLSID drawn

omit [UnicodeCase] in
theorem oneLine_localSDES (s : MediaSession) (env : LocalEnv) :
    ∀ x ∈ (s.localSDES env).1, OneLine x.alg ∧ OneLine x.base64 := by
  have hinline (keysalt : Bytes) : OneLine (srtpProfileString s.srtpAlg) ∧
      OneLine (base64Encode keysalt) :=
    ⟨oneLine_srtpProfileString _, .of_graphic (graphic_base64Encode keysalt)⟩
  unfold MediaSession.localSDES
  split
  · simp
  · split
    · simp
    · dsimp only
      split
      all_goals
        intro x hx
        obtain rfl := Option.some.inj hx
        exact hinline _

omit [UnicodeCase] [SrtpLib] in
theorem MediaSession.Legible.localICESetup (hs : s.Legible) : ∀ x ∈ s.localICESetup,
    OneLine x.ufrag ∧ OneLine x.pwd ∧ ∀ c ∈ x.candidates, OneLine c := by
  intro x hx
  unfold MediaSession.localICESetup at hx
  split at hx
  · rename_i agent hagent
    obtain rfl := Option.some.inj hx
    obtain ⟨hufrag, hpwd, hcandidates⟩ := hs.agent agent hagent
    exact ⟨hufrag, hpwd, by simpa [MediaSession.agentICESetup] using hcandidates⟩
  · obtain ⟨e, he, rfl⟩ := Option.map_eq_some_iff.mp hx
    exact hs.established e he

omit [UnicodeCase] [SrtpLib] in
theorem MediaSession.Legible.activeCodecs (hs : s.Legible) :
    ∀ c ∈ s.activeCodecs, OneLine c.name := by
  unfold MediaSession.activeCodecs
  split
  · exact fun c hc => hs.names c (List.mem_append_right _ hc)
  · exact fun c hc => hs.names c (List.mem_append_left _ hc)

omit [UnicodeCase] [SrtpLib] in
theorem MediaSession.Legible.rtpProfile (hs : s.Legible) (g : Globals) (keyed : Bool) :
    let profile := if s.answeringOffer then s.remoteProto else s.offeredProfile g keyed
    profile ≠ [] ∧ NoSpace profile := by
  have hword {w : Bytes} (h : w ≠ [] ∧ ∀ b ∈ w, Graphic b) : w ≠ [] ∧ NoSpace w :=
    ⟨h.1, .of_graphic h.2⟩
  dsimp only
  split
  · rename_i hanswering
    simp only [MediaSession.answeringOffer, Bool.and_eq_true, bne_iff_ne] at hanswering
    exact ⟨hanswering.1, hs.remoteProto⟩
  · unfold MediaSession.offeredProfile
    split_ifs
    · exact hword (by decide)
    · exact hword (by decide)
    · exact hword (by decide)

theorem MediaSession.Legible.description (hs : s.Legible) (hcodecs : s.activeCodecs ≠ [])
    (g : Globals) (env : LocalEnv) : (s.description g env).Legible where
  proto := hs.rtpProfile g _
  port := hs.port
  codecs := hcodecs
  names := hs.activeCodecs
  streams := hs.streams
  sdes := oneLine_localSDES s env
  dtls := by
    intro x hx
    change s.localDTLS env = some x at hx
    unfold MediaSession.localDTLS at hx
    split at hx
    · obtain rfl := Option.some.inj hx
      exact ⟨hs.localSDPTLSID env.tlsID, fun fp hfp =>
        ⟨.of_graphic (localDTLSFingerprints_graphic s fp hfp).1,
          .of_graphic (localDTLSFingerprints_graphic s fp hfp).2⟩⟩
    · cases hx
  ice := hs.localICESetup

omit [SrtpLib] in
theorem MediaSession.Legible.onStream {audio : ℕ} {r : StreamRead} (hs : s.Legible)
    (hbody : chooseAudio body = .ok (sections, audio, m))
    (hr : r.Accepted g s (sections.description m) m.media) :
    (s.onStream g r (sections.description m) m.media
      ⟨sections.media.map (·.media), audio⟩).Legible := by
  obtain ⟨hread, -, hm⟩ := chooseAudio_eq_ok.mp hbody
  have hmem : m ∈ sections.media := List.mem_of_getElem? hm
  have hremote := codecsFromSDPRead_oneLine (oneLine_values hread hmem _) hr.codecs
  refine ⟨?_, hs.port, (words_of_mem hread hmem).proto.2, ?_, hs.localTLSID, hs.association,
    hs.agent, hs.established⟩
  · change ∀ c ∈ (if s.codecs = [] then r.remote else s.codecs) ++
      (if s.codecs = [] then s.filterCodecs else s.negotiatedCodecs g r.remote), OneLine c.name
    split
    · simp only [List.forall_mem_append]
      exact ⟨hremote, fun c hc => hs.names c (List.mem_append_right _ hc)⟩
    · simp only [List.forall_mem_append]
      refine ⟨fun c hc => hs.names c (List.mem_append_left _ hc), fun c hc => ?_⟩
      obtain ⟨lc, hlc, hname⟩ := commonCodecs_name c hc
      exact hname ▸ hs.names lc (List.mem_append_left _ hlc)
  · change ∀ md ∈ (if s.remoteSDPIsAnswer then s.offeredStreams
      else ⟨sections.media.map (·.media), audio⟩ : OfferedStreams).media, md.Words
    split
    · exact hs.streams
    · simp only [List.forall_mem_map]
      exact fun m' hm' => words_of_mem hread hm'

omit [UnicodeCase] [SrtpLib] in
theorem MediaSession.Legible.applyICE (hs : s.Legible) (h : applyICE attrs s = (.ok (), t)) :
    t.Legible := by
  unfold Media.applyICE remoteICE at h
  rw [bind_of_ok (read_apply s)] at h
  by_cases hice : s.iceEnabled = true
  · rw [only_of _ hice] at h
    simp only [bind_eq_ok, require_eq_ok, read_apply] at h
    obtain ⟨_, _, ⟨-, rfl⟩, _, _, ⟨-, rfl⟩, _, _, hread, h⟩ := h
    obtain ⟨hsame, rfl⟩ := Prod.mk.inj hread
    obtain rfl := Except.ok.inj hsame
    cases hagent : s.iceAgent with
    | some agent =>
      simp only [hagent] at h
      obtain rfl := (Prod.mk.inj h).2
      refine { hs with agent := fun a ha => ?_ }
      obtain rfl := Option.some.inj ha
      exact hs.agent agent hagent
    | none =>
      cases he : s.establishedICE with
      | some e =>
        simp only [hagent, he] at h
        obtain ⟨_, _, hsame, h⟩ := bind_eq_ok.mp h
        obtain ⟨-, rfl⟩ := require_eq_ok.mp hsame
        obtain rfl := (Prod.mk.inj h).2
        exact { hs with }
      | none =>
        simp only [hagent, he] at h
        cases h
  · rw [only_of_not _ hice] at h
    obtain rfl := (Prod.mk.inj h).2
    exact hs

theorem MediaSession.Legible.negotiateDTLSAssociation {setup : SetupRole}
    {fingerprints : List SdpFingerprint} {tlsID : Bytes} (hs : s.Legible)
    (h : negotiateDTLSAssociation g env setup fingerprints tlsID s = (.ok (), t)) : t.Legible := by
  have htlsID {u : MediaSession} (hu : u.Legible) : (u.newAnswerTLSID env.tlsID tlsID).Legible := by
    refine { hu with localTLSID := ?_ }
    change OneLine (if u.remoteSDPIsAnswer then u.localTLSID
      else if tlsID ≠ [] then env.tlsID.text else [])
    split_ifs
    · exact hu.localTLSID
    · exact .of_graphic env.tlsID.graphic_text
    · exact oneLine_nil
  rcases negotiateDTLSAssociation_ok h with ⟨-, rfl⟩ | ⟨a, -, -, rfl⟩ |
    ⟨a, reason, u, -, -, -, hmove, rfl⟩
  · exact { htlsID hs with }
  · exact hs
  · have hu : u.Legible := by
      rcases hmove with ⟨-, -, hbind⟩ | ⟨-, rfl⟩
      · obtain ⟨hladdr, hoff⟩ := rebindForAssociation_ok hbind
        obtain ⟨x, hu⟩ : ∃ x, u = MediaSession.withSockets s x := by
          refine ⟨u.sockets, ?_⟩
          have hback := congrArg (fun v => MediaSession.withSockets v u.sockets) hoff
          exact hback
        have hport : -2 ^ 63 ≤ u.laddr.port ∧ u.laddr.port < 2 ^ 63 :=
          hladdr.elim (·.representable) fun hsame => hsame ▸ hs.port
        rw [hu] at hport ⊢
        exact { hs with port := hport }
      · exact hs
    exact { htlsID (u := u.unkeyed) { hu with association := by simp [MediaSession.unkeyed] } with }

theorem MediaSession.Legible.applyKeying {req : Bool} {proto : Bytes} (hs : s.Legible)
    (h : applyKeying g env attrs req proto s = (.ok (), t)) : t.Legible := by
  obtain ⟨s₁, s₂, s₃, hcrypto, hICE, hdtls, hsettle⟩ := applyKeying_eq_ok.mp h
  have h₁ : s₁.Legible := by
    obtain ⟨tag, ⟨-, rfl⟩ | ⟨-, ctx, -, rfl⟩⟩ := applyCrypto_ok hcrypto
    all_goals exact { hs with }
  have h₂ : s₂.Legible := h₁.applyICE hICE
  have h₃ : s₃.Legible := by
    cases hd : s₂.dtlsSRTP with
    | false =>
      rw [applyDTLS_of_not hd] at hdtls
      rwa [← (Prod.mk.inj hdtls).2]
    | true =>
      obtain ⟨setup, fingerprints, tlsID, -, hneg⟩ := applyDTLS_ok hd hdtls
      refine MediaSession.Legible.negotiateDTLSAssociation ?_ hneg
      exact { h₂ with }
  obtain ⟨-, rfl⟩ := settleContexts_eq_ok.mp hsettle
  exact { h₃ with }

theorem MediaSession.Legible.remoteSDP (hs : s.Legible)
    (h : MediaSession.remoteSDP g env body s = (.ok (), t)) : t.Legible := by
  obtain ⟨sections, audio, m, r, hbody, hr, hkey⟩ := remoteSDP_eq_ok.mp h
  exact (hs.onStream hbody hr).applyKeying hkey

omit [SrtpLib] in
theorem chooseAudio_generateSDPForAudio {d : Description} (hd : d.Legible) (hport : 0 < d.rtpPort)
    (hprofile : (parseRTPProfile d.rtpProfile).isSome = true) :
    chooseAudio (generateSDPForAudio d) =
      .ok (d.sections, d.streams.rejectedBefore.length, d.audioSection) := by
  have hrejected : ∀ m ∈ d.streams.rejectedBefore, isUsable m = false := by
    simp only [OfferedStreams.rejectedBefore, List.forall_mem_map]
    intro md _
    simp [isUsable, rejectedSection]
  have haudio : isUsable d.audioSection = true := by
    simp [isUsable, isAudio, Description.audioSection, Description.audioMedia, hport, hprofile]
  have hfind : d.sections.media.findIdx? isUsable = some d.streams.rejectedBefore.length := by
    have hnone : d.streams.rejectedBefore.findIdx? isUsable = none := by
      simpa [List.findIdx?_eq_none_iff] using hrejected
    simp [Description.sections, List.findIdx?_append, hnone, List.findIdx?_cons, haudio]
  refine chooseAudio_eq_ok.mpr ⟨unmarshalSections_generateSDPForAudio hd, ?_, ?_⟩
  · simp [audioStream, hfind]
  · simp [Description.sections]

end Lib
end Diago.Media
