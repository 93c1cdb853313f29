import Diago.Media.Direction
import Diago.Media.Legible

/-! # The answer to an offer

The answer has the m= lines of the offer, in their order and with their media types
and protocols.
-/
namespace Diago.Media
open Lib SDP Op

theorem readFormat_payloadType {attrs : List Bytes} {f : Bytes} :
    ∀ c ∈ readFormat attrs f, parseUint 8 f = .ok c.payloadType.toNat := by
  unfold readFormat
  split_ifs with h0 h8 h9
  · simp only [List.forall_mem_singleton, h0]
    decide
  · simp only [List.forall_mem_singleton, h8]
    decide
  · simp only [List.forall_mem_singleton, h9]
    decide
  · split
    · simp
    · rename_i pt hpt
      intro c hc
      obtain ⟨a, -, hread⟩ := List.mem_filterMap.mp hc
      obtain ⟨str, -, hread⟩ := Option.bind_eq_some_iff.mp hread
      have hc : c.payloadType = UInt8.ofNat pt := by
        unfold readRTPMap at hread
        split at hread
        · split at hread
          · obtain rfl := Option.some.inj hread
            rfl
          · cases hread
        · cases hread
      have hlt : pt < 256 := parseUint_lt hpt
      rw [hpt, hc, UInt8.toNat_ofNat_of_lt' hlt]

theorem commonCodecs_payloadType [UnicodeCase] {localOrder : Bool} {localCodecs remote : List Codec} :
    ∀ c ∈ commonCodecs localOrder localCodecs remote,
      ∃ rc ∈ remote, c.payloadType = rc.payloadType := by
  intro c hc
  unfold commonCodecs at hc
  split at hc
  · obtain ⟨lc, -, hmap⟩ := List.mem_filterMap.mp hc
    obtain ⟨rc, hrc, rfl⟩ := Option.map_eq_some_iff.mp hmap
    exact ⟨rc, List.mem_of_find?_eq_some hrc, rfl⟩
  · obtain ⟨rc, hrc, hmap⟩ := List.mem_filterMap.mp hc
    obtain ⟨lc, -, rfl⟩ := Option.map_eq_some_iff.mp hmap
    exact ⟨rc, hrc, rfl⟩

def NamesFormat (formats : List Bytes) (f : Bytes) : Prop :=
  ∃ f' ∈ formats, ∃ pt, parseUint 8 f = .ok pt ∧ parseUint 8 f' = .ok pt

/-- What section `i` of an answer has to be, given the one of the offer. -/
structure MirrorsSection (audio : ℕ) (port : ℤ) (i : ℕ) (o a : MediaDescription) : Prop where
  mediaType : a.mediaType = o.mediaType
  proto : a.proto = o.proto
  rejected : i ≠ audio → a.formats = o.formats ∧ a.port = 0
  accepted : i = audio → a.port = port ∧ ∀ f ∈ a.formats, NamesFormat o.formats f

/-- The answer mirrors the offer around the stream at `audio`, for which it gives `port`. -/
structure Mirrors (offer : List MediaSection) (audio : ℕ) (port : ℤ)
    (answer : List MediaSection) : Prop where
  length : answer.length = offer.length
  sections : ∀ i o a, offer[i]? = some o → answer[i]? = some a →
    MirrorsSection audio port i o.media a.media

section Lib
variable [UnicodeCase] [SrtpLib] {g : Globals} {env : RemoteEnv} {body : Bytes}
  {s t : MediaSession} {sections : Sections} {audio : ℕ} {m : MediaSection}

/-- Negotiation leaves some codecs, all under payload types of the offer. -/
theorem activeCodecs_of_remoteSDP (hbody : chooseAudio body = .ok (sections, audio, m))
    (hfilter : s.codecs = [] → s.filterCodecs = [])
    (h : MediaSession.remoteSDP g env body s = (.ok (), t)) :
    t.activeCodecs ≠ [] ∧ ∀ c ∈ t.activeCodecs,
      ∃ f ∈ m.media.formats, parseUint 8 f = .ok c.payloadType.toNat := by
  obtain ⟨r, happlied⟩ := remoteSDP_applied hbody h
  have hr := happlied.accepted
  have hremote : ∀ c ∈ r.remote, ∃ f ∈ m.media.formats,
      parseUint 8 f = .ok c.payloadType.toNat := by
    intro c hc
    have hread := hr.codecs
    unfold codecsFromSDPRead at hread
    dsimp only at hread
    split at hread
    · rw [← Option.some.inj hread] at hc
      obtain ⟨f, hf, hc⟩ := List.mem_flatMap.mp hc
      exact ⟨f, hf, readFormat_payloadType c hc⟩
    · cases hread
  unfold MediaSession.activeCodecs
  rw [happlied.codecs, happlied.filterCodecs]
  by_cases hnil : s.codecs = []
  · simp only [hnil, if_true, hfilter hnil, ne_eq, not_true_eq_false, if_false]
    exact ⟨hr.remote, hremote⟩
  · have hcommon := hr.common.resolve_left hnil
    simp only [hnil, if_false, hcommon, ne_eq, not_false_eq_true, if_true, true_and]
    intro c hc
    obtain ⟨rc, hrc, hpt⟩ := commonCodecs_payloadType c hc
    rw [hpt]
    exact hremote rc hrc

omit [SrtpLib] in
theorem mirrors_sections {d : Description} {offer : List MediaSection}
    (hstreams : d.streams = ⟨offer.map (·.media), audio⟩) (hm : offer[audio]? = some m)
    (haudio : isAudio m = true) (hproto : d.rtpProfile = m.media.proto)
    (hformats : ∀ c ∈ d.codecs, ∃ f ∈ m.media.formats, parseUint 8 f = .ok c.payloadType.toNat) :
    Mirrors offer audio d.rtpPort d.sections.media := by
  have hlt : audio < offer.length := (List.getElem?_eq_some_iff.mp hm).1
  have hmedia : d.sections.media =
      (offer.map fun m => rejectedSection m.media).set audio d.audioSection := by
    rw [List.set_eq_take_append_cons_drop, if_pos (by simpa using hlt)]
    simp [Description.sections, OfferedStreams.rejectedBefore, OfferedStreams.rejectedAfter,
      hstreams, List.map_take, List.map_drop, Function.comp_def]
  refine ⟨by simp [hmedia], fun i o a ho ha => ?_⟩
  rw [hmedia, List.getElem?_set] at ha
  by_cases hi : audio = i
  · subst hi
    obtain rfl := Option.some.inj (hm.symm.trans ho)
    simp only [if_true, List.length_map, hlt, Option.some.injEq] at ha
    subst ha
    refine ⟨?_, hproto, fun hne => absurd rfl hne, fun _ => ⟨rfl, ?_⟩⟩
    · have htype : m.media.mediaType = lit "audio" := by simpa [isAudio] using haudio
      exact htype.symm
    · simp only [Description.audioSection, Description.audioMedia, List.forall_mem_map]
      intro c hc
      obtain ⟨f, hf, hpt⟩ := hformats c hc
      exact ⟨f, hf, _, parseUint_formatNat c.payloadType.toNat_lt, hpt⟩
  · simp only [hi, if_false, List.getElem?_map, ho, Option.map_some, Option.some.injEq] at ha
    subst ha
    exact ⟨rfl, rfl, fun _ => ⟨rfl, rfl⟩, fun heq => absurd heq.symm hi⟩

/-- An answer mirrors the offer it answers. -/
theorem answer_mirrors_offer (g : Globals) (env : RemoteEnv) (env' : LocalEnv) (body : Bytes)
    (s t : MediaSession) (offer : Sections) (audio : ℕ) (m : MediaSection) (hs : s.Legible)
    (hfilter : s.codecs = [] → s.filterCodecs = []) (hsdp : s.sdp = [])
    (hanswer : s.remoteSDPIsAnswer = false) (hbody : chooseAudio body = .ok (offer, audio, m))
    (happly : MediaSession.remoteSDP g env body s = (.ok (), t)) :
    ∃ answer, unmarshalSections (t.localSDP g env').1 = .ok answer ∧
      Mirrors offer.media audio t.laddr.port answer.media := by
  obtain ⟨hcodecs, hformats⟩ := activeCodecs_of_remoteSDP hbody hfilter happly
  obtain ⟨hread, haudio, hm⟩ := chooseAudio_eq_ok.mp hbody
  obtain ⟨m', hm', hisAudio⟩ := audioStream_isAudio haudio
  obtain rfl := Option.some.inj (hm.symm.trans hm')
  obtain ⟨r, happlied⟩ := remoteSDP_applied hbody happly
  have hproto := happlied.remoteProto
  have hstreams := happlied.offeredStreams
  rw [hanswer, if_neg (by simp)] at hstreams
  have hword : m.media.proto ≠ [] := (words_of_mem hread (List.mem_of_getElem? hm)).proto.1
  have hanswering : t.answeringOffer = true := by
    simp [MediaSession.answeringOffer, hproto, hword, happlied.remoteSDPIsAnswer, hanswer]
  have hprofile : (t.description g env').rtpProfile = m.media.proto := by
    simp [MediaSession.description, hanswering, hproto]
  have hlegible := (hs.remoteSDP happly).description hcodecs g env'
  refine ⟨(t.description g env').sections, ?_, ?_⟩
  · simp only [MediaSession.localSDP, happlied.sdp, hsdp, ne_eq, not_true_eq_false, if_false]
    exact unmarshalSections_generateSDPForAudio hlegible
  · exact mirrors_sections hstreams hm hisAudio hprofile hformats

end Lib

section Sample

attribute [local instance] asciiOnly documentedSrtp

def videoOffer : Bytes :=
  marshalLines
    [⟨lit "v", lit "0"⟩, ⟨lit "o", lit "- 1 1 IN IP4 10.0.0.2"⟩, ⟨lit "s", lit "-"⟩,
      ⟨lit "c", lit "IN IP4 10.0.0.2"⟩, ⟨lit "t", lit "0 0"⟩,
      ⟨lit "m", lit "video 4004 RTP/AVP 96"⟩, ⟨lit "a", lit "rtpmap:96 H264/90000"⟩,
      ⟨lit "m", lit "audio 4002 RTP/AVP 8 0"⟩]

theorem plainSession_legible : plainSession.Legible :=
  ⟨by decide, by simp [plainSession], NoSpace.nil, by simp [plainSession],
    by simp [plainSession], by simp [plainSession], by simp [plainSession], by simp [plainSession]⟩

/-- The answer rejects the video stream in its place. -/
theorem video_offer_mirrored : ∃ offer t answer, unmarshalSections videoOffer = .ok offer ∧
    MediaSession.remoteSDP {} plainRemote videoOffer plainSession = (.ok (), t) ∧
    unmarshalSections (t.localSDP {} ⟨0x100000000, fun _ => 0, 4, sameLetter 0⟩).1 = .ok answer ∧
    Mirrors offer.media 1 t.laddr.port answer.media := by
  have hchoose : (chooseAudio videoOffer).toOption.map (fun x => x.2.1) = some 1 := by
    decide +kernel
  obtain ⟨⟨offer, audio, m⟩, hbody, haudio⟩ := Option.map_eq_some_iff.mp hchoose
  dsimp only at haudio
  subst haudio
  have hbody := ok_of_toOption hbody
  obtain ⟨t, happly, -⟩ := exists_ok (P := fun _ => True)
    (x := MediaSession.remoteSDP {} plainRemote videoOffer plainSession)
    ⟨by decide +kernel, trivial⟩
  obtain ⟨answer, hanswer, hmirrors⟩ := answer_mirrors_offer {} plainRemote
    ⟨0x100000000, fun _ => 0, 4, sameLetter 0⟩ videoOffer plainSession t offer 1 m plainSession_legible
    (by simp [plainSession]) rfl rfl hbody happly
  exact ⟨offer, t, answer, (chooseAudio_eq_ok.mp hbody).1, happly, hanswer, hmirrors⟩

end Sample
end Diago.Media
