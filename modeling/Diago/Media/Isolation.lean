import Diago.Media.Answer

/-! # Streams beside the audio

A remote description is read through the session-level lines, the lines of the section
that carries the call, and the m= lines of all sections.
-/
namespace Diago.Media
open Lib SDP Op

/-- The m= lines of a body, each the first line of its section. -/
def mediaLines (sections : Sections) : List (Option Line) := sections.media.map (·.lines.head?)

/-- Two bodies that differ at most in sections beside the audio stream, and there at most in the
lines after the m= line. -/
structure DifferBesideAudio [UnicodeCase] (a b : Sections) : Prop where
  session : a.session = b.session
  mediaLines : mediaLines a = mediaLines b
  audio : ∀ i, audioStream a.media = some i →
    a.media[i]?.map (·.lines) = b.media[i]?.map (·.lines)

section Lib
variable [UnicodeCase] {a b : Sections}

theorem DifferBesideAudio.media (h : DifferBesideAudio a b) (ha : a.WellFormed)
    (hb : b.WellFormed) : a.media.map (·.media) = b.media.map (·.media) := by
  have hheads : a.media.map (·.lines.head?) = b.media.map (·.lines.head?) := h.mediaLines
  rw [← List.forall₂_eq_eq_eq, List.forall₂_map_left_iff, List.forall₂_map_right_iff] at hheads ⊢
  rw [List.forall₂_iff_get] at hheads ⊢
  refine ⟨hheads.1, fun i hi hi' => ?_⟩
  exact (ha.media _ (List.get_mem ..)).media_eq (hb.media _ (List.get_mem ..)) (hheads.2 i hi hi')

theorem audioStream_congr {xs ys : List MediaSection} (h : xs.map (·.media) = ys.map (·.media)) :
    audioStream xs = audioStream ys := by
  have hfind (p : MediaDescription → Bool) :
      xs.findIdx? (fun m => p m.media) = ys.findIdx? (fun m => p m.media) := by
    have hmap (zs : List MediaSection) :
        zs.findIdx? (fun m => p m.media) = (zs.map (·.media)).findIdx? p := by
      rw [List.findIdx?_map]
      rfl
    rw [hmap, hmap, h]
  unfold audioStream
  exact congrArg₂ _ (hfind fun md => md.mediaType = lit "audio" &&
    (parseRTPProfile md.proto).isSome && 0 < md.port) (funext fun _ =>
      hfind fun md => md.mediaType = lit "audio")

theorem applyStream_congr {x y : MediaSection} (g : Globals) (audio : ℕ)
    (hlines : a.description x = b.description y)
    (hstreams : a.media.map (·.media) = b.media.map (·.media)) (hmedia : x.media = y.media) :
    applyStream g a audio x = applyStream g b audio y := by
  unfold applyStream applyStreams
  rw [hlines, hstreams, hmedia]

variable [SrtpLib]

/-- What the other sections say beyond their m= lines changes nothing: not the outcome, not the
session, not the description it writes next. -/
theorem other_sections_ignored (g : Globals) (env : RemoteEnv) (env' : LocalEnv)
    (body body' : Bytes) (s : MediaSession) (a b : Sections)
    (hbody : unmarshalSections body = .ok a) (hbody' : unmarshalSections body' = .ok b)
    (h : DifferBesideAudio a b) :
    MediaSession.remoteSDP g env body s = MediaSession.remoteSDP g env body' s ∧
      ((MediaSession.remoteSDP g env body s).2.localSDP g env').1 =
        ((MediaSession.remoteSDP g env body' s).2.localSDP g env').1 := by
  have hmedia := h.media (unmarshalSections_wellFormed hbody) (unmarshalSections_wellFormed hbody')
  have haudio := audioStream_congr hmedia
  have hsame : MediaSession.remoteSDP g env body = MediaSession.remoteSDP g env body' := by
    unfold MediaSession.remoteSDP chooseAudio
    rw [hbody, hbody']
    dsimp only
    rw [← haudio]
    cases hi : audioStream a.media with
    | none => rfl
    | some i =>
      have hlines := h.audio i hi
      have hstream : a.media[i]?.map (·.media) = b.media[i]?.map (·.media) := by
        rw [← List.getElem?_map, ← List.getElem?_map, hmedia]
      dsimp only
      cases hx : a.media[i]? with
      | none =>
        rw [hx] at hlines
        rw [Option.map_eq_none_iff.mp hlines.symm]
      | some x =>
        rw [hx] at hlines hstream
        obtain ⟨y, hy, hlines⟩ := Option.map_eq_some_iff.mp hlines.symm
        rw [hy] at hstream ⊢
        have hdescription : a.description x = b.description y := by
          rw [Sections.description, Sections.description, h.session, hlines]
        have hmd : x.media = y.media := by simpa using hstream
        funext s
        simp only [ofExcept_apply, bind_apply]
        rw [applyStream_congr g i hdescription hmedia hmd, hdescription, hmd]
  rw [hsame]
  exact ⟨rfl, rfl⟩

end Lib

section Sample

attribute [local instance] asciiOnly documentedSrtp

/-- The offer of a video and an audio stream, with an address, a direction and a key in the video
section. -/
def keyedVideoOffer : Bytes :=
  marshalLines
    [⟨lit "v", lit "0"⟩, ⟨lit "o", lit "- 1 1 IN IP4 10.0.0.2"⟩, ⟨lit "s", lit "-"⟩,
      ⟨lit "c", lit "IN IP4 10.0.0.2"⟩, ⟨lit "t", lit "0 0"⟩,
      ⟨lit "m", lit "video 4004 RTP/AVP 96"⟩, ⟨lit "c", lit "IN IP4 10.0.0.9"⟩,
      ⟨lit "a", lit "inactive"⟩, ⟨lit "a", lit "crypto:1 AES_CM_128_HMAC_SHA1_80 inline:AAAA"⟩,
      ⟨lit "m", lit "audio 4002 RTP/AVP 8 0"⟩]

theorem keyedVideoOffer_ignored :
    MediaSession.remoteSDP {} plainRemote videoOffer plainSession =
      MediaSession.remoteSDP {} plainRemote keyedVideoOffer plainSession := by
  have hread : ((unmarshalSections videoOffer).toOption.bind fun a =>
      (unmarshalSections keyedVideoOffer).toOption.map fun b =>
        decide (a.session = b.session ∧ mediaLines a = mediaLines b ∧
          audioStream a.media = some 1 ∧
          a.media[1]?.map (·.lines) = b.media[1]?.map (·.lines))) = some true := by
    decide +kernel
  obtain ⟨a, ha, hread⟩ := Option.bind_eq_some_iff.mp hread
  obtain ⟨b, hb, hread⟩ := Option.map_eq_some_iff.mp hread
  obtain ⟨hsession, hmedia, haudio, hlines⟩ := of_decide_eq_true hread
  refine (other_sections_ignored {} plainRemote ⟨0, fun _ => 0, 4, sameLetter 0⟩ _ _ plainSession a b
    (ok_of_toOption ha) (ok_of_toOption hb) ⟨hsession, hmedia, fun i hi => ?_⟩).1
  obtain rfl := Option.some.inj (haudio.symm.trans hi)
  exact hlines

end Sample
end Diago.Media
