import Diago.Lib.KeyedJoin
import Diago.Media.RemoteSDP

/-! # Codec negotiation

Negotiation joins the local and the remote codecs by their format: encoding name up to
letter case, clock rate and channels.
-/
namespace Diago.Media
open Lib SDP

/-- What identifies a format: the letters of its name, its clock rate and its channels. -/
structure Format where
  letters : List ℕ
  sampleRate : UInt32
  numChannels : ℤ
  deriving DecidableEq

section Fold
variable [UnicodeCase]

def Codec.format (c : Codec) : Format :=
  ⟨(runes c.name).map foldRune, c.sampleRate, c.numChannels⟩

theorem codecMatch_iff {lc rc : Codec} : codecMatch lc rc = true ↔ lc.format = rc.format := by
  simp [codecMatch, equalFold, Codec.format, and_assoc]

def DistinctFormats (cs : List Codec) : Prop := cs.Pairwise fun c d => ¬ codecMatch c d = true

theorem distinctFormats_iff {cs : List Codec} :
    DistinctFormats cs ↔ (cs.map Codec.format).Nodup := by
  simp only [DistinctFormats, codecMatch_iff, List.Nodup, List.pairwise_map, ne_eq]

theorem format_negotiatedCodec (lc rc : Codec) : (negotiatedCodec lc rc).format = lc.format := rfl

theorem commonCodecs_eq (localOrder : Bool) (localCodecs remote : List Codec) :
    commonCodecs localOrder localCodecs remote =
      if localOrder then joinBy Codec.format Codec.format negotiatedCodec localCodecs remote
      else joinBy Codec.format Codec.format (fun rc lc => negotiatedCodec lc rc) remote
        localCodecs := by
  have hmatch (lc rc : Codec) : codecMatch lc rc = decide (lc.format = rc.format) := by
    rw [Bool.eq_iff_iff, codecMatch_iff, decide_eq_true_iff]
  unfold commonCodecs joinBy
  split
  · congr
    funext lc
    rw [funext fun rc => hmatch lc rc]
  · congr
    funext rc
    rw [funext fun lc => (hmatch lc rc).trans (decide_eq_decide.mpr eq_comm)]

theorem mem_commonCodecs {localOrder : Bool} {localCodecs remote : List Codec}
    (hlocal : DistinctFormats localCodecs) (hremote : DistinctFormats remote) {c : Codec} :
    c ∈ commonCodecs localOrder localCodecs remote ↔
      ∃ lc ∈ localCodecs, ∃ rc ∈ remote, codecMatch lc rc = true ∧ negotiatedCodec lc rc = c := by
  simp only [codecMatch_iff]
  rw [commonCodecs_eq]
  cases localOrder with
  | true => exact mem_joinBy (distinctFormats_iff.mp hremote)
  | false =>
    rw [if_neg (by simp), mem_joinBy (distinctFormats_iff.mp hlocal)]
    constructor
    · rintro ⟨rc, hrc, lc, hlc, hformat, rfl⟩
      exact ⟨lc, hlc, rc, hrc, hformat.symm, rfl⟩
    · rintro ⟨lc, hlc, rc, hrc, hformat, rfl⟩
      exact ⟨rc, hrc, lc, hlc, hformat.symm, rfl⟩

theorem map_format_commonCodecs (localOrder : Bool) (localCodecs remote : List Codec) :
    (commonCodecs localOrder localCodecs remote).map Codec.format =
      if localOrder then (localCodecs.map Codec.format).filter (· ∈ remote.map Codec.format)
      else (remote.map Codec.format).filter (· ∈ localCodecs.map Codec.format) := by
  rw [commonCodecs_eq]
  split
  · exact map_key_joinBy fun lc rc _ => format_negotiatedCodec lc rc
  · exact map_key_joinBy fun rc lc hformat => (format_negotiatedCodec lc rc).trans hformat.symm

def MediaSession.PrefersLocalOrder (g : Globals) (s : MediaSession) : Prop :=
  g.sdpCodecPreferLocalOrder = true ∧ s.remoteSDPIsAnswer = false

/-- The negotiated codecs are the common formats, each once, ours under the peer's payload type.
They come in the order of the remote list, or of ours where that is preferred; the entries are the
same either way. -/
theorem negotiation_is_intersection (g : Globals) (s : MediaSession) (remote : List Codec)
    (hne : s.codecs ≠ []) (hlocal : DistinctFormats s.codecs) (hremote : DistinctFormats remote) :
    (∀ c, c ∈ (s.updateRemoteCodecs g remote).filterCodecs ↔
      ∃ lc ∈ s.codecs, ∃ rc ∈ remote, codecMatch lc rc = true ∧
        { lc with payloadType := rc.payloadType } = c) ∧
    DistinctFormats (s.updateRemoteCodecs g remote).filterCodecs ∧
    (s.PrefersLocalOrder g → (s.updateRemoteCodecs g remote).filterCodecs.map Codec.format =
      (s.codecs.map Codec.format).filter (· ∈ remote.map Codec.format)) ∧
    (¬ s.PrefersLocalOrder g → (s.updateRemoteCodecs g remote).filterCodecs.map Codec.format =
      (remote.map Codec.format).filter (· ∈ s.codecs.map Codec.format)) ∧
    ∀ g' c, c ∈ (s.updateRemoteCodecs g remote).filterCodecs ↔
      c ∈ (s.updateRemoteCodecs g' remote).filterCodecs := by
  have hcodecs (g : Globals) : (s.updateRemoteCodecs g remote).filterCodecs =
      commonCodecs (g.sdpCodecPreferLocalOrder && !s.remoteSDPIsAnswer) s.codecs remote :=
    if_neg hne
  have horder (localOrder : Bool) := map_format_commonCodecs localOrder s.codecs remote
  refine ⟨fun c => ?_, ?_, fun hpref => ?_, fun hpref => ?_, fun g' c => ?_⟩
  · rw [hcodecs]
    exact mem_commonCodecs hlocal hremote
  · rw [hcodecs, distinctFormats_iff, horder]
    split
    · exact (distinctFormats_iff.mp hlocal).filter _
    · exact (distinctFormats_iff.mp hremote).filter _
  · rw [hcodecs, horder, if_pos (by simpa [MediaSession.PrefersLocalOrder] using hpref)]
  · rw [hcodecs, horder, if_neg (by simpa [MediaSession.PrefersLocalOrder] using hpref)]
  · rw [hcodecs, hcodecs, mem_commonCodecs hlocal hremote, mem_commonCodecs hlocal hremote]

end Fold

section Sample

attribute [local instance] asciiOnly

/-- A session that prefers the one of its two codecs the peer names last. -/
def twoCodecs : MediaSession := { codecs := [codecAudioAlaw, codecAudioUlaw] }

def peerCodecs : List Codec := [codecAudioUlaw, { codecAudioAlaw with name := lit "pcma" }]

/-- Both are negotiated under our names, in the order of the peer. -/
theorem two_codecs_negotiated :
    codecAudioAlaw ∈ (twoCodecs.updateRemoteCodecs {} peerCodecs).filterCodecs ∧
      (twoCodecs.updateRemoteCodecs {} peerCodecs).filterCodecs.map Codec.format =
        (peerCodecs.map Codec.format).filter (· ∈ twoCodecs.codecs.map Codec.format) := by
  obtain ⟨hmem, -, -, hremote, -⟩ := negotiation_is_intersection {} twoCodecs peerCodecs
    (by decide) (by simp only [DistinctFormats]; decide) (by simp only [DistinctFormats]; decide)
  refine ⟨(hmem codecAudioAlaw).mpr ?_, hremote (by simp [MediaSession.PrefersLocalOrder])⟩
  exact ⟨codecAudioAlaw, by decide, { codecAudioAlaw with name := lit "pcma" }, by decide,
    by decide, rfl⟩

end Sample
end Diago.Media
