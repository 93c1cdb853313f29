import Diago.Media.Direction
import Diago.Media.Refusal

/-! # Bad input

What a peer can do with a body or a datagram that is not as it should be.
-/
namespace Diago.Media
open Lib SDP Op

/-! ### Writing the codecs of a body -/

/-- Writes the next entry of the destination; past its end this panics. -/
def writeCodec (st : List Codec × ℕ) (c : Codec) : Option (List Codec × ℕ) :=
  if st.2 < st.1.length then some (st.1.set st.2 c, st.2 + 1) else none

def readAttrInto (pt : UInt8) (f : Bytes) (st : List Codec × ℕ) (a : Bytes) :
    Option (List Codec × ℕ) :=
  match (cutPre (rtpmapHead f) a).bind (readRTPMap pt) with
  | some c => writeCodec st c
  | none => some st

def readFormatInto (attrs : List Bytes) (st : List Codec × ℕ) (f : Bytes) :
    Option (List Codec × ℕ) :=
  if f = lit "0" then writeCodec st codecAudioUlaw
  else if f = lit "8" then writeCodec st codecAudioAlaw
  else if f = lit "9" then writeCodec st codecAudioG722
  else
    match parseUint 8 f with
    | .error _ => some st
    | .ok pt => attrs.foldlM (readAttrInto (UInt8.ofNat pt) f) st

/-- The loop of CodecsFromSDPRead over a destination, with the number of entries written. -/
def codecsFromSDPReadInto (formats attrs : List Bytes) (codecsAudio : List Codec) :
    Option (List Codec × ℕ) :=
  formats.foldlM (readFormatInto attrs) (codecsAudio, 0)

def entries (formats attrs : List Bytes) : ℕ :=
  (formats.map fun f => (readFormat attrs f).length).sum

theorem foldlM_readAttrInto (pt : UInt8) (f : Bytes) (attrs : List Bytes) (st : List Codec × ℕ) :
    attrs.foldlM (readAttrInto pt f) st =
      (attrs.filterMap fun a => (cutPre (rtpmapHead f) a).bind (readRTPMap pt)).foldlM
        writeCodec st := by
  induction attrs generalizing st with
  | nil => rfl
  | cons a attrs ih =>
    rw [List.foldlM_cons, List.filterMap_cons, readAttrInto]
    cases (cutPre (rtpmapHead f) a).bind (readRTPMap pt) with
    | none => exact ih st
    | some c =>
      rw [List.foldlM_cons]
      exact congrArg _ (funext fun st => ih st)

theorem readFormatInto_eq (attrs : List Bytes) (st : List Codec × ℕ) (f : Bytes) :
    readFormatInto attrs st f = (readFormat attrs f).foldlM writeCodec st := by
  have hone (c : Codec) : writeCodec st c = [c].foldlM writeCodec st := by simp
  unfold readFormatInto readFormat
  split_ifs
  · exact hone _
  · exact hone _
  · exact hone _
  · cases parseUint 8 f with
    | error e => rfl
    | ok pt => exact foldlM_readAttrInto _ f attrs st

theorem foldlM_readFormatInto (formats attrs : List Bytes) (st : List Codec × ℕ) :
    formats.foldlM (readFormatInto attrs) st =
      (formats.flatMap (readFormat attrs)).foldlM writeCodec st := by
  induction formats generalizing st with
  | nil => rfl
  | cons f formats ih =>
    rw [List.foldlM_cons, List.flatMap_cons, List.foldlM_append, readFormatInto_eq]
    exact congrArg _ (funext fun st => ih st)

theorem foldlM_writeCodec (codecs : List Codec) (dest : List Codec) (n : ℕ)
    (hn : n ≤ dest.length) :
    (codecs.foldlM writeCodec (dest, n)).map Prod.snd =
      if n + codecs.length ≤ dest.length then some (n + codecs.length) else none := by
  induction codecs generalizing dest n with
  | nil => simp [hn]
  | cons c codecs ih =>
    rw [List.foldlM_cons, writeCodec]
    by_cases hroom : n < dest.length
    · rw [if_pos hroom]
      have hnext := ih (dest.set n c) (n + 1) (by rw [List.length_set]; omega)
      rw [List.length_set] at hnext
      simp only [Option.bind_eq_bind, Option.bind_some, List.length_cons]
      rw [hnext]
      simp only [Nat.add_assoc, Nat.add_comm 1]
    · rw [if_neg hroom, if_neg (by simp only [List.length_cons]; omega)]
      rfl

/-- The loop panics when the formats take more entries than there are, and counts them
otherwise. -/
theorem codecsFromSDPReadInto_count (formats attrs : List Bytes) (dest : List Codec) :
    (codecsFromSDPReadInto formats attrs dest).map Prod.snd =
      if entries formats attrs ≤ dest.length then some (entries formats attrs) else none := by
  have hlength : (formats.flatMap (readFormat attrs)).length = entries formats attrs :=
    List.length_flatMap
  rw [codecsFromSDPReadInto, foldlM_readFormatInto, foldlM_writeCodec _ dest 0 (Nat.zero_le _),
    hlength, Nat.zero_add]

/-! ### The errors of RemoteSDP -/

def InRange (e : Err) : Prop := e ≠ .codecsOutOfRange

theorem applyCodecs_inRange [UnicodeCase] {g : Globals} {md : MediaDescription} {attrs : List Bytes}
    (h : entries md.formats attrs ≤ md.formats.length) :
    FailsWith InRange (applyCodecs g md attrs) := by
  have hlength : (md.formats.flatMap (readFormat attrs)).length = entries md.formats attrs :=
    List.length_flatMap
  have hread : codecsFromSDPRead md.formats attrs md.formats.length =
      some (md.formats.flatMap (readFormat attrs)) := by
    simp only [codecsFromSDPRead, hlength, if_pos h]
  unfold applyCodecs
  rw [hread]
  cases md.formats.flatMap (readFormat attrs) with
  | nil => exact failsWith_fail nofun
  | cons c codecs =>
    exact (failsWith_read _).bind fun s =>
      (failsWith_update _ _).bind fun _ => failsWith_require nofun _

theorem applyStream_inRange [UnicodeCase] {g : Globals} {sections : Sections} {audio : ℕ}
    {m : MediaSection}
    (h : entries m.media.formats (values (sections.description m) (lit "a")) ≤
      m.media.formats.length) :
    FailsWith InRange (applyStream g sections audio m) := by
  refine applyStream_failsWith (fun e he => ?_) (applyCodecs_inRange h)
  cases he <;> exact nofun

section Lib
variable [UnicodeCase] [SrtpLib]

theorem applyKeying_inRange (g : Globals) (env : RemoteEnv) (attrs : List Bytes)
    (secureRequest : Bool) (proto : Bytes) :
    FailsWith InRange (applyKeying g env attrs secureRequest proto) := by
  refine (applyKeying_failsWith g env attrs secureRequest proto).mono fun e he => ?_
  cases he with
  | crypto h => cases h <;> exact nofun
  | ice h => cases h <;> exact nofun
  | dtls h => cases h <;> exact nofun
  | _ => exact nofun

theorem remoteSDP_inRange {g : Globals} {env : RemoteEnv} {body : Bytes} {sections : Sections}
    {audio : ℕ} {m : MediaSection} (hbody : chooseAudio body = .ok (sections, audio, m))
    (h : entries m.media.formats (values (sections.description m) (lit "a")) ≤
      m.media.formats.length) : FailsWith InRange (MediaSession.remoteSDP g env body) := by
  intro s e he
  rw [MediaSession.remoteSDP, hbody, bind_of_ok (ofExcept_apply _ s)] at he
  exact ((applyStream_inRange h).bind fun _ => applyKeying_inRange g env _ _ _) s e he

/-- No body makes the parsing of its codecs write out of range exactly when the formats of its
audio stream take no more entries than there are formats. -/
theorem codecs_in_range_iff (formats attrs : List Bytes) :
    ((∀ dest : List Codec, dest.length = formats.length →
        ∃ n, (codecsFromSDPReadInto formats attrs dest).map Prod.snd = some n ∧
          n ≤ formats.length) ∧
      ∀ (g : Globals) (env : RemoteEnv) (body : Bytes) (s : MediaSession) (sections : Sections)
        (audio : ℕ) (m : MediaSection), chooseAudio body = .ok (sections, audio, m) →
        m.media.formats = formats → values (sections.description m) (lit "a") = attrs →
        (MediaSession.remoteSDP g env body s).1 ≠ .error .codecsOutOfRange) ↔
      entries formats attrs ≤ formats.length := by
  constructor
  · rintro ⟨hread, -⟩
    obtain ⟨n, hn, -⟩ := hread (List.replicate formats.length codecAudioUlaw) List.length_replicate
    rw [codecsFromSDPReadInto_count, List.length_replicate] at hn
    by_contra hover
    rw [if_neg hover] at hn
    cases hn
  · intro h
    constructor
    · intro dest hdest
      refine ⟨entries formats attrs, ?_, h⟩
      rw [codecsFromSDPReadInto_count, hdest, if_pos h]
    · rintro g env body s sections audio m hbody rfl rfl herr
      exact remoteSDP_inRange hbody h s _ herr rfl

end Lib

/-! ### Datagrams that are no packet -/

namespace MediaSession

def ReachesFailure (env : ReadEnv) (bufLen : ℕ) : List Delivery → MediaSession → Prop
  | [], _ => False
  | .failure :: _, _ => True
  | .datagram data _ :: rest, s =>
    match s.readDatagram env (data.take bufLen) with
    | .discarded t => ReachesFailure env bufLen rest t
    | _ => False

end MediaSession

/-- A read returns an error only with the socket's exactly when the first datagram it does not
discard, if it gets one, is a packet. -/
theorem read_error_from_socket_iff (s : MediaSession) (env : ReadEnv) (bufLen : ℕ)
    (deliveries : List Delivery) (hbuf : rtpBufSize ≤ bufLen) :
    (∀ n e t, s.readRTP env bufLen deliveries = some (⟨n, some e⟩, t) →
        s.ReachesFailure env bufLen deliveries) ↔
      ∀ n, s.firstReading env bufLen deliveries ≠ some (.refused n) := by
  have hlong : ¬ bufLen < rtpBufSize := not_lt.mpr hbuf
  induction deliveries generalizing s with
  | nil => simp [MediaSession.readRTP, MediaSession.firstReading, hlong]
  | cons delivery rest ih =>
    cases delivery with
    | failure =>
      simp [MediaSession.readRTP, MediaSession.firstReading, MediaSession.ReachesFailure, hlong]
    | datagram data source =>
      rw [MediaSession.readRTP, MediaSession.firstReading, MediaSession.ReachesFailure, if_neg hlong]
      cases hread : s.readDatagram env (data.take bufLen) with
      | discarded t => exact ih t
      | refused n => simp
      | packet h n => simp

section Sample

attribute [local instance] asciiOnly documentedSrtp

def twiceMappedOffer : Bytes :=
  marshalLines
    [⟨lit "v", lit "0"⟩, ⟨lit "o", lit "- 1 1 IN IP4 10.0.0.2"⟩, ⟨lit "s", lit "-"⟩,
      ⟨lit "c", lit "IN IP4 10.0.0.2"⟩, ⟨lit "t", lit "0 0"⟩,
      ⟨lit "m", lit "audio 4002 RTP/AVP 96"⟩, ⟨lit "a", lit "rtpmap:96 opus/48000/2"⟩,
      ⟨lit "a", lit "rtpmap:96 opus/48000/2"⟩]

/-- The second a=rtpmap line of a format is written past the end. -/
theorem twice_mapped_out_of_range :
    codecsFromSDPReadInto [lit "96"] [lit "rtpmap:96 opus/48000/2", lit "rtpmap:96 opus/48000/2"]
        [codecAudioUlaw] = none ∧
      (MediaSession.remoteSDP {} plainRemote twiceMappedOffer plainSession).1 =
        .error .codecsOutOfRange := by
  decide +kernel

/-- A byte that is no packet, and then one of the media. -/
def strayDelivery : List Delivery :=
  .datagram [0x00] { ip := some (.v4 10 0 0 3), port := 5000 } :: packetDelivery

/-- One stray byte ends the read, with the media still to come. -/
theorem stray_byte_ends_read :
    ((plainSession.readRTP packetRead 1500 strayDelivery).map fun x => x.1) =
        some ⟨1, some .rtpParse⟩ ∧
      ¬ plainSession.ReachesFailure packetRead 1500 strayDelivery ∧
      ((plainSession.readRTP packetRead 1500 packetDelivery).map fun x => x.1) =
        some ⟨12, none⟩ := by
  refine ⟨by decide +kernel, ?_, by decide +kernel⟩
  intro h
  exact h

/-- A read that ends on a packet returns no error. -/
theorem packet_read_without_error : rtpBufSize ≤ 1500 ∧
    ∀ n e t, plainSession.readRTP packetRead 1500 packetDelivery = some (⟨n, some e⟩, t) →
      plainSession.ReachesFailure packetRead 1500 packetDelivery := by
  refine ⟨by decide, ?_⟩
  refine (read_error_from_socket_iff plainSession packetRead 1500 packetDelivery (by decide)).mpr ?_
  simp [packetDelivery, MediaSession.firstReading, MediaSession.readDatagram, plainSession,
    MediaSession.dtlsSRTP, packetRead, pcmuHeader]

end Sample
end Diago.Media
