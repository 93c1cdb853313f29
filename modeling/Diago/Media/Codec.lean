import Diago.Lib.Runes
import Diago.SDP.Sections

/-! # Codecs and their SDP text

The formats of an m= line are read into codecs through their a=rtpmap lines, and
codecs are written as such lines.
-/
namespace Diago.Media
open Lib SDP

structure Codec where
  name : Bytes
  payloadType : UInt8
  sampleRate : UInt32
  /-- In nanoseconds. -/
  sampleDur : ℤ
  numChannels : ℤ
  deriving DecidableEq, Repr

abbrev millisecond : ℤ := 1000000

def codecAudioUlaw : Codec := ⟨lit "PCMU", 0, 8000, 20 * millisecond, 1⟩
def codecAudioAlaw : Codec := ⟨lit "PCMA", 8, 8000, 20 * millisecond, 1⟩
def codecAudioOpus : Codec := ⟨lit "opus", 96, 48000, 20 * millisecond, 2⟩
def codecTelephoneEvent8000 : Codec := ⟨lit "telephone-event", 101, 8000, 20 * millisecond, 1⟩
def codecAudioG722 : Codec := ⟨lit "G722", 9, 8000, 20 * millisecond, 1⟩

def rtpmapHead (f : Bytes) : Bytes := lit "rtpmap:" ++ f ++ [space]

def readChannels : List Bytes → ℤ
  | [ch] =>
    match parseUint 32 ch with
    | .ok n => n
    | .error _ => 1
  | _ => 1

/-- The codec of one a=rtpmap attribute, from the text after its payload type. -/
def readRTPMap (pt : UInt8) (str : Bytes) : Option Codec :=
  match ((str.splitOn space).headD []).splitOn slash with
  | encodingName :: sampleRateStr :: rest =>
    match parseUint 32 sampleRateStr with
    | .ok sampleRate =>
      some ⟨encodingName, pt, UInt32.ofNat sampleRate, 20 * millisecond, readChannels rest⟩
    | .error _ => none
  | _ => none

/-- The codecs one format of the m= line adds: one for each a=rtpmap line it has. -/
def readFormat (attrs : List Bytes) (f : Bytes) : List Codec :=
  if f = lit "0" then [codecAudioUlaw]
  else if f = lit "8" then [codecAudioAlaw]
  else if f = lit "9" then [codecAudioG722]
  else
    match parseUint 8 f with
    | .error _ => []
    | .ok pt => attrs.filterMap fun a =>
        (cutPre (rtpmapHead f) a).bind (readRTPMap (UInt8.ofNat pt))

/-- The codecs read into a destination of `room` entries; writing past its end panics. -/
def codecsFromSDPRead (formats attrs : List Bytes) (room : ℕ) : Option (List Codec) :=
  let codecs := formats.flatMap (readFormat attrs)
  if codecs.length ≤ room then some codecs else none

def attr (v : Bytes) : Line := ⟨lit "a", v⟩

def formatOf (c : Codec) : Bytes := formatNat c.payloadType.toNat

section Fold
variable [UnicodeCase]

def formatRTPMap (c : Codec) : List Line :=
  let head := rtpmapHead (formatOf c)
  let fmtp := lit "fmtp:" ++ formatOf c ++ [space]
  if equalFold c.name codecAudioOpus.name then
    [attr (head ++ lit "opus/48000/2"), attr (fmtp ++ lit "useinbandfec=0")]
  else if equalFold c.name codecTelephoneEvent8000.name then
    [attr (head ++ lit "telephone-event/8000"), attr (fmtp ++ lit "0-16")]
  else if c.payloadType = codecAudioUlaw.payloadType then [attr (lit "rtpmap:0 PCMU/8000")]
  else if c.payloadType = codecAudioAlaw.payloadType then [attr (lit "rtpmap:8 PCMA/8000")]
  else if c.payloadType = codecAudioG722.payloadType then [attr (lit "rtpmap:9 G722/8000")]
  else
    [attr (head ++ c.name ++ slash :: formatNat c.sampleRate.toNat ++ slash :: itoa c.numChannels)]

def codecMatch (localCodec remote : Codec) : Bool :=
  equalFold localCodec.name remote.name && localCodec.sampleRate == remote.sampleRate &&
    localCodec.numChannels == remote.numChannels

def negotiatedCodec (localCodec remote : Codec) : Codec :=
  { localCodec with payloadType := remote.payloadType }

/-- The formats both sides have, in our order of preference or in the peer's. -/
def commonCodecs (localOrder : Bool) (localCodecs remote : List Codec) : List Codec :=
  if localOrder then
    localCodecs.filterMap fun lc => (remote.find? (codecMatch lc)).map (negotiatedCodec lc)
  else
    remote.filterMap fun rc =>
      (localCodecs.find? (codecMatch · rc)).map (negotiatedCodec · rc)

theorem commonCodecs_name {localOrder : Bool} {localCodecs remote : List Codec} :
    ∀ c ∈ commonCodecs localOrder localCodecs remote, ∃ lc ∈ localCodecs, c.name = lc.name := by
  intro c hc
  unfold commonCodecs at hc
  split at hc
  · obtain ⟨lc, hlc, hmap⟩ := List.mem_filterMap.mp hc
    obtain ⟨rc, -, rfl⟩ := Option.map_eq_some_iff.mp hmap
    exact ⟨lc, hlc, rfl⟩
  · obtain ⟨rc, -, hmap⟩ := List.mem_filterMap.mp hc
    obtain ⟨lc, hlc, rfl⟩ := Option.map_eq_some_iff.mp hmap
    exact ⟨lc, List.mem_of_find?_eq_some hlc, rfl⟩

end Fold
end Diago.Media
