import Diago.Lib.Chunks
import Diago.Lib.Machine
import Diago.Media.Wire

/-! # Playing audio

A stream of PCM is read into a buffer of one codec frame; whatever one read returned
is encoded and handed to the RTP writer as one frame.
-/
namespace Diago.Audio
open Lib Media

inductive IOErr where
  | eof
  | shortBuffer
  | shortWrite
  deriving DecidableEq

/-- The encoders of a sample, and of Opus into a buffer of the given length. -/
class CodecLib where
  encodeUlawFrame : UInt16 → UInt8
  encodeAlawFrame : UInt16 → UInt8
  opusEncoder : Codec → Option (ℕ → Bytes → Except IOErr Bytes)

def playbackBufferSize : ℕ := 3840

/-- What successive reads of a reader return. -/
abbrev Script := List (Bytes × Option IOErr)

/-- The loop of a copy, with what was written so far. Bytes that come with an error are not
written. -/
def copyWithBuf {σ : Type} (write : Bytes → σ → (ℕ × Option IOErr) × σ) :
    Script → ℕ → σ → (ℕ × IOErr) × σ
  | [], totalWritten, w => ((totalWritten, .eof), w)
  | (_, some err) :: _, totalWritten, w => ((totalWritten, err), w)
  | (payload, none) :: reads, totalWritten, w =>
    match write payload w with
    | ((_, some err), w) => ((totalWritten, err), w)
    | ((nn, none), w) =>
      if payload.length < nn then ((totalWritten + nn, .shortWrite), w)
      else copyWithBuf write reads (totalWritten + nn) w

/-- The length of the playback buffer cut to a size; a size past it panics. -/
def payloadBuf (payloadSize : ℤ) : Option ℕ :=
  if 0 ≤ payloadSize ∧ payloadSize ≤ playbackBufferSize then some payloadSize.toNat else none

section Streams

variable [UnicodeCase] [CodecLib]

def codecIs (codec want : Codec) : Bool := equalFold codec.name want.name

end Streams

/-- A reader of `pcm`: for a buffer of each size, the reads it answers and the bytes it returns
together with the end of the stream. -/
structure Reader (pcm : Bytes) where
  reads : ℕ → List Bytes
  atEnd : ℕ → Bytes
  positive : ∀ size, ∀ r ∈ reads size, r ≠ []
  fits : ∀ size, ∀ r ∈ reads size, r.length ≤ size
  fitsEnd : ∀ size, (atEnd size).length ≤ size
  delivers : ∀ size, 0 < size → (reads size).flatten ++ atEnd size = pcm

def Reader.script {pcm : Bytes} (r : Reader pcm) (size : ℕ) : Script :=
  (r.reads size).map (·, none) ++ [(r.atEnd size, some .eof)]

section Framing

variable [UnicodeCase] [CodecLib] (codec : Codec)

variable {codec}

end Framing

section Sample

attribute [local instance] asciiOnly

/-- Encoders that keep the high byte of a sample. -/
local instance highBytes : CodecLib where
  encodeUlawFrame sample := (sample >>> 8).toUInt8
  encodeAlawFrame sample := (sample >>> 8).toUInt8
  opusEncoder _ := none

end Sample

end Diago.Audio
