import Diago.Audio.Playback
import Diago.Bridge.Concurrency
import Diago.Media.Frames

/-! # The streams of a mix

A dialog is mixed when its audio has the sample rate and the frame duration of the mix
and there are coders for it.
-/
namespace Diago.Audio
open Lib Media

inductive CoderInit where
  | ok
  | failed
  | panicked
  deriving DecidableEq

/-- The Opus library: whether it creates a coder for a sample rate and a number of channels. -/
structure OpusLib where
  decoderInit : ℤ → ℤ → Bool
  encoderInit : ℤ → ℤ → Bool

/-- The Opus coders, which are placeholders that fail unless the library is built in. Their sample
buffers are made before the library is asked. -/
def opusCoderInit (create : Option (ℤ → ℤ → Bool)) (sampleRate numChannels samplesSize : ℤ) :
    CoderInit :=
  match create with
  | none => .failed
  | some create =>
    if samplesSize < 0 then .panicked
    else if create sampleRate numChannels = true then .ok else .failed

section Coders

variable [UnicodeCase]

def coderInit (create : Option (ℤ → ℤ → Bool)) (codec : Codec) : CoderInit :=
  if codecIs codec codecAudioUlaw = true then .ok
  else if codecIs codec codecAudioAlaw = true then .ok
  else if codecIs codec codecAudioOpus = true then
    opusCoderInit create codec.sampleRate.toNat codec.numChannels (codec.samples16 floatCount)
  else .failed

def pcmDecoderInit (opus : Option OpusLib) : Codec → CoderInit :=
  coderInit (opus.map OpusLib.decoderInit)

def pcmEncoderInit (opus : Option OpusLib) : Codec → CoderInit :=
  coderInit (opus.map OpusLib.encoderInit)

end Coders

end Diago.Audio

namespace Diago.Bridge
open Lib Media Audio

theorem wrap64_frame_eq_iff {s n n' : ℤ} :
    wrap64 (2 * s * n) = wrap64 (2 * s * n') ↔ 2 ^ 63 ∣ s * (n - n') := by
  have hdiff : 2 * s * n - 2 * s * n' = 2 * (s * (n - n')) := by ring
  unfold wrap64
  omega

section Streams

variable {Dialog : Type} [UnicodeCase]

/-- The coders the dialogs get are those of their codecs, in a build with or without Opus. -/
def Env.Coded (env : Env Dialog) (opus : Option OpusLib) : Prop :=
  ∀ d codec, env.audioReaderWriterProps d = some codec →
    (env.initCoders d = true ↔
      pcmDecoderInit opus codec = .ok ∧ pcmEncoderInit opus codec = .ok)

/-- A codec that the coders of the build have and that has the audio of the mix. -/
structure Mixable (opus : Option OpusLib) (mixCodec codec : Codec) : Prop where
  sampleRate : codec.sampleRate = mixCodec.sampleRate
  sampleDur : codec.sampleDur = mixCodec.sampleDur
  decoder : pcmDecoderInit opus codec = .ok
  encoder : pcmEncoderInit opus codec = .ok

/-- The streams the dialogs are mixed with have frames that fit the buffers, all of one size. -/
structure StreamsFit (env : Env Dialog) (mixCodec : Codec) (dialogs : List Dialog) : Prop where
  fits : ∀ d ∈ dialogs, ∀ codec, addDialogStream env mixCodec d = .ok codec →
    codec.samples16 floatCount ≤ rtpBufSize
  same : ∀ d ∈ dialogs, ∀ codec, addDialogStream env mixCodec d = .ok codec →
    ∀ e ∈ dialogs, ∀ codec', addDialogStream env mixCodec e = .ok codec' →
      codec.samples16 floatCount = codec'.samples16 floatCount

variable {env : Env Dialog} {opus : Option OpusLib} {mixCodec : Codec}

theorem addDialogStream_eq_ok (hcoded : env.Coded opus) {d : Dialog} {codec : Codec} :
    addDialogStream env mixCodec d = .ok codec ↔
      env.audioReaderWriterProps d = some codec ∧ Mixable opus mixCodec codec := by
  unfold addDialogStream
  cases hprops : env.audioReaderWriterProps d with
  | none => simp
  | some c =>
    have hinit := hcoded d c hprops
    dsimp only
    split_ifs with hsame hcoders
    · obtain ⟨hdecoder, hencoder⟩ := hinit.mp hcoders
      simp only [bridgeSameAudio, Bool.and_eq_true, decide_eq_true_eq] at hsame
      constructor
      · rintro ⟨⟩
        exact ⟨rfl, hsame.1, hsame.2, hdecoder, hencoder⟩
      · rintro ⟨⟨⟩, -⟩
        rfl
    · refine ⟨nofun, ?_⟩
      rintro ⟨⟨⟩, h⟩
      exact absurd (hinit.mpr ⟨h.decoder, h.encoder⟩) hcoders
    · refine ⟨nofun, ?_⟩
      rintro ⟨⟨⟩, h⟩
      simp [bridgeSameAudio, h.sampleRate, h.sampleDur] at hsame

def frameSamples (mixCodec : Codec) : ℤ :=
  truncate (floatCount mixCodec.sampleDur mixCodec.sampleRate)

theorem Mixable.samples16 {codec : Codec} (h : Mixable opus mixCodec codec) :
    codec.samples16 floatCount = wrap64 (2 * frameSamples mixCodec * codec.numChannels) := by
  rw [Codec.samples16, h.sampleRate, h.sampleDur, frameSamples]

/-- A codec that one of the dialogs is mixed with. -/
def Accepted (env : Env Dialog) (opus : Option OpusLib) (mixCodec : Codec) (dialogs : List Dialog)
    (codec : Codec) : Prop :=
  ∃ d ∈ dialogs, env.audioReaderWriterProps d = some codec ∧ Mixable opus mixCodec codec

/-- The streams of a mix fit it exactly when the frames of each number of channels do, and the
numbers of channels make no difference. -/
theorem mix_streams_fit_iff (hcoded : env.Coded opus) (mixCodec : Codec) (dialogs : List Dialog) :
    StreamsFit env mixCodec dialogs ↔
      (∀ codec, Accepted env opus mixCodec dialogs codec →
        wrap64 (2 * frameSamples mixCodec * codec.numChannels) ≤ rtpBufSize) ∧
      ∀ codec codec', Accepted env opus mixCodec dialogs codec →
        Accepted env opus mixCodec dialogs codec' →
        2 ^ 63 ∣ frameSamples mixCodec * (codec.numChannels - codec'.numChannels) := by
  constructor
  · rintro ⟨hfits, hsame⟩
    constructor
    · rintro codec ⟨d, hd, hprops, hmix⟩
      rw [← hmix.samples16]
      exact hfits d hd codec ((addDialogStream_eq_ok hcoded).mpr ⟨hprops, hmix⟩)
    · rintro codec codec' ⟨d, hd, hprops, hmix⟩ ⟨e, he, hprops', hmix'⟩
      rw [← wrap64_frame_eq_iff, ← hmix.samples16, ← hmix'.samples16]
      exact hsame d hd codec ((addDialogStream_eq_ok hcoded).mpr ⟨hprops, hmix⟩) e he codec'
        ((addDialogStream_eq_ok hcoded).mpr ⟨hprops', hmix'⟩)
  · rintro ⟨hfits, hsame⟩
    constructor
    · intro d hd codec hok
      obtain ⟨hprops, hmix⟩ := (addDialogStream_eq_ok hcoded).mp hok
      rw [hmix.samples16]
      exact hfits codec ⟨d, hd, hprops, hmix⟩
    · intro d hd codec hok e he codec' hok'
      obtain ⟨hprops, hmix⟩ := (addDialogStream_eq_ok hcoded).mp hok
      obtain ⟨hprops', hmix'⟩ := (addDialogStream_eq_ok hcoded).mp hok'
      rw [hmix.samples16, hmix'.samples16, wrap64_frame_eq_iff]
      exact hsame codec codec' ⟨d, hd, hprops, hmix⟩ ⟨e, he, hprops', hmix'⟩

end Streams

section Sample

attribute [local instance] asciiOnly

def codecDialogs (opus : Option OpusLib) : Env Codec where
  answered _ := true
  hasMedia _ := true
  audioReaderProps := id
  audioReaderWriterProps := some
  initCoders codec := pcmDecoderInit opus codec = .ok ∧ pcmEncoderInit opus codec = .ok
  stopRTP _ := .done
  startRTP _ := .done

theorem codecDialogs_coded (opus : Option OpusLib) : (codecDialogs opus).Coded opus := by
  rintro d codec ⟨⟩
  simp [codecDialogs]

theorem frameSamples_ulaw : frameSamples codecAudioUlaw = 160 := by decide +kernel

/-- The two G.711 codecs are mixed. -/
theorem g711_streams_fit :
    StreamsFit (codecDialogs none) codecAudioUlaw [codecAudioUlaw, codecAudioAlaw] := by
  refine (mix_streams_fit_iff (codecDialogs_coded none) codecAudioUlaw _).mpr ⟨?_, ?_⟩
  · rintro codec ⟨d, hd, ⟨⟩, -⟩
    rw [frameSamples_ulaw]
    fin_cases hd <;> decide
  · rintro codec codec' ⟨d, hd, ⟨⟩, -⟩ ⟨e, he, ⟨⟩, -⟩
    rw [frameSamples_ulaw]
    fin_cases hd <;> fin_cases he <;> decide

def everyOpus : OpusLib := ⟨fun _ _ => true, fun _ _ => true⟩

/-- A stereo stream is accepted beside a mono one, and Opus into buffers its frames do not fit. -/
theorem channels_break_mix :
    ¬ StreamsFit (codecDialogs none) codecAudioUlaw
        [codecAudioUlaw, { codecAudioUlaw with numChannels := 2 }] ∧
      ¬ StreamsFit (codecDialogs (some everyOpus)) codecAudioOpus [codecAudioOpus] := by
  constructor
  · rintro ⟨-, hsame⟩
    have heq := hsame codecAudioUlaw (by simp) codecAudioUlaw (by decide +kernel)
      { codecAudioUlaw with numChannels := 2 } (by simp) { codecAudioUlaw with numChannels := 2 }
      (by decide +kernel)
    exact absurd heq (by decide +kernel)
  · rintro ⟨hfits, -⟩
    have hle := hfits codecAudioOpus (by simp) codecAudioOpus (by decide +kernel)
    exact absurd hle (by decide +kernel)

end Sample

end Diago.Bridge
