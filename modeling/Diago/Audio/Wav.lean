import Diago.Audio.Playback
import Diago.Lib.File
import Diago.Lib.Run
import Mathlib.Data.UInt

/-! # Writing WAV files

A WAV file is a header of 44 bytes, which has the size of the data in two places,
and the data. One encoder writes it whole. The other one streams: its header
comes before the first data with whatever size is known then, and is written
again over the first one when the writer is closed.
-/
namespace Diago.Audio
open Lib Media

structure WavWriteOpts where
  sampleRate : ℤ
  bitDepth : ℤ
  numChans : ℤ
  audioFormat : ℤ

/-- Little endian, of an integer cut to 16 bits. -/
def putUint16 (x : ℤ) : Bytes :=
  let v := UInt16.ofInt x
  [v.toUInt8, (v >>> 8).toUInt8]

def putUint32 (x : ℤ) : Bytes :=
  let v := UInt32.ofInt x
  [v.toUInt8, (v >>> 8).toUInt8, (v >>> 16).toUInt8, (v >>> 24).toUInt8]

def headerSize : ℤ := 44
def fmtChunkSize : ℤ := 16

def wavHeader (opts : WavWriteOpts) (dataSize : ℤ) : Bytes :=
  let byteRate := (wrap64 (wrap64 (opts.sampleRate * opts.bitDepth) * opts.numChans)).tdiv 8
  let blockAlign := (wrap64 (opts.bitDepth * opts.numChans)).tdiv 8
  lit "RIFF" ++ putUint32 (dataSize + headerSize - 8) ++ lit "WAVE" ++
    (lit "fmt " ++ putUint32 fmtChunkSize ++ putUint16 opts.audioFormat ++
      putUint16 opts.numChans ++ putUint32 opts.sampleRate ++ putUint32 byteRate ++
      putUint16 blockAlign ++ putUint16 opts.bitDepth) ++
    (lit "data" ++ putUint32 dataSize)

theorem length_wavHeader (opts : WavWriteOpts) (dataSize : ℤ) :
    (wavHeader opts dataSize).length = 44 := rfl

/-- Where bytes are written: how many were taken, and the error that stopped it. -/
structure WriteSeeker (σ : Type) where
  write : Bytes → σ → (ℕ × Option IOErr) × σ
  seek : ℕ → σ → Option IOErr × σ

def fileWriter : WriteSeeker (File UInt8) where
  write b f := ((b.length, none), f.write b)
  seek offset f := (none, f.seek offset)

section Encoders

variable {σ : Type}

/-- The loop of the encoder: the whole file is handed over until as many bytes as it has were
taken; none when that did not happen within the given number of writes. -/
def writeWhole (write : Bytes → σ → (ℕ × Option IOErr) × σ) (wavFile : Bytes) :
    (fuel taken : ℕ) → σ → Option ((ℕ × Option IOErr) × σ)
  | 0, taken, w => if wavFile.length ≤ taken then some ((wavFile.length, none), w) else none
  | fuel + 1, taken, w =>
    if wavFile.length ≤ taken then some ((wavFile.length, none), w)
    else
      match write wavFile w with
      | ((_, some err), w) => some ((0, some err), w)
      | ((n, none), w) => writeWhole write wavFile fuel (taken + n) w

theorem writeWhole_of_le (write : Bytes → σ → (ℕ × Option IOErr) × σ) {wavFile : Bytes}
    {taken : ℕ} (h : wavFile.length ≤ taken) (fuel : ℕ) (w : σ) :
    writeWhole write wavFile fuel taken w = some ((wavFile.length, none), w) := by
  cases fuel <;> rw [writeWhole, if_pos h]

def wavWrite (write : Bytes → σ → (ℕ × Option IOErr) × σ) (fuel : ℕ) (audio : Bytes)
    (opts : WavWriteOpts) (w : σ) : Option ((ℕ × Option IOErr) × σ) :=
  writeWhole write (wavHeader opts audio.length ++ audio) fuel 0 w

structure WavWriter (σ : Type) where
  opts : WavWriteOpts
  w : σ
  headersWritten : Bool := false
  dataSize : ℤ := 0

/-- 16-bit stereo PCM, unless the fields are set to something else. -/
def newWavWriter (w : σ) : WavWriter σ := { opts := ⟨8000, 16, 2, 1⟩, w }

namespace WavWriter

variable (W : WriteSeeker σ)

def writeHeader (ww : WavWriter σ) : (ℕ × Option IOErr) × WavWriter σ :=
  let r := W.write (wavHeader ww.opts ww.dataSize) ww.w
  (r.1, { ww with w := r.2 })

def writeData (ww : WavWriter σ) (audio : Bytes) : (ℕ × Option IOErr) × WavWriter σ :=
  if ww.headersWritten = true then
    let r := W.write audio ww.w
    (r.1, { ww with w := r.2 })
  else
    match ww.writeHeader W with
    | ((_, some err), ww) => ((0, some err), ww)
    | ((_, none), ww) =>
      let r := W.write audio ww.w
      (r.1, { ww with headersWritten := true, w := r.2 })

def write (ww : WavWriter σ) (audio : Bytes) : (ℕ × Option IOErr) × WavWriter σ :=
  let r := ww.writeData W audio
  (r.1, { r.2 with dataSize := r.2.dataSize + r.1.1 })

def close (ww : WavWriter σ) : Option IOErr × WavWriter σ :=
  match W.seek 0 ww.w with
  | (some err, w) => (some err, { ww with w := w })
  | (none, w) =>
    let r := { ww with w := w }.writeHeader W
    (r.1.2, r.2)

end WavWriter

end Encoders

abbrev WavWriter.writeAll (ww : WavWriter (File UInt8)) (chunks : List Bytes) :
    WavWriter (File UInt8) :=
  runFrom (fun ww chunk => (ww.write fileWriter chunk).2) ww chunks

/-- A writer on a file of its own that was given `data` so far: before the first chunk the file
is empty, and then a header stands before the data that is not filled in yet. -/
inductive Streaming (opts : WavWriteOpts) : Bytes → WavWriter (File UInt8) → Prop
  | fresh : Streaming opts [] { newWavWriter {} with opts }
  | started (data : Bytes) : Streaming opts data
      { opts, w := ⟨wavHeader opts 0 ++ data, (wavHeader opts 0 ++ data).length⟩
        headersWritten := true, dataSize := data.length }

section Streaming

variable {opts : WavWriteOpts} {data : Bytes} {ww : WavWriter (File UInt8)}

theorem Streaming.write (h : Streaming opts data ww) (chunk : Bytes) :
    Streaming opts (data ++ chunk) (ww.write fileWriter chunk).2 := by
  have hstarted := @Streaming.started opts (data ++ chunk)
  cases h with
  | fresh =>
    simpa [WavWriter.write, WavWriter.writeData, WavWriter.writeHeader, newWavWriter, fileWriter,
      File.write_at_end] using hstarted
  | started =>
    simpa [WavWriter.write, WavWriter.writeData, fileWriter, File.write_at_end] using hstarted

theorem Streaming.writeAll (h : Streaming opts data ww) (chunks : List Bytes) :
    Streaming opts (data ++ chunks.flatten) (ww.writeAll chunks) := by
  induction chunks generalizing data ww with
  | nil =>
    rw [List.flatten_nil, List.append_nil]
    exact h
  | cons chunk chunks ih =>
    rw [List.flatten_cons, ← List.append_assoc]
    exact ih (h.write chunk)

theorem Streaming.close (h : Streaming opts data ww) :
    (ww.close fileWriter).1 = none ∧
      (ww.close fileWriter).2.w.content = wavHeader opts data.length ++ data := by
  cases h with
  | fresh =>
    refine ⟨rfl, ?_⟩
    simp [WavWriter.close, WavWriter.writeHeader, newWavWriter, fileWriter, File.seek,
      File.write_at_end]
  | started =>
    refine ⟨rfl, File.write_at_start _ _ _ ?_ _⟩
    rw [length_wavHeader, length_wavHeader]

end Streaming

theorem wavWrite_fresh (fuel : ℕ) (audio : Bytes) (opts : WavWriteOpts) :
    ∃ f, wavWrite fileWriter.write (fuel + 1) audio opts {} =
        some (((wavHeader opts audio.length ++ audio).length, none), f) ∧
      f.content = wavHeader opts audio.length ++ audio := by
  have hpos : ¬ (wavHeader opts audio.length ++ audio).length ≤ 0 := by
    rw [List.length_append, length_wavHeader]
    omega
  refine ⟨File.write {} (wavHeader opts audio.length ++ audio), ?_, ?_⟩
  · rw [wavWrite, writeWhole, if_neg hpos]
    exact writeWhole_of_le _ (by omega) _ _
  · rw [File.write_at_end rfl]
    rfl

/-- Streaming chunks and closing leaves in the file what the encoder writes for all of them
at once, whatever the chunks are. -/
theorem streamed_wav_eq_whole (opts : WavWriteOpts) (chunks : List Bytes) (fuel : ℕ) :
    let ww : WavWriter (File UInt8) := WavWriter.writeAll { newWavWriter {} with opts } chunks
    (ww.close fileWriter).1 = none ∧
      ∃ f, wavWrite fileWriter.write (fuel + 1) chunks.flatten opts {} =
          some ((44 + chunks.flatten.length, none), f) ∧
        (ww.close fileWriter).2.w.content = f.content := by
  intro ww
  have hstreaming : Streaming opts chunks.flatten ww := Streaming.fresh.writeAll chunks
  obtain ⟨f, hwhole, hcontent⟩ := wavWrite_fresh fuel chunks.flatten opts
  obtain ⟨hclose, hfile⟩ := hstreaming.close
  rw [List.length_append, length_wavHeader] at hwhole
  exact ⟨hclose, f, hwhole, hfile.trans hcontent.symm⟩

end Diago.Audio
