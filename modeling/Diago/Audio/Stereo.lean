import Diago.Audio.Playback
import Diago.Lib.File
import Diago.Lib.Interleave
import Mathlib.Data.UInt

/-! # Interleaving the two sides of a recording

The two directions of a call are recorded into files of their own.
-/
namespace Diago.Audio
open Lib Media

/-- Errors of a read that is to fill its buffer. -/
inductive FullErr where
  | eof
  | unexpectedEOF
  | other
  deriving DecidableEq

/-- Where bytes are read from: what a read that is to fill `n` bytes returns. -/
structure ReadSeeker (φ : Type) where
  readFull : ℕ → φ → (Bytes × Option FullErr) × φ
  seek : ℕ → φ → Option IOErr × φ

def fileReader : ReadSeeker (File UInt8) where
  readFull n f :=
    let r := f.readFull n
    ((r.1, if r.1.length = n then none else if r.1 = [] then some .eof else some .unexpectedEOF),
      r.2)
  seek offset f := (none, f.seek offset)

inductive StereoErr where
  | seek (err : IOErr)
  | read (err : FullErr)
  | write (err : IOErr)
  deriving DecidableEq

inductive LoopEnd where
  | returned (err : Option StereoErr)
  | panicked
  | running
  deriving DecidableEq

/-- Clears the bytes from `i` up to `j`. -/
def clearFrom (i j : ℕ) (buf : Bytes) : Bytes :=
  buf.take i ++ List.replicate (j - i) 0 ++ buf.drop (max i j)

/-- Copies a sample of each buffer in turn, for those that begin before `n`; none when one is past
the end of its buffer. -/
def copySamples : ℕ → Bytes → Bytes → Option Bytes
  | 0, _, _ => some []
  | n + 1, l₀ :: l₁ :: l, r₀ :: r₁ :: r =>
    (copySamples (n - 1) l r).map ([l₀, l₁, r₀, r₁] ++ ·)
  | _ + 1, _, _ => none

section Loop

variable {φ σ : Type} (R : ReadSeeker φ) (write : Bytes → σ → (ℕ × Option IOErr) × σ)

/-- The loop, for at most `fuel` blocks of the size of the buffers. -/
def interleaveLoop (size : ℕ) : (fuel : ℕ) → (readBuf1 readBuf2 : Bytes) → φ → φ → σ → LoopEnd × σ
  | 0, _, _, _, _, recording => (.running, recording)
  | fuel + 1, readBuf1, readBuf2, fr, fw, recording =>
    let ((data1, err1), fr) := R.readFull size fr
    let ((data2, err2), fw) := R.readFull size fw
    let n := max data1.length data2.length
    if (err1 ≠ none ∨ err2 ≠ none) ∧ n = 0 then
      if err1 ≠ some .eof then (.returned (err1.map .read), recording)
      else if err2 ≠ some .eof then (.returned (err2.map .read), recording)
      else (.returned none, recording)
    else
      let readBuf1 := clearFrom data1.length n (data1 ++ readBuf1.drop data1.length)
      let readBuf2 := clearFrom data2.length n (data2 ++ readBuf2.drop data2.length)
      match copySamples n readBuf1 readBuf2 with
      | none => (.panicked, recording)
      | some stereo =>
        match write stereo recording with
        | ((_, some err), recording) => (.returned (some (.write err)), recording)
        | ((_, none), recording) =>
          interleaveLoop size fuel readBuf1 readBuf2 fr fw recording

def interleave (recordingFlushSize fuel : ℕ) (fr fw : φ) (recording : σ) : LoopEnd × σ :=
  match R.seek 0 fr with
  | (some err, _) => (.returned (some (.seek err)), recording)
  | (none, fr) =>
    match R.seek 0 fw with
    | (some err, _) => (.returned (some (.seek err)), recording)
    | (none, fw) =>
      let size := recordingFlushSize / 2
      interleaveLoop R write size fuel (List.replicate size 0) (List.replicate size 0) fr fw
        recording

end Loop

def appendWrite (b recording : Bytes) : (ℕ × Option IOErr) × Bytes :=
  ((b.length, none), recording ++ b)

/-- The recording of two sides: their samples in turn, the shorter side extended with silence. -/
def stereo (left right : Bytes) : Bytes :=
  alternatePairs (padTo (max left.length right.length) left)
    (padTo (max left.length right.length) right)

/-- Whatever a buffer held, clearing it past the data leaves the data extended with silence in
front of it. -/
theorem clearFrom_eq {data buf : Bytes} {n : ℕ} (h : data.length ≤ n) :
    clearFrom data.length n (data ++ buf.drop data.length) = padTo n data ++ buf.drop n := by
  rw [clearFrom, max_eq_right h, List.take_left, List.drop_append, List.drop_drop,
    List.drop_of_length_le h, List.nil_append, padTo, Nat.add_sub_cancel' h]

theorem exists_two_cons {n : ℕ} {l : Bytes} (h : l.length = n + 2) :
    ∃ a b t, l = a :: b :: t := by
  obtain ⟨a, m, rfl⟩ := List.exists_cons_of_length_eq_add_one h
  obtain ⟨b, t, rfl⟩ := List.exists_cons_of_length_eq_add_one (Nat.succ.inj h)
  exact ⟨a, b, t, rfl⟩

theorem copySamples_append {n : ℕ} {l r : Bytes} (hl : l.length = n) (hr : r.length = n)
    (heven : Even n) (l' r' : Bytes) :
    copySamples n (l ++ l') (r ++ r') = some (alternatePairs l r) := by
  induction n using Nat.twoStepInduction generalizing l r with
  | zero => simp [List.length_eq_zero_iff.mp hl, copySamples, alternatePairs]
  | one => simp at heven
  | more n ih _ =>
    obtain ⟨l₀, l₁, l, rfl⟩ := exists_two_cons hl
    obtain ⟨r₀, r₁, r, rfl⟩ := exists_two_cons hr
    have hrest := ih (by simpa using hl) (by simpa using hr) (by simpa [Nat.even_add] using heven)
    simp only [List.cons_append, copySamples, Nat.add_sub_cancel, hrest, Option.map_some,
      alternatePairs, List.nil_append]

theorem fileReader_end {size : ℕ} (hsize : 0 < size) {f : File UInt8} (h : f.rest = []) :
    (fileReader.readFull size f).1 = ([], some .eof) := by
  have hdata : (f.readFull size).1 = [] := by rw [File.readFull_fst, h, List.take_nil]
  simp [fileReader, hdata, hsize.ne]

theorem max_length_take (size : ℕ) (l r : Bytes) :
    max (l.take size).length (r.take size).length = min size (max l.length r.length) := by
  rw [List.length_take, List.length_take, min_max_distrib_left]

theorem even_max_length_take {size : ℕ} (hsize : Even size) {l r : Bytes} (hl : Even l.length)
    (hr : Even r.length) : Even (max (l.take size).length (r.take size).length) := by
  rw [max_length_take]
  obtain h | h := min_choice size (max l.length r.length)
  · rwa [h]
  · obtain h' | h' := max_choice l.length r.length <;> rwa [h, h']

theorem stereo_block {size : ℕ} (hsize : Even size) {l r : Bytes} (hl : Even l.length)
    (hr : Even r.length) :
    stereo l r = alternatePairs
        (padTo (max (l.take size).length (r.take size).length) (l.take size))
        (padTo (max (l.take size).length (r.take size).length) (r.take size)) ++
      stereo (l.drop size) (r.drop size) := by
  have heven := even_max_length_take hsize hl hr
  rw [max_length_take] at heven ⊢
  rw [stereo, stereo, alternatePairs_padTo (le_max_left _ _) (le_max_right _ _) heven,
    List.length_drop, List.length_drop, Nat.sub_max_sub_right]

theorem copySamples_block {size : ℕ} (hsize : Even size) {l r : Bytes} (hl : Even l.length)
    (hr : Even r.length) (buf1 buf2 : Bytes) :
    let n := max (l.take size).length (r.take size).length
    copySamples n
        (clearFrom (l.take size).length n (l.take size ++ buf1.drop (l.take size).length))
        (clearFrom (r.take size).length n (r.take size ++ buf2.drop (r.take size).length)) =
      some (alternatePairs (padTo n (l.take size)) (padTo n (r.take size))) := by
  intro n
  rw [clearFrom_eq (le_max_left _ _), clearFrom_eq (le_max_right _ _)]
  exact copySamples_append (length_padTo (le_max_left _ _)) (length_padTo (le_max_right _ _))
    (even_max_length_take hsize hl hr) _ _

/-- The loop writes the rest of both files in turn, and ends. -/
theorem interleaveLoop_eq {size : ℕ} (hsize : 0 < size) (heven : Even size) {fuel : ℕ}
    {fr fw : File UInt8} (hfr : Even fr.rest.length) (hfw : Even fw.rest.length)
    (hfuel : max fr.rest.length fw.rest.length < fuel) (buf1 buf2 recording : Bytes) :
    interleaveLoop fileReader appendWrite size fuel buf1 buf2 fr fw recording =
      (.returned none, recording ++ stereo fr.rest fw.rest) := by
  induction fuel generalizing fr fw buf1 buf2 recording with
  | zero => omega
  | succ fuel ih =>
    by_cases hend : fr.rest = [] ∧ fw.rest = []
    · have h1 := fileReader_end hsize hend.1
      have h2 := fileReader_end hsize hend.2
      simp [interleaveLoop, h1, h2, hend, stereo, padTo, alternatePairs]
    have hlonger : 0 < max fr.rest.length fw.rest.length := by
      rw [← List.length_eq_zero_iff, ← List.length_eq_zero_iff] at hend
      omega
    have hblock : max (fr.rest.take size).length (fw.rest.take size).length ≠ 0 := by
      rw [max_length_take]
      omega
    have hrest1 : (fileReader.readFull size fr).2.rest = fr.rest.drop size :=
      File.rest_readFull fr size
    have hrest2 : (fileReader.readFull size fw).2.rest = fw.rest.drop size :=
      File.rest_readFull fw size
    have hnext := @ih (fileReader.readFull size fr).2 (fileReader.readFull size fw).2
      (by rw [hrest1, List.length_drop]; exact hfr.tsub heven)
      (by rw [hrest2, List.length_drop]; exact hfw.tsub heven)
      (by rw [hrest1, hrest2, List.length_drop, List.length_drop]; omega)
    rw [hrest1, hrest2] at hnext
    have hdata1 : (fileReader.readFull size fr).1.1 = fr.rest.take size := rfl
    have hdata2 : (fileReader.readFull size fw).1.1 = fw.rest.take size := rfl
    rw [stereo_block heven hfr hfw, ← List.append_assoc]
    simp only [interleaveLoop, hdata1, hdata2, hblock, and_false, if_false,
      copySamples_block heven hfr hfw, appendWrite]
    exact hnext _ _ _

/-- The recording of two files is their samples in turn, whatever the size of the blocks. -/
theorem interleave_eq_stereo {recordingFlushSize : ℕ} (hpos : 0 < recordingFlushSize)
    (hfour : 4 ∣ recordingFlushSize) {fr fw : File UInt8} (hfr : Even fr.content.length)
    (hfw : Even fw.content.length) {fuel : ℕ}
    (hfuel : max fr.content.length fw.content.length < fuel) (recording : Bytes) :
    interleave fileReader appendWrite recordingFlushSize fuel fr fw recording =
        (.returned none, recording ++ stereo fr.content fw.content) ∧
      (stereo fr.content fw.content).length = 2 * max fr.content.length fw.content.length := by
  obtain ⟨k, rfl⟩ := hfour
  have hsize : 4 * k / 2 = 2 * k := by omega
  constructor
  · change interleaveLoop fileReader appendWrite (4 * k / 2) fuel _ _ (fr.seek 0) (fw.seek 0)
      recording = _
    rw [hsize]
    refine interleaveLoop_eq (by omega) (even_two_mul k) ?_ ?_ ?_ _ _ _
    · exact hfr
    · exact hfw
    · exact hfuel
  · have hlength : Even (max fr.content.length fw.content.length) := by
      obtain h | h := max_choice fr.content.length fw.content.length <;> rwa [h]
    have hleft := length_padTo (le_max_left fr.content.length fw.content.length)
    have hright := length_padTo (le_max_right fr.content.length fw.content.length)
    rw [stereo, length_alternatePairs (hleft.trans hright.symm) (by rwa [hleft]), hleft]

/-- One block of each file and an end that only one of them reaches. -/
theorem two_sides_interleaved :
    interleave fileReader appendWrite 4 7 ⟨[1, 2, 3, 4, 5, 6], 3⟩ ⟨[7, 8], 0⟩ [] =
      (.returned none, [1, 2, 7, 8, 3, 4, 0, 0, 5, 6, 0, 0]) :=
  (interleave_eq_stereo (by decide) (by decide) (by decide) (by decide) (by decide) []).1

end Diago.Audio
