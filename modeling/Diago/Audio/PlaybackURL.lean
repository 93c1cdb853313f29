import Diago.Audio.Playback
import Diago.Lib.Numeral
import Diago.Lib.Spans
import Diago.Media.Frames

/-! # Playing audio from a URL

A file is fetched in ranges. The first request asks for as many whole frames as
the configured range size holds, and tells how large the file is; the others ask
for twice as much each, up to the size of the file.
-/
namespace Diago.Audio
open Lib Media

structure Response where
  status : ℕ
  /-- The media type of the content, if one could be parsed. -/
  mimeType : Option Bytes
  contentRange : Bytes
  contentLength : ℤ
  /-- None when reading it failed. -/
  body : Option Bytes

/-- The answers to the requests, by their number and the range they ask for, and whether the
pipe takes what is written for each. -/
structure HttpEnv where
  respond : ℕ → Span → Option Response
  accepts : ℕ → Bool

inductive UrlErr where
  | request
  | nonOK (code : ℕ)
  | noMediaType
  | contentType
  | noSize
  | badSize
  | notPartial (code : ℕ)
  | readBody
  | write
  deriving DecidableEq

inductive UrlEnd where
  | returned (err : Option UrlErr)
  | panicked
  | running
  deriving DecidableEq

/-- The ranges requested, what the pipe took, and how fetching ended, if it did. -/
structure Fetched where
  ranges : List Span
  piped : Bytes
  ended : UrlEnd

def Fetched.stop (range : Span) (err : Option UrlErr) : Fetched := ⟨[range], [], .returned err⟩

def Fetched.after (range : Span) (chunk : Bytes) (f : Fetched) : Fetched :=
  ⟨range :: f.ranges, chunk ++ f.piped, f.ended⟩

def wavTypes : List Bytes :=
  [lit "audio/wav", lit "audio/x-wav", lit "audio/wav-x", lit "audio/vnd.wave"]

/-- The size that follows the last slash. -/
def contentSize (contentRange : Bytes) : Except UrlErr ℤ :=
  if 0x2F ∉ contentRange then .error .noSize
  else
    match atoi (contentRange.reverse.takeWhile (· ≠ 0x2F)).reverse with
    | (_, some _) => .error .badSize
    | (maxSize, none) => if maxSize ≤ 0 then .error .badSize else .ok maxSize

section Fetch

variable (env : HttpEnv)

def pipeChunk (k : ℕ) (res : Response) : Except UrlErr Bytes :=
  match res.body with
  | none => .error .readBody
  | some chunk => if env.accepts k = true then .ok chunk else .error .write

def rangeLoop (maxSize offset : ℤ) : (fuel k : ℕ) → (start : ℤ) → Fetched
  | 0, _, _ => ⟨[], [], .running⟩
  | fuel + 1, k, start =>
    if start < maxSize then
      let range : Span := ⟨start, min (wrap64 (start + offset - 1)) maxSize⟩
      match env.respond k range with
      | none => .stop range (some .request)
      | some res =>
        if res.status = 416 ∧ res.contentLength = 0 then .stop range none
        else if res.status ≠ 206 then .stop range (some (.notPartial res.status))
        else
          match pipeChunk env k res with
          | .error err => .stop range (some err)
          | .ok chunk =>
            .after range chunk (rangeLoop maxSize offset fuel (k + 1) (wrap64 (start + offset)))
    else ⟨[], [], .returned none⟩

/-- Writes the first chunk and requests the rest of the file. -/
def httpPartial (fuel : ℕ) (range : Span) (res : Response) (maxSize size : ℤ) : Fetched :=
  match pipeChunk env 0 res with
  | .error err => .stop range (some err)
  | .ok chunk => .after range chunk (rangeLoop env maxSize (wrap64 (size * 2)) fuel 1 size)

/-- The configured size cut to whole frames. -/
def readSize (codec : Codec) (rangeSize : ℤ) : ℤ :=
  rangeSize.tdiv (codec.samples16 floatCount) * codec.samples16 floatCount

def playURL (codec : Codec) (rangeSize : ℤ) (fuel : ℕ) : Fetched :=
  if codec.samples16 floatCount = 0 then ⟨[], [], .panicked⟩
  else
    let range : Span := ⟨0, readSize codec rangeSize - 1⟩
    match env.respond 0 range with
    | none => .stop range (some .request)
    | some res =>
      if res.status ≠ 200 ∧ res.status ≠ 206 then .stop range (some (.nonOK res.status))
      else
        match res.mimeType with
        | none => .stop range (some .noMediaType)
        | some mimeType =>
          if ¬ wavTypes.contains mimeType then .stop range (some .contentType)
          else if res.status = 206 then
            match contentSize res.contentRange with
            | .error err => .stop range (some err)
            | .ok maxSize => httpPartial env fuel range res maxSize (readSize codec rangeSize)
          else
            match res.body with
            | none => .stop range (some .readBody)
            | some samples => ⟨[range], samples, .returned none⟩

end Fetch

def bytesIn (file : Bytes) (range : Span) : Bytes :=
  (file.drop range.first.toNat).take (range.last + 1 - range.first.toNat).toNat

/-- A request for a range that begins in the file is answered with the bytes of it that exist,
and the pipe takes them. -/
structure Serves (env : HttpEnv) (file : Bytes) : Prop where
  answers : ∀ k (range : Span), 0 ≤ range.first → range.first < (file.length : ℤ) →
    range.first ≤ range.last →
    ∃ res, env.respond k range = some res ∧ res.status = 206 ∧
      (∃ mimeType ∈ wavTypes, res.mimeType = some mimeType) ∧
      contentSize res.contentRange = .ok file.length ∧ res.body = some (bytesIn file range)
  accepts : ∀ k, env.accepts k = true

theorem contentSize_lt {contentRange : Bytes} {maxSize : ℤ}
    (h : contentSize contentRange = .ok maxSize) : maxSize < 2 ^ 63 := by
  unfold contentSize at h
  split_ifs at h
  have hrange := atoi_range (contentRange.reverse.takeWhile (· ≠ 0x2F)).reverse
  generalize atoi (contentRange.reverse.takeWhile (· ≠ 0x2F)).reverse = r at h hrange
  obtain ⟨n, _ | err⟩ := r
  · dsimp only at h
    split_ifs at h
    obtain rfl : n = maxSize := by simpa using h
    exact hrange.2
  · cases h

section Loop

variable {env : HttpEnv} {maxSize offset : ℤ}

end Loop

section Served

variable {env : HttpEnv} {file : Bytes} {offset : ℤ}

theorem rangeLoop_served (hserves : Serves env file) (fuel k : ℕ) {start : ℤ} (hstart : 0 ≤ start)
    (hlt : start < file.length) (hrange : start ≤ min (wrap64 (start + offset - 1)) file.length) :
    rangeLoop env file.length offset (fuel + 1) k start =
      .after ⟨start, min (wrap64 (start + offset - 1)) file.length⟩
        (bytesIn file ⟨start, min (wrap64 (start + offset - 1)) file.length⟩)
        (rangeLoop env file.length offset fuel (k + 1) (wrap64 (start + offset))) := by
  obtain ⟨res, hres, hstatus, -, -, hbody⟩ :=
    hserves.answers k ⟨start, min (wrap64 (start + offset - 1)) file.length⟩ hstart hlt hrange
  rw [rangeLoop, if_pos hlt]
  simp only [hres, hstatus, pipeChunk, hbody, hserves.accepts]
  simp

end Served

section Served

variable {env : HttpEnv} {file : Bytes} {codec : Codec} {rangeSize : ℤ}

theorem playURL_served (hserves : Serves env file) (hfile : file ≠ [])
    (hread : 0 < readSize codec rangeSize) (fuel : ℕ) :
    playURL env codec rangeSize fuel =
      .after ⟨0, readSize codec rangeSize - 1⟩
        (bytesIn file ⟨0, readSize codec rangeSize - 1⟩)
        (rangeLoop env file.length (wrap64 (readSize codec rangeSize * 2)) fuel 1
          (readSize codec rangeSize)) := by
  have hframe : codec.samples16 floatCount ≠ 0 := by
    rintro hzero
    simp [readSize, hzero] at hread
  have hlength := List.length_pos_of_ne_nil hfile
  obtain ⟨res, hres, hstatus, ⟨mimeType, hwav, hmime⟩, hmax, hbody⟩ :=
    hserves.answers 0 ⟨0, readSize codec rangeSize - 1⟩ le_rfl (by dsimp only; omega)
      (by dsimp only; omega)
  rw [playURL, if_neg hframe]
  simp only [hres, hstatus, hmime, List.contains_iff_mem.mpr hwav, hmax, httpPartial, pipeChunk,
    hbody, hserves.accepts]
  simp

theorem Serves.length_lt (hserves : Serves env file) (hfile : file ≠ []) :
    (file.length : ℤ) < 2 ^ 63 := by
  have hlength := List.length_pos_of_ne_nil hfile
  obtain ⟨res, -, -, -, hmax, -⟩ :=
    hserves.answers 0 ⟨0, 0⟩ le_rfl (by dsimp only; omega) le_rfl
  exact contentSize_lt hmax

end Served

/-! ### What the player gets

The bytes are all there even when the last range leaves the file: a server has
nothing to send for the byte past its end.
-/

theorem bytesIn_append_drop (file : Bytes) {start offset : ℤ} (hstart : 0 ≤ start)
    (hoffset : 0 < offset) :
    bytesIn file ⟨start, min (start + offset - 1) file.length⟩ ++
      file.drop (start + offset).toNat = file.drop start.toNat := by
  have htake : bytesIn file ⟨start, min (start + offset - 1) file.length⟩ =
      (file.drop start.toNat).take offset.toNat := by
    rw [bytesIn]
    dsimp only
    obtain h | h := le_total (start + offset - 1) file.length
    · rw [min_eq_left h]
      congr 1
      omega
    · rw [min_eq_right h, List.take_of_length_le, List.take_of_length_le]
      · rw [List.length_drop]
        omega
      · rw [List.length_drop]
        omega
  rw [htake, show (start + offset).toNat = start.toNat + offset.toNat by omega, ← List.drop_drop,
    List.take_append_drop]

theorem rangeLoop_delivers {env : HttpEnv} {file : Bytes} (hserves : Serves env file) {offset : ℤ}
    (hoffset : 0 < offset) (hfit : file.length + offset ≤ 2 ^ 63) {m fuel : ℕ} (hfuel : m < fuel)
    (k : ℕ) {start : ℤ} (hstart : 0 ≤ start) (hsteps : (file.length : ℤ) ≤ start + m * offset) :
    (rangeLoop env file.length offset fuel k start).ended = .returned none ∧
      (rangeLoop env file.length offset fuel k start).piped = file.drop start.toNat := by
  induction m generalizing fuel k start with
  | zero =>
    obtain ⟨fuel, rfl⟩ := Nat.exists_eq_add_of_lt hfuel
    rw [rangeLoop, if_neg (by omega)]
    exact ⟨rfl, (List.drop_of_length_le (by omega)).symm⟩
  | succ m ih =>
    obtain ⟨fuel, rfl⟩ := Nat.exists_eq_add_of_lt hfuel
    rw [Nat.cast_succ, add_mul, one_mul] at hsteps
    by_cases hlt : start < file.length
    · have hlast : wrap64 (start + offset - 1) = start + offset - 1 :=
        wrap64_of_range (by omega) (by omega)
      have hnext : wrap64 (start + offset) = start + offset :=
        wrap64_of_range (by omega) (by omega)
      obtain ⟨hended, hpiped⟩ := @ih (m + 1 + fuel) (by omega) (k + 1) (start + offset) (by omega)
        (by omega)
      rw [rangeLoop_served hserves (m + 1 + fuel) k hstart hlt (by rw [hlast]; omega), hlast, hnext]
      refine ⟨hended, ?_⟩
      rw [Fetched.after, hpiped]
      exact bytesIn_append_drop file hstart hoffset
    · rw [rangeLoop, if_neg hlt]
      exact ⟨rfl, (List.drop_of_length_le (by omega)).symm⟩

/-- Whether the ranges are exact or not, the player gets the whole file. -/
theorem playURL_delivers {env : HttpEnv} {file : Bytes} (hserves : Serves env file)
    (hfile : file ≠ []) {codec : Codec} {rangeSize : ℤ} (hread : 0 < readSize codec rangeSize)
    (hfit : file.length + 2 * readSize codec rangeSize ≤ 2 ^ 63) :
    ∃ fuel, (playURL env codec rangeSize fuel).ended = .returned none ∧
      (playURL env codec rangeSize fuel).piped = file := by
  have hlength := List.length_pos_of_ne_nil hfile
  have hsteps : (file.length : ℤ) ≤ readSize codec rangeSize +
      (file.length : ℕ) * (2 * readSize codec rangeSize) := by
    have := le_mul_of_one_le_right (Int.natCast_nonneg file.length)
      (show 1 ≤ 2 * readSize codec rangeSize by omega)
    omega
  obtain ⟨hended, hpiped⟩ := rangeLoop_delivers hserves (by omega) hfit
    (Nat.lt_succ_self file.length) 1 hread.le hsteps
  refine ⟨file.length + 1, ?_⟩
  rw [playURL_served hserves hfile hread, mul_comm (readSize codec rangeSize) 2,
    wrap64_of_range (by omega) (by omega)]
  refine ⟨hended, ?_⟩
  have htake : bytesIn file ⟨0, readSize codec rangeSize - 1⟩ =
      file.take (readSize codec rangeSize).toNat := by
    simp [bytesIn]
  rw [Fetched.after, hpiped, htake, List.take_append_drop]

section Sample

end Sample

end Diago.Audio
