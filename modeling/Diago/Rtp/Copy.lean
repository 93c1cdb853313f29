import Diago.Audio.Playback

/-! # Copying from a reader to a writer

A copy reads into one buffer and writes what each read brought, until a call fails.
-/
namespace Diago.Rtp
open Lib

variable {σ ε : Type}

structure Filled (size : ℕ) where
  buf : Bytes
  n : ℕ
  sized : buf.length = size
  fits : n ≤ size

def Filled.chunk {size : ℕ} (f : Filled size) : Bytes := f.buf.take f.n

/-- The reader and the writer of a copy, over a state they may share. -/
structure Ends (σ ε : Type) where
  read : σ → (buf : Bytes) → (Filled buf.length × Option ε) × σ
  write : σ → Bytes → (ℕ × Option ε) × σ

inductive Round (ε : Type) where
  | readFailed (err : ε)
  | writeFailed (chunk : Bytes) (err : ε)
  /-- The write returned no error and the number of bytes it took. -/
  | wrote (chunk : Bytes) (nn : ℕ)
  deriving DecidableEq

inductive CopyErr (ε : Type) where
  | read (err : ε)
  | write (err : ε)
  | shortWrite
  deriving DecidableEq

/-- The rounds of a copy, what it returned unless it still runs, and the state it leaves. -/
structure Copied (σ ε : Type) where
  rounds : List (Round ε)
  ended : Option (ℤ × CopyErr ε)
  state : σ
  deriving DecidableEq

def Copied.after (round : Round ε) (c : Copied σ ε) : Copied σ ε :=
  { c with rounds := round :: c.rounds }

def copyWithBuf (ends : Ends σ ε) : ℕ → σ → Bytes → ℤ → Copied σ ε
  | 0, s, _, _ => ⟨[], none, s⟩
  | fuel + 1, s, payloadBuf, totalWritten =>
    let r := ends.read s payloadBuf
    match r.1.2 with
    | some err => ⟨[.readFailed err], some (totalWritten, .read err), r.2⟩
    | none =>
      let chunk := r.1.1.chunk
      let w := ends.write r.2 chunk
      match w.1.2 with
      | some err => ⟨[.writeFailed chunk err], some (totalWritten, .write err), w.2⟩
      | none =>
        let nn := w.1.1
        let totalWritten := wrap64 (totalWritten + nn)
        if r.1.1.n < nn then ⟨[.wrote chunk nn], some (totalWritten, .shortWrite), w.2⟩
        else (copyWithBuf ends fuel w.2 r.1.1.buf totalWritten).after (.wrote chunk nn)

def Round.taken : Round ε → Bytes
  | .wrote chunk _ => chunk
  | _ => []

def Round.accepted : Round ε → Bytes
  | .wrote chunk nn => chunk.take nn
  | _ => []

/-- The writer took fewer bytes than it was given, without an error. -/
def Round.Short : Round ε → Prop
  | .wrote chunk nn => nn < chunk.length
  | _ => False

def Round.Failed : Round ε → Prop
  | .wrote _ _ => False
  | _ => True

namespace Copied

/-- The bytes of all reads before the failing call, without the chunk of a failing write. -/
def taken (c : Copied σ ε) : Bytes := c.rounds.flatMap Round.taken

def accepted (c : Copied σ ε) : Bytes := c.rounds.flatMap Round.accepted

def FailedWith (c : Copied σ ε) (total : ℤ) : Prop :=
  ∃ err, c.ended = some (total, .read err) ∨ c.ended = some (total, .write err)

structure NoticesLostBytes (c : Copied σ ε) : Prop where
  noticed : ∀ before round later, c.rounds = before ++ round :: later → round.Short →
    later = [] ∧ ∃ total, c.ended = some (total, .shortWrite)
  complete : (∀ round ∈ c.rounds, ¬ round.Short) → ∀ total, c.FailedWith total →
    c.accepted = c.taken ∧ total = c.accepted.length

end Copied

/-! ## What a copy can come to -/

@[simp] theorem Filled.length_chunk {size : ℕ} (f : Filled size) : f.chunk.length = f.n := by
  rw [chunk, List.length_take, f.sized, min_eq_left f.fits]

inductive Runs : ℤ → Copied σ ε → Prop
  | running (total : ℤ) (s : σ) : Runs total ⟨[], none, s⟩
  | readFailed (total : ℤ) (err : ε) (s : σ) :
      Runs total ⟨[.readFailed err], some (total, .read err), s⟩
  | writeFailed (total : ℤ) (chunk : Bytes) (err : ε) (s : σ) :
      Runs total ⟨[.writeFailed chunk err], some (total, .write err), s⟩
  | excess (total : ℤ) (chunk : Bytes) (nn : ℕ) (s : σ) (h : chunk.length < nn) :
      Runs total ⟨[.wrote chunk nn], some (wrap64 (total + nn), .shortWrite), s⟩
  | wrote (total : ℤ) (chunk : Bytes) (nn : ℕ) (c : Copied σ ε) (h : nn ≤ chunk.length)
      (rest : Runs (wrap64 (total + nn)) c) : Runs total (c.after (.wrote chunk nn))

theorem runs_copyWithBuf (ends : Ends σ ε) (fuel : ℕ) (s : σ) (payloadBuf : Bytes) (total : ℤ) :
    Runs total (copyWithBuf ends fuel s payloadBuf total) := by
  induction fuel generalizing s payloadBuf total with
  | zero => exact .running total s
  | succ fuel ih =>
    rw [copyWithBuf]
    dsimp only
    split
    · exact .readFailed total _ _
    split
    · exact .writeFailed total _ _ _
    split_ifs with hexcess
    · apply Runs.excess
      rwa [Filled.length_chunk]
    · apply Runs.wrote
      · rw [Filled.length_chunk]
        exact not_lt.mp hexcess
      · exact ih _ _ _

variable {c : Copied σ ε} {total t k : ℤ}

theorem Runs.not_short (h : Runs total c) (hended : c.ended = some (t, .shortWrite))
    {before : List (Round ε)} {round : Round ε} (hrounds : c.rounds = before ++ [round]) :
    ¬ round.Short := by
  induction h generalizing before with
  | running total s => simp at hended
  | readFailed total err s => simp at hended
  | writeFailed total chunk err s => simp at hended
  | excess total chunk nn s h =>
    obtain ⟨-, hround⟩ := List.append_inj' ((List.nil_append _).trans hrounds) rfl
    obtain rfl := List.singleton_inj.mp hround
    exact not_lt.mpr h.le
  | wrote total chunk nn c h rest ih =>
    cases before with
    | nil =>
      have hnil : c.rounds = [] := (List.cons.inj hrounds).2
      cases rest <;> simp_all [Copied.after]
    | cons first before => exact ih hended (List.cons.inj hrounds).2

theorem Copied.taken_after (round : Round ε) (c : Copied σ ε) :
    (c.after round).taken = round.taken ++ c.taken := rfl

theorem Copied.accepted_after (round : Round ε) (c : Copied σ ε) :
    (c.after round).accepted = round.accepted ++ c.accepted := rfl

/-- Without a round that loses bytes the writer took what the reads brought, and the count is the
number of these bytes as far as it goes. -/
theorem Runs.complete (h : Runs (wrap64 k) c) (hshort : ∀ round ∈ c.rounds, ¬ round.Short)
    (hfailed : c.FailedWith t) :
    c.accepted = c.taken ∧ t = wrap64 (k + c.accepted.length) := by
  generalize htotal : wrap64 k = total at h
  induction h generalizing k with
  | running total s => simp [Copied.FailedWith] at hfailed
  | readFailed total err s =>
    obtain ⟨_, ht | ht⟩ := hfailed <;> simp_all [Copied.accepted, Copied.taken, Round.accepted,
      Round.taken]
  | writeFailed total chunk err s =>
    obtain ⟨_, ht | ht⟩ := hfailed <;> simp_all [Copied.accepted, Copied.taken, Round.accepted,
      Round.taken]
  | excess total chunk nn s h => simp [Copied.FailedWith] at hfailed
  | wrote total chunk nn c h rest ih =>
    have hround := hshort (.wrote chunk nn) List.mem_cons_self
    have hnn : nn = chunk.length := le_antisymm h (not_lt.mp hround)
    have hrest := ih (k := k + nn) (fun round hmem => hshort round (List.mem_cons_of_mem _ hmem))
      hfailed (by rw [← htotal, wrap64_wrap64_add])
    rw [Copied.accepted_after, Copied.taken_after, hrest.1, hrest.2, Round.accepted, Round.taken,
      hnn, List.take_length, List.length_append, Nat.cast_add, hrest.1, add_assoc]
    exact ⟨rfl, rfl⟩

theorem Runs.failed_iff (h : Runs total c) :
    (∃ t, c.FailedWith t) ↔ ∃ round ∈ c.rounds, round.Failed := by
  induction h with
  | wrote total chunk nn c h rest ih =>
    simpa [Copied.after, Round.Failed, Copied.FailedWith] using ih
  | _ => simp [Copied.FailedWith, Round.Failed]

/-- A copy notices lost bytes exactly if there are none to notice: no write took fewer bytes than
it was given without an error. The count is right as long as it fits. -/
theorem copy_notices_iff (ends : Ends σ ε) (fuel : ℕ) (s : σ) (payloadBuf : Bytes) :
    let c := copyWithBuf ends fuel s payloadBuf 0
    c.NoticesLostBytes ↔ (∀ round ∈ c.rounds, ¬ round.Short) ∧
      ((∃ round ∈ c.rounds, round.Failed) → c.accepted.length < 2 ^ 63) := by
  intro c
  have hruns : Runs (wrap64 0) c := runs_copyWithBuf ends fuel s payloadBuf 0
  rw [← hruns.failed_iff]
  constructor
  · intro hnotices
    have hshort : ∀ round ∈ c.rounds, ¬ round.Short := by
      intro round hmem hshort
      obtain ⟨before, later, hrounds⟩ := List.append_of_mem hmem
      obtain ⟨rfl, total, hended⟩ := hnotices.noticed before round later hrounds hshort
      exact hruns.not_short hended hrounds hshort
    refine ⟨hshort, fun ⟨total, hfailed⟩ => ?_⟩
    obtain ⟨-, htotal⟩ := hruns.complete hshort hfailed
    rw [(hnotices.complete hshort total hfailed).2] at htotal
    have hlt := wrap64_lt (0 + c.accepted.length)
    omega
  · rintro ⟨hshort, hcount⟩
    refine ⟨fun before round later hrounds hlost => ?_, fun _ total hfailed => ?_⟩
    · exact absurd hlost (hshort round (hrounds ▸ List.mem_append_cons_self))
    · obtain ⟨hsame, htotal⟩ := hruns.complete hshort hfailed
      have hlt := hcount ⟨total, hfailed⟩
      rw [wrap64_of_range (by omega) (by omega), zero_add] at htotal
      exact ⟨hsame, htotal⟩

/-! ## A reader whose reads are given -/

section Scripted

open Audio

variable {τ : Type}

def fill (buf payload : Bytes) : Filled buf.length where
  buf := payload.take buf.length ++ buf.drop payload.length
  n := min payload.length buf.length
  sized := by
    rw [List.length_append, List.length_take, List.length_drop]
    omega
  fits := min_le_right _ _

theorem length_buf_fill (buf payload : Bytes) : (fill buf payload).buf.length = buf.length :=
  (fill buf payload).sized

theorem chunk_fill {buf payload : Bytes} (h : payload.length ≤ buf.length) :
    (fill buf payload).chunk = payload := by
  simp [Filled.chunk, fill, h]

/-- The reads of a script, which ends with the end of the file. -/
def scripted (write : Bytes → τ → (ℕ × Option IOErr) × τ) : Ends (Script × τ) IOErr where
  read s buf :=
    match s.1 with
    | [] => ((fill buf [], some .eof), s)
    | (payload, err) :: reads => ((fill buf payload, err), (reads, s.2))
  write s chunk := ((write chunk s.2).1, (s.1, (write chunk s.2).2))

@[simp] theorem scripted_read (write : Bytes → τ → (ℕ × Option IOErr) × τ) (payload : Bytes)
    (err : Option IOErr) (reads : Script) (w : τ) (buf : Bytes) :
    (scripted write).read ((payload, err) :: reads, w) buf =
      ((fill buf payload, err), (reads, w)) :=
  rfl

@[simp] theorem scripted_write (write : Bytes → τ → (ℕ × Option IOErr) × τ) (reads : Script) (w : τ)
    (chunk : Bytes) :
    (scripted write).write (reads, w) chunk = ((write chunk w).1, (reads, (write chunk w).2)) := rfl

def CopyErr.ioErr : CopyErr IOErr → IOErr
  | .read err => err
  | .write err => err
  | .shortWrite => .shortWrite

/-- The copy of a script of reads that fit the buffer is the one over its payloads. -/
theorem copyWithBuf_scripted (write : Bytes → τ → (ℕ × Option IOErr) × τ) (script : Script)
    {buf : Bytes} (hfits : ∀ r ∈ script, r.1.length ≤ buf.length) (total : ℕ) (w : τ) :
    let c := copyWithBuf (scripted write) (script.length + 1) (script, w) buf (wrap64 total)
    let r := Audio.copyWithBuf write script total w
    c.ended.map (fun e => (e.1, e.2.ioErr)) = some (wrap64 r.1.1, r.1.2) ∧ c.state.2 = r.2 := by
  induction script generalizing buf total w with
  | nil => exact ⟨rfl, rfl⟩
  | cons read script ih =>
    obtain ⟨payload, err⟩ := read
    rw [List.forall_mem_cons] at hfits
    cases err with
    | some err => exact ⟨rfl, rfl⟩
    | none =>
      have hn : (fill buf payload).n = payload.length := min_eq_left hfits.1
      have hreads : ∀ r ∈ script, r.1.length ≤ (fill buf payload).buf.length := by
        rw [length_buf_fill]
        exact hfits.2
      rw [List.length_cons, copyWithBuf, Audio.copyWithBuf]
      simp only [scripted_read, scripted_write, chunk_fill hfits.1, hn, wrap64_wrap64_add]
      rcases write payload w with ⟨⟨nn, err | err⟩, w⟩
      · dsimp only
        rw [← Nat.cast_add]
        split_ifs
        · exact ⟨rfl, rfl⟩
        · exact ih hreads (total + nn) w
      · exact ⟨rfl, rfl⟩

/-- A writer that keeps the first byte of what it is given, and says so. -/
def firstByteWrite (chunk : Bytes) (kept : Bytes) : (ℕ × Option IOErr) × Bytes :=
  ((1, none), kept ++ chunk.take 1)

/-- The second byte of two is lost, and the copy ends as the file does. -/
theorem truncation_unnoticed :
    let c := copyWithBuf (scripted firstByteWrite) 2 ([([7, 8], none)], []) [0, 0, 0] 0
    c.rounds = [.wrote [7, 8] 1, .readFailed .eof] ∧ c.ended = some (1, .read .eof) ∧
      c.state.2 = [7] ∧ ¬ c.NoticesLostBytes := by
  intro c
  have hrounds : c.rounds = [.wrote [7, 8] 1, .readFailed .eof] := by decide
  refine ⟨hrounds, by decide, by decide, fun hnotices => ?_⟩
  obtain ⟨hlast, -⟩ := hnotices.noticed [] (.wrote [7, 8] 1) [.readFailed .eof] hrounds
    (by simp [Round.Short])
  exact List.cons_ne_nil _ _ hlast

end Scripted

end Diago.Rtp
