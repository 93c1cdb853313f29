import Diago.Lib.Run
import Mathlib.Tactic

/-! # Extended sequence numbers

The 16-bit sequence number of a stream and how often it has wrapped.
-/
namespace Diago.Rtp

def maxMisorder : UInt16 := 100
def maxDropout : UInt16 := 3000
def maxSeqNum : UInt16 := 65535

inductive SequenceErr
  | bad
  | duplicate
  deriving DecidableEq, Repr

structure RTPExtendedSequenceNumber where
  seqNum : UInt16 := 0
  wrapArroundCount : UInt16 := 0
  badSeq : UInt16 := 0
  deriving DecidableEq, Repr

namespace RTPExtendedSequenceNumber

def initSeq (seq : UInt16) : RTPExtendedSequenceNumber :=
  { seqNum := seq, wrapArroundCount := 0, badSeq := maxSeqNum }

def updateSeq (sn : RTPExtendedSequenceNumber) (seq : UInt16) :
    Option SequenceErr × RTPExtendedSequenceNumber :=
  let udelta := seq - sn.seqNum
  if udelta < maxDropout then
    (none, { sn with
      seqNum := seq
      wrapArroundCount := if seq < sn.seqNum then sn.wrapArroundCount + 1 else sn.wrapArroundCount })
  else if udelta ≤ maxSeqNum - maxMisorder then
    -- a very large jump
    if seq = sn.badSeq then (none, initSeq seq)
    else (some .bad, { sn with badSeq := seq + 1 })
  else (some .duplicate, sn)

def readExtendedSeq (sn : RTPExtendedSequenceNumber) : UInt64 :=
  sn.seqNum.toUInt64 + (maxSeqNum.toUInt64 + 1) * sn.wrapArroundCount.toUInt64

def nextSeqNumber (sn : RTPExtendedSequenceNumber) : UInt16 × RTPExtendedSequenceNumber :=
  (sn.seqNum + 1,
    { sn with
      seqNum := sn.seqNum + 1
      wrapArroundCount :=
        if sn.seqNum + 1 = 0 then sn.wrapArroundCount + 1 else sn.wrapArroundCount })

/-- The numbers are read one after the other, whatever each is answered with. -/
def updateAll (sn : RTPExtendedSequenceNumber) (seqs : List UInt16) : RTPExtendedSequenceNumber :=
  seqs.foldl (fun sn seq => (sn.updateSeq seq).2) sn

end RTPExtendedSequenceNumber

open RTPExtendedSequenceNumber
open Diago.Lib

/-! ### The true index of a packet -/

/-- The number a packet carries for its index in the stream. -/
def sequenceNumber (index : ℤ) : UInt16 := UInt16.ofNat (index % 65536).toNat

def InWindow : ℤ → List ℤ → Prop
  | _, [] => True
  | highest, i :: is =>
    i < highest + 3000 ∧ highest - 100 ≤ i ∧ i < 2 ^ 32 ∧ InWindow (max highest i) is

def highestIndex (s : ℤ) (is : List ℤ) : ℤ := is.foldl max s

variable {sn : RTPExtendedSequenceNumber} {highest i : ℤ}

def Follows (sn : RTPExtendedSequenceNumber) (highest : ℤ) : Prop :=
  sn.seqNum.toNat + 65536 * sn.wrapArroundCount.toNat = highest

theorem toNat_sequenceNumber (i : ℤ) : ((sequenceNumber i).toNat : ℤ) = i % 65536 := by
  have h := Int.emod_lt_of_pos i (show (0 : ℤ) < 65536 by norm_num)
  have h0 := Int.emod_nonneg i (show (65536 : ℤ) ≠ 0 by norm_num)
  rw [sequenceNumber, UInt16.toNat_ofNat', Nat.mod_eq_of_lt (by omega)]
  omega

/-- The wraps are counted in 16 bits, so the index is followed up to multiples of `2 ^ 32`. -/
def Tracks (sn : RTPExtendedSequenceNumber) (highest : ℤ) : Prop := Follows sn (highest % 2 ^ 32)

theorem toNat_sequenceNumber_sub (hsn : Tracks sn highest) (i : ℤ) :
    ((sequenceNumber i - sn.seqNum).toNat : ℤ) = (i - highest) % 65536 := by
  have hseq := toNat_sequenceNumber i
  have hlt := sn.seqNum.toNat_lt
  rw [UInt16.toNat_sub]
  unfold Tracks Follows at hsn
  omega

theorem readExtendedSeq_toNat (hsn : Follows sn highest) :
    (sn.readExtendedSeq.toNat : ℤ) = highest := by
  have hseq := sn.seqNum.toNat_lt
  have hwraps := sn.wrapArroundCount.toNat_lt
  have hmod : sn.readExtendedSeq.toNat = sn.seqNum.toNat + 65536 * sn.wrapArroundCount.toNat := by
    rw [readExtendedSeq, UInt64.toNat_add, UInt64.toNat_mul]
    simp [maxSeqNum]
    omega
  rw [hmod]
  unfold Follows at hsn
  push_cast
  omega

theorem updateSeq_ahead (hsn : Tracks sn highest) (hle : highest ≤ i) (hlt : i < highest + 3000) :
    Tracks (sn.updateSeq (sequenceNumber i)).2 i := by
  have hseq := toNat_sequenceNumber i
  have hdelta := toNat_sequenceNumber_sub hsn i
  have hnear : sequenceNumber i - sn.seqNum < maxDropout := by
    rw [UInt16.lt_iff_toNat_lt, maxDropout]
    simp only [UInt16.reduceToNat]
    omega
  have hq := sn.seqNum.toNat_lt
  have hwraps := sn.wrapArroundCount.toNat_lt
  unfold Tracks Follows at hsn ⊢
  rw [updateSeq, if_pos hnear]
  simp only
  by_cases hwrap : sequenceNumber i < sn.seqNum
  · rw [if_pos hwrap, UInt16.toNat_add]
    rw [UInt16.lt_iff_toNat_lt] at hwrap
    simp only [UInt16.reduceToNat]
    omega
  · rw [if_neg hwrap]
    rw [UInt16.lt_iff_toNat_lt] at hwrap
    omega

theorem updateSeq_behind (hsn : Tracks sn highest) (hlt : i < highest) (hge : highest - 100 ≤ i) :
    (sn.updateSeq (sequenceNumber i)).2 = sn := by
  have hdelta := toNat_sequenceNumber_sub hsn i
  have hfar : ¬ sequenceNumber i - sn.seqNum < maxDropout := by
    rw [UInt16.lt_iff_toNat_lt, maxDropout]
    simp only [UInt16.reduceToNat]
    omega
  have hnoJump : ¬ sequenceNumber i - sn.seqNum ≤ maxSeqNum - maxMisorder := by
    rw [UInt16.le_iff_toNat_le, maxSeqNum, maxMisorder]
    simp only [UInt16.reduceSub, UInt16.reduceToNat]
    omega
  rw [updateSeq, if_neg hfar, if_neg hnoJump]

theorem updateSeq_tracks (hsn : Tracks sn highest) (hlt : i < highest + 3000)
    (hge : highest - 100 ≤ i) : Tracks (sn.updateSeq (sequenceNumber i)).2 (max highest i) := by
  by_cases hle : highest ≤ i
  · rw [max_eq_right hle]
    exact updateSeq_ahead hsn hle hlt
  · rw [max_eq_left (by omega), updateSeq_behind hsn (by omega) hge]
    exact hsn

theorem updateAll_tracks {is : List ℤ} (hsn : Tracks sn highest) (his : InWindow highest is) :
    Tracks (sn.updateAll (is.map sequenceNumber)) (highestIndex highest is) := by
  induction is generalizing sn highest with
  | nil => exact hsn
  | cons i is ih =>
    obtain ⟨hlt, hge, -, hrest⟩ := his
    exact ih (updateSeq_tracks hsn hlt hge) hrest

theorem highestIndex_mem {is : List ℤ} (his : InWindow highest is) (h0 : 0 ≤ highest)
    (hbound : highest < 2 ^ 32) :
    0 ≤ highestIndex highest is ∧ highestIndex highest is < 2 ^ 32 := by
  induction is generalizing highest with
  | nil => exact ⟨h0, hbound⟩
  | cons i is ih =>
    obtain ⟨-, -, hi, hrest⟩ := his
    exact ih hrest (le_max_of_le_left h0) (max_lt hbound hi)

theorem initSeq_tracks (s : UInt16) : Tracks (initSeq s) s.toNat := by
  have hs := s.toNat_lt
  unfold Tracks Follows initSeq
  simp only [UInt16.toNat_zero]
  omega

/-- Extended sequence numbers follow the true index: along any stream whose packets are less than
3000 ahead of the highest index before them or at most 100 behind it, the extended number is the
highest index. -/
theorem extended_follows_highest (s : UInt16) (is : List ℤ) (h : InWindow s.toNat is) :
    (((initSeq s).updateAll (is.map sequenceNumber)).readExtendedSeq.toNat : ℤ) =
      highestIndex s.toNat is := by
  have hs := s.toNat_lt
  obtain ⟨h0, hbound⟩ := highestIndex_mem h (by omega) (by omega)
  rw [readExtendedSeq_toNat (updateAll_tracks (initSeq_tracks s) h),
    Int.emod_eq_of_lt h0 hbound]

/-- A stream that wraps, with a packet that comes late and one that comes twice. -/
theorem wrapped_stream_followed :
    InWindow (65534 : UInt16).toNat [65535, 65537, 65536, 65537] ∧
      (((initSeq 65534).updateAll ([65535, 65537, 65536, 65537].map sequenceNumber)).readExtendedSeq.toNat
        : ℤ) = 65537 :=
  have h : InWindow (65534 : UInt16).toNat [65535, 65537, 65536, 65537] := by
    simp [InWindow]
  ⟨h, extended_follows_highest 65534 _ h⟩

/-! ### Restarts -/

/-- The number is neither a little ahead of the last one nor a little behind it. -/
def LargeJump (sn : RTPExtendedSequenceNumber) (seq : UInt16) : Prop :=
  ¬ seq - sn.seqNum < maxDropout ∧ seq - sn.seqNum ≤ maxSeqNum - maxMisorder

instance (sn : RTPExtendedSequenceNumber) (seq : UInt16) : Decidable (LargeJump sn seq) := by
  unfold LargeJump
  infer_instance

/-- A large jump is taken: the sequencer starts over at its number. -/
def Restarts (sn : RTPExtendedSequenceNumber) (seq : UInt16) : Prop :=
  LargeJump sn seq ∧ sn.updateSeq seq = (none, initSeq seq)

/-- A call that made a large jump: its number and what it was answered with. -/
structure Jump where
  seq : UInt16
  answer : Option SequenceErr
  deriving DecidableEq

/-- The sequencer, with the last large jump since it was initialised. -/
structure Heard where
  sequencer : RTPExtendedSequenceNumber
  jump : Option Jump := none

def Heard.step (x : Heard) (seq : UInt16) : Heard :=
  { sequencer := (x.sequencer.updateSeq seq).2
    jump :=
      if x.sequencer.updateSeq seq = (none, initSeq seq) ∧ LargeJump x.sequencer seq then none
      else if LargeJump x.sequencer seq then some ⟨seq, (x.sequencer.updateSeq seq).1⟩
      else x.jump }

def followedJump (seq : UInt16) : Jump := ⟨seq - 1, some .bad⟩

/-- What the sequencer remembers of the jumps: the number that would follow the last one, and
`maxSeqNum` when there is none. -/
def Remembers (x : Heard) : Prop :=
  match x.jump with
  | none => x.sequencer.badSeq = maxSeqNum
  | some jump => x.sequencer.badSeq = jump.seq + 1 ∧ jump.answer = some .bad

theorem updateSeq_of_largeJump {seq : UInt16} (h : LargeJump sn seq) :
    sn.updateSeq seq =
      if seq = sn.badSeq then (none, initSeq seq) else (some .bad, { sn with badSeq := seq + 1 }) := by
  rw [updateSeq, if_neg h.1, if_pos h.2]

theorem updateSeq_badSeq {seq : UInt16} (h : ¬ LargeJump sn seq) :
    (sn.updateSeq seq).2.badSeq = sn.badSeq := by
  rw [updateSeq]
  by_cases hnear : seq - sn.seqNum < maxDropout
  · rw [if_pos hnear]
  · have hbehind : ¬ seq - sn.seqNum ≤ maxSeqNum - maxMisorder := fun hle => h ⟨hnear, hle⟩
    rw [if_neg hnear, if_neg hbehind]

theorem restarts_iff {seq : UInt16} : Restarts sn seq ↔ LargeJump sn seq ∧ seq = sn.badSeq := by
  constructor
  · rintro ⟨hjump, htaken⟩
    rw [updateSeq_of_largeJump hjump] at htaken
    refine ⟨hjump, ?_⟩
    by_contra hne
    rw [if_neg hne] at htaken
    exact absurd (congrArg Prod.fst htaken) (by simp)
  · rintro ⟨hjump, heq⟩
    refine ⟨hjump, ?_⟩
    rw [updateSeq_of_largeJump hjump, if_pos heq]

theorem step_remembers (x : Heard) (seq : UInt16) (hx : Remembers x) : Remembers (x.step seq) := by
  by_cases hjump : LargeJump x.sequencer seq
  · have hupdate := updateSeq_of_largeJump hjump
    by_cases hbad : seq = x.sequencer.badSeq
    · rw [if_pos hbad] at hupdate
      simp [Remembers, Heard.step, hupdate, hjump, initSeq]
    · rw [if_neg hbad] at hupdate
      simp [Remembers, Heard.step, hupdate, hjump]
  · simpa [Remembers, Heard.step, hjump, updateSeq_badSeq hjump] using hx

/-- A sequence restart needs two packets in sequence, unless the first large jump since the
sequencer was initialised is to the number that stands for none remembered. -/
theorem restarts_after_two_iff (first : UInt16) (seqs : List UInt16) :
    Along Heard.step (fun x seq => Restarts x.sequencer seq → x.jump = some (followedJump seq))
        { sequencer := initSeq first } seqs ↔
      Along Heard.step
        (fun x seq => x.jump = none → LargeJump x.sequencer seq → seq ≠ maxSeqNum)
        { sequencer := initSeq first } seqs := by
  have hinit : Remembers { sequencer := initSeq first } := rfl
  refine along_congr_of_invariant Remembers (fun x seq hx _ => step_remembers x seq hx) ?_ hinit
    (Along.of_kept (P := fun _ _ => True) Remembers step_remembers (fun _ _ _ => trivial) hinit seqs)
  intro x seq hx _
  rw [restarts_iff]
  cases hjump : x.jump with
  | none =>
    have hbad : x.sequencer.badSeq = maxSeqNum := by simpa [Remembers, hjump] using hx
    rw [hbad]
    simp
  | some jump =>
    obtain ⟨hbad, hanswer⟩ : x.sequencer.badSeq = jump.seq + 1 ∧ jump.answer = some .bad := by
      simpa [Remembers, hjump] using hx
    have hfollowed : seq = jump.seq + 1 → jump = followedJump seq := by
      rintro rfl
      cases jump
      simp_all [followedJump]
    rw [hbad]
    simpa using fun _ => hfollowed

/-- One packet numbered 65535, far from the packets before it, starts the sequencer over. -/
theorem single_stray_restarts :
    (initSeq 1000).updateSeq 65535 = (none, initSeq 65535) ∧
      ¬ Along Heard.step
        (fun x seq => Restarts x.sequencer seq → x.jump = some (followedJump seq))
        { sequencer := initSeq 1000 } [65535] := by
  have hrestarts : Restarts (initSeq 1000) 65535 := restarts_iff.mpr (by decide)
  exact ⟨hrestarts.2, fun h => absurd (h.1 hrestarts) (by simp)⟩

end Diago.Rtp
