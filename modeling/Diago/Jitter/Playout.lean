import Diago.Jitter.Slots

/-! # Playing out

One round of reading starts playout if it is time to, and plays the number that is
due: the packet queued under it, or the number as lost, or it stops with nothing
queued.
-/
namespace Diago.Jitter
open Lib

variable {S : Slot → Prop} {j k : JitterBuffer} {held : List ℕ} {i : ℕ} {seq : UInt16} {now : ℤ}

namespace JitterBuffer

/-- Numbers lost after a stop have been passed, none beyond a packet queued. -/
structure Skipped (S : Slot → Prop) (j k : JitterBuffer) (held : List ℕ) : Prop where
  wellFormed : k.WellFormed S held
  same : j.SameStream k
  sequence : k.sequence = j.sequence
  passed : ∀ i ∈ j.queue, ahead j.expectedSeq k.expectedSeq ≤ ahead j.expectedSeq (j.slots i).seq
  unmoved : j.queue = [] ∨ j.resync = false → k.expectedSeq = j.expectedSeq

theorem WellFormed.ne_of_slotAt (h : j.WellFormed S held) (hv : j.slotAt seq = none) :
    ∀ i ∈ j.queue, (j.slots i).seq ≠ seq := by
  rintro i hi rfl
  rw [h.slotAt_of_mem hi] at hv
  exact absurd hv (by simp)

theorem WellFormed.skipLost (h : j.WellFormed S held) (fuel : ℕ) :
    Skipped S j (skipLost fuel j) held := by
  induction fuel generalizing j with
  | zero => exact ⟨h, .refl j, rfl, by simp [JitterBuffer.skipLost], fun _ => rfl⟩
  | succ fuel ih =>
    rw [JitterBuffer.skipLost]
    split_ifs with hskip
    · obtain ⟨hresync, hqueued, hv⟩ := hskip
      have hne := h.ne_of_slotAt hv
      have hstep := ih ((h.count Stats.lost).advance hne)
      have hsame : j.SameStream (j.count Stats.lost).advance := { SameStream.refl j with }
      refine ⟨hstep.wellFormed, hsame.trans hstep.same, hstep.sequence, fun i hi => ?_,
        fun hstay => ?_⟩
      · have hle := hstep.passed i hi
        have hi' := ahead_succ (hne i hi)
        have hlt := ahead_lt (j.expectedSeq + 1) (j.slots i).seq
        generalize (skipLost fuel (j.count Stats.lost).advance).expectedSeq = e at hle ⊢
        change ahead (j.expectedSeq + 1) e ≤ ahead (j.expectedSeq + 1) (j.slots i).seq at hle
        by_cases he : e = j.expectedSeq
        · simp [he]
        · have := ahead_succ he
          omega
      · rcases hstay with hempty | hnot
        · rw [h.queued, hempty] at hqueued
          simp at hqueued
        · simp [hnot] at hresync
    · exact ⟨h, .refl j, rfl, by simp, fun _ => rfl⟩

theorem skipLost_keeps {P : JitterBuffer → Prop} (hskip : ∀ k, P k → P (k.count .lost).advance)
    (fuel : ℕ) (h : P j) : P (skipLost fuel j) := by
  induction fuel generalizing j with
  | zero => exact h
  | succ fuel ih =>
    rw [JitterBuffer.skipLost]
    split_ifs
    · exact ih (hskip j h)
    · exact h

def lostAhead (j : JitterBuffer) : Prop :=
  j.resync = true ∧ 0 < j.queued ∧ j.slotAt j.expectedSeq = none

theorem skipLost_of_not_lostAhead (h : ¬ j.lostAhead) (fuel : ℕ) : skipLost fuel j = j := by
  cases fuel with
  | zero => rfl
  | succ fuel => exact if_neg h

theorem skipLost_succ (h : j.lostAhead) (fuel : ℕ) :
    skipLost (fuel + 1) j = skipLost fuel (j.count .lost).advance := if_pos h

/-- The steps the loop takes from `j`: it goes on before each of them and passes no number that is
queued, and ends after them. -/
structure SkipsIn (j : JitterBuffer) (n : ℕ) : Prop where
  goesOn : ∀ m < n, (skipLost m j).lostAhead
  passes : ∀ m < n, ∀ i ∈ j.queue, (j.slots i).seq ≠ (skipLost m j).expectedSeq
  ends : ¬ (skipLost n j).lostAhead
  stays : ∀ fuel, n ≤ fuel → skipLost fuel j = skipLost n j

theorem WellFormed.skipsIn (h : j.WellFormed S held) (f : ℕ)
    (hf : ∀ i ∈ j.queue, ahead j.expectedSeq (j.slots i).seq ≤ f) : ∃ n ≤ f, j.SkipsIn n := by
  induction f generalizing j with
  | zero =>
    have hends : ¬ j.lostAhead := by
      rintro ⟨-, hqueued, hv⟩
      rw [h.queued] at hqueued
      obtain ⟨i, hi⟩ := List.exists_mem_of_length_pos (by omega : 0 < j.queue.length)
      exact h.ne_of_slotAt hv i hi (eq_of_ahead_eq_zero (Nat.le_zero.mp (hf i hi)))
    exact ⟨0, le_rfl, by simp, by simp, hends, fun fuel _ => skipLost_of_not_lostAhead hends fuel⟩
  | succ f ih =>
    by_cases hgo : j.lostAhead
    · have hne := h.ne_of_slotAt hgo.2.2
      have hnext : ∀ i ∈ j.queue, ahead (j.expectedSeq + 1) (j.slots i).seq ≤ f := by
        intro i hi
        have hi' := ahead_succ (hne i hi)
        have hle := hf i hi
        omega
      obtain ⟨n, hn, hskips⟩ := ih ((h.count Stats.lost).advance hne) hnext
      refine ⟨n + 1, by omega, fun m hm => ?_, fun m hm i hi => ?_, ?_, fun fuel hfuel => ?_⟩
      · cases m with
        | zero => exact hgo
        | succ m =>
          rw [skipLost_succ hgo]
          exact hskips.goesOn m (by omega)
      · cases m with
        | zero => exact hne i hi
        | succ m =>
          rw [skipLost_succ hgo]
          exact hskips.passes m (by omega) i hi
      · rw [skipLost_succ hgo]
        exact hskips.ends
      · obtain ⟨fuel, rfl⟩ : ∃ k, fuel = k + 1 := ⟨fuel - 1, by omega⟩
        rw [skipLost_succ hgo, skipLost_succ hgo]
        exact hskips.stays fuel (by omega)
    · exact ⟨0, by omega, by simp, by simp, hgo, fun fuel _ => skipLost_of_not_lostAhead hgo fuel⟩

def started (j : JitterBuffer) : Prop := j.playout = true ∨ j.resync = true

theorem WellFormed.startPlayout (h : j.WellFormed S held) (now : ℤ) :
    (j.startPlayout now).WellFormed S held ∧ j.SameSource (j.startPlayout now) ∧
      (j.startPlayout now).queue = j.queue ∧
      ahead j.expectedSeq (j.startPlayout now).expectedSeq < j.maxPackets := by
  have hbuffer : ({ j with startAt := none } : JitterBuffer).WellFormed S held := { h with }
  have hskip := hbuffer.skipLost 65536
  unfold JitterBuffer.startPlayout
  generalize JitterBuffer.skipLost 65536 { j with startAt := none } = k at hskip ⊢
  refine ⟨{ hskip.wellFormed with }, { hskip.same.toSameSource with },
    congrArg List.reduceOption hskip.sequence, ?_⟩
  rcases j.queue.eq_nil_or_concat with hempty | hsome
  · have hstay : k.expectedSeq = j.expectedSeq := hskip.unmoved (.inl hempty)
    simpa [hstay] using h.max_pos
  · obtain ⟨q, i, hq⟩ := hsome
    have hi : i ∈ j.queue := by simp [hq]
    exact Nat.lt_of_le_of_lt (hskip.passed i hi) (h.window i hi)

structure Played (S : Slot → Prop) (unmarshal : Bytes → Option Packet) (j : JitterBuffer)
    (r : Decision × JitterBuffer) (held : List ℕ) : Prop where
  wellFormed : r.2.WellFormed S held
  same : j.SameSource r.2
  started : r.2.started
  next : r.2.expectedSeq = j.expectedSeq ∨ r.2.expectedSeq = j.expectedSeq + 1
  released : ∀ pkt raw, r.1 = .released pkt raw → r.2.expectedSeq = j.expectedSeq + 1 ∧
    ∃ i ∈ j.queue, (j.slots i).seq = j.expectedSeq ∧ (j.slots i).raw = raw ∧
      unmarshal raw = some pkt

theorem dueSlot_eq_some :
    j.dueSlot = some i ↔ j.slotAt j.expectedSeq = some i ∧ (j.slots i).seq = j.expectedSeq := by
  simp [dueSlot, Option.filter_eq_some_iff]

theorem WellFormed.release (h : j.WellFormed S held) (hdue : j.dueSlot = some i) :
    (j.release i).WellFormed S held := by
  obtain ⟨hi, hseq⟩ := dueSlot_eq_some.mp hdue
  have hq : (i :: (j.vacate j.expectedSeq).queue).Perm j.queue := vacate_queue hi
  have hnext : ∀ x ∈ (j.vacate j.expectedSeq).queue, (j.slots x).seq ≠ j.expectedSeq := by
    intro x hx hx'
    have hat := h.slotAt_of_mem (hq.mem_iff.mp (List.mem_cons_of_mem _ hx))
    rw [hx', hi] at hat
    obtain rfl : i = x := Option.some_inj.mp hat
    exact (h.vacate hi).not_mem_queue hx
  exact { (h.vacate hi).freeSlot.advance hnext with }

theorem WellFormed.skip (h : j.WellFormed S held) (hdue : j.dueSlot = none) :
    j.skip.WellFormed S held := by
  have hnext : ∀ i ∈ j.queue, (j.slots i).seq ≠ j.expectedSeq := by
    intro i hi hseq
    have hat := h.slotAt_of_mem hi
    rw [hseq] at hat
    rw [dueSlot_eq_some.mpr ⟨hat, hseq⟩] at hdue
    exact absurd hdue (by simp)
  exact { (h.count Stats.lost).advance hnext with }

inductive Plays (unmarshal : Bytes → Option Packet) (j : JitterBuffer) :
    Decision × JitterBuffer → Prop
  | short : Plays unmarshal j (.shortBuffer, j)
  | malformed {i : ℕ} (hdue : j.dueSlot = some i) (hraw : unmarshal (j.slots i).raw = none) :
    Plays unmarshal j (.malformed, j.release i)
  | released {i : ℕ} {pkt : Packet} (hdue : j.dueSlot = some i)
    (hraw : unmarshal (j.slots i).raw = some pkt) :
    Plays unmarshal j (.released pkt (j.slots i).raw, (j.release i).count (.released pkt.seq))
  | stopped (hempty : j.queued = 0) : Plays unmarshal j (j.stopPlayout.idle, j.stopPlayout)
  | skipped (hdue : j.dueSlot = none) : Plays unmarshal j (.skipped, j.skip)

theorem playDue_plays (unmarshal : Bytes → Option Packet) (bufLen : ℕ) (j : JitterBuffer) :
    j.Plays unmarshal (j.playDue unmarshal bufLen) := by
  unfold JitterBuffer.playDue
  split
  case h_1 i hdue =>
    simp only
    split_ifs
    · exact .short
    · split
      case h_1 hraw => exact .malformed hdue hraw
      case h_2 pkt hraw => exact .released hdue hraw
  case h_2 hdue =>
    split_ifs with hempty
    · exact .stopped hempty
    · exact .skipped hdue

theorem not_released_idle (j : JitterBuffer) (pkt : Packet) (raw : Bytes) :
    j.idle ≠ .released pkt raw := by
  unfold idle
  split_ifs <;> simp

theorem release_sameSource (i : ℕ) (j : JitterBuffer) : j.SameSource (j.release i) :=
  ⟨rfl, rfl, rfl, rfl⟩

theorem count_sameSource (j : JitterBuffer) (f : Stats → Stats) : j.SameSource (j.count f) :=
  ⟨rfl, rfl, rfl, rfl⟩

theorem WellFormed.playDue (h : j.WellFormed S held) (hplay : j.playout = true)
    (unmarshal : Bytes → Option Packet) (bufLen : ℕ) :
    Played S unmarshal j (j.playDue unmarshal bufLen) held := by
  have hplays := playDue_plays unmarshal bufLen j
  generalize j.playDue unmarshal bufLen = r at hplays ⊢
  cases hplays with
  | short => exact ⟨h, .refl j, .inl hplay, .inl rfl, by simp⟩
  | malformed hdue =>
    exact ⟨h.release hdue, release_sameSource _ j, .inl hplay, .inr rfl, by simp⟩
  | @released i pkt hdue hraw =>
    obtain ⟨hi, hseq⟩ := dueSlot_eq_some.mp hdue
    refine ⟨(h.release hdue).count _, (release_sameSource i j).trans (count_sameSource _ _),
      .inl hplay, .inr rfl, ?_⟩
    intro pkt' raw hrel
    obtain ⟨rfl, rfl⟩ : pkt = pkt' ∧ (j.slots i).raw = raw := by simpa using hrel
    exact ⟨rfl, i, mem_queue_of_slotAt hi, hseq, rfl, hraw⟩
  | stopped =>
    exact ⟨{ h with }, { SameSource.refl j with }, .inr rfl, .inl rfl,
      fun pkt raw hrel => absurd hrel (not_released_idle _ pkt raw)⟩
  | skipped hdue =>
    exact ⟨h.skip hdue, { SameSource.refl j with }, .inl hplay, .inr rfl, by simp⟩

structure Round (S : Slot → Prop) (unmarshal : Bytes → Option Packet) (j : JitterBuffer)
    (r : Decision × JitterBuffer) (held : List ℕ) : Prop where
  wellFormed : r.2.WellFormed S held
  same : j.SameSource r.2
  started : j.started → r.2.started
  forward : ahead j.expectedSeq r.2.expectedSeq < 32768
  released : ∀ pkt raw, r.1 = .released pkt raw → r.2.started ∧
    0 < ahead j.expectedSeq r.2.expectedSeq ∧
    ∃ i ∈ j.queue, (j.slots i).seq + 1 = r.2.expectedSeq ∧ (j.slots i).raw = raw ∧
      unmarshal raw = some pkt

def begun (j : JitterBuffer) (now : ℤ) : JitterBuffer :=
  if j.startsPlayout now then j.startPlayout now else j

theorem readRTP_eq (unmarshal : Bytes → Option Packet) (now : ℤ) (bufLen : ℕ) (j : JitterBuffer) :
    j.readRTP unmarshal now bufLen =
      if (j.begun now).playout ∧ (j.begun now).releaseAt ≤ now then
        (j.begun now).playDue unmarshal bufLen
      else ((j.begun now).idle, j.begun now) := rfl

theorem WellFormed.begun (h : j.WellFormed S held) (now : ℤ) :
    (j.begun now).WellFormed S held ∧ j.SameSource (j.begun now) ∧
      (j.begun now).queue = j.queue ∧ (j.started → (j.begun now).started) ∧
      ahead j.expectedSeq (j.begun now).expectedSeq < j.maxPackets := by
  unfold JitterBuffer.begun
  split_ifs
  · obtain ⟨hk, hsame, hq, hmove⟩ := h.startPlayout now
    exact ⟨hk, hsame, hq, fun _ => .inl rfl, hmove⟩
  · exact ⟨h, .refl j, rfl, id, by simpa using h.max_pos⟩

theorem WellFormed.readRTP (h : j.WellFormed S held) (unmarshal : Bytes → Option Packet) (now : ℤ)
    (bufLen : ℕ) : Round S unmarshal j (j.readRTP unmarshal now bufLen) held := by
  obtain ⟨hwf, hsame, hq, hstarted, hmove⟩ := h.begun now
  have hmax := h.max_le
  rw [readRTP_eq]
  generalize j.begun now = k at hwf hsame hq hstarted hmove ⊢
  split_ifs with hdue
  · have hplay := hwf.playDue hdue.1 unmarshal bufLen
    generalize k.playDue unmarshal bufLen = r at hplay ⊢
    have hon : ahead j.expectedSeq (k.expectedSeq + 1) = ahead j.expectedSeq k.expectedSeq + 1 :=
      ahead_succ_right (by omega)
    refine ⟨hplay.wellFormed, hsame.trans hplay.same, fun _ => hplay.started, ?_, ?_⟩
    · rcases hplay.next with hnext | hnext <;> rw [hnext] <;> omega
    · intro pkt raw hrel
      obtain ⟨hnext, i, hi, hseq, hraw, hpkt⟩ := hplay.released pkt raw hrel
      rw [hsame.slots] at hseq hraw
      exact ⟨hplay.started, by rw [hnext]; omega, i, hq ▸ hi, by rw [hseq, hnext], hraw, hpkt⟩
  · exact ⟨hwf, hsame, hstarted, by simp only; omega,
      fun pkt raw hrel => absurd hrel (not_released_idle k pkt raw)⟩

end JitterBuffer
end Diago.Jitter
