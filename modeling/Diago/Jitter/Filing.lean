import Diago.Jitter.Slots

/-! # Filing a packet

A packet starts the stream again or is filed into the one that runs, as late, dropped,
duplicate or queued.
-/
namespace Diago.Jitter
open Lib

variable {S : Slot → Prop} {j k : JitterBuffer} {held : List ℕ} {i : ℕ} {seq : UInt16} {now : ℤ}

namespace JitterBuffer

/-- The packet read into a slot has been filed into the stream. Once playout has started, the
window does not move back for it. -/
structure Filed (S : Slot → Prop) (j k : JitterBuffer) (held : List ℕ) : Prop where
  wellFormed : k.WellFormed S held
  same : j.SameStream k
  forward : j.playout ∨ j.resync → ahead j.expectedSeq k.expectedSeq < 32768

theorem Filed.discard (h : j.WellFormed S (i :: held)) (f : Stats → Stats) :
    Filed S j ((j.count f).freeSlot i) held :=
  ⟨(h.count f).freeSlot, ⟨⟨rfl, rfl, rfl, rfl⟩, rfl, rfl⟩,
    fun _ => by simp [JitterBuffer.freeSlot, JitterBuffer.count]⟩

theorem WellFormed.resume (h : j.WellFormed S held) : (j.resume now).WellFormed S held := by
  unfold JitterBuffer.resume
  split_ifs
  · exact { h with }
  · exact h

theorem WellFormed.enqueue (h : j.WellFormed S (i :: held))
    (hw : ahead j.expectedSeq (j.slots i).seq < j.maxPackets) (hs : (j.slots i).ssrc = j.ssrc)
    (hS : S (j.slots i)) : (j.enqueue now i).WellFormed S held := by
  unfold JitterBuffer.enqueue
  split
  case h_1 existing _ =>
    split_ifs
    · exact (h.count _).freeSlot
    · exact (h.count _).freeSlot
  case h_2 hv => exact (h.occupy hv hw hs hS).resume

theorem enqueue_frame (j : JitterBuffer) (now : ℤ) (i : ℕ) :
    j.SameStream (j.enqueue now i) ∧ (j.enqueue now i).expectedSeq = j.expectedSeq := by
  unfold enqueue resume
  split <;> split_ifs <;> exact ⟨⟨⟨rfl, rfl, rfl, rfl⟩, rfl, rfl⟩, rfl⟩

theorem WellFormed.slotAt_eq_none_iff (h : j.WellFormed S held) :
    j.slotAt seq = none ↔ ∀ i ∈ j.queue, j.position (j.slots i).seq ≠ j.position seq := by
  constructor
  · intro hv i hi hpos
    have hat := h.slotAt_of_mem hi
    rw [slotAt, hpos, ← slotAt, hv] at hat
    simp at hat
  · intro hne
    cases hat : j.slotAt seq with
    | none => rfl
    | some i =>
      exact absurd (h.position _ i (slotAt_eq_some.mp hat)).symm (hne i (mem_queue_of_slotAt hat))

theorem resume_frame (j : JitterBuffer) (now : ℤ) :
    (j.resume now).queue = j.queue ∧ (j.resume now).stats = j.stats := by
  unfold resume
  split_ifs <;> exact ⟨rfl, rfl⟩

/-- A number not queued yet is queued without a drop exactly if its position is vacant. -/
theorem WellFormed.enqueue_iff (h : j.WellFormed S (i :: held)) (now : ℤ)
    (hfresh : ∀ x ∈ j.queue, (j.slots x).seq ≠ (j.slots i).seq) :
    (i ∈ (j.enqueue now i).queue ∧
        (j.enqueue now i).stats.packetsDropped = j.stats.packetsDropped) ↔
      j.slotAt (j.slots i).seq = none := by
  unfold JitterBuffer.enqueue
  split
  case h_1 existing hat =>
    rw [if_neg (hfresh existing (mem_queue_of_slotAt hat))]
    simp [JitterBuffer.freeSlot, JitterBuffer.count, Stats.dropped, hat]
  case h_2 hv =>
    obtain ⟨hqueue, hstats⟩ := resume_frame (j.occupy (j.slots i).seq i) now
    have hperm : (j.occupy (j.slots i).seq i).queue.Perm (i :: j.queue) :=
      occupy_queue h.length h.max_pos hv
    rw [hqueue, hstats, hperm.mem_iff]
    simp [JitterBuffer.occupy, hv]

theorem WellFormed.place (h : j.WellFormed S (i :: held)) (hd : 0 ≤ j.distance (j.slots i).seq)
    (hs : (j.slots i).ssrc = j.ssrc) (hS : S (j.slots i)) :
    Filed S j ((j.makeRoom (j.slots i).seq).enqueue now i) held := by
  have hroom := h.makeRoom hd
  set k := j.makeRoom (j.slots i).seq
  obtain ⟨hsame, hexp⟩ := enqueue_frame k now i
  have hslot : k.slots i = j.slots i := by rw [hroom.same.slots]
  refine ⟨hroom.wellFormed.enqueue ?_ ?_ ?_, hroom.same.trans hsame, fun _ => ?_⟩
  · rw [hslot]
    exact hroom.fits
  · rw [hslot, hroom.same.ssrc, hs]
  · rwa [hslot]
  · rw [hexp]
    exact hroom.forward

theorem WellFormed.fileSlot (h : j.WellFormed S (i :: held)) (hs : (j.slots i).ssrc = j.ssrc)
    (hS : S (j.slots i)) : Filed S j (j.fileSlot now i) held := by
  unfold JitterBuffer.fileSlot
  split_ifs with hd hstarted hback
  · exact Filed.discard h _
  · have hd' : 0 ≤ (j.moveBackTo (j.slots i).seq).distance (j.slots i).seq := by
      simp [distance, moveBackTo]
    have hplace : Filed S (j.moveBackTo (j.slots i).seq)
        (((j.moveBackTo (j.slots i).seq).makeRoom (j.slots i).seq).enqueue now i) held :=
      (h.moveBack hback).place hd' hs hS
    exact ⟨hplace.wellFormed, { hplace.same with }, fun hst => absurd hst hstarted⟩
  · exact Filed.discard h _
  · exact h.place (by omega) hs hS

theorem fileSlot_eq_enqueue (hin : ahead j.expectedSeq (j.slots i).seq < j.maxPackets)
    (hmax : j.maxPackets ≤ 32767) : j.fileSlot now i = j.enqueue now i := by
  have hd : j.distance (j.slots i).seq = ahead j.expectedSeq (j.slots i).seq :=
    int16_of_ahead_lt (by omega)
  rw [fileSlot, if_neg (by omega), makeRoom, if_neg (by omega)]

/-- The packet starts the stream again, as a new source or a sender that restarted does. -/
def restarts (j : JitterBuffer) (pkt : Packet) : Prop :=
  j.ssrcSet = false ∨ j.ssrc ≠ pkt.ssrc ∨ j.outsideWindow pkt.seq = true

instance (j : JitterBuffer) (pkt : Packet) : Decidable (j.restarts pkt) :=
  inferInstanceAs (Decidable (_ ∨ _ ∨ _))

structure Settled (S : Slot → Prop) (j k : JitterBuffer) (pkt : Packet) (held : List ℕ) : Prop where
  wellFormed : k.WellFormed S held
  slots : k.slots = j.slots
  maxPackets : k.maxPackets = j.maxPackets
  ssrc : k.ssrc = pkt.ssrc
  ssrcSet : k.ssrcSet = true
  restarted : j.restarts pkt →
    k.expectedSeq = pkt.seq ∧ k.playout = false ∧ k.resync = false ∧ k.queue = []
  continued : ¬ j.restarts pkt →
    j.SameStream k ∧ k.expectedSeq = j.expectedSeq ∧ k.sequence = j.sequence ∧
      k.stats.packetsDropped = j.stats.packetsDropped

theorem Settled.reset (h : k.WellFormed S held) (pkt : Packet) (now : ℤ) (hs : k.slots = j.slots)
    (hm : k.maxPackets = j.maxPackets) (hr : j.restarts pkt) :
    Settled S j (k.resetStream now pkt.ssrc pkt.seq) pkt held where
  wellFormed := h.resetStream _ _
  slots := by rw [resetStream_slots, hs]
  maxPackets := by rw [resetStream_maxPackets, hm]
  ssrc := rfl
  ssrcSet := rfl
  restarted _ := ⟨rfl, rfl, rfl, resetStream_queue _ _ _ _⟩
  continued hc := absurd hr hc

theorem WellFormed.settle (h : j.WellFormed S held) (pkt : Packet) (now : ℤ) :
    Settled S j (((j.count .read).followSource now pkt).restartOutside now pkt) pkt held := by
  by_cases hsrc : j.ssrcSet = false ∨ j.ssrc ≠ pkt.ssrc
  · have hr : j.restarts pkt := hsrc.imp_right .inl
    have hnot (k : JitterBuffer) : (k.resetStream now pkt.ssrc pkt.seq).restartOutside now pkt =
        k.resetStream now pkt.ssrc pkt.seq :=
      if_neg (by simp [outsideWindow, JitterBuffer.resetStream])
    have hfollow : (j.count .read).followSource now pkt =
        (if j.ssrcSet then (j.count .read).count .ssrcReset else j.count .read).resetStream now
          pkt.ssrc pkt.seq := if_pos hsrc
    rw [hfollow, hnot]
    split_ifs
    · exact .reset ((h.count _).count _) pkt now rfl rfl hr
    · exact .reset (h.count _) pkt now rfl rfl hr
  · have hsame : (j.count .read).followSource now pkt = j.count .read := if_neg hsrc
    rw [hsame, restartOutside]
    obtain ⟨hset, hssrc⟩ := not_or.mp hsrc
    split_ifs with hout
    · exact .reset (h.count _) pkt now rfl rfl (.inr (.inr hout))
    · refine ⟨h.count _, rfl, rfl, not_not.mp hssrc, by simpa [JitterBuffer.count] using hset, fun hr => ?_,
        fun _ => ⟨{ SameStream.refl j with }, rfl, rfl, rfl⟩⟩
      exact absurd hr (not_or.mpr ⟨hset, not_or.mpr ⟨hssrc, hout⟩⟩)

theorem learnPacketDuration_eq (j : JitterBuffer) (pkt : Packet) :
    ∃ d s p, j.learnPacketDuration pkt =
      { j with packetDuration := d, step := s, pendingStep := p } := by
  unfold learnPacketDuration
  split_ifs
  · exact ⟨_, _, _, rfl⟩
  · split
    · split_ifs <;> exact ⟨_, _, _, rfl⟩
    · exact ⟨_, _, _, rfl⟩
  · split
    · split_ifs <;> exact ⟨_, _, _, rfl⟩
    · exact ⟨_, _, _, rfl⟩

theorem Settled.learn {pkt : Packet} (h : Settled S j k pkt held) :
    Settled S j (k.learnPacketDuration pkt) pkt held := by
  obtain ⟨d, s, p, heq⟩ := learnPacketDuration_eq k pkt
  rw [heq]
  refine { h with wellFormed := { h.wellFormed with }, continued := fun hc => ?_ }
  obtain ⟨hsame, hexp⟩ := h.continued hc
  exact ⟨{ hsame with }, hexp⟩

theorem WellFormed.handleSlot_eq (h : j.WellFormed S (i :: held)) (now : ℤ) :
    ∃ k, Settled S j k (j.slots i).packet (i :: held) ∧ j.handleSlot now i = k.fileSlot now i :=
  ⟨_, (h.settle _ now).learn, rfl⟩

theorem WellFormed.handleSlot (h : j.WellFormed S (i :: held)) (hS : S (j.slots i)) (now : ℤ) :
    ∃ k, Settled S j k (j.slots i).packet (i :: held) ∧ Filed S k (j.handleSlot now i) held := by
  obtain ⟨k, hk, heq⟩ := h.handleSlot_eq now
  refine ⟨k, hk, heq ▸ hk.wellFormed.fileSlot ?_ ?_⟩
  · rw [hk.slots, hk.ssrc]
  · rwa [hk.slots]

/-- A packet of the running source inside the window does not start the stream again. -/
theorem not_restarts {pkt : Packet} (hset : j.ssrcSet = true) (hsrc : pkt.ssrc = j.ssrc)
    (hin : ahead j.expectedSeq pkt.seq < j.maxPackets) (hmax : j.maxPackets ≤ 32767) :
    ¬ j.restarts pkt := by
  have hd : j.distance pkt.seq = ahead j.expectedSeq pkt.seq := int16_of_ahead_lt (by omega)
  rintro (hunset | hother | hout)
  · simp [hset] at hunset
  · exact hother hsrc.symm
  · simp only [outsideWindow, Bool.and_eq_true, Bool.or_eq_true, decide_eq_true_eq] at hout
    omega

/-- A packet of the running source inside the window, its number not queued yet, is queued without
a drop exactly if no packet queued shares its position. -/
theorem WellFormed.handleSlot_accepts_iff (h : j.WellFormed S (i :: held)) (now : ℤ)
    (hset : j.ssrcSet = true) (hsrc : (j.slots i).ssrc = j.ssrc)
    (hin : ahead j.expectedSeq (j.slots i).seq < j.maxPackets)
    (hfresh : ∀ x ∈ j.queue, (j.slots x).seq ≠ (j.slots i).seq) :
    (i ∈ (j.handleSlot now i).queue ∧
        (j.handleSlot now i).stats.packetsDropped = j.stats.packetsDropped) ↔
      ∀ x ∈ j.queue, j.position (j.slots x).seq ≠ j.position (j.slots i).seq := by
  obtain ⟨k, hk, heq⟩ := h.handleSlot_eq now
  obtain ⟨hsame, hexp, hseq, hdropped⟩ := hk.continued (not_restarts hset hsrc hin h.max_le)
  have hqueue : k.queue = j.queue := congrArg List.reduceOption hseq
  rw [heq, fileSlot_eq_enqueue (by rwa [hsame.slots, hexp, hsame.maxPackets])
    (by rw [hsame.maxPackets]; exact h.max_le), ← hdropped,
    hk.wellFormed.enqueue_iff now (by rwa [hqueue, hsame.slots]), hk.wellFormed.slotAt_eq_none_iff,
    hqueue, hsame.slots]
  simp only [JitterBuffer.position, hsame.maxPackets]

theorem WellFormed.handleSlot_slots (h : j.WellFormed S (i :: held)) (hS : S (j.slots i))
    (now : ℤ) : (j.handleSlot now i).slots = j.slots := by
  obtain ⟨k, hk, hfiled⟩ := h.handleSlot hS now
  exact hfiled.same.slots.trans hk.slots

end JitterBuffer
end Diago.Jitter
