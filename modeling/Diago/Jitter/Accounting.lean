import Diago.Jitter.System

/-! # Every packet read is accounted for

A packet that was read is queued, or it has been counted as released, late, duplicate
or dropped, or it was queued when another source cleared the queue.
-/
namespace Diago.Jitter
open Lib

variable {S : Slot → Prop} {j k : JitterBuffer} {i : ℕ} {seq : UInt16} {now m : ℤ}
  {unmarshal : Bytes → Option Packet}

def Stats.settled (s : Stats) : ℕ :=
  s.packetsReleased + s.packetsLate + s.packetsDuplicate + s.packetsDropped

def Parses (unmarshal : Bytes → Option Packet) (slot : Slot) : Prop :=
  (unmarshal slot.raw).isSome = true

namespace JitterBuffer

/-- The packets read that are neither queued nor counted as gone. -/
def missing (j : JitterBuffer) : ℤ := j.stats.packetsRead - j.stats.settled - j.queued

/-- The books of the buffer with `m` packets missing, every packet queued satisfying `S`. -/
structure Booked (S : Slot → Prop) (j : JitterBuffer) (m : ℤ) : Prop where
  length : j.sequence.length = j.maxPackets
  max_pos : 0 < j.maxPackets
  queued : j.queued = j.queue.length
  sound : ∀ i ∈ j.queue, S (j.slots i)
  unset : j.ssrcSet = false → j.queue = []
  missing : j.missing = m

theorem newRTPJitterBuffer_booked {d : ℤ} {opts : Options}
    (hnew : newRTPJitterBuffer d opts = some j) : j.Booked S 0 := by
  have hopts := opts.normalized_bounds
  unfold newRTPJitterBuffer at hnew
  split_ifs at hnew
  cases hnew
  refine ⟨by simp, ?_, by simp [queue], by simp [queue], by simp [queue], rfl⟩
  simp only
  omega

/-! ### One packet -/

theorem Booked.settle (h : j.Booked S m) {f : Stats → Stats}
    (hread : (f j.stats).packetsRead = j.stats.packetsRead)
    (hgone : (f j.stats).settled = j.stats.settled + 1) : (j.count f).Booked S (m - 1) := by
  refine { h with missing := ?_ }
  have hm := h.missing
  simp only [JitterBuffer.missing, count, hread, hgone] at hm ⊢
  omega

theorem Booked.count (h : j.Booked S m) {f : Stats → Stats}
    (hread : (f j.stats).packetsRead = j.stats.packetsRead)
    (hsame : (f j.stats).settled = j.stats.settled) : (j.count f).Booked S m := by
  refine { h with missing := ?_ }
  have hm := h.missing
  simp only [JitterBuffer.missing, JitterBuffer.count, hread, hsame] at hm ⊢
  exact hm

theorem Booked.read (h : j.Booked S m) : (j.count .read).Booked S (m + 1) := by
  refine { h with missing := ?_ }
  have hm := h.missing
  simp only [JitterBuffer.missing, JitterBuffer.count, Stats.read, Stats.settled] at hm ⊢
  omega

theorem Booked.vacate (h : j.Booked S m) (hi : j.slotAt seq = some i) :
    (j.vacate seq).Booked S (m + 1) := by
  have hperm : (i :: (j.vacate seq).queue).Perm j.queue := vacate_queue hi
  have hlen := hperm.length_eq
  have hqueued := h.queued
  have hm := h.missing
  simp only [List.length_cons] at hlen
  refine ⟨?_, h.max_pos, ?_, fun x hx => ?_, fun hset => ?_, ?_⟩
  · rw [JitterBuffer.vacate, List.length_set, h.length]
  · simp only [JitterBuffer.vacate] at hlen ⊢
    omega
  · exact h.sound x (hperm.mem_iff.mp (List.mem_cons_of_mem _ hx))
  · have hmem := mem_queue_of_slotAt hi
    simp [h.unset hset] at hmem
  · simp only [JitterBuffer.missing, JitterBuffer.vacate] at hm ⊢
    omega

theorem Booked.occupy (h : j.Booked S m) (hset : j.ssrcSet = true) (hv : j.slotAt seq = none)
    (hS : S (j.slots i)) : (j.occupy seq i).Booked S (m - 1) := by
  have hperm : (j.occupy seq i).queue.Perm (i :: j.queue) :=
    occupy_queue h.length h.max_pos hv
  have hlen := hperm.length_eq
  have hqueued := h.queued
  have hm := h.missing
  simp only [List.length_cons] at hlen
  refine ⟨?_, h.max_pos, ?_, fun x hx => ?_, fun hunset => ?_, ?_⟩
  · rw [JitterBuffer.occupy, List.length_set, h.length]
  · simp only [JitterBuffer.occupy] at hlen ⊢
    omega
  · obtain rfl | hx := List.mem_cons.mp (hperm.mem_iff.mp hx)
    · exact hS
    · exact h.sound x hx
  · simp [JitterBuffer.occupy, hset] at hunset
  · simp only [JitterBuffer.missing, JitterBuffer.occupy] at hm ⊢
    omega

theorem Booked.resetStream (h : j.Booked S m) (now : ℤ) (ssrc : UInt32) (seq : UInt16) :
    (j.resetStream now ssrc seq).Booked S (m + j.queue.length) := by
  have hempty := resetStream_queue j now ssrc seq
  have hqueued := h.queued
  have hm := h.missing
  rw [JitterBuffer.resetStream, clearSequence_eq] at hempty ⊢
  refine ⟨by simp [h.length], h.max_pos, by rw [hempty]; rfl, by simp [hempty], fun _ => hempty, ?_⟩
  simp only [JitterBuffer.missing] at hm ⊢
  omega

/-! ### Filing -/

theorem Booked.drop (h : j.Booked S m) (hi : j.slotAt seq = some i) :
    (((j.count .dropped).vacate seq).freeSlot i).Booked S m := by
  have hgone : (j.count .dropped).Booked S (m - 1) :=
    h.settle rfl (by simp only [Stats.dropped, Stats.settled]; omega)
  have hoff : ((j.count .dropped).vacate seq).Booked S (m - 1 + 1) := hgone.vacate hi
  rw [sub_add_cancel] at hoff
  exact { hoff with }

theorem Booked.makeRoom (h : j.Booked S m) : (j.makeRoom seq).Booked S m :=
  makeRoom_keeps (P := fun k => k.Booked S m) (fun _ _ _ hi hk => hk.drop hi)
    (fun _ _ hk => { hk with }) h

theorem Booked.enqueue (h : j.Booked S m) (hset : j.ssrcSet = true) (hS : S (j.slots i)) :
    (j.enqueue now i).Booked S (m - 1) := by
  unfold JitterBuffer.enqueue
  split
  case h_1 existing _ =>
    split_ifs
    · have hgone : (j.count .duplicate).Booked S (m - 1) :=
        h.settle rfl (by simp only [Stats.duplicate, Stats.settled]; omega)
      exact { hgone with }
    · have hgone : (j.count .dropped).Booked S (m - 1) :=
        h.settle rfl (by simp only [Stats.dropped, Stats.settled]; omega)
      exact { hgone with }
  case h_2 hv =>
    have hin := h.occupy hset hv hS
    unfold JitterBuffer.resume
    split_ifs
    · exact { hin with }
    · exact hin

theorem Booked.place (h : j.Booked S m) (hset : j.ssrcSet = true) (hS : S (j.slots i)) :
    ((j.makeRoom seq).enqueue now i).Booked S (m - 1) := by
  obtain ⟨hslots, hssrc⟩ : (j.makeRoom seq).slots = j.slots ∧
      (j.makeRoom seq).ssrcSet = j.ssrcSet :=
    makeRoom_keeps (P := fun k => k.slots = j.slots ∧ k.ssrcSet = j.ssrcSet)
      (fun _ _ _ _ hk => hk) (fun _ _ hk => hk) ⟨rfl, rfl⟩
  exact h.makeRoom.enqueue (by rwa [hssrc]) (by rwa [hslots])

theorem Booked.fileSlot (h : j.Booked S m) (hset : j.ssrcSet = true) (hS : S (j.slots i))
    (now : ℤ) : (j.fileSlot now i).Booked S (m - 1) := by
  unfold JitterBuffer.fileSlot
  split_ifs
  · have hgone : (j.count .late).Booked S (m - 1) :=
      h.settle rfl (by simp only [Stats.late, Stats.settled]; omega)
    exact { hgone with }
  · have hback : (j.moveBackTo (j.slots i).seq).Booked S m := { h with }
    exact hback.place hset hS
  · have hgone : (j.count .dropped).Booked S (m - 1) :=
      h.settle rfl (by simp only [Stats.dropped, Stats.settled]; omega)
    exact { hgone with }
  · exact h.place hset hS

/-- The packets a packet of another source clears off the queue. -/
def clearedBy (j : JitterBuffer) (pkt : Packet) : ℕ :=
  if j.ssrcSet ∧ j.ssrc ≠ pkt.ssrc then j.queue.length else 0

theorem Booked.followSource (h : j.Booked S m) (now : ℤ) (pkt : Packet) :
    (j.followSource now pkt).Booked S (m + j.clearedBy pkt) := by
  unfold JitterBuffer.followSource clearedBy
  by_cases hset : j.ssrcSet
  · by_cases hsrc : j.ssrc = pkt.ssrc
    · simpa [hset, hsrc] using h
    · have hcount : (j.count .ssrcReset).Booked S m := h.count rfl rfl
      have hreset : (JitterBuffer.resetStream now pkt.ssrc pkt.seq (j.count .ssrcReset)).Booked S
          (m + j.queue.length) := hcount.resetStream now pkt.ssrc pkt.seq
      simpa [hset, hsrc] using hreset
  · have hfirst := h.resetStream now pkt.ssrc pkt.seq
    simpa [hset, h.unset (by simpa using hset)] using hfirst

theorem Booked.restartOutside (h : j.Booked S m) (now : ℤ) (pkt : Packet) :
    (j.restartOutside now pkt).Booked S m := by
  unfold JitterBuffer.restartOutside
  split_ifs with hout
  · have hempty : j.queued = 0 := by
      simp only [outsideWindow, Bool.and_eq_true, decide_eq_true_eq] at hout
      exact hout.1.2
    have hreset := h.resetStream now pkt.ssrc pkt.seq
    rw [← h.queued, hempty, add_zero] at hreset
    exact hreset
  · exact h

theorem Booked.learnPacketDuration (h : j.Booked S m) (pkt : Packet) :
    (j.learnPacketDuration pkt).Booked S m := by
  obtain ⟨d, s, p, heq⟩ := learnPacketDuration_eq j pkt
  rw [heq]
  exact { h with }

/-- The stream a packet is filed into has its source, and the slots are as they were. -/
theorem settle_frame (j : JitterBuffer) (now : ℤ) (pkt : Packet) :
    (((j.followSource now pkt).restartOutside now pkt).learnPacketDuration pkt).slots = j.slots ∧
      (((j.followSource now pkt).restartOutside now pkt).learnPacketDuration pkt).ssrcSet =
        true := by
  have hfollow : (j.followSource now pkt).slots = j.slots ∧
      (j.followSource now pkt).ssrcSet = true := by
    unfold JitterBuffer.followSource
    split_ifs with hsrc
    · exact ⟨resetStream_slots .., rfl⟩
    · exact ⟨resetStream_slots .., rfl⟩
    · exact ⟨rfl, by simpa using (not_or.mp hsrc).1⟩
  obtain ⟨d, s, p, heq⟩ := learnPacketDuration_eq ((j.followSource now pkt).restartOutside now pkt)
    pkt
  rw [heq]
  unfold JitterBuffer.restartOutside
  split_ifs
  · exact ⟨(resetStream_slots _ now pkt.ssrc pkt.seq).trans hfollow.1, rfl⟩
  · exact hfollow

theorem Booked.handleSlot (h : j.Booked S m) (hS : S (j.slots i)) (now : ℤ) :
    (j.handleSlot now i).Booked S (m + j.clearedBy (j.slots i).packet) := by
  have hsettled := ((h.read.followSource now (j.slots i).packet).restartOutside now
    (j.slots i).packet).learnPacketDuration (j.slots i).packet
  obtain ⟨hslots, hset⟩ := settle_frame (j.count .read) now (j.slots i).packet
  have hfiled := hsettled.fileSlot (i := i) hset (by rwa [hslots]) now
  have hone : m + 1 + ((j.count .read).clearedBy (j.slots i).packet : ℤ) - 1 =
      m + j.clearedBy (j.slots i).packet := by
    have hcleared : (j.count .read).clearedBy (j.slots i).packet =
        j.clearedBy (j.slots i).packet := rfl
    omega
  rw [hone] at hfiled
  exact hfiled

theorem Booked.fill (h : j.Booked S m) {slot : Slot} (hS : S slot) (i : ℕ) :
    (j.fill i slot).Booked S m := by
  refine { h with sound := fun x hx => ?_ }
  by_cases hxi : x = i
  · rw [hxi, fill_slots_self]
    exact hS
  · have hother : (j.fill i slot).slots x = j.slots x := Function.update_of_ne hxi _ _
    rw [hother]
    exact h.sound x hx

/-! ### Playing -/

theorem Booked.startPlayout (h : j.Booked S m) (now : ℤ) : (j.startPlayout now).Booked S m := by
  have hskip : (skipLost 65536 { j with startAt := none }).Booked S m :=
    skipLost_keeps (P := fun k => k.Booked S m)
      (fun k hk => { hk.count (f := Stats.lost) rfl rfl with }) _ { h with }
  exact { hskip with }

theorem Booked.begun (h : j.Booked S m) (now : ℤ) : (j.begun now).Booked S m := by
  unfold JitterBuffer.begun
  split_ifs
  · exact h.startPlayout now
  · exact h

theorem Booked.release (h : j.Booked S m) (hdue : j.dueSlot = some i) :
    (j.release i).Booked S (m + 1) :=
  { h.vacate (dueSlot_eq_some.mp hdue).1 with }

/-- A packet whose bytes still parse is counted when it is taken off. -/
theorem Booked.playDue (h : j.Booked (Parses unmarshal) m) (bufLen : ℕ) :
    (j.playDue unmarshal bufLen).2.Booked (Parses unmarshal) m := by
  have hplays := playDue_plays unmarshal bufLen j
  generalize j.playDue unmarshal bufLen = r at hplays ⊢
  cases hplays with
  | short => exact h
  | @malformed i hdue hraw =>
    have hparses := h.sound i (mem_queue_of_slotAt (dueSlot_eq_some.mp hdue).1)
    simp [Parses, hraw] at hparses
  | @released i pkt hdue =>
    have hgone := (h.release hdue).settle (f := Stats.released pkt.seq) rfl
      (by simp only [Stats.released, Stats.settled]; omega)
    rwa [add_sub_cancel_right] at hgone
  | stopped => exact { h.count (f := Stats.underrun) rfl rfl with }
  | skipped => exact { h.count (f := Stats.lost) rfl rfl with }

theorem Booked.readRTP (h : j.Booked (Parses unmarshal) m) (now : ℤ) (bufLen : ℕ) :
    (j.readRTP unmarshal now bufLen).2.Booked (Parses unmarshal) m := by
  rw [readRTP_eq]
  split_ifs
  · exact (h.begun now).playDue bufLen
  · exact h.begun now

end JitterBuffer

/-! ### Whole runs -/

/-- A run with the number of packets that were queued when another source cleared the queue. -/
structure Ledger where
  system : System
  cleared : ℕ := 0

/-- The packets an event clears off the queue by another source. -/
def clearedBy (x : System) : Event → ℕ
  | .packet _ slot => if x.reading.isSome then x.buffer.clearedBy slot.packet else 0
  | _ => 0

def Ledger.step (unmarshal : Bytes → Option Packet) (l : Ledger) (e : Event) : Ledger :=
  ⟨stepSystem unmarshal l.system e, l.cleared + clearedBy l.system e⟩

theorem Ledger.booked_step {l : Ledger} {e : Event}
    (h : l.system.buffer.Booked (Parses unmarshal) l.cleared) (he : e.Sound (Parses unmarshal)) :
    (l.step unmarshal e).system.buffer.Booked (Parses unmarshal) (l.step unmarshal e).cleared := by
  obtain ⟨⟨j, reading⟩, cleared⟩ := l
  have hj : j.Booked (Parses unmarshal) cleared := h
  cases e with
  | take =>
    simp only [Ledger.step, stepSystem, clearedBy, add_zero]
    split_ifs
    · cases htake : j.takeSlot with
      | none => exact hj
      | some taken =>
        rw [Option.elim_some, (takeSlot_eq_some htake).2]
        exact { hj with }
    · exact hj
  | upstreamError err => cases reading <;> exact { hj with }
  | keepAlive => cases reading <;> exact { hj with }
  | packet now slot =>
    cases reading with
    | none => exact hj
    | some i =>
      have hfill := hj.fill he i
      have hfiled := hfill.handleSlot (i := i) (by rwa [JitterBuffer.fill_slots_self]) now
      rw [JitterBuffer.fill_slots_self] at hfiled
      simp only [Ledger.step, stepSystem, clearedBy, Nat.cast_add]
      exact hfiled
  | readRTP now bufLen => exact hj.readRTP now bufLen
  | update sampleDur sampleRate => exact { hj with }

def booked (unmarshal : Bytes → Option Packet) (j : JitterBuffer) (events : List Event) : Ledger :=
  runFrom (Ledger.step unmarshal) { system := ⟨j, none⟩ } events

theorem booked_system (unmarshal : Bytes → Option Packet) (j : JitterBuffer)
    (events : List Event) : (booked unmarshal j events).system = reached unmarshal j events :=
  (List.foldl_hom Ledger.system fun _ _ => rfl).symm

/-- Every packet read is accounted for: it has been released, was late, a duplicate or dropped, is
queued, or was queued when another source cleared the queue. -/
theorem packets_accounted (unmarshal : Bytes → Option Packet) {d : ℤ} {opts : Options}
    (hnew : newRTPJitterBuffer d opts = some j) (events : List Event)
    (hparse : ∀ e ∈ events, e.Sound (Parses unmarshal)) :
    let l := booked unmarshal j events
    let b := l.system.buffer
    l.system = reached unmarshal j events ∧ b.queued = b.sequence.countP Option.isSome ∧
      (b.stats.packetsRead : ℤ) = b.stats.packetsReleased + b.stats.packetsLate +
        b.stats.packetsDuplicate + b.stats.packetsDropped + b.queued + l.cleared := by
  have hstep : ∀ (l : Ledger) (e : Event), l.system.buffer.Booked (Parses unmarshal) l.cleared →
      e.Sound (Parses unmarshal) → (l.step unmarshal e).system.buffer.Booked (Parses unmarshal)
        (l.step unmarshal e).cleared := fun _ _ hl he => Ledger.booked_step hl he
  have hinit : j.Booked (Parses unmarshal) (0 : ℕ) := JitterBuffer.newRTPJitterBuffer_booked hnew
  have hbooked : (booked unmarshal j events).system.buffer.Booked (Parses unmarshal)
      (booked unmarshal j events).cleared :=
    runFrom_invariant_of_mem (s := { system := ⟨j, none⟩ }) _ hstep hinit hparse
  refine ⟨booked_system unmarshal j events, ?_, ?_⟩
  · rw [hbooked.queued, JitterBuffer.queue, List.reduceOption_length_eq,
      List.countP_eq_length_filter]
  · have hmissing := hbooked.missing
    simp only [JitterBuffer.missing, Stats.settled] at hmissing
    omega

/-- Of three packets read, one is released, one is cleared by another source and one is queued. -/
theorem three_packets_accounted :
    let l := booked readNumbered defaultBuffer
      [.take, .packet 0 (numbered 5), .take, .packet 0 (numbered 6), .readRTP 400000000 1500, .take,
        .packet 400000000 ⟨[0, 9], ⟨8, 9, 0, 0, false⟩⟩]
    let b := l.system.buffer
    (b.stats.packetsRead = 3 ∧ b.stats.packetsReleased = 1 ∧ b.queued = 1 ∧ l.cleared = 1) ∧
      (b.stats.packetsRead : ℤ) = b.stats.packetsReleased + b.stats.packetsLate +
        b.stats.packetsDuplicate + b.stats.packetsDropped + b.queued + l.cleared :=
  ⟨by decide +kernel,
    (packets_accounted readNumbered (Option.some_get _).symm _ (by
      simp [Event.Sound, Parses, readNumbered, numbered])).2.2⟩

end Diago.Jitter
