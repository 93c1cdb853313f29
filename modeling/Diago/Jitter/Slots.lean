import Diago.Jitter.Buffer
import Diago.Lib.SlotTable

/-! # The slots of the jitter buffer

Every slot is free, queued or held by the read loop, and every queued packet stands at
the position of its sequence number inside the window.
-/
namespace Diago.Jitter
open Lib

variable {S : Slot → Prop} {j k : JitterBuffer} {held : List ℕ} {i : ℕ} {seq : UInt16} {now : ℤ}

theorem Options.normalized_bounds (opts : Options) :
    1 ≤ opts.normalized.delayPackets ∧
      opts.normalized.delayPackets ≤ opts.normalized.maxPackets := by
  simp only [Options.normalized, defaultRTPJitterBufferDelayPackets,
    defaultRTPJitterBufferMaxPackets]
  split_ifs <;> omega

namespace JitterBuffer

def queue (j : JitterBuffer) : List ℕ := j.sequence.reduceOption

/-- The invariant of the buffer while the slots of `held` are read into, every packet queued
satisfying `S`. -/
structure WellFormed (S : Slot → Prop) (j : JitterBuffer) (held : List ℕ) : Prop where
  length : j.sequence.length = j.maxPackets
  slots : (j.freeSlots ++ j.queue ++ held).Perm (List.range (j.maxPackets + 1))
  queued : j.queued = j.queue.length
  position : ∀ p i, j.sequence[p]? = some (some i) → p = j.position (j.slots i).seq
  window : ∀ i ∈ j.queue, ahead j.expectedSeq (j.slots i).seq < j.maxPackets
  source : ∀ i ∈ j.queue, (j.slots i).ssrc = j.ssrc
  sound : ∀ i ∈ j.queue, S (j.slots i)
  delay_pos : 1 ≤ j.delayPackets
  delay_le : j.delayPackets ≤ j.maxPackets
  max_le : j.maxPackets ≤ 32767

theorem WellFormed.max_pos (h : j.WellFormed S held) : 0 < j.maxPackets :=
  Nat.lt_of_lt_of_le h.delay_pos h.delay_le

theorem slotAt_eq_some : j.slotAt seq = some i ↔ j.sequence[j.position seq]? = some (some i) := by
  rw [slotAt, List.getD_eq_getElem?_getD]
  cases j.sequence[j.position seq]? <;> simp

theorem vacant (hlen : j.sequence.length = j.maxPackets) (hmax : 0 < j.maxPackets)
    (hv : j.slotAt seq = none) : j.sequence[j.position seq]? = some none := by
  have hp : j.position seq < j.sequence.length := by
    rw [hlen]
    exact Nat.mod_lt _ hmax
  rw [slotAt, List.getD_eq_getElem?_getD, List.getElem?_eq_getElem hp, Option.getD_some] at hv
  rw [List.getElem?_eq_getElem hp, hv]

theorem mem_queue_of_slotAt (h : j.slotAt seq = some i) : i ∈ j.queue :=
  mem_reduceOption.mpr ⟨_, slotAt_eq_some.mp h⟩

theorem WellFormed.slotAt_of_mem (h : j.WellFormed S held) (hi : i ∈ j.queue) :
    j.slotAt (j.slots i).seq = some i := by
  obtain ⟨p, hp⟩ := mem_reduceOption.mp hi
  rw [slotAt_eq_some, ← h.position p i hp]
  exact hp

theorem WellFormed.not_mem_queue (h : j.WellFormed S (i :: held)) : i ∉ j.queue := by
  intro hi
  have hnd : (j.freeSlots ++ j.queue ++ i :: held).Nodup := h.slots.nodup_iff.mpr List.nodup_range
  exact (List.nodup_append.mp hnd).2.2 i (by simp [hi]) i (by simp) rfl

theorem WellFormed.freeSlots_ne_nil (h : j.WellFormed S []) : j.freeSlots ≠ [] := by
  intro hnil
  have hlen : j.queue.length ≤ j.maxPackets := h.length ▸ List.reduceOption_length_le _
  have hall := h.slots.length_eq
  simp only [hnil, List.nil_append, List.append_nil, List.length_range] at hall
  omega

theorem newRTPJitterBuffer_wellFormed {d : ℤ} {opts : Options}
    (hnew : newRTPJitterBuffer d opts = some j) (hmax : j.maxPackets ≤ 32767) :
    j.WellFormed S [] := by
  have hopts := opts.normalized_bounds
  unfold newRTPJitterBuffer at hnew
  split_ifs at hnew
  cases hnew
  exact
    { length := by simp
      slots := by simp [queue]
      queued := by simp [queue]
      position := fun p i hp => by simp [List.getElem?_replicate] at hp
      window := by simp [queue]
      source := by simp [queue]
      sound := by simp [queue]
      delay_pos := by simp only; omega
      delay_le := by simp only; omega
      max_le := hmax }

/-! ### Moving slots -/

theorem freeSlot_slots (j : JitterBuffer) (i : ℕ) (held : List ℕ) :
    ((j.freeSlot i).freeSlots ++ (j.freeSlot i).queue ++ held).Perm
      (j.freeSlots ++ j.queue ++ i :: held) :=
  List.perm_middle.symm

theorem WellFormed.freeSlot (h : j.WellFormed S (i :: held)) : (j.freeSlot i).WellFormed S held :=
  { h with slots := (freeSlot_slots j i held).trans h.slots }

theorem vacate_queue (hi : j.slotAt seq = some i) : (i :: (j.vacate seq).queue).Perm j.queue :=
  reduceOption_set_perm none (slotAt_eq_some.mp hi)

theorem occupy_queue (hlen : j.sequence.length = j.maxPackets) (hmax : 0 < j.maxPackets)
    (hv : j.slotAt seq = none) : (j.occupy seq i).queue.Perm (i :: j.queue) :=
  reduceOption_set_perm (some i) (vacant hlen hmax hv)

theorem vacate_slots (hi : j.slotAt seq = some i) (held : List ℕ) :
    (j.freeSlots ++ (j.vacate seq).queue ++ i :: held).Perm (j.freeSlots ++ j.queue ++ held) := by
  have hq := vacate_queue hi
  refine List.perm_middle.trans (List.Perm.trans ?_ ((hq.append_left _).append_right _))
  rw [← List.cons_append]
  exact List.perm_middle.symm.append_right _

theorem occupy_slots (hlen : j.sequence.length = j.maxPackets) (hmax : 0 < j.maxPackets)
    (hv : j.slotAt seq = none) (held : List ℕ) :
    (j.freeSlots ++ (j.occupy seq i).queue ++ held).Perm
      (j.freeSlots ++ j.queue ++ i :: held) := by
  have hq := occupy_queue (i := i) hlen hmax hv
  refine (((hq.append_left _).trans List.perm_middle).append_right _).trans ?_
  exact List.perm_middle.symm

theorem WellFormed.vacate (h : j.WellFormed S held) (hi : j.slotAt seq = some i) :
    (j.vacate seq).WellFormed S (i :: held) := by
  have hq := vacate_queue hi
  have hsub : ∀ x ∈ (j.vacate seq).queue, x ∈ j.queue := fun x hx => hq.mem_iff.mp (by simp [hx])
  refine { h with
    length := by rw [JitterBuffer.vacate, List.length_set, h.length]
    slots := (vacate_slots hi held).trans h.slots
    queued := ?_
    position := fun p x hp => h.position p x ?_
    window := fun x hx => h.window x (hsub x hx)
    source := fun x hx => h.source x (hsub x hx)
    sound := fun x hx => h.sound x (hsub x hx) }
  · have hlen := hq.length_eq
    have hqueued := h.queued
    simp only [List.length_cons] at hlen
    simp only [JitterBuffer.vacate] at hlen ⊢
    omega
  · rw [JitterBuffer.vacate, List.getElem?_set] at hp
    split_ifs at hp
    · simp at hp
    · exact hp

theorem WellFormed.occupy (h : j.WellFormed S (i :: held)) (hv : j.slotAt (j.slots i).seq = none)
    (hw : ahead j.expectedSeq (j.slots i).seq < j.maxPackets) (hs : (j.slots i).ssrc = j.ssrc)
    (hS : S (j.slots i)) : (j.occupy (j.slots i).seq i).WellFormed S held := by
  have hq := occupy_queue (i := i) h.length h.max_pos hv
  have hsub : ∀ x ∈ (j.occupy (j.slots i).seq i).queue, x = i ∨ x ∈ j.queue := by
    intro x hx
    simpa using hq.mem_iff.mp hx
  refine { h with
    length := by rw [JitterBuffer.occupy, List.length_set, h.length]
    slots := (occupy_slots h.length h.max_pos hv held).trans h.slots
    queued := ?_
    position := fun p x hp => ?_
    window := fun x hx => ?_
    source := fun x hx => ?_
    sound := fun x hx => ?_ }
  · have hlen := hq.length_eq
    have hqueued := h.queued
    simp only [List.length_cons] at hlen
    simp only [JitterBuffer.occupy] at hlen ⊢
    omega
  · rw [JitterBuffer.occupy, List.getElem?_set] at hp
    split_ifs at hp with hpos hlt
    · obtain rfl : i = x := by simpa using hp
      exact hpos.symm
    · exact h.position p x hp
  · obtain rfl | hx := hsub x hx
    · exact hw
    · exact h.window x hx
  · obtain rfl | hx := hsub x hx
    · exact hs
    · exact h.source x hx
  · obtain rfl | hx := hsub x hx
    · exact hS
    · exact h.sound x hx

theorem foldl_freeSlot (l : List ℕ) (j : JitterBuffer) :
    l.foldl JitterBuffer.freeSlot j = { j with freeSlots := l.reverse ++ j.freeSlots } := by
  induction l generalizing j with
  | nil => rfl
  | cons i l ih => simp [ih, JitterBuffer.freeSlot]

theorem clearSequence_eq (j : JitterBuffer) :
    j.clearSequence =
      { j with
        freeSlots := j.queue.reverse ++ j.freeSlots
        sequence := List.replicate j.sequence.length none
        queued := 0 } := by
  simp [clearSequence, foldl_freeSlot, queue]

theorem resetStream_queue (j : JitterBuffer) (now : ℤ) (ssrc : UInt32) (seq : UInt16) :
    (j.resetStream now ssrc seq).queue = [] := by
  simp [resetStream, clearSequence_eq, queue]

@[simp] theorem resetStream_slots (j : JitterBuffer) (now : ℤ) (ssrc : UInt32) (seq : UInt16) :
    (j.resetStream now ssrc seq).slots = j.slots := by
  simp [resetStream, clearSequence_eq]

@[simp] theorem resetStream_maxPackets (j : JitterBuffer) (now : ℤ) (ssrc : UInt32)
    (seq : UInt16) : (j.resetStream now ssrc seq).maxPackets = j.maxPackets := by
  simp [resetStream, clearSequence_eq]

theorem resetStream_slots_perm (j : JitterBuffer) (now : ℤ) (ssrc : UInt32) (seq : UInt16)
    (held : List ℕ) :
    ((j.resetStream now ssrc seq).freeSlots ++ (j.resetStream now ssrc seq).queue ++ held).Perm
      (j.freeSlots ++ j.queue ++ held) := by
  rw [resetStream_queue, List.append_nil, JitterBuffer.resetStream, clearSequence_eq]
  exact (((List.reverse_perm _).append_right _).trans List.perm_append_comm).append_right _

theorem WellFormed.resetStream (h : j.WellFormed S held) (ssrc : UInt32) (seq : UInt16) :
    (j.resetStream now ssrc seq).WellFormed S held := by
  have hempty := resetStream_queue j now ssrc seq
  have hslots := (resetStream_slots_perm j now ssrc seq held).trans h.slots
  rw [JitterBuffer.resetStream, clearSequence_eq] at hempty hslots ⊢
  exact
    { length := by simp [h.length]
      slots := hslots
      queued := by
        rw [hempty]
        rfl
      position := fun p i hp => by simp [List.getElem?_replicate] at hp
      window := by simp [hempty]
      source := by simp [hempty]
      sound := by simp [hempty]
      delay_pos := h.delay_pos
      delay_le := h.delay_le
      max_le := h.max_le }

/-! ### Moving the window -/

theorem WellFormed.advance (h : j.WellFormed S held)
    (hnext : ∀ i ∈ j.queue, (j.slots i).seq ≠ j.expectedSeq) :
    j.advance.WellFormed S held := by
  refine { h with window := fun i hi => ?_ }
  have hlt := h.window i hi
  have hstep := ahead_succ (hnext i hi)
  simp only [JitterBuffer.advance]
  omega

structure SameSource (j k : JitterBuffer) : Prop where
  slots : k.slots = j.slots
  maxPackets : k.maxPackets = j.maxPackets
  ssrc : k.ssrc = j.ssrc
  ssrcSet : k.ssrcSet = j.ssrcSet

/-- What it keeps while packets of the stream come and go. -/
structure SameStream (j k : JitterBuffer) : Prop extends SameSource j k where
  playout : k.playout = j.playout
  resync : k.resync = j.resync

theorem SameSource.refl (j : JitterBuffer) : j.SameSource j := ⟨rfl, rfl, rfl, rfl⟩

theorem SameSource.trans {m : JitterBuffer} (h : j.SameSource k) (h' : k.SameSource m) :
    j.SameSource m where
  slots := h'.slots.trans h.slots
  maxPackets := h'.maxPackets.trans h.maxPackets
  ssrc := h'.ssrc.trans h.ssrc
  ssrcSet := h'.ssrcSet.trans h.ssrcSet

theorem SameStream.refl (j : JitterBuffer) : j.SameStream j := ⟨.refl j, rfl, rfl⟩

theorem SameStream.trans {m : JitterBuffer} (h : j.SameStream k) (h' : k.SameStream m) :
    j.SameStream m :=
  ⟨h.toSameSource.trans h'.toSameSource, h'.playout.trans h.playout, h'.resync.trans h.resync⟩

/-- Dropping a number takes it off the queue if it is there, and nothing else. -/
structure Dropped (S : Slot → Prop) (j k : JitterBuffer) (held : List ℕ) : Prop where
  wellFormed : k.WellFormed S held
  same : j.SameStream k
  expectedSeq : k.expectedSeq = j.expectedSeq
  queue : ∀ i ∈ k.queue, i ∈ j.queue

theorem Dropped.refl (h : j.WellFormed S held) : Dropped S j j held :=
  ⟨h, .refl j, rfl, fun _ hx => hx⟩

theorem WellFormed.count (h : j.WellFormed S held) (f : Stats → Stats) :
    (j.count f).WellFormed S held := { h with }

theorem WellFormed.dropStale (h : j.WellFormed S held) (seq : UInt16) :
    Dropped S j (j.dropStale seq) held ∧
      ∀ i ∈ (j.dropStale seq).queue, (j.slots i).seq ≠ seq := by
  have hat : ∀ x ∈ j.queue, (j.slots x).seq = seq → j.slotAt seq = some x := by
    rintro x hx rfl
    exact h.slotAt_of_mem hx
  unfold JitterBuffer.dropStale
  split
  case h_1 i hi =>
    split_ifs with hseq
    · have hq : (i :: (j.vacate seq).queue).Perm j.queue := vacate_queue hi
      have hsub : ∀ x ∈ (j.vacate seq).queue, x ∈ j.queue :=
        fun x hx => hq.mem_iff.mp (List.mem_cons_of_mem _ hx)
      refine ⟨⟨((h.count _).vacate hi).freeSlot, ⟨⟨rfl, rfl, rfl, rfl⟩, rfl, rfl⟩, rfl, hsub⟩,
        fun x hx hx' => (h.vacate hi).not_mem_queue ?_⟩
      obtain rfl : i = x := Option.some_inj.mp (hi.symm.trans (hat x (hsub x hx) hx'))
      exact hx
    · refine ⟨.refl h, fun x hx hx' => hseq ?_⟩
      obtain rfl : i = x := Option.some_inj.mp (hi.symm.trans (hat x hx hx'))
      exact hx'
  case h_2 hv =>
    refine ⟨.refl h, fun x hx hx' => ?_⟩
    rw [hat x hx hx'] at hv
    exact absurd hv (by simp)

theorem dropStaleFrom_keeps {P : JitterBuffer → Prop}
    (hdrop : ∀ k seq i, k.slotAt seq = some i → P k →
      P (((k.count .dropped).vacate seq).freeSlot i)) (h : P j) (n : ℕ) :
    P (j.dropStaleFrom n) := by
  have hone : ∀ k seq, P k → P (k.dropStale seq) := by
    intro k seq hk
    unfold JitterBuffer.dropStale
    split
    case h_1 i hi =>
      split_ifs
      · exact hdrop k seq i hi hk
      · exact hk
    case h_2 => exact hk
  induction n with
  | zero => exact h
  | succ n ih =>
    have hstep : j.dropStaleFrom (n + 1) =
        (j.dropStaleFrom n).dropStale (j.expectedSeq + UInt16.ofNat n) := by
      simp [JitterBuffer.dropStaleFrom, List.range_succ]
    rw [hstep]
    exact hone _ _ ih

theorem makeRoom_keeps {P : JitterBuffer → Prop}
    (hdrop : ∀ k seq i, k.slotAt seq = some i → P k →
      P (((k.count .dropped).vacate seq).freeSlot i))
    (hmove : ∀ k next, P k → P (k.moveBackTo next)) (h : P j) : P (j.makeRoom seq) := by
  unfold JitterBuffer.makeRoom
  split_ifs
  · exact hmove _ _ (dropStaleFrom_keeps hdrop h _)
  · exact h

theorem WellFormed.dropStaleFrom (h : j.WellFormed S held) (n : ℕ) :
    Dropped S j (j.dropStaleFrom n) held ∧
      ∀ i ∈ (j.dropStaleFrom n).queue, n ≤ ahead j.expectedSeq (j.slots i).seq := by
  induction n with
  | zero =>
    exact ⟨.refl h, fun _ _ => Nat.zero_le _⟩
  | succ n ih =>
    obtain ⟨hn, hpassed⟩ := ih
    have hstep : j.dropStaleFrom (n + 1) =
        (j.dropStaleFrom n).dropStale (j.expectedSeq + UInt16.ofNat n) := by
      simp [JitterBuffer.dropStaleFrom, List.range_succ]
    obtain ⟨hd, hne⟩ := hn.wellFormed.dropStale (j.expectedSeq + UInt16.ofNat n)
    rw [hstep]
    refine ⟨⟨hd.wellFormed, hn.same.trans hd.same, hd.expectedSeq.trans hn.expectedSeq,
      fun x hx => hn.queue x (hd.queue x hx)⟩, fun x hx => ?_⟩
    have hx' := hne x hx
    have hle := hpassed x (hd.queue x hx)
    rw [hn.same.slots] at hx'
    refine Nat.lt_of_le_of_ne hle fun heq => hx' ?_
    rw [heq, add_ofNat_ahead]

/-- The window has moved on, if at all, to hold a number that was not behind it. -/
structure RoomMade (S : Slot → Prop) (j k : JitterBuffer) (seq : UInt16) (held : List ℕ) : Prop where
  wellFormed : k.WellFormed S held
  same : j.SameStream k
  fits : ahead k.expectedSeq seq < k.maxPackets
  forward : ahead j.expectedSeq k.expectedSeq < 32768

/-- The window ends at a packet that did not fit it, with the playout delay before it. -/
theorem WellFormed.dropBefore (h : j.WellFormed S held)
    (hfar : (j.maxPackets : ℤ) ≤ j.distance seq) :
    RoomMade S j (j.dropBefore (seq - UInt16.ofNat (j.delayPackets - 1))) seq held := by
  have hpos := h.delay_pos
  have hle := h.delay_le
  set next := seq - UInt16.ofNat (j.delayPackets - 1) with hnext
  have hseq : (ahead j.expectedSeq seq : ℤ) = j.distance seq :=
    ahead_of_int16_nonneg (by rw [← distance]; omega)
  have hshort : j.distance seq < 32768 := int16_sub_lt _ _
  have hpassed : ahead j.expectedSeq next = ahead j.expectedSeq seq - (j.delayPackets - 1) :=
    ahead_sub_ofNat (by omega)
  have hdist : j.distance next = ahead j.expectedSeq next := int16_of_ahead_lt (by omega)
  obtain ⟨hd, hgone⟩ := h.dropStaleFrom (min (j.distance next).toNat j.maxPackets)
  rw [JitterBuffer.dropBefore]
  generalize j.dropStaleFrom (min (j.distance next).toNat j.maxPackets) = k at hd hgone ⊢
  have hmax := hd.same.maxPackets
  refine ⟨{ hd.wellFormed with window := fun i hi => ?_ }, { hd.same with }, ?_, ?_⟩
  · have hin := h.window i (hd.queue i hi)
    have hleft := hgone i hi
    have hmove : ahead next (j.slots i).seq =
        ahead j.expectedSeq (j.slots i).seq - ahead j.expectedSeq next := ahead_move (by omega)
    simp only [hd.same.slots]
    omega
  · have hmove : ahead next seq = ahead j.expectedSeq seq - ahead j.expectedSeq next :=
      ahead_move (by omega)
    simp only
    omega
  · simp only
    omega

theorem WellFormed.makeRoom (h : j.WellFormed S held) (hseq : 0 ≤ j.distance seq) :
    RoomMade S j (j.makeRoom seq) seq held := by
  unfold JitterBuffer.makeRoom
  split_ifs with hfar
  · exact h.dropBefore hfar
  · have hahead : (ahead j.expectedSeq seq : ℤ) = j.distance seq := ahead_of_int16_nonneg hseq
    exact ⟨h, .refl j, by omega, by simp⟩

/-- The next number may move back to one that all of the queue follows within the window. -/
theorem WellFormed.moveBack (h : j.WellFormed S held) (hback : j.canMoveExpectedBack seq = true) :
    (j.moveBackTo seq).WellFormed S held := by
  refine { h with window := fun i hi => ?_ }
  have hi' := List.all_eq_true.mp hback i hi
  simp only [Bool.and_eq_true, decide_eq_true_eq] at hi'
  have hahead := ahead_of_int16_nonneg hi'.1
  simp only [moveBackTo]
  omega

end JitterBuffer
end Diago.Jitter
