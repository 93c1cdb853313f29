import Diago.Jitter.Accounting

/-! # Reading again after a short buffer

A packet that is due and does not fit the buffer of the reader stays where it is, and
playout with it.
-/
namespace Diago.Jitter
open Lib

variable {S : Slot → Prop} {j k : JitterBuffer} {held : List ℕ} {i r : ℕ} {seq : UInt16}
  {now m : ℤ} {unmarshal : Bytes → Option Packet}

namespace JitterBuffer

/-! ### Each slot has one owner -/

/-- No slot is free, queued or held twice. -/
def Owned (j : JitterBuffer) (held : List ℕ) : Prop := (j.freeSlots ++ j.queue ++ held).Nodup

theorem Owned.freeSlot (h : j.Owned (i :: held)) : (j.freeSlot i).Owned held :=
  (freeSlot_slots j i held).nodup_iff.mpr h

theorem Owned.vacate (h : j.Owned held) (hi : j.slotAt seq = some i) :
    (j.vacate seq).Owned (i :: held) := (vacate_slots hi held).nodup_iff.mpr h

theorem Owned.occupy (h : j.Owned (i :: held)) (hb : j.Booked S m) (hv : j.slotAt seq = none) :
    (j.occupy seq i).Owned held := (occupy_slots hb.length hb.max_pos hv held).nodup_iff.mpr h

theorem Owned.resetStream (h : j.Owned held) (now : ℤ) (ssrc : UInt32) (seq : UInt16) :
    (j.resetStream now ssrc seq).Owned held :=
  (resetStream_slots_perm j now ssrc seq held).nodup_iff.mpr h

theorem Owned.makeRoom (h : j.Owned held) : (j.makeRoom seq).Owned held :=
  makeRoom_keeps (P := fun k => k.Owned held)
    (fun k _ _ hi (hk : (k.count .dropped).Owned held) => (hk.vacate hi).freeSlot)
    (fun _ _ hk => hk) h

theorem Owned.enqueue (h : j.Owned (i :: held)) (hb : j.Booked S m) :
    (j.enqueue now i).Owned held := by
  unfold JitterBuffer.enqueue
  split
  case h_1 existing _ =>
    have hfree := h.freeSlot
    split_ifs
    · exact hfree
    · exact hfree
  case h_2 hv =>
    have hin := h.occupy hb hv
    unfold JitterBuffer.resume
    split_ifs
    · exact hin
    · exact hin

theorem Owned.fileSlot (h : j.Owned (i :: held)) (hb : j.Booked S m) (now : ℤ) :
    (j.fileSlot now i).Owned held := by
  have hfree := h.freeSlot
  unfold JitterBuffer.fileSlot
  split_ifs
  · exact hfree
  · have hback : (j.moveBackTo (j.slots i).seq).Owned (i :: held) := h
    have hbooked : (j.moveBackTo (j.slots i).seq).Booked S m := { hb with }
    exact hback.makeRoom.enqueue hbooked.makeRoom
  · exact hfree
  · exact h.makeRoom.enqueue hb.makeRoom

theorem Owned.settle (h : j.Owned held) (now : ℤ) (pkt : Packet) :
    (((j.followSource now pkt).restartOutside now pkt).learnPacketDuration pkt).Owned held := by
  have hfollow : (j.followSource now pkt).Owned held := by
    unfold JitterBuffer.followSource
    split_ifs
    · have hcount : (j.count .ssrcReset).Owned held := h
      exact hcount.resetStream now pkt.ssrc pkt.seq
    · exact h.resetStream now pkt.ssrc pkt.seq
    · exact h
  have hrestart : ((j.followSource now pkt).restartOutside now pkt).Owned held := by
    unfold JitterBuffer.restartOutside
    split_ifs
    · exact hfollow.resetStream now pkt.ssrc pkt.seq
    · exact hfollow
  obtain ⟨d, s, p, heq⟩ := learnPacketDuration_eq ((j.followSource now pkt).restartOutside now pkt)
    pkt
  rw [heq]
  exact hrestart

theorem Owned.handleSlot (h : j.Owned (i :: held)) (hb : j.Booked S m) (now : ℤ) :
    (j.handleSlot now i).Owned held := by
  have hread : (j.count .read).Owned (i :: held) := h
  have hbooked := ((hb.read.followSource now (j.slots i).packet).restartOutside now
    (j.slots i).packet).learnPacketDuration (j.slots i).packet
  exact (hread.settle now (j.slots i).packet).fileSlot hbooked now

theorem Owned.takeSlot (h : j.Owned []) (htake : j.takeSlot = some (i, k)) : k.Owned [i] := by
  have hslots := (takeSlot_slots htake).nodup_iff.mpr h
  rw [(takeSlot_eq_some htake).2]
  exact hslots

theorem Owned.begun (h : j.Owned held) (now : ℤ) : (j.begun now).Owned held := by
  have hskip : (skipLost 65536 { j with startAt := none }).Owned held :=
    skipLost_keeps (P := fun k => k.Owned held) (fun _ hk => hk) _ h
  unfold JitterBuffer.begun
  split_ifs
  · exact hskip
  · exact h

theorem Owned.release (h : j.Owned held) (hdue : j.dueSlot = some i) : (j.release i).Owned held :=
  (h.vacate (dueSlot_eq_some.mp hdue).1).freeSlot

theorem Owned.playDue (h : j.Owned held) (unmarshal : Bytes → Option Packet) (bufLen : ℕ) :
    (j.playDue unmarshal bufLen).2.Owned held := by
  have hplays := playDue_plays unmarshal bufLen j
  generalize j.playDue unmarshal bufLen = r at hplays ⊢
  cases hplays with
  | short => exact h
  | malformed hdue => exact h.release hdue
  | released hdue => exact h.release hdue
  | stopped => exact h
  | skipped => exact h

/-- The books balance whatever is queued, some of it missing if its bytes did not parse again. -/
def Balanced (j : JitterBuffer) : Prop := ∃ m, j.Booked (fun _ => True) m

theorem Balanced.readRTP (h : j.Balanced) (unmarshal : Bytes → Option Packet) (now : ℤ)
    (bufLen : ℕ) : (j.readRTP unmarshal now bufLen).2.Balanced := by
  obtain ⟨m, hm⟩ := h
  have hbegun := hm.begun now
  rw [readRTP_eq]
  generalize j.begun now = k at hbegun ⊢
  split_ifs
  · have hplays := playDue_plays unmarshal bufLen k
    generalize k.playDue unmarshal bufLen = r at hplays ⊢
    cases hplays with
    | short => exact ⟨m, hbegun⟩
    | malformed hdue => exact ⟨m + 1, hbegun.release hdue⟩
    | @released i pkt hdue =>
      exact ⟨_, (hbegun.release hdue).settle (f := Stats.released pkt.seq) rfl
        (by simp only [Stats.released, Stats.settled]; omega)⟩
    | stopped => exact ⟨m, { hbegun.count (f := Stats.underrun) rfl rfl with }⟩
    | skipped => exact ⟨m, { hbegun.count (f := Stats.lost) rfl rfl with }⟩
  · exact ⟨m, hbegun⟩

end JitterBuffer

structure System.Kept (x : System) : Prop where
  balanced : x.buffer.Balanced
  owned : x.buffer.Owned x.reading.toList

theorem stepSystem_kept (unmarshal : Bytes → Option Packet) {x : System} (h : x.Kept) (e : Event) :
    (stepSystem unmarshal x e).Kept := by
  obtain ⟨j, reading⟩ := x
  obtain ⟨⟨m, hm⟩, howned⟩ := h
  cases e with
  | take =>
    simp only [stepSystem]
    split_ifs with htakes
    · obtain ⟨rfl, -⟩ := htakes
      cases htake : j.takeSlot with
      | none => exact ⟨⟨m, hm⟩, howned⟩
      | some taken =>
        refine ⟨⟨m, ?_⟩, JitterBuffer.Owned.takeSlot howned htake⟩
        rw [Option.elim_some, (takeSlot_eq_some htake).2]
        exact { hm with }
    · exact ⟨⟨m, hm⟩, howned⟩
  | upstreamError err =>
    cases reading with
    | none => exact ⟨⟨m, hm⟩, howned⟩
    | some i => exact ⟨⟨m, { hm with }⟩, JitterBuffer.Owned.freeSlot howned⟩
  | keepAlive =>
    cases reading with
    | none => exact ⟨⟨m, hm⟩, howned⟩
    | some i => exact ⟨⟨m, { hm with }⟩, JitterBuffer.Owned.freeSlot howned⟩
  | packet now slot =>
    cases reading with
    | none => exact ⟨⟨m, hm⟩, howned⟩
    | some i =>
      have hfill : (j.fill i slot).Booked (fun _ => True) m := hm.fill trivial i
      have hread : (j.fill i slot).Owned [i] := howned
      exact ⟨⟨_, hfill.handleSlot trivial now⟩, hread.handleSlot hfill now⟩
  | readRTP now bufLen =>
    refine ⟨JitterBuffer.Balanced.readRTP ⟨m, hm⟩ unmarshal now bufLen, ?_⟩
    have hbegun : (j.begun now).Owned reading.toList := JitterBuffer.Owned.begun howned now
    change (j.readRTP unmarshal now bufLen).2.Owned reading.toList
    rw [JitterBuffer.readRTP_eq]
    split_ifs
    · exact hbegun.playDue unmarshal bufLen
    · exact hbegun
  | update sampleDur sampleRate => exact ⟨⟨m, { hm with }⟩, howned⟩

theorem reached_kept (unmarshal : Bytes → Option Packet) {d : ℤ} {opts : Options}
    (hnew : newRTPJitterBuffer d opts = some j) (events : List Event) :
    (reached unmarshal j events).Kept := by
  have howned : j.Owned [] := by
    unfold newRTPJitterBuffer at hnew
    split_ifs at hnew
    cases hnew
    simp [JitterBuffer.Owned, JitterBuffer.queue, List.nodup_range]
  have hinit : System.Kept ⟨j, none⟩ :=
    ⟨⟨0, JitterBuffer.newRTPJitterBuffer_booked hnew⟩, howned⟩
  exact runFrom_invariant System.Kept (fun _ e hx => stepSystem_kept unmarshal hx e) hinit events

/-! ### The packet that is due -/

namespace JitterBuffer

/-- The packet in slot `i` is the next to play since `due`, and nothing but playing it or moving the
window takes it off. -/
structure Awaits (j : JitterBuffer) (i : ℕ) (slot : Slot) (due : ℤ) : Prop where
  playout : j.playout = true
  releaseAt : j.releaseAt = due
  ssrcSet : j.ssrcSet = true
  queued : 0 < j.queued
  expected : j.expectedSeq = slot.seq
  slotAt : j.slotAt slot.seq = some i
  slot : j.slots i = slot
  unfree : i ∉ j.freeSlots

variable {slot : Slot} {due : ℤ}

theorem Awaits.freeSlot (h : j.Awaits i slot due) (hr : r ≠ i) :
    (j.freeSlot r).Awaits i slot due := by
  refine { h with unfree := ?_ }
  rw [JitterBuffer.freeSlot, List.mem_cons, not_or]
  exact ⟨hr.symm, h.unfree⟩

theorem Awaits.count (h : j.Awaits i slot due) (f : Stats → Stats) :
    (j.count f).Awaits i slot due := { h with }

theorem Awaits.fill (h : j.Awaits i slot due) (hr : r ≠ i) (new : Slot) :
    (j.fill r new).Awaits i slot due := by
  have hother : (j.fill r new).slots i = j.slots i := Function.update_of_ne hr.symm _ _
  exact { h with slot := hother.trans h.slot }

theorem Awaits.occupy (h : j.Awaits i slot due) (hv : j.slotAt seq = none) :
    (j.occupy seq r).Awaits i slot due := by
  have hpos : j.position seq ≠ j.position slot.seq := by
    intro heq
    rw [JitterBuffer.slotAt, heq, ← JitterBuffer.slotAt, h.slotAt] at hv
    simp at hv
  have hqueued := h.queued
  refine { h with queued := ?_, slotAt := ?_ }
  · simp only [JitterBuffer.occupy]
    omega
  · rw [slotAt_eq_some]
    change (j.sequence.set (j.position seq) (some r))[j.position slot.seq]? = some (some i)
    rw [List.getElem?_set_ne hpos]
    exact slotAt_eq_some.mp h.slotAt

theorem Awaits.enqueue (h : j.Awaits i slot due) (hr : r ≠ i) :
    (j.enqueue now r).Awaits i slot due := by
  unfold JitterBuffer.enqueue
  split
  case h_1 existing _ =>
    split_ifs
    · exact (h.count _).freeSlot hr
    · exact (h.count _).freeSlot hr
  case h_2 hv =>
    have hin := h.occupy (r := r) hv
    unfold JitterBuffer.resume
    split_ifs
    · exact { hin with }
    · exact hin

theorem makeRoom_eq_self (h : (j.makeRoom seq).expectedSeq = j.expectedSeq) :
    j.makeRoom seq = j := by
  unfold JitterBuffer.makeRoom at h ⊢
  split_ifs at h ⊢ with hfar
  · have hnext : seq - UInt16.ofNat (j.delayPackets - 1) = j.expectedSeq := h
    have hnone : min (j.distance j.expectedSeq).toNat j.maxPackets = 0 := by
      simp [distance, int16]
    rw [hnext, JitterBuffer.dropBefore, hnone]
    rfl
  · rfl

theorem Awaits.fileSlot (h : j.Awaits i slot due) (hr : r ≠ i)
    (hwindow : (j.fileSlot now r).expectedSeq = j.expectedSeq) :
    (j.fileSlot now r).Awaits i slot due := by
  unfold JitterBuffer.fileSlot at hwindow ⊢
  split_ifs at hwindow ⊢ with hbehind hstarted
  · exact (h.count _).freeSlot hr
  · exact absurd (.inl h.playout) hstarted
  · exact (h.count _).freeSlot hr
  · have hstays := makeRoom_eq_self ((enqueue_frame _ now r).2.symm.trans hwindow)
    rw [hstays]
    exact h.enqueue hr

theorem Awaits.handleSlot (h : j.Awaits i slot due) (hr : r ≠ i)
    (hsrc : (j.slots r).ssrc = j.ssrc)
    (hwindow : (j.handleSlot now r).expectedSeq = j.expectedSeq) :
    (j.handleSlot now r).Awaits i slot due := by
  have hsame : (j.count .read).followSource now (j.slots r).packet = j.count .read := by
    have hstays : ¬ ((j.count .read).ssrcSet = false ∨
        (j.count .read).ssrc ≠ (j.slots r).packet.ssrc) := by
      rintro (hunset | hother)
      · exact absurd (h.ssrcSet.symm.trans hunset) (by decide)
      · exact hother hsrc.symm
    exact if_neg hstays
  have hinside : (j.count .read).restartOutside now (j.slots r).packet = j.count .read := by
    have hqueued : ¬ j.queued = 0 := h.queued.ne'
    have hnot : (j.count .read).outsideWindow (j.slots r).packet.seq = false := by
      simp [outsideWindow, JitterBuffer.count, hqueued]
    exact if_neg (by simp [hnot])
  obtain ⟨d, s, p, hlearn⟩ := learnPacketDuration_eq (j.count .read) (j.slots r).packet
  unfold JitterBuffer.handleSlot at hwindow ⊢
  simp only [hsame, hinside, hlearn] at hwindow ⊢
  have hlearned : JitterBuffer.Awaits
      { j.count .read with packetDuration := d, step := s, pendingStep := p } i slot due :=
    { h with }
  exact hlearned.fileSlot hr hwindow

theorem Awaits.readRTP (h : j.Awaits i slot due) (hnow : due ≤ now) {bufLen : ℕ}
    (hfits : slot.raw.length ≤ bufLen) {pkt : Packet} (hpkt : unmarshal slot.raw = some pkt) :
    (j.readRTP unmarshal now bufLen).1 = .released pkt slot.raw := by
  have hbegun : j.begun now = j := if_neg (by simp [startsPlayout, h.playout])
  have hdue : j.dueSlot = some i :=
    dueSlot_eq_some.mpr ⟨by rw [h.expected]; exact h.slotAt, by rw [h.slot, h.expected]⟩
  rw [readRTP_eq, hbegun, if_pos ⟨h.playout, by rw [h.releaseAt]; exact hnow⟩]
  simp [JitterBuffer.playDue, hdue, h.slot, not_lt.mpr hfits, hpkt]

/-- What a short buffer leaves: the buffer as it was when the packet due was found. -/
theorem readRTP_short {bufLen : ℕ} (h : (j.readRTP unmarshal now bufLen).1 = .shortBuffer) :
    (j.readRTP unmarshal now bufLen).2 = j.begun now ∧ (j.begun now).playout = true ∧
      (j.begun now).releaseAt ≤ now ∧
      ∃ i, (j.begun now).dueSlot = some i ∧ bufLen < ((j.begun now).slots i).raw.length := by
  have hidle : ∀ k : JitterBuffer, k.idle ≠ .shortBuffer := by
    intro k
    unfold idle
    split_ifs <;> simp
  rw [readRTP_eq] at h ⊢
  split_ifs at h ⊢ with hdue
  · unfold JitterBuffer.playDue at h ⊢
    split at h
    case h_1 i hi =>
      by_cases hshort : bufLen < ((j.begun now).slots i).raw.length
      · simp only [hi, if_pos hshort]
        exact ⟨trivial, hdue.1, hdue.2, i, rfl, hshort⟩
      · simp only [if_neg hshort] at h
        split at h <;> simp at h
    case h_2 hi =>
      split_ifs at h
      exact absurd h (hidle _)
  · exact absurd h (hidle _)

end JitterBuffer

structure System.Awaits (x : System) (i : ℕ) (slot : Slot) (due : ℤ) : Prop where
  buffer : x.buffer.Awaits i slot due
  unread : x.reading ≠ some i

/-- What happens between two reads, with the source the same and the window where it is. -/
def Harmless (unmarshal : Bytes → Option Packet) (x : System) : Event → Prop
  | .readRTP _ _ => False
  | .packet now slot => slot.ssrc = x.buffer.ssrc ∧
    (stepSystem unmarshal x (.packet now slot)).buffer.expectedSeq = x.buffer.expectedSeq
  | .take | .upstreamError _ | .keepAlive | .update _ _ => True

theorem stepSystem_awaits {x : System} {slot : Slot} {due : ℤ} (h : x.Awaits i slot due)
    {e : Event} (he : Harmless unmarshal x e) :
    (stepSystem unmarshal x e).Awaits i slot due := by
  obtain ⟨j, reading⟩ := x
  obtain ⟨hj, hunread⟩ := h
  have hr : ∀ r, reading = some r → r ≠ i := by
    rintro r rfl rfl
    exact hunread rfl
  cases e with
  | take =>
    simp only [stepSystem]
    split_ifs
    · cases htake : j.takeSlot with
      | none => exact ⟨hj, hunread⟩
      | some taken =>
        obtain ⟨r, k⟩ := taken
        obtain ⟨hfree, hk⟩ := takeSlot_eq_some htake
        have hunfree := hj.unfree
        rw [hfree, List.mem_cons, not_or] at hunfree
        refine ⟨?_, fun heq => hunfree.1 (Option.some_inj.mp heq).symm⟩
        rw [Option.elim_some, hk]
        exact { hj with unfree := hunfree.2 }
    · exact ⟨hj, hunread⟩
  | upstreamError err =>
    cases reading with
    | none => exact ⟨hj, hunread⟩
    | some r => exact ⟨{ hj.freeSlot (hr r rfl) with }, by simp [stepSystem]⟩
  | keepAlive =>
    cases reading with
    | none => exact ⟨hj, hunread⟩
    | some r => exact ⟨hj.freeSlot (hr r rfl), by simp [stepSystem]⟩
  | packet now new =>
    cases reading with
    | none => exact ⟨hj, hunread⟩
    | some r =>
      obtain ⟨hsrc, hwindow⟩ := he
      refine ⟨(hj.fill (hr r rfl) new).handleSlot (hr r rfl) ?_ hwindow, by simp [stepSystem]⟩
      rw [JitterBuffer.fill_slots_self]
      exact hsrc
  | readRTP now bufLen => exact he.elim
  | update sampleDur sampleRate => exact ⟨{ hj with }, hunread⟩

theorem runFrom_awaits {x : System} {slot : Slot} {due : ℤ} (h : x.Awaits i slot due)
    {events : List Event} (hevents : Along (stepSystem unmarshal) (Harmless unmarshal) x events) :
    (runFrom (stepSystem unmarshal) x events).Awaits i slot due := by
  induction events generalizing x with
  | nil => exact h
  | cons e events ih => exact ih (stepSystem_awaits h hevents.1) hevents.2

/-- In every state the packet found due is queued once, of the running source. -/
theorem System.Kept.awaits {x : System} (h : x.Kept) (hplay : x.buffer.playout = true)
    (hdue : x.buffer.dueSlot = some i) :
    x.Awaits i (x.buffer.slots i) x.buffer.releaseAt := by
  obtain ⟨⟨m, hm⟩, howned⟩ := h
  obtain ⟨hat, hseq⟩ := JitterBuffer.dueSlot_eq_some.mp hdue
  have hmem := JitterBuffer.mem_queue_of_slotAt hat
  have hset : x.buffer.ssrcSet = true := by
    by_contra hunset
    rw [hm.unset (by simpa using hunset)] at hmem
    simp at hmem
  have hqueued : 0 < x.buffer.queued := by
    rw [hm.queued]
    exact_mod_cast List.length_pos_of_mem hmem
  obtain ⟨hfront, -, hheld⟩ := List.nodup_append.mp howned
  refine ⟨⟨hplay, rfl, hset, hqueued, hseq.symm, by rw [hseq]; exact hat, rfl, ?_⟩, ?_⟩
  · intro hfree
    exact (List.nodup_append.mp hfront).2.2 i hfree i hmem rfl
  · intro hreading
    exact hheld i (List.mem_append_right _ hmem) i (by simp [hreading]) rfl

/-- A short buffer leaves everything as it was when the packet due was found. Whatever else happens
until the next read, as long as the source stays and the window does not move, that read returns
the packet if its buffer is large enough. -/
theorem short_buffer_keeps_packet (unmarshal : Bytes → Option Packet) {d : ℤ} {opts : Options}
    (hnew : newRTPJitterBuffer d opts = some j) (events : List Event) (now : ℤ) (bufLen : ℕ)
    (hshort : ((reached unmarshal j events).buffer.readRTP unmarshal now bufLen).1 =
      .shortBuffer) :
    let x := reached unmarshal j events
    let y := stepSystem unmarshal x (.readRTP now bufLen)
    y.buffer = x.buffer.begun now ∧ ∃ i, y.buffer.dueSlot = some i ∧
      bufLen < (y.buffer.slots i).raw.length ∧
      ∀ later : List Event, Along (stepSystem unmarshal) (Harmless unmarshal) y later →
        ∀ (now' : ℤ) (bufLen' : ℕ) (pkt : Packet), now ≤ now' →
          (y.buffer.slots i).raw.length ≤ bufLen' →
          unmarshal (y.buffer.slots i).raw = some pkt →
          ((runFrom (stepSystem unmarshal) y later).buffer.readRTP unmarshal now' bufLen').1 =
            .released pkt (y.buffer.slots i).raw := by
  intro x y
  obtain ⟨hsame, hplay, hreleased, i, hdue, hlong⟩ := JitterBuffer.readRTP_short hshort
  have hbuffer : y.buffer = x.buffer.begun now := hsame
  have hkept : y.Kept := stepSystem_kept unmarshal (reached_kept unmarshal hnew events) _
  rw [← hbuffer] at hplay hreleased hdue hlong
  refine ⟨hbuffer, i, hdue, hlong, ?_⟩
  intro later hlater now' bufLen' pkt hnow hfits hpkt
  have hawaits := runFrom_awaits (hkept.awaits hplay hdue) hlater
  exact hawaits.buffer.readRTP (hreleased.trans hnow) hfits hpkt

section Sample

/-- A reader with a buffer of one byte, then one with more after another packet arrived. -/
theorem number_five_read_again :
    let x := reached readNumbered defaultBuffer [.take, .packet 0 (numbered 5), .take]
    let y := stepSystem readNumbered x (.readRTP 400000000 1)
    let z := runFrom (stepSystem readNumbered) y [.packet 400000000 (numbered 6)]
    (z.buffer.readRTP readNumbered 400000001 1500).1 =
      .released (numbered 5).packet (numbered 5).raw := by
  intro x y z
  have hnew : newRTPJitterBuffer 20000000 {} = some defaultBuffer := (Option.some_get _).symm
  obtain ⟨-, i, hdue, -, hagain⟩ := short_buffer_keeps_packet readNumbered hnew
    [.take, .packet 0 (numbered 5), .take] 400000000 1 (by decide +kernel)
  have hslot : y.buffer.dueSlot = some 40 := by decide +kernel
  obtain rfl : 40 = i := Option.some_inj.mp (hslot.symm.trans hdue)
  have hraw : (y.buffer.slots 40).raw = (numbered 5).raw := by decide +kernel
  have hread := hagain [.packet 400000000 (numbered 6)]
    ⟨⟨by decide +kernel, by decide +kernel⟩, trivial⟩ 400000001 1500 (numbered 5).packet
    (by decide) (by rw [hraw]; decide) (by rw [hraw]; decide)
  rw [hraw] at hread
  exact hread

end Sample

end Diago.Jitter
