import Diago.Jitter.Filing
import Diago.Jitter.Playout
import Diago.Lib.Run

/-! # The jitter buffer over whole runs

The read loop, the reader and media updates take the lock in any order. Every
critical section keeps the invariant of the slots.
-/
namespace Diago.Jitter
open Lib

variable {S : Slot → Prop} {j k : JitterBuffer} {held : List ℕ} {i : ℕ} {seq : UInt16} {now : ℤ}

/-- The invariant of the buffer with the slot the read loop reads into. -/
def System.WellFormed (S : Slot → Prop) (x : System) : Prop :=
  x.buffer.WellFormed S x.reading.toList

theorem takeSlot_eq_some (h : j.takeSlot = some (i, k)) :
    j.freeSlots = i :: k.freeSlots ∧ k = { j with freeSlots := k.freeSlots } := by
  unfold JitterBuffer.takeSlot at h
  split at h
  · simp at h
  · cases h
    exact ⟨by assumption, rfl⟩

namespace JitterBuffer

theorem takeSlot_slots (htake : j.takeSlot = some (i, k)) :
    (k.freeSlots ++ j.queue ++ [i]).Perm (j.freeSlots ++ j.queue ++ []) := by
  have hmove : (k.freeSlots ++ j.queue ++ [i]).Perm ([i] ++ (k.freeSlots ++ j.queue)) :=
    List.perm_append_comm
  rw [(takeSlot_eq_some htake).1]
  simpa using hmove

theorem WellFormed.takeSlot (h : j.WellFormed S []) (htake : j.takeSlot = some (i, k)) :
    k.WellFormed S [i] := by
  have hslots := (takeSlot_slots htake).trans h.slots
  rw [(takeSlot_eq_some htake).2]
  exact { h with slots := hslots }

@[simp] theorem fill_slots_self (j : JitterBuffer) (i : ℕ) (slot : Slot) :
    (j.fill i slot).slots i = slot := Function.update_self ..

theorem WellFormed.fill_slots (h : j.WellFormed S (i :: held)) (slot : Slot) :
    ∀ q ∈ j.queue, (j.fill i slot).slots q = j.slots q := by
  intro q hq
  have hqi : q ≠ i := fun heq => h.not_mem_queue (heq ▸ hq)
  exact Function.update_of_ne hqi _ _

theorem WellFormed.fill (h : j.WellFormed S (i :: held)) (slot : Slot) :
    (j.fill i slot).WellFormed S (i :: held) := by
  have hne := h.fill_slots slot
  refine { h with
    position := fun p x hp => ?_
    window := fun x hx => ?_
    source := fun x hx => ?_
    sound := fun x hx => ?_ }
  · rw [hne x (mem_reduceOption.mpr ⟨p, hp⟩)]
    exact h.position p x hp
  · rw [hne x hx]
    exact h.window x hx
  · rw [hne x hx]
    exact h.source x hx
  · rw [hne x hx]
    exact h.sound x hx

end JitterBuffer

def Event.Sound (S : Slot → Prop) : Event → Prop
  | .packet _ slot => S slot
  | _ => True

theorem stepSystem_wellFormed (unmarshal : Bytes → Option Packet) {x : System} {e : Event}
    (h : x.WellFormed S) (he : e.Sound S) : (stepSystem unmarshal x e).WellFormed S := by
  obtain ⟨j, reading⟩ := x
  have hj : j.WellFormed S reading.toList := h
  cases e with
  | take =>
    simp only [stepSystem]
    split_ifs with htakes
    · obtain ⟨rfl, -⟩ := htakes
      cases htake : j.takeSlot with
      | none => exact h
      | some taken => exact hj.takeSlot htake
    · exact h
  | upstreamError err =>
    cases reading with
    | none => exact h
    | some i => exact { JitterBuffer.WellFormed.freeSlot h with }
  | keepAlive =>
    cases reading with
    | none => exact h
    | some i => exact JitterBuffer.WellFormed.freeSlot h
  | packet now slot =>
    cases reading with
    | none => exact h
    | some i =>
      obtain ⟨k, -, hfiled⟩ := (JitterBuffer.WellFormed.fill h slot).handleSlot
        (by simpa [JitterBuffer.fill, Event.Sound] using he) now
      exact hfiled.wellFormed
  | readRTP now bufLen => exact (hj.readRTP unmarshal now bufLen).wellFormed
  | update sampleDur sampleRate => exact { hj with }

theorem stepSystem_maxPackets (unmarshal : Bytes → Option Packet) {x : System} (e : Event)
    (h : x.WellFormed S) :
    (stepSystem unmarshal x e).buffer.maxPackets = x.buffer.maxPackets := by
  obtain ⟨j, reading⟩ := x
  have hj : j.WellFormed S reading.toList := h
  cases e with
  | take =>
    simp only [stepSystem]
    split_ifs
    · cases htake : j.takeSlot with
      | none => rfl
      | some taken => rw [Option.elim_some, (takeSlot_eq_some htake).2]
    · rfl
  | packet now slot =>
    cases reading with
    | none => rfl
    | some i =>
      have htrue : j.WellFormed (fun _ => True) [i] := { h with sound := fun _ _ => trivial }
      obtain ⟨k, hk, hfiled⟩ := (htrue.fill slot).handleSlot trivial now
      exact hfiled.same.maxPackets.trans hk.maxPackets
  | readRTP now bufLen => exact (hj.readRTP unmarshal now bufLen).same.maxPackets
  | upstreamError _ => cases reading <;> rfl
  | keepAlive => cases reading <;> rfl
  | update _ _ => rfl

/-- The state a buffer is in after the critical sections of `events`. -/
def reached (unmarshal : Bytes → Option Packet) (j : JitterBuffer) (events : List Event) : System :=
  runFrom (stepSystem unmarshal) ⟨j, none⟩ events

section Reached

variable {d : ℤ} {opts : Options} (unmarshal : Bytes → Option Packet)

theorem reached_wellFormed (hnew : newRTPJitterBuffer d opts = some j)
    (hmax : j.maxPackets ≤ 32767) (events : List Event) :
    (reached unmarshal j events).WellFormed (fun _ => True) ∧
      (reached unmarshal j events).buffer.maxPackets = j.maxPackets := by
  have hstep : ∀ x e, x.WellFormed (fun _ => True) ∧ x.buffer.maxPackets = j.maxPackets →
      (stepSystem unmarshal x e).WellFormed (fun _ => True) ∧
        (stepSystem unmarshal x e).buffer.maxPackets = j.maxPackets := by
    rintro x e ⟨hx, hm⟩
    have he : e.Sound fun _ => True := by cases e <;> trivial
    exact ⟨stepSystem_wellFormed unmarshal hx he, (stepSystem_maxPackets unmarshal e hx).trans hm⟩
  have hinit : System.WellFormed (fun _ => True) ⟨j, none⟩ :=
    JitterBuffer.newRTPJitterBuffer_wellFormed hnew hmax
  exact runFrom_invariant _ hstep ⟨hinit, rfl⟩ events

/-- Slots are neither lost nor shared: in every state the free slots, the queued ones and the one
read into are all slots, each once, the packets queued are inside the window at the position of
their numbers, and the read loop finds a slot when it takes one. -/
theorem slots_partitioned (hnew : newRTPJitterBuffer d opts = some j)
    (hmax : j.maxPackets ≤ 32767) (events : List Event) :
    let x := reached unmarshal j events
    let all := x.buffer.freeSlots ++ x.buffer.sequence.reduceOption ++ x.reading.toList
    all.Nodup ∧ (∀ i, i ∈ all ↔ i < j.maxPackets + 1) ∧
      x.buffer.sequence.length = j.maxPackets ∧
      x.buffer.queued = x.buffer.sequence.countP Option.isSome ∧
      (∀ p i, x.buffer.sequence[p]? = some (some i) →
        p = (x.buffer.slots i).seq.toNat % j.maxPackets ∧
          ((x.buffer.slots i).seq - x.buffer.expectedSeq).toNat < j.maxPackets) ∧
      (x.reading = none → x.buffer.takeSlot ≠ none) := by
  obtain ⟨hx, hm⟩ := reached_wellFormed unmarshal hnew hmax events
  intro x all
  have hwf : x.buffer.WellFormed (fun _ => True) x.reading.toList := hx
  have hperm : all.Perm (List.range (j.maxPackets + 1)) := hm ▸ hwf.slots
  refine ⟨hperm.nodup_iff.mpr List.nodup_range, fun i => ?_, hwf.length.trans hm, ?_,
    fun p i hp => ⟨?_, ?_⟩, fun hreading htake => ?_⟩
  · rw [hperm.mem_iff, List.mem_range]
  · rw [hwf.queued, JitterBuffer.queue, List.reduceOption_length_eq, List.countP_eq_length_filter]
  · rw [← hm]
    exact hwf.position p i hp
  · rw [← hm]
    exact hwf.window i (mem_reduceOption.mpr ⟨p, hp⟩)
  · rw [hreading] at hwf
    apply hwf.freeSlots_ne_nil
    unfold JitterBuffer.takeSlot at htake
    split at htake
    · assumption
    · simp at htake

/-- A packet of the running stream inside the window and not queued yet is queued, and counted as
no drop, exactly if no packet queued has its number's residue. -/
theorem window_accepts_iff (hnew : newRTPJitterBuffer d opts = some j)
    (hmax : j.maxPackets ≤ 32767) (events : List Event) (now : ℤ) (slot : Slot) :
    let x := reached unmarshal j events
    let y := stepSystem unmarshal x (.packet now slot)
    x.reading = some i → x.buffer.ssrcSet = true → slot.ssrc = x.buffer.ssrc →
    (slot.seq - x.buffer.expectedSeq).toNat < j.maxPackets →
    (∀ q ∈ x.buffer.queue, (x.buffer.slots q).seq ≠ slot.seq) →
    ((i ∈ y.buffer.queue ∧ y.buffer.slots i = slot ∧
        y.buffer.stats.packetsDropped = x.buffer.stats.packetsDropped) ↔
      ∀ q ∈ x.buffer.queue,
        (x.buffer.slots q).seq.toNat % j.maxPackets ≠ slot.seq.toNat % j.maxPackets) := by
  intro x y hreading hset hsrc hin hfresh
  obtain ⟨hx, hmax'⟩ := reached_wellFormed unmarshal hnew hmax events
  have hm : x.buffer.maxPackets = j.maxPackets := hmax'
  have hwf : x.buffer.WellFormed (fun _ => True) [i] := by
    have hx' : x.buffer.WellFormed (fun _ => True) x.reading.toList := hx
    rwa [hreading] at hx'
  have hread := hwf.fill slot
  have hstep : y.buffer = (x.buffer.fill i slot).handleSlot now i := by
    simp only [y, stepSystem, hreading]
  have hself : (x.buffer.fill i slot).slots i = slot := JitterBuffer.fill_slots_self ..
  have hother := hwf.fill_slots slot
  have hslot : y.buffer.slots i = slot := by rw [hstep, hread.handleSlot_slots trivial, hself]
  have hiff := hread.handleSlot_accepts_iff now hset (by rw [hself]; exact hsrc)
    (by rw [hself]; exact hm ▸ hin)
    (fun q hq => by rw [hself, hother q hq]; exact hfresh q hq)
  simp only [hslot, true_and]
  rw [hstep]
  refine hiff.trans (forall₂_congr fun q hq => ?_)
  rw [hself, hother q hq, ← hm]
  rfl

end Reached

section Sample

/-- The buffer of a call with no option set, at 20 ms a packet. -/
def defaultBuffer : JitterBuffer := (newRTPJitterBuffer 20000000 {}).get rfl

def numbered (seq : UInt16) : Slot :=
  ⟨[(seq >>> 8).toUInt8, seq.toUInt8], ⟨7, seq, 160 * seq.toUInt32, 0, false⟩⟩

def readNumbered : Bytes → Option Packet
  | [hi, lo] => some (numbered (hi.toUInt16 * 256 + lo.toUInt16)).packet
  | _ => none

theorem default_slots_partitioned :
    let x := reached readNumbered defaultBuffer [.take, .packet 0 (numbered 5), .take]
    (x.buffer.freeSlots ++ x.buffer.sequence.reduceOption ++ x.reading.toList).Nodup :=
  (slots_partitioned readNumbered (Option.some_get _).symm (by decide +kernel) _).1

theorem number_six_accepted :
    let x := reached readNumbered defaultBuffer [.take, .packet 0 (numbered 5), .take]
    let y := stepSystem readNumbered x (.packet 0 (numbered 6))
    39 ∈ y.buffer.queue ∧ y.buffer.slots 39 = numbered 6 ∧
      y.buffer.stats.packetsDropped = x.buffer.stats.packetsDropped :=
  (window_accepts_iff readNumbered (Option.some_get _).symm (by decide +kernel) _ 0 _
    (by decide +kernel) (by decide +kernel) (by decide +kernel) (by decide +kernel)
    (by decide +kernel)).mpr (by decide +kernel)

/-- Number 0 is 16 ahead of number 65520 in a window of 40, and both are 0 modulo 40: the second
packet is dropped although the window has room for it. -/
theorem number_zero_dropped :
    let x := reached readNumbered defaultBuffer [.take, .packet 0 (numbered 65520), .take]
    let y := stepSystem readNumbered x (.packet 0 (numbered 0))
    x.reading = some 39 ∧ x.buffer.ssrcSet = true ∧ (numbered 0).ssrc = x.buffer.ssrc ∧
      ((numbered 0).seq - x.buffer.expectedSeq).toNat = 16 ∧ x.buffer.maxPackets = 40 ∧
      (∀ q ∈ x.buffer.queue, (x.buffer.slots q).seq ≠ (numbered 0).seq) ∧
      39 ∉ y.buffer.queue ∧ y.buffer.stats.packetsDropped = x.buffer.stats.packetsDropped + 1 := by
  decide +kernel

end Sample

end Diago.Jitter
