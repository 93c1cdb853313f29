import Diago.Jitter.System
import Diago.Lib.Machine

/-! # The learned packet duration

Playout is paced by the packet duration, which arriving packets may change: two steps
of the same size in a row, each between consecutive packets of one payload type.
-/
namespace Diago.Jitter
open Lib

/-! ## What the packets seen so far say -/

/-- The newest of the packets seen, the latest arrival first: one replaces it only from ahead. -/
def newest : List Packet → Option Packet
  | [] => none
  | pkt :: earlier =>
    match newest earlier with
    | none => some pkt
    | some ref => if 0 < int16 (pkt.seq - ref.seq) then some pkt else some ref

/-- The packet directly follows the other one, has its payload type and no marker. -/
def Follows (ref pkt : Packet) : Prop :=
  pkt.seq = ref.seq + 1 ∧ pkt.payloadType = ref.payloadType ∧ pkt.marker = false

instance (ref pkt : Packet) : Decidable (Follows ref pkt) := inferInstanceAs (Decidable (_ ∧ _ ∧ _))

/-- The timestamp step to a packet that follows the newest one. -/
def pairStep (earlier : List Packet) (pkt : Packet) : Option UInt32 :=
  (newest earlier).bind fun ref =>
    if Follows ref pkt then some (pkt.timestamp - ref.timestamp) else none

def lastStep : List Packet → Option UInt32
  | [] => none
  | pkt :: earlier => (pairStep earlier pkt).or (lastStep earlier)

/-! ## The system with what it has seen -/

/-- The buffer's system, the packets since the last reset of the stream or update of the session,
and the sample durations of the sessions installed. -/
structure Watched where
  system : System
  seen : List Packet := []
  installed : List ℤ := []

def Watched.seenAfter (w : Watched) : Event → List Packet
  | .packet _ slot =>
    if w.system.reading = none then w.seen
    else if w.system.buffer.restarts slot.packet then [slot.packet]
    else slot.packet :: w.seen
  | .update _ _ => []
  | _ => w.seen

def Watched.installedAfter (w : Watched) : Event → List ℤ
  | .update sampleDur _ => sampleDur :: w.installed
  | _ => w.installed

def Watched.step (unmarshal : Bytes → Option Packet) (w : Watched) (e : Event) : Watched :=
  ⟨stepSystem unmarshal w.system e, w.seenAfter e, w.installedAfter e⟩

def watch (unmarshal : Bytes → Option Packet) (j : JitterBuffer) (events : List Event) : Watched :=
  runFrom (Watched.step unmarshal) ⟨⟨j, none⟩, [], []⟩ events

/-- A session's clock is not faster than one tick a nanosecond. -/
def Event.RateBounded : Event → Prop
  | .update _ sampleRate => sampleRate.toNat ≤ 1000000000
  | _ => True

/-! ## What sets the pace -/

structure Pace where
  packetDuration : ℤ
  clockRate : UInt32
  step : Option StepRef
  pendingStep : UInt32

def Pace.forget (p : Pace) : Pace := { p with step := none, pendingStep := 0 }

namespace JitterBuffer

variable {j k : JitterBuffer} {seq : UInt16} {now : ℤ} {i : ℕ}

def pace (j : JitterBuffer) : Pace := ⟨j.packetDuration, j.clockRate, j.step, j.pendingStep⟩

@[simp] theorem pace_count (j : JitterBuffer) (f : Stats → Stats) : (j.count f).pace = j.pace := rfl
@[simp] theorem pace_freeSlot (j : JitterBuffer) (i : ℕ) : (j.freeSlot i).pace = j.pace := rfl
@[simp] theorem pace_vacate (j : JitterBuffer) (seq : UInt16) : (j.vacate seq).pace = j.pace := rfl
@[simp] theorem pace_occupy (j : JitterBuffer) (seq : UInt16) (i : ℕ) :
    (j.occupy seq i).pace = j.pace := rfl
@[simp] theorem pace_fill (j : JitterBuffer) (i : ℕ) (slot : Slot) :
    (j.fill i slot).pace = j.pace := rfl
@[simp] theorem pace_moveBackTo (j : JitterBuffer) (seq : UInt16) :
    (j.moveBackTo seq).pace = j.pace := rfl
@[simp] theorem pace_advance (j : JitterBuffer) : j.advance.pace = j.pace := rfl
@[simp] theorem pace_schedule (j : JitterBuffer) : j.schedule.pace = j.pace := rfl
@[simp] theorem pace_release (j : JitterBuffer) (i : ℕ) : (j.release i).pace = j.pace := rfl
@[simp] theorem pace_skip (j : JitterBuffer) : j.skip.pace = j.pace := rfl
@[simp] theorem pace_stopPlayout (j : JitterBuffer) : j.stopPlayout.pace = j.pace := rfl

theorem pace_foldl {α : Type} {f : JitterBuffer → α → JitterBuffer}
    (h : ∀ j a, (f j a).pace = j.pace) (xs : List α) (j : JitterBuffer) :
    (xs.foldl f j).pace = j.pace := by
  induction xs generalizing j with
  | nil => rfl
  | cons x xs ih => rw [List.foldl_cons, ih, h]

theorem pace_dropStale (j : JitterBuffer) (seq : UInt16) : (j.dropStale seq).pace = j.pace := by
  unfold dropStale
  split
  · split_ifs <;> rfl
  · rfl

@[simp] theorem pace_makeRoom (j : JitterBuffer) (seq : UInt16) :
    (j.makeRoom seq).pace = j.pace := by
  unfold makeRoom
  split_ifs
  · exact pace_foldl (fun j _ => pace_dropStale j _) _ j
  · rfl

@[simp] theorem pace_enqueue (j : JitterBuffer) (now : ℤ) (i : ℕ) :
    (j.enqueue now i).pace = j.pace := by
  unfold enqueue resume
  split
  · split_ifs <;> rfl
  · split_ifs <;> rfl

theorem pace_fileSlot (j : JitterBuffer) (now : ℤ) (i : ℕ) : (j.fileSlot now i).pace = j.pace := by
  unfold fileSlot
  split_ifs <;> simp

theorem pace_skipLost (fuel : ℕ) (j : JitterBuffer) : (skipLost fuel j).pace = j.pace := by
  induction fuel generalizing j with
  | zero => rfl
  | succ fuel ih =>
    unfold skipLost
    split_ifs
    · rw [ih, pace_advance, pace_count]
    · rfl

theorem pace_startPlayout (j : JitterBuffer) (now : ℤ) : (j.startPlayout now).pace = j.pace :=
  pace_skipLost 65536 { j with startAt := none }

theorem pace_playDue (unmarshal : Bytes → Option Packet) (bufLen : ℕ) (j : JitterBuffer) :
    (j.playDue unmarshal bufLen).2.pace = j.pace := by
  have hplays := playDue_plays unmarshal bufLen j
  generalize j.playDue unmarshal bufLen = r at hplays
  cases hplays <;> rfl

theorem pace_readRTP (unmarshal : Bytes → Option Packet) (now : ℤ) (bufLen : ℕ) (j : JitterBuffer) :
    (j.readRTP unmarshal now bufLen).2.pace = j.pace := by
  have hstart : (if j.startsPlayout now then j.startPlayout now else j).pace = j.pace := by
    split_ifs
    · exact pace_startPlayout j now
    · rfl
  rw [← hstart, readRTP]
  generalize (if j.startsPlayout now then j.startPlayout now else j) = k
  split_ifs
  · exact pace_playDue unmarshal bufLen k
  · rfl

theorem pace_takeSlot (htake : j.takeSlot = some (i, k)) : k.pace = j.pace := by
  rw [(takeSlot_eq_some htake).2]
  rfl

theorem pace_resetStream (j : JitterBuffer) (now : ℤ) (ssrc : UInt32) (seq : UInt16) :
    (j.resetStream now ssrc seq).pace = j.pace.forget := by
  have hclear : j.clearSequence.pace = j.pace := pace_foldl pace_freeSlot _ j
  rw [← hclear]
  rfl

/-- The buffer as a packet finds it, the stream it belongs to being settled. -/
def settled (j : JitterBuffer) (now : ℤ) (pkt : Packet) : JitterBuffer :=
  ((j.count .read).followSource now pkt).restartOutside now pkt

theorem pace_settled (j : JitterBuffer) (now : ℤ) (pkt : Packet) :
    (j.settled now pkt).pace =
      if j.restarts pkt then j.pace.forget else j.pace := by
  by_cases hsrc : j.ssrcSet = false ∨ j.ssrc ≠ pkt.ssrc
  · have hrestarts : j.restarts pkt := hsrc.imp_right .inl
    have hreset : (j.count .read).followSource now pkt =
        (if j.ssrcSet then (j.count .read).count .ssrcReset else j.count .read).resetStream now
          pkt.ssrc pkt.seq := if_pos hsrc
    have hfollow : ((j.count .read).followSource now pkt).pace = j.pace.forget := by
      rw [hreset, pace_resetStream]
      split_ifs <;> rfl
    rw [if_pos hrestarts, settled, restartOutside]
    split_ifs
    · rw [pace_resetStream, hfollow]
      rfl
    · exact hfollow
  · have hfollow : (j.count .read).followSource now pkt = j.count .read := if_neg hsrc
    have hrestarts : j.restarts pkt ↔ (j.count .read).outsideWindow pkt.seq = true := by
      obtain ⟨hset, hssrc⟩ := not_or.mp hsrc
      exact (or_iff_right hset).trans (or_iff_right hssrc)
    rw [settled, hfollow, restartOutside]
    by_cases hout : (j.count .read).outsideWindow pkt.seq = true
    · rw [if_pos hout, if_pos (hrestarts.mpr hout)]
      exact pace_resetStream _ now pkt.ssrc pkt.seq
    · rw [if_neg hout, if_neg (hrestarts.not.mpr hout)]
      rfl

end JitterBuffer

/-! ## Learning -/

def refOf (pkt : Packet) : StepRef := ⟨pkt.seq, pkt.timestamp, pkt.payloadType⟩

def stepDuration (step clockRate : UInt32) : ℤ := step.toNat * 1000000000 / clockRate.toNat

theorem Follows.ahead {ref pkt : Packet} (h : Follows ref pkt) : 0 < int16 (pkt.seq - ref.seq) := by
  rw [h.1, UInt16.add_comm, UInt16.add_sub_cancel]
  decide

namespace JitterBuffer

variable {j : JitterBuffer} {ref : Packet}

theorem learn_clockRate (j : JitterBuffer) (pkt : Packet) :
    (j.learnPacketDuration pkt).clockRate = j.clockRate := by
  obtain ⟨d, s, p, heq⟩ := learnPacketDuration_eq j pkt
  rw [heq]

theorem learn_first (hrate : j.clockRate ≠ 0) (hstep : j.step = none) (pkt : Packet) :
    (j.learnPacketDuration pkt).pace = { j.pace with step := some (refOf pkt) } := by
  simp [learnPacketDuration, hrate, hstep, pace, refOf]

theorem learn_other (hrate : j.clockRate ≠ 0) (hstep : j.step = some (refOf ref)) {pkt : Packet}
    (hother : ¬ Follows ref pkt) :
    (j.learnPacketDuration pkt).pace =
      { j.pace with
        step := if 0 < int16 (pkt.seq - ref.seq) then some (refOf pkt) else some (refOf ref) } := by
  have hpair : ¬ (pkt.seq = (refOf ref).seq + 1 ∧ pkt.payloadType = (refOf ref).payloadType ∧
      pkt.marker = false) := hother
  simp only [learnPacketDuration, if_neg hrate, hstep, if_neg hpair, Option.all_some,
    decide_eq_true_eq]
  by_cases hahead : 0 < int16 (pkt.seq - ref.seq)
  · rw [if_pos hahead]
    exact congrArg pace (if_pos hahead)
  · rw [if_neg hahead, ← hstep]
    exact congrArg pace (if_neg hahead)

theorem learn_follows (hrate : j.clockRate ≠ 0) (hstep : j.step = some (refOf ref)) {pkt : Packet}
    (hfollows : Follows ref pkt) :
    let step := pkt.timestamp - ref.timestamp
    (j.learnPacketDuration pkt).pace =
      { packetDuration :=
          if 0 < step ∧ step = j.pendingStep ∧
            stepDuration step j.clockRate ≤ maxLearnedRTPPacketDuration
          then stepDuration step j.clockRate else j.packetDuration
        clockRate := j.clockRate
        step := some (refOf pkt)
        pendingStep := step } := by
  have hpair : pkt.seq = (refOf ref).seq + 1 ∧ pkt.payloadType = (refOf ref).payloadType ∧
      pkt.marker = false := hfollows
  have hahead : 0 < int16 (pkt.seq - (refOf ref).seq) := hfollows.ahead
  simp only [learnPacketDuration, if_neg hrate, hstep, if_pos hpair, Option.all_some,
    decide_eq_true_eq, if_pos hahead]
  rfl

end JitterBuffer

/-- A buffer that learns compares the next packet with the newest one seen, and its step with the
last one. -/
structure Tracks (p : Pace) (seen : List Packet) : Prop where
  step : p.step = (newest seen).map refOf
  pendingStep : p.pendingStep = (lastStep seen).getD 0

section Learning

variable {j : JitterBuffer} {seen : List Packet} {pkt ref : Packet}

theorem newest_cons (hnewest : newest seen = some ref) :
    newest (pkt :: seen) = if 0 < int16 (pkt.seq - ref.seq) then some pkt else some ref := by
  rw [newest, hnewest]

theorem pairStep_of_newest (hnewest : newest seen = some ref) :
    pairStep seen pkt = if Follows ref pkt then some (pkt.timestamp - ref.timestamp) else none := by
  rw [pairStep, hnewest, Option.bind_some]

theorem tracks_forget (p : Pace) : Tracks p.forget [] := ⟨rfl, rfl⟩

theorem Tracks.learn (h : Tracks j.pace seen) (hrate : j.clockRate ≠ 0) (pkt : Packet) :
    Tracks (j.learnPacketDuration pkt).pace (pkt :: seen) := by
  have hstep : j.step = (newest seen).map refOf := h.step
  have hpending : j.pendingStep = (lastStep seen).getD 0 := h.pendingStep
  cases hnewest : newest seen with
  | none =>
    rw [hnewest] at hstep
    rw [JitterBuffer.learn_first hrate hstep]
    constructor
    · rw [newest, hnewest, Option.map_some]
    · rw [lastStep, pairStep, hnewest, Option.bind_none, Option.none_or]
      exact hpending
  | some ref =>
    rw [hnewest] at hstep
    by_cases hfollows : Follows ref pkt
    · rw [JitterBuffer.learn_follows hrate hstep hfollows]
      constructor
      · rw [newest_cons hnewest, if_pos hfollows.ahead, Option.map_some]
      · rw [lastStep, pairStep_of_newest hnewest, if_pos hfollows, Option.some_or, Option.getD_some]
    · rw [JitterBuffer.learn_other hrate hstep hfollows]
      constructor
      · rw [newest_cons hnewest]
        split_ifs <;> rfl
      · rw [lastStep, pairStep_of_newest hnewest, if_neg hfollows, Option.none_or]
        exact hpending

/-- A new packet duration is the repeated step of a packet that follows the newest one. -/
theorem Tracks.learned (h : Tracks j.pace seen) (hrate : j.clockRate ≠ 0) (pkt : Packet) :
    (j.learnPacketDuration pkt).packetDuration = j.packetDuration ∨
      ∃ ref ∈ newest seen, Follows ref pkt ∧
        lastStep seen = some (pkt.timestamp - ref.timestamp) ∧ 0 < pkt.timestamp - ref.timestamp ∧
        (j.learnPacketDuration pkt).packetDuration =
          stepDuration (pkt.timestamp - ref.timestamp) j.clockRate ∧
        (j.learnPacketDuration pkt).packetDuration ≤ maxLearnedRTPPacketDuration := by
  have hstep : j.step = (newest seen).map refOf := h.step
  have hpending : j.pendingStep = (lastStep seen).getD 0 := h.pendingStep
  cases hnewest : newest seen with
  | none =>
    rw [hnewest] at hstep
    exact .inl (congrArg Pace.packetDuration (JitterBuffer.learn_first hrate hstep pkt))
  | some ref =>
    rw [hnewest] at hstep
    by_cases hfollows : Follows ref pkt
    · have hduration := congrArg Pace.packetDuration
        (JitterBuffer.learn_follows hrate hstep hfollows)
      change (j.learnPacketDuration pkt).packetDuration = _ at hduration
      rw [hduration]
      dsimp only
      split_ifs with hlearned
      · obtain ⟨hpositive, hrepeats, hshort⟩ := hlearned
        refine .inr ⟨ref, rfl, hfollows, ?_, hpositive, rfl, hshort⟩
        rw [hpending] at hrepeats
        cases hlast : lastStep seen with
        | none =>
          rw [hlast, Option.getD_none] at hrepeats
          rw [hrepeats] at hpositive
          exact absurd hpositive (lt_irrefl 0)
        | some step =>
          rw [hlast, Option.getD_some] at hrepeats
          rw [hrepeats]
      · exact .inl rfl
    · exact .inl (congrArg Pace.packetDuration (JitterBuffer.learn_other hrate hstep hfollows))

/-- With at most a tick a nanosecond a step lasts at least one. -/
theorem stepDuration_pos {step clockRate : UInt32} (hstep : 0 < step) (hrate : clockRate ≠ 0)
    (hbound : clockRate.toNat ≤ 1000000000) : 0 < stepDuration step clockRate := by
  have hpos : 0 < step.toNat := UInt32.lt_iff_toNat_lt.mp hstep
  have hrate : 0 < clockRate.toNat :=
    Nat.pos_of_ne_zero fun hzero => hrate (UInt32.toNat_inj.mp hzero)
  have hone : 1 ≤ stepDuration step clockRate := by
    apply Int.le_ediv_of_mul_le <;> omega
  omega

/-- In 64 bits a step of nanoseconds does not overflow, whatever the timestamps. -/
theorem wrap64_step (step : UInt32) :
    wrap64 (step.toNat * 1000000000) = step.toNat * 1000000000 := by
  have hstep := step.toNat_lt
  apply wrap64_of_range <;> omega

end Learning

/-! ## Over whole runs -/

/-- The pace is positive and bounded by the durations it was set to, and the buffer keeps track of
what was seen if it learns. -/
structure Watched.Sane (d : ℤ) (w : Watched) : Prop where
  positive : 0 < w.system.buffer.packetDuration
  bounded : ∃ bound ∈ d :: maxLearnedRTPPacketDuration :: w.installed,
    w.system.buffer.packetDuration ≤ bound
  rate : w.system.buffer.clockRate.toNat ≤ 1000000000
  tracks : w.system.buffer.clockRate ≠ 0 → Tracks w.system.buffer.pace w.seen

section Runs

variable {d : ℤ} {w : Watched} {j : JitterBuffer} (unmarshal : Bytes → Option Packet)

/-- What depends on the pace alone carries over to a buffer with the same pace. -/
theorem Watched.Sane.of_pace (h : w.Sane d) {x : System}
    (hpace : x.buffer.pace = w.system.buffer.pace) : Watched.Sane d ⟨x, w.seen, w.installed⟩ := by
  have hduration : x.buffer.packetDuration = w.system.buffer.packetDuration :=
    congrArg Pace.packetDuration hpace
  have hrate : x.buffer.clockRate = w.system.buffer.clockRate := congrArg Pace.clockRate hpace
  refine ⟨?_, ?_, ?_, ?_⟩
  · rw [hduration]
    exact h.positive
  · rw [hduration]
    exact h.bounded
  · rw [hrate]
    exact h.rate
  · rw [hrate, hpace]
    exact h.tracks

def Watched.before (w : Watched) (pkt : Packet) : List Packet :=
  if w.system.buffer.restarts pkt then [] else w.seen

theorem pace_packet {i : ℕ} (now : ℤ) (slot : Slot) :
    ((j.fill i slot).handleSlot now i).pace =
      (((j.fill i slot).settled now slot.packet).learnPacketDuration slot.packet).pace := by
  rw [JitterBuffer.handleSlot, JitterBuffer.pace_fileSlot, JitterBuffer.fill_slots_self]
  rfl

/-- Settling the stream leaves the duration and the clock as they are, and what was seen with the
packets the next one is compared with. -/
theorem Watched.Sane.settled (h : w.Sane d) (i : ℕ) (now : ℤ) (slot : Slot) :
    ((w.system.buffer.fill i slot).settled now slot.packet).packetDuration =
        w.system.buffer.packetDuration ∧
      ((w.system.buffer.fill i slot).settled now slot.packet).clockRate =
        w.system.buffer.clockRate ∧
      (w.system.buffer.clockRate ≠ 0 →
        Tracks ((w.system.buffer.fill i slot).settled now slot.packet).pace
          (w.before slot.packet)) := by
  have hpace := JitterBuffer.pace_settled (w.system.buffer.fill i slot) now slot.packet
  change ((w.system.buffer.fill i slot).settled now slot.packet).pace =
    if w.system.buffer.restarts slot.packet then w.system.buffer.pace.forget
    else w.system.buffer.pace at hpace
  by_cases hrestarts : w.system.buffer.restarts slot.packet
  · rw [if_pos hrestarts] at hpace
    rw [Watched.before, if_pos hrestarts, hpace]
    exact ⟨congrArg Pace.packetDuration hpace, congrArg Pace.clockRate hpace,
      fun _ => tracks_forget _⟩
  · rw [if_neg hrestarts] at hpace
    rw [Watched.before, if_neg hrestarts, hpace]
    exact ⟨congrArg Pace.packetDuration hpace, congrArg Pace.clockRate hpace, h.tracks⟩

/-- What an arrival leaves: the duration it found, or the repeated step of a packet that follows
the newest one. -/
theorem Watched.Sane.arrival (h : w.Sane d) (i : ℕ) (now : ℤ) (slot : Slot) :
    let b := (w.system.buffer.fill i slot).handleSlot now i
    b.clockRate = w.system.buffer.clockRate ∧
      (b.clockRate ≠ 0 → Tracks b.pace (slot.packet :: w.before slot.packet)) ∧
      (b.packetDuration = w.system.buffer.packetDuration ∨
        0 < b.packetDuration ∧ b.packetDuration ≤ maxLearnedRTPPacketDuration ∧
        ∃ ref ∈ newest (w.before slot.packet), Follows ref slot.packet ∧
          lastStep (w.before slot.packet) = some (slot.packet.timestamp - ref.timestamp)) := by
  intro b
  obtain ⟨hduration, hclock, htracks⟩ := h.settled i now slot
  have hpace : b.pace = _ := pace_packet now slot
  have hlearned : b.packetDuration = _ := congrArg Pace.packetDuration hpace
  have hrate : b.clockRate = w.system.buffer.clockRate :=
    (congrArg Pace.clockRate hpace).trans ((JitterBuffer.learn_clockRate _ _).trans hclock)
  refine ⟨hrate, ?_, ?_⟩
  · intro hne
    rw [hrate] at hne
    rw [hpace]
    exact (htracks hne).learn (hclock ▸ hne) slot.packet
  by_cases hzero : w.system.buffer.clockRate = 0
  · left
    exact hlearned.trans ((congrArg JitterBuffer.packetDuration
      (if_pos (hclock.trans hzero))).trans hduration)
  · have hne := hclock ▸ hzero
    obtain hkept | ⟨ref, href, hfollows, hlast, hpos, hstep, hshort⟩ :=
      (htracks hzero).learned hne slot.packet
    · exact .inl (hlearned.trans (hkept.trans hduration))
    · refine .inr ⟨?_, hlearned ▸ hshort, ref, href, hfollows, hlast⟩
      rw [hlearned]
      change 0 < (JitterBuffer.learnPacketDuration _ _).packetDuration
      rw [hstep]
      exact stepDuration_pos hpos hne (hclock ▸ h.rate)

theorem Watched.Sane.packet (h : w.Sane d) {i : ℕ} (hreading : w.system.reading = some i) (now : ℤ)
    (slot : Slot) : (w.step unmarshal (.packet now slot)).Sane d := by
  have hseen : w.seenAfter (.packet now slot) = slot.packet :: w.before slot.packet := by
    rw [Watched.seenAfter, Watched.before, if_neg (by simp [hreading])]
    split_ifs <;> rfl
  have hbuffer : (stepSystem unmarshal w.system (.packet now slot)).buffer =
      (w.system.buffer.fill i slot).handleSlot now i := by
    rw [stepSystem, hreading]
  obtain ⟨hrate, htracks, hduration⟩ := h.arrival i now slot
  rw [← hbuffer] at hrate htracks hduration
  refine ⟨?_, ?_, hrate ▸ h.rate, ?_⟩
  · obtain hkept | ⟨hpos, -, -⟩ := hduration
    · exact hkept ▸ h.positive
    · exact hpos
  · obtain hkept | ⟨-, hshort, -⟩ := hduration
    · exact hkept ▸ h.bounded
    · exact ⟨maxLearnedRTPPacketDuration, by simp, hshort⟩
  · rw [Watched.step, hseen]
    exact htracks

theorem Watched.Sane.update (h : w.Sane d) (sampleDur : ℤ) {sampleRate : UInt32}
    (hbound : sampleRate.toNat ≤ 1000000000) :
    (w.step unmarshal (.update sampleDur sampleRate)).Sane d := by
  refine ⟨?_, ?_, ?_, fun _ => ⟨rfl, rfl⟩⟩
  · change 0 < if 0 < sampleDur then sampleDur else w.system.buffer.packetDuration
    split_ifs with hpos
    · exact hpos
    · exact h.positive
  · change ∃ bound ∈ d :: maxLearnedRTPPacketDuration :: sampleDur :: w.installed,
      (if 0 < sampleDur then sampleDur else w.system.buffer.packetDuration) ≤ bound
    split_ifs
    · exact ⟨sampleDur, by simp, le_rfl⟩
    · obtain ⟨bound, hmem, hle⟩ := h.bounded
      exact ⟨bound, by simp only [List.mem_cons] at hmem ⊢; tauto, hle⟩
  · change (if w.system.buffer.clockRate ≠ 0 ∧ sampleRate ≠ 0 then sampleRate
      else w.system.buffer.clockRate).toNat ≤ _
    split_ifs
    · exact hbound
    · exact h.rate

theorem Watched.Sane.step (h : w.Sane d) (e : Event) (he : e.RateBounded) :
    (w.step unmarshal e).Sane d := by
  cases e with
  | take =>
    apply h.of_pace
    rw [stepSystem]
    split_ifs
    · cases htake : w.system.buffer.takeSlot with
      | none => rfl
      | some taken => exact JitterBuffer.pace_takeSlot htake
    · rfl
  | upstreamError err =>
    apply h.of_pace
    rw [stepSystem]
    split <;> rfl
  | keepAlive =>
    apply h.of_pace
    rw [stepSystem]
    split <;> rfl
  | packet now slot =>
    cases hreading : w.system.reading with
    | none =>
      have hsame : w.step unmarshal (.packet now slot) = w := by
        rw [Watched.step, stepSystem, hreading, Watched.seenAfter, if_pos hreading]
        rfl
      rw [hsame]
      exact h
    | some i => exact h.packet unmarshal hreading now slot
  | readRTP now bufLen => exact h.of_pace (JitterBuffer.pace_readRTP unmarshal now bufLen _)
  | update sampleDur sampleRate => exact h.update unmarshal sampleDur he

theorem sane_new {opts : Options} (hnew : newRTPJitterBuffer d opts = some j)
    (hrate : opts.clockRate.toNat ≤ 1000000000) : Watched.Sane d ⟨⟨j, none⟩, [], []⟩ := by
  unfold newRTPJitterBuffer at hnew
  split_ifs at hnew with hpos
  obtain rfl := Option.some.inj hnew
  exact ⟨not_le.mp hpos, ⟨d, by simp, le_rfl⟩, hrate, fun _ => ⟨rfl, rfl⟩⟩

/-- The packet duration stays positive and bounded, the step of an arrival is computed without
overflow, and an arrival changes the duration only by repeating a step. -/
theorem learned_duration_sane {opts : Options} (hnew : newRTPJitterBuffer d opts = some j)
    (hrate : opts.clockRate.toNat ≤ 1000000000) {events : List Event}
    (hevents : ∀ e ∈ events, e.RateBounded) :
    let w := watch unmarshal j events
    let b := w.system.buffer
    0 < b.packetDuration ∧
      (∃ bound ∈ d :: maxLearnedRTPPacketDuration :: w.installed, b.packetDuration ≤ bound) ∧
      ∀ now slot,
        (∀ ref ∈ newest w.seen,
          wrap64 ((slot.packet.timestamp - ref.timestamp).toNat * 1000000000) =
            (slot.packet.timestamp - ref.timestamp).toNat * 1000000000) ∧
        ((stepSystem unmarshal w.system (.packet now slot)).buffer.packetDuration ≠
            b.packetDuration →
          ¬ b.restarts slot.packet ∧ ∃ ref ∈ newest w.seen, Follows ref slot.packet ∧
            lastStep w.seen = some (slot.packet.timestamp - ref.timestamp)) := by
  intro w b
  have hsane : w.Sane d := runFrom_invariant_of_mem (Watched.Sane d)
    (fun w e h he => h.step unmarshal e he) (sane_new hnew hrate) hevents
  refine ⟨hsane.positive, hsane.bounded, fun now slot => ⟨fun ref _ => wrap64_step _, ?_⟩⟩
  intro hchanged
  cases hreading : w.system.reading with
  | none =>
    rw [stepSystem, hreading] at hchanged
    exact absurd rfl hchanged
  | some i =>
    obtain ⟨-, -, hkept | ⟨-, -, ref, href, hfollows, hlast⟩⟩ := hsane.arrival i now slot
    · rw [stepSystem, hreading] at hchanged
      exact absurd hkept hchanged
    · by_cases hrestarts : b.restarts slot.packet
      · rw [Watched.before, if_pos hrestarts] at href
        simp [newest] at href
      · rw [Watched.before, if_neg hrestarts] at href hlast
        exact ⟨hrestarts, ref, href, hfollows, hlast⟩

end Runs

/-- An arrival of PCMU, with the timestamp of 30 ms of samples for each packet before it. -/
def thirtyMs (n : ℕ) : List Event :=
  [.take, .packet 0 ⟨[0], ⟨9, UInt16.ofNat n, UInt32.ofNat (240 * n), 0, false⟩⟩]

/-- In a buffer built for 20 ms the third packet repeats the step, and playout goes on at 30 ms. -/
theorem third_packet_learned : ∃ j, newRTPJitterBuffer 20000000 { clockRate := 8000 } = some j ∧
    let w := watch (fun _ => none) j (thirtyMs 1 ++ thirtyMs 2 ++ [.take])
    let pkt : Packet := ⟨9, 3, 720, 0, false⟩
    (stepSystem (fun _ => none) w.system (.packet 0 ⟨[0], pkt⟩)).buffer.packetDuration = 30000000 ∧
      0 < w.system.buffer.packetDuration ∧ ¬ w.system.buffer.restarts pkt ∧
      ∃ ref ∈ newest w.seen, Follows ref pkt ∧
        lastStep w.seen = some (pkt.timestamp - ref.timestamp) := by
  refine ⟨_, rfl, ?_⟩
  intro w pkt
  have hlearned : (stepSystem (fun _ => none) w.system
      (.packet 0 ⟨[0], pkt⟩)).buffer.packetDuration = 30000000 := by decide +kernel
  have hnew : newRTPJitterBuffer 20000000 { clockRate := 8000 } = some _ := rfl
  have hevents : ∀ e ∈ thirtyMs 1 ++ thirtyMs 2 ++ [.take], e.RateBounded := by
    simp [thirtyMs, Event.RateBounded]
  obtain ⟨hpos, -, harrival⟩ := learned_duration_sane (fun _ => none) hnew (by decide) hevents
  refine ⟨hlearned, hpos, (harrival 0 ⟨[0], pkt⟩).2 ?_⟩
  rw [hlearned]
  decide +kernel

end Diago.Jitter
