import Diago.Jitter.Waiting
import Diago.Lib.Schedule

/-! # The threads of the jitter buffer

The read loop reads the injected reader, files what it read and wakes ReadRTP
through a channel of capacity one. ReadRTP decides on everything filed and waits
for a timer, for that channel or for Close. Close stops both, without waiting for
the read loop, whose end Done reports. Each critical section, each select and
each other statement between them is one step, and the steps interleave. When
the injected reader returns, and what, is up to it.
-/
namespace Diago.Jitter
open Lib

inductive Upstream
  | packet (slot : Slot)
  | nothing
  | failed (err : ℕ)

/-- Where readLoop is. Injected readers are named by their number. -/
inductive Loop
  | unstarted
  | checking
  | taking
  | looking
  | reading (reader : ℕ)
  /-- The read has failed, and the reader in place is looked up. -/
  | comparing (reader err : ℕ)
  /-- The reader was replaced meanwhile: at the select on done of readUpstream. -/
  | moving (next err : ℕ)
  | filing (result : Upstream)
  /-- Past the lock: notify comes next, and then the next packet or the end. -/
  | notifying (ends : Bool)
  | ended

inductive Reader
  | outside
  | starting
  | checking
  | deciding
  /-- In the last select of its loop, with the time its timer fires at, if it has one. -/
  | waiting (timer : Option ℤ)
  deriving DecidableEq

inductive Closing
  | opened
  | stopping
  | finished
  deriving DecidableEq

structure Threads where
  core : System
  reader : ℕ := 0
  loop : Loop := .unstarted
  read : Reader := .outside
  closing : Closing := .opened
  arrived : Bool := false
  startOnce : Bool := false
  readLoopDone : ℕ := 0
  reads : ℕ := 0

namespace Threads

def closed (x : Threads) : Bool := x.closing ≠ .opened

def loopReturns (x : Threads) : Threads :=
  { x with loop := .ended, readLoopDone := x.readLoopDone + 1 }

def start (x : Threads) : Threads :=
  if x.startOnce then x else { x with startOnce := true, loop := .checking }

def beginRead (x : Threads) (reader : ℕ) : Threads :=
  { x with loop := .reading reader, reads := x.reads + 1 }

end Threads

def Upstream.event (now : ℤ) : Upstream → Event
  | .packet slot => .packet now slot
  | .nothing => .keepAlive
  | .failed err => .upstreamError err

/-- Where the read loop goes from the critical section that files the result. -/
def Upstream.next : Upstream → Loop
  | .packet _ => .notifying false
  | .nothing => .checking
  | .failed _ => .notifying true

inductive Move
  | call
  | start
  | check
  | decide (now : ℤ) (bufLen : ℕ)
  | wakeClosed
  | wakeArrived
  | wakeTimer (now : ℤ)
  | loopCheck
  | loopTake
  | loopLook
  /-- The injected reader returns, with something to file or with an error. -/
  | upstream (result : Upstream)
  | loopCompare
  | loopMove
  | loopFile (now : ℤ)
  | loopNotify
  | update (reader : ℕ) (sampleDur : ℤ) (sampleRate : UInt32)
  | closeDone
  | closeFinish

def JitterBuffer.timer (now : ℤ) (j : JitterBuffer) : Option ℤ :=
  if 0 < j.wait now then some (now + j.wait now) else none

def afterDecision (now : ℤ) (r : Decision × JitterBuffer) : Reader :=
  match r.1 with
  | .waiting => .waiting (r.2.timer now)
  | .skipped => .checking
  | .released _ _ | .malformed | .shortBuffer | .ended _ => .outside

variable (unmarshal : Bytes → Option Packet)

def Threads.step (x : Threads) : Move → Option Threads
  | .call => if x.read = .outside then some { x with read := .starting } else none
  | .start => if x.read = .starting then some { x.start with read := .checking } else none
  | .check =>
    if x.read = .checking then
      some { x with read := if x.closed then .outside else .deciding }
    else none
  | .decide now bufLen =>
    if x.read = .deciding then
      some { x with
        core := stepSystem unmarshal x.core (.readRTP now bufLen)
        read := afterDecision now (x.core.buffer.readRTP unmarshal now bufLen) }
    else none
  | .wakeClosed =>
    match x.read with
    | .waiting _ => if x.closed then some { x with read := .outside } else none
    | _ => none
  | .wakeArrived =>
    match x.read with
    | .waiting _ => if x.arrived then some { x with read := .checking, arrived := false } else none
    | _ => none
  | .wakeTimer now =>
    match x.read with
    | .waiting (some t) => if t ≤ now then some { x with read := .checking } else none
    | _ => none
  | .loopCheck =>
    match x.loop with
    | .checking => some (if x.closed then x.loopReturns else { x with loop := .taking })
    | _ => none
  | .loopTake =>
    match x.loop with
    | .taking => some { x with core := stepSystem unmarshal x.core .take, loop := .looking }
    | _ => none
  | .loopLook =>
    match x.loop with
    | .looking => some (x.beginRead x.reader)
    | _ => none
  | .upstream result =>
    match x.loop, result with
    | .reading reader, .failed err => some { x with loop := .comparing reader err }
    | .reading _, _ => some { x with loop := .filing result }
    | _, _ => none
  | .loopCompare =>
    match x.loop with
    | .comparing reader err =>
      some { x with
        loop := if x.reader = reader then .filing (.failed err) else .moving x.reader err }
    | _ => none
  | .loopMove =>
    match x.loop with
    | .moving next err =>
      some (if x.closed then { x with loop := .filing (.failed err) } else x.beginRead next)
    | _ => none
  | .loopFile now =>
    match x.loop with
    | .filing result =>
      some { x with
        core := stepSystem unmarshal x.core (result.event now)
        loop := result.next }
    | _ => none
  | .loopNotify =>
    match x.loop with
    | .notifying ends =>
      let x := { x with arrived := true }
      some (if ends then x.loopReturns else { x with loop := .checking })
    | _ => none
  | .update reader sampleDur sampleRate =>
    some { x with
      core := stepSystem unmarshal x.core (.update sampleDur sampleRate)
      reader }
  | .closeDone => if x.closing = .opened then some { x with closing := .stopping } else none
  | .closeFinish =>
    if x.closing = .stopping then
      some (if x.startOnce then { x with closing := .finished }
        else { x with
          closing := .finished
          startOnce := true
          readLoopDone := x.readLoopDone + 1 })
    else none

variable {unmarshal} {j : JitterBuffer} {i : ℕ} {seq : UInt16} {now : ℤ} {x y : Threads} {m : Move}

/-- What each step is, with what it takes to be possible. -/
inductive Threads.Takes (unmarshal : Bytes → Option Packet) (x : Threads) : Move → Threads → Prop
  | call (hread : x.read = .outside) : Takes unmarshal x .call { x with read := .starting }
  | start (hread : x.read = .starting) :
    Takes unmarshal x .start { x.start with read := .checking }
  | check (hread : x.read = .checking) :
    Takes unmarshal x .check { x with read := if x.closed then .outside else .deciding }
  | decide {now : ℤ} {bufLen : ℕ} (hread : x.read = .deciding) :
    Takes unmarshal x (.decide now bufLen)
      { x with
        core := stepSystem unmarshal x.core (.readRTP now bufLen)
        read := afterDecision now (x.core.buffer.readRTP unmarshal now bufLen) }
  | wakeClosed {timer : Option ℤ} (hread : x.read = .waiting timer) (hclosed : x.closed = true) :
    Takes unmarshal x .wakeClosed { x with read := .outside }
  | wakeArrived {timer : Option ℤ} (hread : x.read = .waiting timer)
      (harrived : x.arrived = true) :
    Takes unmarshal x .wakeArrived { x with read := .checking, arrived := false }
  | wakeTimer {t now : ℤ} (hread : x.read = .waiting (some t)) (ht : t ≤ now) :
    Takes unmarshal x (.wakeTimer now) { x with read := .checking }
  | loopStops (hloop : x.loop = .checking) (hclosed : x.closed = true) :
    Takes unmarshal x .loopCheck x.loopReturns
  | loopCheck (hloop : x.loop = .checking) (hclosed : x.closed = false) :
    Takes unmarshal x .loopCheck { x with loop := .taking }
  | loopTake (hloop : x.loop = .taking) :
    Takes unmarshal x .loopTake
      { x with core := stepSystem unmarshal x.core .take, loop := .looking }
  | loopLook (hloop : x.loop = .looking) :
    Takes unmarshal x .loopLook (x.beginRead x.reader)
  | upstreamFails {reader err : ℕ} (hloop : x.loop = .reading reader) :
    Takes unmarshal x (.upstream (.failed err)) { x with loop := .comparing reader err }
  | upstream {reader : ℕ} {result : Upstream} (hloop : x.loop = .reading reader) :
    Takes unmarshal x (.upstream result) { x with loop := .filing result }
  | loopCompare {reader err : ℕ} (hloop : x.loop = .comparing reader err) :
    Takes unmarshal x .loopCompare
      { x with
        loop := if x.reader = reader then .filing (.failed err) else .moving x.reader err }
  | loopGivesUp {next err : ℕ} (hloop : x.loop = .moving next err) (hclosed : x.closed = true) :
    Takes unmarshal x .loopMove { x with loop := .filing (.failed err) }
  | loopMove {next err : ℕ} (hloop : x.loop = .moving next err) (hclosed : x.closed = false) :
    Takes unmarshal x .loopMove (x.beginRead next)
  | loopFile {now : ℤ} {result : Upstream} (hloop : x.loop = .filing result) :
    Takes unmarshal x (.loopFile now)
      { x with core := stepSystem unmarshal x.core (result.event now), loop := result.next }
  | loopEnds (hloop : x.loop = .notifying true) :
    Takes unmarshal x .loopNotify { x with arrived := true }.loopReturns
  | loopNotify (hloop : x.loop = .notifying false) :
    Takes unmarshal x .loopNotify { x with arrived := true, loop := .checking }
  | update (reader : ℕ) (sampleDur : ℤ) (sampleRate : UInt32) :
    Takes unmarshal x (.update reader sampleDur sampleRate)
      { x with core := stepSystem unmarshal x.core (.update sampleDur sampleRate), reader }
  | closeDone (hclosing : x.closing = .opened) :
    Takes unmarshal x .closeDone { x with closing := .stopping }
  | closeFinish (hclosing : x.closing = .stopping) (hstart : x.startOnce = true) :
    Takes unmarshal x .closeFinish { x with closing := .finished }
  | closeUnstarted (hclosing : x.closing = .stopping) (hstart : x.startOnce = false) :
    Takes unmarshal x .closeFinish
      { x with closing := .finished, startOnce := true, readLoopDone := x.readLoopDone + 1 }

theorem Threads.takes_of_step (h : x.step unmarshal m = some y) : x.Takes unmarshal m y := by
  cases m with
  | call =>
    obtain ⟨hread, h⟩ := Option.ite_none_right_eq_some.mp h
    cases h
    exact .call hread
  | start =>
    obtain ⟨hread, h⟩ := Option.ite_none_right_eq_some.mp h
    cases h
    exact .start hread
  | check =>
    obtain ⟨hread, h⟩ := Option.ite_none_right_eq_some.mp h
    cases h
    exact .check hread
  | decide now bufLen =>
    obtain ⟨hread, h⟩ := Option.ite_none_right_eq_some.mp h
    cases h
    exact .decide hread
  | wakeClosed =>
    simp only [step] at h
    split at h
    next hread =>
      obtain ⟨hclosed, h⟩ := Option.ite_none_right_eq_some.mp h
      cases h
      exact .wakeClosed hread hclosed
    · cases h
  | wakeArrived =>
    simp only [step] at h
    split at h
    next hread =>
      obtain ⟨harrived, h⟩ := Option.ite_none_right_eq_some.mp h
      cases h
      exact .wakeArrived hread harrived
    · cases h
  | wakeTimer now =>
    simp only [step] at h
    split at h
    next t hread =>
      obtain ⟨ht, h⟩ := Option.ite_none_right_eq_some.mp h
      cases h
      exact .wakeTimer hread ht
    · cases h
  | loopCheck =>
    simp only [step] at h
    split at h
    next hloop =>
      split_ifs at h with hclosed
      · cases h
        exact .loopStops hloop hclosed
      · cases h
        exact .loopCheck hloop (by simpa using hclosed)
    · cases h
  | loopTake =>
    simp only [step] at h
    split at h
    next hloop =>
      cases h
      exact .loopTake hloop
    · cases h
  | loopLook =>
    simp only [step] at h
    split at h
    next hloop =>
      cases h
      exact .loopLook hloop
    · cases h
  | upstream result =>
    simp only [step] at h
    split at h
    next hloop =>
      cases h
      exact .upstreamFails hloop
    next hloop _ =>
      cases h
      exact .upstream hloop
    · cases h
  | loopCompare =>
    simp only [step] at h
    split at h
    next hloop =>
      cases h
      exact .loopCompare hloop
    · cases h
  | loopMove =>
    simp only [step] at h
    split at h
    next next err hloop =>
      cases h
      split_ifs with hclosed
      · exact .loopGivesUp hloop hclosed
      · exact .loopMove hloop (by simpa using hclosed)
    · cases h
  | loopFile now =>
    simp only [step] at h
    split at h
    next hloop =>
      cases h
      exact .loopFile hloop
    · cases h
  | loopNotify =>
    simp only [step] at h
    split at h
    next ends hloop =>
      cases h
      cases ends with
      | true => exact .loopEnds hloop
      | false => exact .loopNotify hloop
    · cases h
  | update reader sampleDur sampleRate =>
    cases h
    exact .update reader sampleDur sampleRate
  | closeDone =>
    obtain ⟨hclosing, h⟩ := Option.ite_none_right_eq_some.mp h
    cases h
    exact .closeDone hclosing
  | closeFinish =>
    obtain ⟨hclosing, h⟩ := Option.ite_none_right_eq_some.mp h
    split_ifs at h with hstart
    · cases h
      exact .closeFinish hclosing hstart
    · cases h
      exact .closeUnstarted hclosing (by simpa using hstart)

/-! ## No wake-up is lost -/

namespace JitterBuffer

/-- While playout runs, no time is set for it to start at. -/
structure Paced (j : JitterBuffer) : Prop where
  playing : j.playout = true → j.startAt = none ∧ j.resync = false
  delay_pos : 0 < j.delayPackets

theorem Paced.of_stopped (h : j.playout = false) (hdelay : 0 < j.delayPackets) : j.Paced :=
  ⟨fun hplay => by simp [h] at hplay, hdelay⟩

theorem foldl_freeSlot_delayPackets (l : List ℕ) (j : JitterBuffer) :
    (l.foldl freeSlot j).delayPackets = j.delayPackets := by
  induction l generalizing j with
  | nil => rfl
  | cons i l ih => exact ih (j.freeSlot i)

theorem Paced.resetStream (h : j.Paced) (now : ℤ) (ssrc : UInt32) (seq : UInt16) :
    (j.resetStream now ssrc seq).Paced :=
  .of_stopped rfl ((foldl_freeSlot_delayPackets _ j).symm ▸ h.delay_pos)

theorem Paced.settle (h : j.Paced) (now : ℤ) (pkt : Packet) :
    (((j.followSource now pkt).restartOutside now pkt).learnPacketDuration pkt).Paced := by
  have hfollow : (j.followSource now pkt).Paced := by
    unfold JitterBuffer.followSource
    split_ifs
    · have hcount : (j.count .ssrcReset).Paced := { h with }
      exact hcount.resetStream now _ _
    · exact h.resetStream now _ _
    · exact h
  have hrestart : ((j.followSource now pkt).restartOutside now pkt).Paced := by
    unfold JitterBuffer.restartOutside
    split_ifs
    · exact hfollow.resetStream now _ _
    · exact hfollow
  obtain ⟨d, s, p, heq⟩ := learnPacketDuration_eq ((j.followSource now pkt).restartOutside now pkt)
    pkt
  rw [heq]
  exact { hrestart with }

theorem Paced.place (h : j.Paced) : ((j.makeRoom seq).enqueue now i).Paced := by
  have hroom : (j.makeRoom seq).Paced :=
    makeRoom_keeps (fun _ _ _ _ hk => { hk with }) (fun _ _ hk => { hk with }) h
  unfold JitterBuffer.enqueue
  split
  · split_ifs <;> exact { hroom with }
  · unfold JitterBuffer.resume
    split_ifs with hfirst
    -- the time is set only after a stop
    · refine .of_stopped ?_ hroom.delay_pos
      cases hplay : (j.makeRoom seq).playout with
      | false => exact hplay
      | true => simp [JitterBuffer.occupy, (hroom.playing hplay).2] at hfirst
    · exact { hroom with }

theorem Paced.handleSlot (h : j.Paced) (now : ℤ) (i : ℕ) : (j.handleSlot now i).Paced := by
  have hread : (j.count .read).Paced := { h with }
  have hsettled := hread.settle now (j.slots i).packet
  unfold JitterBuffer.handleSlot
  simp only
  generalize (((j.count .read).followSource now (j.slots i).packet).restartOutside now
    (j.slots i).packet).learnPacketDuration (j.slots i).packet = k at hsettled ⊢
  unfold JitterBuffer.fileSlot
  split_ifs
  · exact { hsettled with }
  · exact Paced.place (j := k.moveBackTo _) { hsettled with }
  · exact { hsettled with }
  · exact hsettled.place

theorem Paced.begun (h : j.Paced) (now : ℤ) : (j.begun now).Paced := by
  unfold JitterBuffer.begun
  split_ifs
  · obtain ⟨hstart, hdelay⟩ := skipLost_keeps (j := { j with startAt := none })
      (P := fun k => k.startAt = none ∧ 0 < k.delayPackets) (fun _ hk => hk) 65536
      ⟨rfl, h.delay_pos⟩
    exact ⟨fun _ => ⟨hstart, rfl⟩, hdelay⟩
  · exact h

theorem Paced.readRTP (h : j.Paced) (unmarshal : Bytes → Option Packet) (now : ℤ) (bufLen : ℕ) :
    (j.readRTP unmarshal now bufLen).2.Paced := by
  rw [readRTP_eq]
  have hbegun := h.begun now
  generalize j.begun now = k at hbegun ⊢
  split_ifs with hdue
  · have hplays := playDue_plays unmarshal bufLen k
    generalize k.playDue unmarshal bufLen = r at hplays ⊢
    cases hplays with
    | stopped => exact .of_stopped rfl hbegun.delay_pos
    | _ => exact { hbegun with }
  · exact hbegun

/-- Nothing is due before the timer: what a round of reading looks at says so. -/
structure Asleep (timer : Option ℤ) (j : JitterBuffer) : Prop where
  alive : ¬ (j.upstreamEnded = true ∧ j.queued = 0)
  playing : j.playout = true → timer = some j.releaseAt
  buffering : j.playout = false → timer = j.startAt ∧ j.queued < j.delayPackets

theorem Asleep.readRTP {timer : Option ℤ} (h : Asleep timer j)
    (hnow : ∀ t, timer = some t → now < t) (bufLen : ℕ) :
    (j.readRTP unmarshal now bufLen).1 = .waiting := by
  have hbegun : j.begun now = j := by
    refine if_neg fun hstarts => ?_
    cases hplay : j.playout with
    | true => simp [startsPlayout, hplay] at hstarts
    | false =>
      obtain ⟨htimer, hqueued⟩ := h.buffering hplay
      cases hstart : j.startAt with
      | none =>
        simp [startsPlayout, hplay, hstart] at hstarts
        omega
      | some t =>
        have := hnow t (htimer.trans hstart)
        simp [startsPlayout, hplay, hstart] at hstarts
        omega
  have hidle : ¬ (j.playout = true ∧ j.releaseAt ≤ now) := by
    rintro ⟨hplay, hdue⟩
    have := hnow _ (h.playing hplay)
    omega
  rw [readRTP_eq, hbegun, if_neg hidle]
  exact if_neg h.alive

theorem startsPlayout_begun (hplay : (j.begun now).playout = false) :
    (j.begun now).startsPlayout now = false := by
  unfold JitterBuffer.begun at hplay ⊢
  split_ifs at hplay ⊢ with hstarts
  · cases hplay
  · simpa using hstarts

/-- The timer ReadRTP waits with is set for the next time at which anything can be due. -/
theorem Paced.asleep (h : j.Paced) {bufLen : ℕ}
    (hwait : (j.readRTP unmarshal now bufLen).1 = .waiting) :
    Asleep ((j.readRTP unmarshal now bufLen).2.timer now)
      (j.readRTP unmarshal now bufLen).2 := by
  have hbegun := h.begun now
  have hstarts : (j.begun now).playout = false → (j.begun now).startsPlayout now = false :=
    startsPlayout_begun
  rw [readRTP_eq] at hwait ⊢
  generalize j.begun now = k at hbegun hstarts hwait ⊢
  split_ifs at hwait ⊢ with hdue
  · have hplays := playDue_plays unmarshal bufLen k
    generalize k.playDue unmarshal bufLen = r at hplays hwait ⊢
    cases hplays with
    | stopped hempty =>
      obtain ⟨hstart, _⟩ := hbegun.playing hdue.1
      have hdelay := hbegun.delay_pos
      refine ⟨fun hended => ?_, nofun, fun _ => ⟨?_, ?_⟩⟩
      · simp only [JitterBuffer.idle, if_pos hended] at hwait
        cases hwait
      · simp [JitterBuffer.timer, JitterBuffer.wait, stopPlayout, JitterBuffer.count, hstart]
      · simp only [stopPlayout, JitterBuffer.count, hempty]
        omega
    | _ => simp at hwait
  · dsimp only at hwait ⊢
    have halive : ¬ (k.upstreamEnded = true ∧ k.queued = 0) := by
      intro hended
      simp [JitterBuffer.idle, hended] at hwait
    refine ⟨halive, fun hplay => ?_, fun hplay => ?_⟩
    · have hlater : ¬ k.releaseAt ≤ now := fun hle => hdue ⟨hplay, hle⟩
      have hk : k.wait now = k.releaseAt - now := by simp [JitterBuffer.wait, hplay]
      rw [JitterBuffer.timer, hk, if_pos (by omega)]
      congr 1
      omega
    · have hnot := hstarts hplay
      cases hstart : k.startAt with
      | none =>
        simp [startsPlayout, hplay, hstart] at hnot
        exact ⟨by simp [JitterBuffer.timer, JitterBuffer.wait, hplay, hstart], hnot⟩
      | some t =>
        simp [startsPlayout, hplay, hstart] at hnot
        have hk : k.wait now = t - now := by simp [JitterBuffer.wait, hplay, hstart]
        rw [JitterBuffer.timer, hk, if_pos (by omega)]
        exact ⟨by congr 1; omega, hnot.2⟩

end JitterBuffer

theorem stepSystem_paced {s : System} (h : s.buffer.Paced) (e : Event) :
    (stepSystem unmarshal s e).buffer.Paced := by
  obtain ⟨j, reading⟩ := s
  have hj : j.Paced := h
  cases e with
  | take =>
    simp only [stepSystem]
    split_ifs
    · cases htake : j.takeSlot with
      | none => exact hj
      | some taken =>
        rw [Option.elim_some, (takeSlot_eq_some htake).2]
        exact { hj with }
    · exact hj
  | upstreamError err => cases reading <;> exact { hj with }
  | keepAlive => cases reading <;> exact { hj with }
  | packet now slot =>
    cases reading with
    | none => exact hj
    | some i =>
      have hfill : (j.fill i slot).Paced := { hj with }
      exact hfill.handleSlot now i
  | readRTP now bufLen => exact hj.readRTP unmarshal now bufLen
  | update sampleDur sampleRate => exact { hj with }

/-- Taking a slot and giving it back leave the sleeping reader where it is, and so does an
update of the media session. -/
theorem stepSystem_asleep {s : System} {timer : Option ℤ} (h : s.buffer.Asleep timer) {e : Event}
    (he : e = .take ∨ e = .keepAlive ∨ ∃ d r, e = .update d r) :
    (stepSystem unmarshal s e).buffer.Asleep timer := by
  obtain ⟨j, reading⟩ := s
  have hj : j.Asleep timer := h
  rcases he with rfl | rfl | ⟨d, r, rfl⟩
  · simp only [stepSystem]
    split_ifs
    · cases htake : j.takeSlot with
      | none => exact hj
      | some taken =>
        rw [Option.elim_some, (takeSlot_eq_some htake).2]
        exact { hj with }
    · exact hj
  · cases reading <;> exact { hj with }
  · exact { hj with }

/-- The read loop is past a critical section that ReadRTP has to hear of. -/
def Loop.aboutToNotify : Loop → Bool
  | .notifying _ => true
  | _ => false

namespace Threads

/-- A sleeping reader has a wake-up on its way, or nothing is due before its timer. -/
structure Attentive (x : Threads) : Prop where
  paced : x.core.buffer.Paced
  asleep : ∀ timer, x.read = .waiting timer → x.arrived = false → x.loop.aboutToNotify = false →
    x.core.buffer.Asleep timer

theorem Attentive.of_awake (hpaced : x.core.buffer.Paced)
    (hread : ∀ timer, x.read ≠ .waiting timer) : x.Attentive :=
  ⟨hpaced, fun timer hwaits => absurd hwaits (hread timer)⟩

/-- The read loop goes on, from where it owes no wake-up, and the buffer stays. -/
theorem Attentive.moveLoop (h : x.Attentive) (hloop : x.loop.aboutToNotify = false) (loop : Loop)
    (readLoopDone reads : ℕ) : { x with loop, readLoopDone, reads }.Attentive :=
  ⟨h.paced, fun timer hread harrived _ => h.asleep timer hread harrived hloop⟩

theorem Attentive.moveCore (h : x.Attentive) {e : Event}
    (he : e = .take ∨ e = .keepAlive ∨ ∃ d r, e = .update d r) (reader : ℕ) :
    { x with core := stepSystem unmarshal x.core e, reader }.Attentive :=
  ⟨stepSystem_paced h.paced e,
    fun timer hread harrived hloop => stepSystem_asleep (h.asleep timer hread harrived hloop) he⟩

theorem Attentive.start (h : x.Attentive) : x.start.core.buffer.Paced := by
  unfold Threads.start
  split_ifs <;> exact h.paced

theorem Attentive.decide (h : x.Attentive) (now : ℤ) (bufLen : ℕ) :
    { x with
      core := stepSystem unmarshal x.core (.readRTP now bufLen)
      read := afterDecision now (x.core.buffer.readRTP unmarshal now bufLen) }.Attentive := by
  refine ⟨stepSystem_paced h.paced _, fun timer hread _ _ => ?_⟩
  have hread : afterDecision now (x.core.buffer.readRTP unmarshal now bufLen) = .waiting timer :=
    hread
  cases hd : (x.core.buffer.readRTP unmarshal now bufLen).1 with
  | waiting =>
    simp only [afterDecision, hd, Reader.waiting.injEq] at hread
    exact hread ▸ h.paced.asleep hd
  | _ => simp [afterDecision, hd] at hread

/-- Filing ends in front of notify, unless there was nothing to file. -/
theorem Attentive.file (h : x.Attentive) {result : Upstream} (hloop : x.loop = .filing result)
    (now : ℤ) :
    { x with
      core := stepSystem unmarshal x.core (result.event now)
      loop := result.next }.Attentive := by
  refine ⟨stepSystem_paced h.paced _, fun timer hread harrived hquiet => ?_⟩
  cases result with
  | packet slot => cases hquiet
  | failed err => cases hquiet
  | nothing =>
    exact stepSystem_asleep (h.asleep timer hread harrived (by rw [hloop]; rfl)) (.inr (.inl rfl))

theorem Attentive.step (h : x.Attentive) (hm : x.step unmarshal m = some y) : y.Attentive := by
  cases takes_of_step hm with
  | call => exact .of_awake h.paced nofun
  | start => exact .of_awake h.start nofun
  | check =>
    refine .of_awake h.paced fun timer hread => ?_
    dsimp only at hread
    split_ifs at hread
  | decide => exact h.decide _ _
  | wakeClosed | wakeArrived | wakeTimer => exact .of_awake h.paced nofun
  | loopStops hloop | loopCheck hloop | loopLook hloop | upstreamFails hloop | upstream hloop
  | loopCompare hloop | loopGivesUp hloop | loopMove hloop =>
    exact h.moveLoop (by rw [hloop]; rfl) _ _ _
  | loopTake hloop =>
    exact (h.moveLoop (by rw [hloop]; rfl) .looking _ x.reads).moveCore (.inl rfl) _
  | loopFile hloop => exact h.file hloop _
  | loopEnds => exact ⟨h.paced, nofun⟩
  | loopNotify => exact ⟨h.paced, nofun⟩
  | update => exact h.moveCore (.inr (.inr ⟨_, _, rfl⟩)) _
  | closeDone | closeFinish | closeUnstarted => exact ⟨h.paced, h.asleep⟩

def new (j : JitterBuffer) : Threads := { core := ⟨j, none⟩ }

end Threads

theorem newRTPJitterBuffer_paced {d : ℤ} {opts : Options}
    (hnew : newRTPJitterBuffer d opts = some j) : j.Paced := by
  have hdelay : 0 < opts.normalized.delayPackets := by
    unfold Options.normalized defaultRTPJitterBufferDelayPackets
    split_ifs <;> simp only <;> omega
  unfold newRTPJitterBuffer at hnew
  split_ifs at hnew
  cases hnew
  refine .of_stopped rfl ?_
  simp only
  omega

/-- In every state the threads can come to: while ReadRTP waits and no wake-up is pending, neither
in its channel nor in a read loop that is past its critical section, a round of reading at any
time before the timer would find nothing to do. So no packet and no end of the stream is slept
through. -/
theorem no_wakeup_lost {d : ℤ} {opts : Options} (unmarshal : Bytes → Option Packet)
    (hnew : newRTPJitterBuffer d opts = some j) (moves : List Move)
    (hx : schedule (Threads.step unmarshal) (.new j) moves = some x) {timer : Option ℤ}
    (hread : x.read = .waiting timer) (harrived : x.arrived = false)
    (hloop : x.loop.aboutToNotify = false) (now : ℤ) (bufLen : ℕ)
    (hnow : ∀ t, timer = some t → now < t) :
    (x.core.buffer.readRTP unmarshal now bufLen).1 = .waiting := by
  have hinit : (Threads.new j).Attentive := .of_awake (newRTPJitterBuffer_paced hnew) nofun
  have h := schedule_invariant Threads.Attentive (fun _ _ _ hs hm => hs.step hm) hinit hx
  exact (h.asleep timer hread harrived hloop).readRTP hnow bufLen

/-- A packet is filed while ReadRTP is on its way to its first decision. The wake-up it left behind
is used up by a round that finds it queued and waits for the start of playout. -/
theorem no_wakeup_lost_buffering : ∃ x,
    schedule (Threads.step readNumbered) (.new defaultBuffer)
      [.call, .start, .check, .loopCheck, .loopTake, .loopLook, .upstream (.packet (numbered 5)),
        .loopFile 0, .loopNotify, .decide 0 1500, .wakeArrived, .check, .decide 10 1500] = some x ∧
    x.read = .waiting (some 400000000) ∧ x.arrived = false ∧ x.loop.aboutToNotify = false ∧
    (x.core.buffer.readRTP readNumbered 399999999 1500).1 = .waiting := by
  have hnew : newRTPJitterBuffer 20000000 {} = some defaultBuffer := (Option.some_get _).symm
  refine ⟨_, rfl, by decide +kernel, by decide +kernel, by decide +kernel, ?_⟩
  have hnow : ∀ t : ℤ, some 400000000 = some t → 399999999 < t := by
    rintro t ⟨⟩
    decide
  exact no_wakeup_lost readNumbered hnew
    [.call, .start, .check, .loopCheck, .loopTake, .loopLook, .upstream (.packet (numbered 5)),
      .loopFile 0, .loopNotify, .decide 0 1500, .wakeArrived, .check, .decide 10 1500] rfl
    (by decide +kernel) (by decide +kernel) (by decide +kernel) _ _ hnow

end Diago.Jitter
