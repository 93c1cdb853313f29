import Diago.Jitter.Threads

/-! # Closing the jitter buffer

Close ends a ReadRTP in progress and stops the read loop, which may be in a read of
the injected reader that Close cannot interrupt.
-/
namespace Diago.Jitter
open Lib

variable {unmarshal : Bytes → Option Packet} {x y : Threads} {m : Move}

/-- A step of the read loop; one of them is the return of the injected reader. -/
def Move.ofLoop : Move → Bool
  | .loopCheck | .loopTake | .loopLook | .upstream _ | .loopCompare | .loopMove | .loopFile _
  | .loopNotify => true
  | _ => false

def Move.ofReader : Move → Bool
  | .start | .check | .decide _ _ | .wakeClosed | .wakeArrived | .wakeTimer _ => true
  | _ => false

def Move.isCall : Move → Bool
  | .call => true
  | _ => false

def Loop.running : Loop → Bool
  | .unstarted | .ended => false
  | _ => true

namespace Threads

/-- Whoever runs startOnce first, the loop or Close, sees to it that readLoopDone is closed. -/
structure Orderly (x : Threads) : Prop where
  unstarted : x.startOnce = false → x.loop = .unstarted ∧ x.readLoopDone = 0
  running : x.loop.running = true → x.startOnce = true ∧ x.readLoopDone = 0
  stopped : x.startOnce = true → x.loop.running = false → x.readLoopDone = 1
  finished : x.closing = .finished → x.startOnce = true

theorem orderly_new (j : JitterBuffer) : (Threads.new j).Orderly :=
  ⟨fun _ => ⟨rfl, rfl⟩, nofun, nofun, nofun⟩

theorem Orderly.moveLoop (h : x.Orderly) (hrun : x.loop.running = true) {y : Threads}
    (hloop : y.loop.running = true) (hstart : y.startOnce = x.startOnce)
    (hdone : y.readLoopDone = x.readLoopDone) (hclosing : y.closing = x.closing) : y.Orderly := by
  obtain ⟨hstarted, hzero⟩ := h.running hrun
  refine ⟨fun hno => ?_, fun _ => ⟨hstart.trans hstarted, hdone.trans hzero⟩, fun _ hno => ?_,
    fun hfin => hstart.trans (h.finished (hclosing ▸ hfin))⟩
  · simp [hstart, hstarted] at hno
  · simp [hloop] at hno

theorem Orderly.loopReturns (h : x.Orderly) (hrun : x.loop.running = true) (arrived : Bool) :
    { x with arrived }.loopReturns.Orderly := by
  obtain ⟨hstarted, hzero⟩ := h.running hrun
  refine ⟨fun hno => ?_, nofun, fun _ _ => ?_, h.finished⟩
  · have hno : x.startOnce = false := hno
    simp [hstarted] at hno
  · simp [Threads.loopReturns, hzero]

theorem Orderly.start (h : x.Orderly) : x.start.Orderly := by
  unfold Threads.start
  split_ifs with hstart
  · exact h
  · obtain ⟨_, hzero⟩ := h.unstarted (by simpa using hstart)
    exact ⟨nofun, fun _ => ⟨rfl, hzero⟩, nofun, fun _ => rfl⟩

theorem running_next (result : Upstream) : result.next.running = true := by
  cases result <;> rfl

theorem Orderly.step (h : x.Orderly) (hm : x.step unmarshal m = some y) : y.Orderly := by
  cases takes_of_step hm with
  | call | check | decide | wakeClosed | wakeArrived | wakeTimer | update =>
    exact ⟨h.unstarted, h.running, h.stopped, h.finished⟩
  | start =>
    have hs := h.start
    exact ⟨hs.unstarted, hs.running, hs.stopped, hs.finished⟩
  | loopStops hloop => exact h.loopReturns (by rw [hloop]; rfl) x.arrived
  | loopEnds hloop => exact h.loopReturns (by rw [hloop]; rfl) true
  | loopCheck hloop | loopTake hloop | loopLook hloop | upstreamFails hloop | upstream hloop
  | loopGivesUp hloop | loopMove hloop | loopNotify hloop =>
    exact h.moveLoop (by rw [hloop]; rfl) rfl rfl rfl rfl
  | loopCompare hloop =>
    refine h.moveLoop (by rw [hloop]; rfl) ?_ rfl rfl rfl
    dsimp only
    split_ifs <;> rfl
  | loopFile hloop => exact h.moveLoop (by rw [hloop]; rfl) (running_next _) rfl rfl rfl
  | closeDone => exact ⟨h.unstarted, h.running, h.stopped, nofun⟩
  | closeFinish _ hstart => exact ⟨h.unstarted, h.running, h.stopped, fun _ => hstart⟩
  | closeUnstarted _ hstart =>
    obtain ⟨hloop, hzero⟩ := h.unstarted hstart
    refine ⟨nofun, fun hrun => ?_, fun _ _ => ?_, fun _ => rfl⟩
    · have hrun : x.loop.running = true := hrun
      simp [hloop, Loop.running] at hrun
    · simp [hzero]

theorem orderly_of_schedule {j : JitterBuffer} {before : List Move}
    (hx : schedule (step unmarshal) (.new j) before = some x) : x.Orderly :=
  schedule_invariant Orderly (fun _ _ _ hs hm => hs.step hm) (orderly_new j) hx

/-! ## Done -/

/-- Done is closed, so many reads were begun, and no loop runs. -/
structure Released (reads : ℕ) (x : Threads) : Prop where
  orderly : x.Orderly
  started : x.startOnce = true
  stopped : x.loop.running = false
  reads : x.reads = reads

variable {n : ℕ}

theorem Released.step (h : Released n x) (hm : x.step unmarshal m = some y) : Released n y := by
  have horderly := h.orderly.step hm
  have hstopped := h.stopped
  cases takes_of_step hm with
  | call | check | decide | wakeClosed | wakeArrived | wakeTimer | update | closeDone
  | closeFinish =>
    exact ⟨horderly, h.started, h.stopped, h.reads⟩
  | start =>
    have hsame : x.start = x := if_pos h.started
    refine ⟨horderly, ?_, ?_, ?_⟩ <;> simp only [hsame]
    exacts [h.started, h.stopped, h.reads]
  | loopStops hloop | loopEnds hloop | loopCheck hloop | loopTake hloop | loopLook hloop
  | upstreamFails hloop | upstream hloop | loopCompare hloop | loopGivesUp hloop | loopMove hloop
  | loopFile hloop | loopNotify hloop =>
    rw [hloop] at hstopped
    cases hstopped
  | closeUnstarted _ hstart => simp [h.started] at hstart

theorem Orderly.released (h : x.Orderly) (hdone : x.readLoopDone ≠ 0) : Released x.reads x := by
  have hstarted : x.startOnce = true := by
    by_contra hno
    exact hdone (h.unstarted (by simpa using hno)).2
  have hstopped : x.loop.running = false := by
    by_contra hrun
    exact hdone (h.running (by simpa using hrun)).2
  exact ⟨h, hstarted, hstopped, rfl⟩

/-- The channel Done returns is never closed twice, in whatever order Close, the first ReadRTP and
the end of the stream come, and once it is closed nothing reads an injected reader any more: none
is being read, and no read is begun in any continuation. -/
theorem done_means_released (unmarshal : Bytes → Option Packet) (j : JitterBuffer)
    (before rest : List Move) (hx : schedule (step unmarshal) (.new j) before = some x)
    (hy : schedule (step unmarshal) x rest = some y) :
    x.readLoopDone ≤ 1 ∧
    (x.readLoopDone = 1 → y.loop.running = false ∧ y.reads = x.reads ∧ y.readLoopDone = 1) := by
  have h := orderly_of_schedule hx
  refine ⟨?_, fun hdone => ?_⟩
  · by_cases hzero : x.readLoopDone = 0
    · omega
    · have hreleased := h.released hzero
      exact (h.stopped hreleased.started hreleased.stopped).le
  · have hreleased := schedule_invariant (Released x.reads) (fun _ _ _ hs hm => hs.step hm)
      (h.released (by omega)) hy
    exact ⟨hreleased.stopped, hreleased.reads,
      hreleased.orderly.stopped hreleased.started hreleased.stopped⟩

/-- A buffer that is closed before it is read: a later ReadRTP starts no loop. -/
theorem done_means_released_unstarted : ∃ x y,
    schedule (step readNumbered) (.new defaultBuffer) [.closeDone, .closeFinish] = some x ∧
    x.readLoopDone = 1 ∧
    schedule (step readNumbered) x [.call, .start, .check] = some y ∧
    y.loop.running = false ∧ y.reads = x.reads ∧ y.readLoopDone = 1 := by
  refine ⟨_, _, rfl, rfl, rfl, ?_⟩
  exact (done_means_released readNumbered defaultBuffer [.closeDone, .closeFinish]
    [.call, .start, .check] rfl rfl).2 rfl

end Threads

/-! ## After Close -/

/-- How many steps the loop can still take once done is closed. -/
def Loop.left : Loop → ℕ
  | .unstarted | .ended => 0
  | .checking | .notifying true => 1
  | .notifying false => 2
  | .filing _ => 3
  | .moving _ _ => 4
  | .comparing _ _ => 5
  | .reading _ => 6
  | .looking => 7
  | .taking => 8

/-- How many reads the loop is still to begin once done is closed. -/
def Loop.toRead : Loop → ℕ
  | .looking | .taking => 1
  | _ => 0

/-- How many steps a call of ReadRTP can still take once done is closed. -/
def Reader.left : Reader → ℕ
  | .outside => 0
  | .checking => 1
  | .starting | .waiting _ => 2
  | .deciding => 3

theorem Upstream.left_next (result : Upstream) : result.next.left < 3 := by
  cases result <;> simp [Upstream.next, Loop.left]

theorem left_afterDecision (now : ℤ) (r : Decision × JitterBuffer) :
    (afterDecision now r).left ≤ 2 := by
  unfold afterDecision
  split <;> simp [Reader.left]

namespace Threads

/-- The steps left to the loop, the first one of a loop that may still be started included. -/
def loopLeft (x : Threads) : ℕ := x.loop.left + (!x.startOnce).toNat

def readsToCome (x : Threads) : ℕ := x.reads + x.loop.toRead

theorem closed_step (h : x.closed = true) (hm : x.step unmarshal m = some y) :
    y.closed = true := by
  cases takes_of_step hm with
  | start =>
    simp only [Threads.closed] at h ⊢
    unfold Threads.start
    split_ifs <;> exact h
  | closeDone | closeFinish | closeUnstarted => rfl
  | _ => exact h

theorem loopLeft_start (x : Threads) (read : Reader) (horderly : x.Orderly) :
    { x.start with read }.loopLeft = x.loopLeft ∧
      { x.start with read }.readsToCome = x.readsToCome := by
  unfold Threads.start
  split_ifs with hstart
  · exact ⟨rfl, rfl⟩
  · obtain ⟨hloop, _⟩ := horderly.unstarted (by simpa using hstart)
    simp [loopLeft, readsToCome, hstart, hloop, Loop.left, Loop.toRead]

theorem loopLeft_lt (hclosed : x.closed = true) (hm : x.step unmarshal m = some y)
    (hmine : m.ofLoop = true) : y.loopLeft < x.loopLeft := by
  cases takes_of_step hm with
  | loopCheck _ hopen | loopMove _ hopen => simp [hclosed] at hopen
  | loopStops hloop | loopEnds hloop | loopTake hloop | loopLook hloop | upstreamFails hloop
  | upstream hloop | loopGivesUp hloop | loopNotify hloop =>
    simp [loopLeft, hloop, Loop.left, loopReturns, beginRead]
  | loopCompare hloop =>
    simp only [loopLeft, hloop]
    split_ifs <;> simp [Loop.left]
  | @loopFile _ result hloop =>
    have hnext := result.left_next
    have hfiling : (Loop.filing result).left = 3 := rfl
    simp only [loopLeft, hloop, hfiling]
    omega
  | _ => cases hmine

theorem loopLeft_le (horderly : x.Orderly) (hm : x.step unmarshal m = some y)
    (hother : m.ofLoop = false) : y.loopLeft ≤ x.loopLeft := by
  cases takes_of_step hm with
  | start => exact (loopLeft_start x _ horderly).1.le
  | call | check | decide | wakeClosed | wakeArrived | wakeTimer | update | closeDone
  | closeFinish => exact le_refl _
  | closeUnstarted _ hstart => simp [loopLeft]
  | _ => cases hother

/-- After Close the loop begins the read it was about to begin, and no other. -/
theorem readsToCome_step (horderly : x.Orderly) (hclosed : x.closed = true)
    (hm : x.step unmarshal m = some y) : y.readsToCome ≤ x.readsToCome := by
  cases takes_of_step hm with
  | loopCheck _ hopen | loopMove _ hopen => simp [hclosed] at hopen
  | start => exact (loopLeft_start x _ horderly).2.le
  | loopStops hloop | loopEnds hloop | loopTake hloop | loopLook hloop | upstreamFails hloop
  | upstream hloop | loopGivesUp hloop | loopNotify hloop =>
    simp [readsToCome, hloop, Loop.toRead, loopReturns, beginRead]
  | loopCompare hloop =>
    simp only [readsToCome, hloop]
    split_ifs <;> simp [Loop.toRead]
  | @loopFile _ result hloop =>
    cases result <;> simp [readsToCome, hloop, Loop.toRead, Upstream.next]
  | _ => exact le_refl _

theorem readLeft_lt (hclosed : x.closed = true) (hm : x.step unmarshal m = some y)
    (hmine : m.ofReader = true) : y.read.left < x.read.left := by
  cases takes_of_step hm with
  | start hread | wakeClosed hread | wakeArrived hread | wakeTimer hread =>
    simp [hread, Reader.left]
  | check hread => simp [hread, hclosed, Reader.left]
  | decide hread =>
    have hnext := left_afterDecision
    simp only [hread]
    exact Nat.lt_succ_of_le (hnext _ _)
  | _ => cases hmine

theorem readLeft_le (hm : x.step unmarshal m = some y) (hother : m.ofReader = false) :
    y.read.left ≤ x.read.left + if m.isCall then 2 else 0 := by
  cases takes_of_step hm with
  | call hread => simp [Move.isCall, Reader.left]
  | start | check | decide | wakeClosed | wakeArrived | wakeTimer => cases hother
  | _ => exact Nat.le_add_right _ _

theorem reader_goes_on (unmarshal : Bytes → Option Packet) (hclosed : x.closed = true)
    (hread : x.read ≠ .outside) :
    ∃ m, m.ofReader = true ∧ (x.step unmarshal m).isSome = true := by
  cases hr : x.read with
  | outside => exact absurd hr hread
  | starting => exact ⟨.start, rfl, by simp [step, hr]⟩
  | checking => exact ⟨.check, rfl, by simp [step, hr]⟩
  | deciding => exact ⟨.decide 0 0, rfl, by simp [step, hr]⟩
  | waiting timer => exact ⟨.wakeClosed, rfl, by simp [step, hr, hclosed]⟩

/-- A loop that runs can always go on, unless it is in a read of the injected reader. -/
theorem loop_goes_on (unmarshal : Bytes → Option Packet) (hrun : x.loop.running = true) :
    (∃ reader, x.loop = .reading reader) ∨
      ∃ m, m.ofLoop = true ∧ (x.step unmarshal m).isSome = true := by
  cases hl : x.loop with
  | unstarted => simp [hl, Loop.running] at hrun
  | ended => simp [hl, Loop.running] at hrun
  | reading reader => exact .inl ⟨reader, rfl⟩
  | checking => exact .inr ⟨.loopCheck, rfl, by simp [step, hl]⟩
  | taking => exact .inr ⟨.loopTake, rfl, by simp [step, hl]⟩
  | looking => exact .inr ⟨.loopLook, rfl, by simp [step, hl]⟩
  | comparing reader err => exact .inr ⟨.loopCompare, rfl, by simp [step, hl]⟩
  | moving next err => exact .inr ⟨.loopMove, rfl, by simp [step, hl]⟩
  | filing result => exact .inr ⟨.loopFile 0, rfl, by simp [step, hl]⟩
  | notifying ends => exact .inr ⟨.loopNotify, rfl, by simp [step, hl]⟩

/-- Done is closed, and the books on the threads are in order. -/
structure Closed (x : Threads) : Prop where
  orderly : x.Orderly
  closed : x.closed = true

theorem Closed.step (h : x.Closed) (hm : x.step unmarshal m = some y) : y.Closed :=
  ⟨h.orderly.step hm, closed_step h.closed hm⟩

theorem Orderly.loopLeft_le (h : x.Orderly) : x.loopLeft ≤ 8 := by
  unfold loopLeft
  cases hstart : x.startOnce with
  | false =>
    rw [(h.unstarted hstart).1]
    decide
  | true =>
    cases x.loop with
    | notifying ends => cases ends <;> decide
    | _ => simp [Loop.left]

/-- Once Close has closed done, in every continuation: the read loop takes at most eight more steps
and begins at most one more read, and it can always go on unless it is in a read of the injected
reader; a ReadRTP in progress, or called from then on, can always go on, and takes at most three
steps; and once Close has returned and the loop is not running, Done is closed. -/
theorem close_stops_threads (unmarshal : Bytes → Option Packet) (j : JitterBuffer)
    (before rest : List Move) (hx : schedule (step unmarshal) (.new j) before = some x)
    (hclosed : x.closed = true) (hy : schedule (step unmarshal) x rest = some y) :
    rest.countP Move.ofLoop ≤ 8 ∧
    y.reads ≤ x.reads + 1 ∧
    (y.loop.running = true → (∃ reader, y.loop = .reading reader) ∨
      ∃ m, m.ofLoop = true ∧ (y.step unmarshal m).isSome = true) ∧
    rest.countP Move.ofReader ≤ 3 + 2 * rest.countP Move.isCall ∧
    (y.read ≠ .outside → ∃ m, m.ofReader = true ∧ (y.step unmarshal m).isSome = true) ∧
    (y.closing = .finished → y.loop.running = false → y.readLoopDone = 1) := by
  have hx : x.Closed := ⟨orderly_of_schedule hx, hclosed⟩
  have hstep : ∀ s m t, Closed s → step unmarshal s m = some t → Closed t :=
    fun _ _ _ hs hm => hs.step hm
  have hend := schedule_invariant Closed hstep hx hy
  refine ⟨?_, ?_, loop_goes_on unmarshal, ?_, reader_goes_on unmarshal hend.closed, ?_⟩
  · have hcount := schedule_countP_le Closed loopLeft Move.ofLoop hstep
      (fun _ _ _ hs hm => loopLeft_lt hs.closed hm) (fun _ _ _ hs hm => loopLeft_le hs.orderly hm)
      hx hy
    have hleft := hx.orderly.loopLeft_le
    omega
  · have hreads := schedule_invariant (fun s => Closed s ∧ s.readsToCome ≤ x.readsToCome)
      (fun _ _ _ hs hm => ⟨hs.1.step hm,
        (readsToCome_step hs.1.orderly hs.1.closed hm).trans hs.2⟩) ⟨hx, le_refl _⟩ hy
    have hto : x.loop.toRead ≤ 1 := by cases x.loop <;> simp [Loop.toRead]
    have hle := hreads.2
    unfold readsToCome at hle
    omega
  · have hcount := schedule_countP_le_adding Closed (fun s => s.read.left) Move.ofReader
      Move.isCall 2 hstep (fun _ _ _ hs hm => readLeft_lt hs.closed hm)
      (fun _ _ _ _ hm => readLeft_le hm) hx hy
    have hleft : x.read.left ≤ 3 := by cases x.read <;> simp [Reader.left]
    omega
  · exact fun hfin => hend.orderly.stopped (hend.orderly.finished hfin)

/-- Close finds the loop on its way to a read, which fails only after the reader was replaced. -/
theorem close_stops_threads_in_read : ∃ x y,
    schedule (step readNumbered) (.new defaultBuffer)
      [.call, .start, .check, .decide 0 1500, .loopCheck, .closeDone] = some x ∧
    x.closed = true ∧
    schedule (step readNumbered) x
      [.closeFinish, .loopTake, .loopLook, .wakeClosed, .update 1 0 0, .upstream (.failed 7),
        .loopCompare, .loopMove, .loopFile 0, .loopNotify] = some y ∧
    y.closing = .finished ∧ y.loop.running = false ∧ y.reads ≤ x.reads + 1 ∧
    y.readLoopDone = 1 := by
  refine ⟨_, _, rfl, rfl, rfl, rfl, rfl, ?_⟩
  have h := close_stops_threads readNumbered defaultBuffer
    [.call, .start, .check, .decide 0 1500, .loopCheck, .closeDone]
    [.closeFinish, .loopTake, .loopLook, .wakeClosed, .update 1 0 0, .upstream (.failed 7),
      .loopCompare, .loopMove, .loopFile 0, .loopNotify] rfl rfl rfl
  exact ⟨h.2.1, h.2.2.2.2.2 rfl rfl⟩

end Threads

end Diago.Jitter
