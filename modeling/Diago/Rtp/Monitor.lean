import Mathlib.Tactic

/-! # The RTCP monitor of a session

A monitor is a reader of the RTCP connection and a writer that follows the
session's ticker. It ends on its own where the connection fails, and otherwise
when the session is marked closed and the deadline of the connection expires.

A critical section under rtcpMU is one step, since nothing in it blocks. Reading,
handling one packet, writing a report and each of the other statements between
two critical sections is one step too. The interceptors OnReadRTCP and
OnWriteRTCP are taken to return.
-/
namespace Diago.Rtp.Monitor

/-- Which function started the monitor: Monitor, whose caller is the writer, or
MonitorBackground. -/
inductive Kind
  | foreground
  | background
  deriving DecidableEq

inductive Reader
  | absent
  | starting
  | reading
  /-- So many packets of the last read are not handled yet. -/
  | handling (left : ℕ)
  /-- Monitor only: readRTCP has returned, and its error is sent on errchan. -/
  | sending
  | done
  deriving DecidableEq

inductive Writer
  | absent
  | selecting
  | writing
  /-- Monitor only: a write has failed, and the error of the reader is received. -/
  | joining
  | done
  deriving DecidableEq

structure Session where
  kind : Kind := .background
  closed : Bool := false
  monitorRun : Bool := false
  monitorWG : ℕ := 0
  reader : Reader := .absent
  writer : Writer := .absent
  ticking : Bool := true
  tick : Bool := false
  deriving DecidableEq

/-- The RTCP connection: its Close, and whether its read deadline has passed. -/
structure Conn where
  closed : Bool := false
  expired : Bool := false
  deriving DecidableEq

def Conn.Dead (c : Conn) : Prop := c.closed = true ∨ c.expired = true

instance (c : Conn) : Decidable c.Dead := inferInstanceAs (Decidable (_ ∨ _))

/-- How many packets one read of the reader can bring: the length of rtcpBuf. -/
def rtcpBufLen : ℕ := 5

def goroutines : Kind → ℕ
  | .foreground => 1
  | .background => 2

inductive Act
  /-- A call of Monitor or MonitorBackground whose remote address is set. -/
  | start (kind : Kind)
  | readerLocks
  | readerReads (n : ℕ)
  | readerSkips
  /-- ReadRTCP returned another error, as it does at once on a dead connection. -/
  | readerFails
  | readerHandles
  | readerSends
  | ticks
  | writerTakesTick
  | writerSeesClosed
  | writerWrites
  | writerFails
  deriving DecidableEq

def Act.ofMonitor : Act → Bool
  | .start _ | .ticks => false
  | _ => true

namespace Session

def readerReturns (s : Session) : Session :=
  match s.kind with
  | .foreground => { s with reader := .sending }
  | .background => { s with reader := .done, monitorWG := s.monitorWG - 1 }

def writerLeaves (s : Session) : Session :=
  match s.kind with
  | .foreground => { s with writer := .done }
  | .background => { s with writer := .done, monitorWG := s.monitorWG - 1 }

def writerBreaks (s : Session) : Session :=
  match s.kind with
  | .foreground => { s with writer := .joining }
  | .background => { s with writer := .done, monitorWG := s.monitorWG - 1 }

/-- The critical section of startMonitor, and the goroutines it lets run. Its three refusals
change nothing. -/
def startMonitor (s : Session) (c : Conn) (kind : Kind) : Session × Conn :=
  if s.monitorRun then (s, c)
  else if s.closed then (s, c)
  else if c.closed then (s, c)
  else
    ({ s with
        kind
        monitorRun := true
        monitorWG := s.monitorWG + goroutines kind
        reader := .starting
        writer := .selecting },
      { c with expired := false })

def readRTCP (s : Session) (c : Conn) : Session × Conn :=
  if s.closed then ({ s with reader := .reading }, c)
  else if c.closed then (s.readerReturns, c)
  else ({ s with reader := .reading }, { c with expired := false })

def act (s : Session) (c : Conn) : Act → Option (Session × Conn)
  | .start kind => some (s.startMonitor c kind)
  | .readerLocks => if s.reader = .starting then some (s.readRTCP c) else none
  | .readerReads n =>
    if s.reader = .reading ∧ ¬ c.Dead ∧ n ≤ rtcpBufLen then
      some ({ s with reader := .handling n }, c)
    else none
  | .readerSkips => if s.reader = .reading ∧ ¬ c.Dead then some (s, c) else none
  | .readerFails => if s.reader = .reading then some (s.readerReturns, c) else none
  | .readerHandles =>
    match s.reader with
    | .handling 0 => some ({ s with reader := .reading }, c)
    | .handling (n + 1) => some ({ s with reader := .handling n }, c)
    | _ => none
  | .readerSends =>
    if s.reader = .sending ∧ s.writer = .joining then
      some ({ s with reader := .done, writer := .done, monitorWG := s.monitorWG - 1 }, c)
    else none
  | .ticks => if s.ticking then some ({ s with tick := true }, c) else none
  | .writerTakesTick =>
    if s.writer = .selecting ∧ s.tick then some ({ s with writer := .writing, tick := false }, c)
    else none
  | .writerSeesClosed =>
    if s.writer = .selecting ∧ s.closed then some (s.writerLeaves, c) else none
  | .writerWrites =>
    if s.writer = .writing then some ({ s with writer := .selecting }, c) else none
  | .writerFails => if s.writer = .writing then some (s.writerBreaks, c) else none

def markClosed (s : Session) : Session := { s with closed := true, ticking := false }

end Session

namespace Session

/-- What a step of a session is, with what it takes to be possible. -/
inductive Acts (s : Session) (c : Conn) : Act → Session → Conn → Prop
  | start (kind : Kind) :
    Acts s c (.start kind) (s.startMonitor c kind).1 (s.startMonitor c kind).2
  | readerLocks (hr : s.reader = .starting) :
    Acts s c .readerLocks (s.readRTCP c).1 (s.readRTCP c).2
  | readerReads {n : ℕ} (hr : s.reader = .reading) (hc : ¬ c.Dead) (hn : n ≤ rtcpBufLen) :
    Acts s c (.readerReads n) { s with reader := .handling n } c
  | readerSkips (hr : s.reader = .reading) (hc : ¬ c.Dead) : Acts s c .readerSkips s c
  | readerFails (hr : s.reader = .reading) : Acts s c .readerFails s.readerReturns c
  | readerHandled (hr : s.reader = .handling 0) :
    Acts s c .readerHandles { s with reader := .reading } c
  | readerHandles {n : ℕ} (hr : s.reader = .handling (n + 1)) :
    Acts s c .readerHandles { s with reader := .handling n } c
  | readerSends (hr : s.reader = .sending) (hw : s.writer = .joining) :
    Acts s c .readerSends
      { s with reader := .done, writer := .done, monitorWG := s.monitorWG - 1 } c
  | ticks (hticking : s.ticking = true) : Acts s c .ticks { s with tick := true } c
  | writerTakesTick (hw : s.writer = .selecting) (htick : s.tick = true) :
    Acts s c .writerTakesTick { s with writer := .writing, tick := false } c
  | writerSeesClosed (hw : s.writer = .selecting) (hclosed : s.closed = true) :
    Acts s c .writerSeesClosed s.writerLeaves c
  | writerWrites (hw : s.writer = .writing) :
    Acts s c .writerWrites { s with writer := .selecting } c
  | writerFails (hw : s.writer = .writing) : Acts s c .writerFails s.writerBreaks c

theorem acts_of_act {s t : Session} {c d : Conn} {a : Act} (h : s.act c a = some (t, d)) :
    Acts s c a t d := by
  cases a with
  | start kind =>
    obtain h : s.startMonitor c kind = (t, d) := Option.some.inj h
    simpa only [h] using Acts.start (s := s) (c := c) kind
  | readerLocks =>
    obtain ⟨hr, h⟩ := Option.ite_none_right_eq_some.mp h
    obtain h : s.readRTCP c = (t, d) := Option.some.inj h
    simpa only [h] using Acts.readerLocks (c := c) hr
  | readerReads n =>
    obtain ⟨⟨hr, hc, hn⟩, h⟩ := Option.ite_none_right_eq_some.mp h
    cases h
    exact .readerReads hr hc hn
  | readerSkips =>
    obtain ⟨⟨hr, hc⟩, h⟩ := Option.ite_none_right_eq_some.mp h
    cases h
    exact .readerSkips hr hc
  | readerFails =>
    obtain ⟨hr, h⟩ := Option.ite_none_right_eq_some.mp h
    cases h
    exact .readerFails hr
  | readerHandles =>
    simp only [act] at h
    split at h
    next hr =>
      cases h
      exact .readerHandled hr
    next n hr =>
      cases h
      exact .readerHandles hr
    · cases h
  | readerSends =>
    obtain ⟨⟨hr, hw⟩, h⟩ := Option.ite_none_right_eq_some.mp h
    cases h
    exact .readerSends hr hw
  | ticks =>
    obtain ⟨hticking, h⟩ := Option.ite_none_right_eq_some.mp h
    cases h
    exact .ticks hticking
  | writerTakesTick =>
    obtain ⟨⟨hw, htick⟩, h⟩ := Option.ite_none_right_eq_some.mp h
    cases h
    exact .writerTakesTick hw htick
  | writerSeesClosed =>
    obtain ⟨⟨hw, hclosed⟩, h⟩ := Option.ite_none_right_eq_some.mp h
    cases h
    exact .writerSeesClosed hw hclosed
  | writerWrites =>
    obtain ⟨hw, h⟩ := Option.ite_none_right_eq_some.mp h
    cases h
    exact .writerWrites hw
  | writerFails =>
    obtain ⟨hw, h⟩ := Option.ite_none_right_eq_some.mp h
    cases h
    exact .writerFails hw

end Session

/-! ## What holds of a session in every state -/

def Reader.live : Reader → Bool
  | .absent | .done => false
  | _ => true

def Writer.live : Writer → Bool
  | .absent | .done => false
  | _ => true

namespace Session

/-- The goroutines of the session that monitorWG counts: the writer of Monitor is its caller. -/
def running (s : Session) : ℕ :=
  s.reader.live.toNat + if s.kind = .background then s.writer.live.toNat else 0

structure Sound (s : Session) : Prop where
  counted : s.monitorWG = s.running
  unstarted : s.monitorRun = false → s.reader = .absent ∧ s.writer = .absent
  background : s.kind = .background → s.reader ≠ .sending ∧ s.writer ≠ .joining
  foreground : s.kind = .foreground → s.reader.live = false → s.writer.live = false
  buffered : ∀ n, s.reader = .handling n → n ≤ rtcpBufLen
  stopped : s.closed = true → s.ticking = false

theorem sound_default : Sound {} :=
  ⟨rfl, fun _ => ⟨rfl, rfl⟩, fun _ => ⟨nofun, nofun⟩, nofun, nofun, nofun⟩

variable {s t : Session} {c d : Conn} {a : Act} {r : Reader} {w : Writer} {b : Bool}

namespace Sound

theorem started (h : Sound s) (hlive : s.reader.live = true ∨ s.writer.live = true) :
    s.monitorRun = true := by
  cases hrun : s.monitorRun with
  | true => rfl
  | false =>
    obtain ⟨hr, hw⟩ := h.unstarted hrun
    rw [hr, hw] at hlive
    exact absurd hlive (by decide)

theorem moveReader (h : Sound s) (hlive : s.reader.live = true) (hr : r.live = true)
    (hsend : r ≠ .sending) (hbuf : ∀ n, r = .handling n → n ≤ rtcpBufLen) :
    Sound { s with reader := r } where
  counted := by
    have := h.counted
    simp only [running, hlive, hr] at this ⊢
    exact this
  unstarted hrun := by
    have hrun : s.monitorRun = false := hrun
    simp [h.started (.inl hlive)] at hrun
  background hk := ⟨hsend, (h.background hk).2⟩
  foreground _ hdone := absurd (show r.live = false from hdone) (by simp [hr])
  buffered := hbuf
  stopped := h.stopped

theorem readerReturns (h : Sound s) (hlive : s.reader.live = true) : Sound s.readerReturns := by
  have hrun := h.started (.inl hlive)
  have hcount := h.counted
  unfold Session.readerReturns
  cases hk : s.kind with
  | foreground =>
    refine ⟨?_, by simp [hrun], by simp, by simp [Reader.live], by simp, h.stopped⟩
    simp only [running, hlive, hk] at hcount ⊢
    simp [hcount, Reader.live]
  | background =>
    refine ⟨?_, by simp [hrun], fun _ => ⟨nofun, (h.background hk).2⟩, by simp, by simp,
      h.stopped⟩
    simp only [running, hlive, hk] at hcount ⊢
    simp [hcount, Reader.live]

theorem moveWriter (h : Sound s) (hlive : s.writer.live = true) (hw : w.live = true)
    (hjoin : w ≠ .joining) : Sound { s with writer := w, tick := b } where
  counted := by
    have := h.counted
    simp only [running, hlive, hw] at this ⊢
    exact this
  unstarted hrun := by
    have hrun : s.monitorRun = false := hrun
    simp [h.started (.inr hlive)] at hrun
  background hk := ⟨(h.background hk).1, hjoin⟩
  foreground hk hdone := absurd (h.foreground hk hdone) (by simp [hlive])
  buffered := h.buffered
  stopped := h.stopped

theorem writerLeaves (h : Sound s) (hlive : s.writer.live = true) : Sound s.writerLeaves := by
  have hrun := h.started (.inr hlive)
  have hcount := h.counted
  unfold Session.writerLeaves
  cases hk : s.kind with
  | foreground =>
    refine ⟨?_, by simp [hrun], by simp, fun _ _ => rfl, h.buffered, h.stopped⟩
    simpa [running, hk] using hcount
  | background =>
    refine ⟨?_, by simp [hrun], fun _ => ⟨(h.background hk).1, nofun⟩, by simp, h.buffered,
      h.stopped⟩
    simp only [running, hlive, hk] at hcount ⊢
    simp [hcount, Writer.live]

theorem writerBreaks (h : Sound s) (hw : s.writer = .writing) : Sound s.writerBreaks := by
  have hlive : s.writer.live = true := by rw [hw]; rfl
  have hrun := h.started (.inr hlive)
  have hcount := h.counted
  unfold Session.writerBreaks
  cases hk : s.kind with
  | foreground =>
    refine ⟨?_, by simp [hrun], by simp, fun _ hdone => ?_, h.buffered, h.stopped⟩
    · simpa [running, hk] using hcount
    · exact absurd (h.foreground hk hdone) (by simp [hlive])
  | background =>
    refine ⟨?_, by simp [hrun], fun _ => ⟨(h.background hk).1, nofun⟩, by simp, h.buffered,
      h.stopped⟩
    simp only [running, hlive, hk] at hcount ⊢
    simp [hcount, Writer.live]

theorem readerSends (h : Sound s) (hr : s.reader = .sending) :
    Sound { s with reader := .done, writer := .done, monitorWG := s.monitorWG - 1 } := by
  have hlive : s.reader.live = true := by rw [hr]; rfl
  have hrun := h.started (.inl hlive)
  have hk : s.kind = .foreground := by
    cases hk : s.kind with
    | foreground => rfl
    | background => exact absurd hr (h.background hk).1
  refine ⟨?_, by simp [hrun], by simp, fun _ _ => rfl, by simp, h.stopped⟩
  have hcount := h.counted
  simp only [running, hlive, hk] at hcount ⊢
  simp [hcount, Reader.live]

theorem startMonitor (h : Sound s) (c : Conn) (kind : Kind) :
    Sound (s.startMonitor c kind).1 := by
  unfold Session.startMonitor
  split
  · exact h
  next hrun =>
    split
    · exact h
    split
    · exact h
    next hclosed _ =>
      obtain ⟨hr, hw⟩ := h.unstarted (by simpa using hrun)
      have hcount : s.monitorWG = 0 := by
        rw [h.counted, running, hr, hw]
        simp [Reader.live, Writer.live]
      refine ⟨?_, by simp, fun _ => ⟨nofun, nofun⟩, by simp [Reader.live], by simp, h.stopped⟩
      cases kind <;> simp [hcount, running, goroutines, Reader.live, Writer.live]

theorem readRTCP (h : Sound s) (c : Conn) (hr : s.reader = .starting) :
    Sound (s.readRTCP c).1 := by
  have hlive : s.reader.live = true := by rw [hr]; rfl
  have hreading : Sound { s with reader := .reading } := h.moveReader hlive rfl nofun nofun
  unfold Session.readRTCP
  split
  · exact hreading
  split
  · exact h.readerReturns hlive
  · exact hreading

theorem markClosed (h : Sound s) : Sound s.markClosed :=
  ⟨h.counted, h.unstarted, h.background, h.foreground, h.buffered, fun _ => rfl⟩

theorem act (h : Sound s) (ha : s.act c a = some (t, d)) : Sound t := by
  cases acts_of_act ha with
  | start kind => exact h.startMonitor c kind
  | readerLocks hr => exact h.readRTCP c hr
  | @readerReads n hr hc hn =>
    refine h.moveReader (by rw [hr]; rfl) rfl nofun fun m hm => ?_
    cases hm
    exact hn
  | readerSkips => exact h
  | readerFails hr => exact h.readerReturns (by rw [hr]; rfl)
  | readerHandled hr => exact h.moveReader (by rw [hr]; rfl) rfl nofun nofun
  | @readerHandles n hr =>
    refine h.moveReader (by rw [hr]; rfl) rfl nofun fun m hm => ?_
    cases hm
    exact (Nat.le_succ n).trans (h.buffered _ hr)
  | readerSends hr => exact h.readerSends hr
  | ticks => exact ⟨h.counted, h.unstarted, h.background, h.foreground, h.buffered, h.stopped⟩
  | writerTakesTick hw => exact h.moveWriter (by rw [hw]; rfl) rfl nofun
  | writerSeesClosed hw => exact h.writerLeaves (by rw [hw]; rfl)
  | writerWrites hw => exact h.moveWriter (by rw [hw]; rfl) rfl nofun
  | writerFails hw => exact h.writerBreaks hw

/-- With the wait group at zero nothing of the monitor is left, the writer of Monitor included. -/
theorem not_live (h : Sound s) (hwg : s.monitorWG = 0) :
    s.reader.live = false ∧ s.writer.live = false := by
  rw [h.counted, running] at hwg
  have hr : s.reader.live = false := by
    cases hr : s.reader.live with
    | false => rfl
    | true => simp [hr] at hwg
  refine ⟨hr, ?_⟩
  cases hk : s.kind with
  | background => cases hw : s.writer.live <;> simp_all
  | foreground => exact h.foreground hk hr

end Sound

/-- What no step of a session changes: the session's own Close and that of the connection, and
once it is closed the deadline, which startMonitor and readRTCP clear only before. -/
structure Frame (s : Session) (c : Conn) (t : Session) (d : Conn) : Prop where
  closed : t.closed = s.closed
  connClosed : d.closed = c.closed
  deadline : s.closed = true → d = c
  kind : s.closed = true → t.kind = s.kind
  wg : s.closed = true → t.monitorWG ≤ s.monitorWG

theorem Frame.refl (s : Session) (c : Conn) : Frame s c s c :=
  ⟨rfl, rfl, fun _ => rfl, fun _ => rfl, fun _ => le_refl _⟩

theorem frame_startMonitor (s : Session) (c : Conn) (kind : Kind) :
    Frame s c (s.startMonitor c kind).1 (s.startMonitor c kind).2 := by
  unfold startMonitor
  split
  · exact .refl s c
  split
  · exact .refl s c
  next hclosed =>
    split
    · exact .refl s c
    · exact ⟨rfl, rfl, fun h => absurd h hclosed, fun h => absurd h hclosed,
        fun h => absurd h hclosed⟩

theorem frame_readerReturns (s : Session) (c : Conn) : Frame s c s.readerReturns c := by
  unfold readerReturns
  split <;> exact ⟨rfl, rfl, fun _ => rfl, fun _ => rfl, fun _ => by simp⟩

theorem frame_writerLeaves (s : Session) (c : Conn) : Frame s c s.writerLeaves c := by
  unfold writerLeaves
  split <;> exact ⟨rfl, rfl, fun _ => rfl, fun _ => rfl, fun _ => by simp⟩

theorem frame_writerBreaks (s : Session) (c : Conn) : Frame s c s.writerBreaks c := by
  unfold writerBreaks
  split <;> exact ⟨rfl, rfl, fun _ => rfl, fun _ => rfl, fun _ => by simp⟩

theorem frame_readRTCP (s : Session) (c : Conn) :
    Frame s c (s.readRTCP c).1 (s.readRTCP c).2 := by
  unfold readRTCP
  split
  · exact ⟨rfl, rfl, fun _ => rfl, fun _ => rfl, fun _ => by simp⟩
  next hclosed =>
    split
    · exact frame_readerReturns s c
    · exact ⟨rfl, rfl, fun h => absurd h hclosed, fun _ => rfl, fun _ => le_refl _⟩

theorem frame_act (ha : s.act c a = some (t, d)) : Frame s c t d := by
  cases acts_of_act ha with
  | start kind => exact frame_startMonitor s c kind
  | readerLocks => exact frame_readRTCP s c
  | readerFails => exact frame_readerReturns s c
  | writerSeesClosed => exact frame_writerLeaves s c
  | writerFails => exact frame_writerBreaks s c
  | readerSkips => exact .refl s c
  | readerReads | readerHandled | readerHandles | readerSends | ticks | writerTakesTick
  | writerWrites => exact ⟨rfl, rfl, fun _ => rfl, fun _ => rfl, fun _ => by simp⟩

theorem live_of_act (ha : s.act c a = some (t, d)) (hmine : a.ofMonitor = true) :
    s.reader.live = true ∨ s.writer.live = true := by
  cases acts_of_act ha with
  | start => cases hmine
  | ticks => cases hmine
  | readerLocks hr | readerReads hr | readerSkips hr | readerFails hr | readerHandled hr
  | readerHandles hr | readerSends hr => exact .inl (by rw [hr]; rfl)
  | writerTakesTick hw | writerSeesClosed hw | writerWrites hw | writerFails hw =>
    exact .inr (by rw [hw]; rfl)

end Session

/-! ## What is left to do once a monitor in the background is stopped -/

def Reader.left : Reader → ℕ
  | .reading => 1
  | .starting => 2
  | .handling n => n + 2
  | _ => 0

def Writer.left : Writer → ℕ
  | .selecting => 1
  | .writing => 2
  | _ => 0

namespace Session

variable {s t : Session} {c d : Conn} {a : Act}

/-- How many steps the goroutines of a stopped monitor can still take. -/
def left (s : Session) : ℕ := s.reader.left + s.writer.left + 2 * s.tick.toNat

/-- A read of five packets, one report to write and one tick on top of it. -/
theorem Sound.left_le (h : Sound s) : s.left ≤ 11 := by
  have hreader : s.reader.left ≤ 7 := by
    cases hr : s.reader with
    | handling n =>
      have : n ≤ 5 := h.buffered n hr
      simp only [Reader.left]
      omega
    | _ => simp [Reader.left]
  have hwriter : s.writer.left ≤ 2 := by cases s.writer <;> simp [Writer.left]
  have htick := s.tick.toNat_le
  unfold left
  omega

/-- Closed, without a foreground caller, over a connection whose reads fail. -/
structure Stopping (s : Session) (c : Conn) : Prop where
  sound : Sound s
  background : s.kind = .background
  closed : s.closed = true
  dead : c.Dead

/-- Each step of a goroutine of a stopped monitor uses up what is left. -/
theorem Stopping.left_lt (h : Stopping s c) (ha : s.act c a = some (t, d))
    (hmine : a.ofMonitor = true) : t.left < s.left := by
  have hk := h.background
  cases acts_of_act ha with
  | start => cases hmine
  | ticks => cases hmine
  | readerReads _ hc => exact absurd h.dead hc
  | readerSkips _ hc => exact absurd h.dead hc
  | readerSends hr => exact absurd hr (h.sound.background hk).1
  | readerLocks hr => simp [readRTCP, h.closed, left, hr, Reader.left]
  | readerFails hr => simp [readerReturns, hk, left, hr, Reader.left]
  | readerHandled hr => simp [left, hr, Reader.left]
  | readerHandles hr => simp [left, hr, Reader.left]
  | writerTakesTick hw htick =>
    simp only [left, hw, htick, Writer.left, Bool.toNat_true, Bool.toNat_false]
    omega
  | writerSeesClosed hw => simp [writerLeaves, hk, left, hw, Writer.left]
  | writerWrites hw => simp [left, hw, Writer.left]
  | writerFails hw => simp [writerBreaks, hk, left, hw, Writer.left]

/-- Nothing else adds to it: a closed session starts no monitor, and its ticker is stopped. -/
theorem left_le_of_closed (h : Sound s) (hclosed : s.closed = true)
    (ha : s.act c a = some (t, d)) (hother : a.ofMonitor = false) : t.left ≤ s.left := by
  cases acts_of_act ha with
  | start kind => simp [startMonitor, hclosed]
  | ticks hticking => simp [h.stopped hclosed] at hticking
  | _ => cases hother

/-- While monitorWG counts a goroutine of a stopped monitor, one of them can go on. -/
theorem Stopping.exists_act (h : Stopping s c) (hwg : s.monitorWG ≠ 0) :
    ∃ a, a.ofMonitor = true ∧ (s.act c a).isSome = true := by
  rw [h.sound.counted, running, if_pos h.background] at hwg
  cases hr : s.reader with
  | starting => exact ⟨.readerLocks, rfl, by simp [Session.act, hr]⟩
  | reading => exact ⟨.readerFails, rfl, by simp [Session.act, hr]⟩
  | handling n => exact ⟨.readerHandles, rfl, by cases n <;> simp [Session.act, hr]⟩
  | sending => exact absurd hr (h.sound.background h.background).1
  | absent | done =>
    cases hw : s.writer with
    | selecting => exact ⟨.writerSeesClosed, rfl, by simp [Session.act, hw, h.closed]⟩
    | writing => exact ⟨.writerWrites, rfl, by simp [Session.act, hw]⟩
    | joining => exact absurd hw (h.sound.background h.background).2
    | absent | done => simp [hr, hw, Reader.live, Writer.live] at hwg

/-! ## A monitor in the foreground that has returned -/

/-- Monitor has returned because of rtcpClosed, and its reader is still there. -/
structure Orphaned (s : Session) : Prop where
  foreground : s.kind = .foreground
  writer : s.writer = .done
  reader : s.reader.live = true

theorem Orphaned.readerReturns (h : Orphaned s) : Orphaned s.readerReturns := by
  simpa only [Session.readerReturns, h.foreground] using ⟨rfl, h.writer, rfl⟩

theorem Orphaned.act (h : Orphaned s) (hs : Sound s) (ha : s.act c a = some (t, d)) :
    Orphaned t := by
  have hw := h.writer
  cases acts_of_act ha with
  | start kind => simpa [startMonitor, hs.started (.inl h.reader)] using h
  | readerLocks =>
    unfold readRTCP
    split
    · exact ⟨h.foreground, hw, rfl⟩
    split
    · exact h.readerReturns
    · exact ⟨h.foreground, hw, rfl⟩
  | readerFails => exact h.readerReturns
  | readerReads | readerHandled | readerHandles => exact ⟨h.foreground, hw, rfl⟩
  | readerSkips | ticks => exact ⟨h.foreground, hw, h.reader⟩
  | readerSends _ hjoin => simp [hw] at hjoin
  | writerTakesTick hw' | writerSeesClosed hw' | writerWrites hw' | writerFails hw' =>
    simp [hw] at hw'

end Session

end Diago.Rtp.Monitor
