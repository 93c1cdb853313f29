import Diago.Lib.Schedule
import Diago.Rtp.Monitor

/-! # Stopping the RTCP monitor

Stopping a monitor marks the session closed, expires the deadline of the connection
and waits for the goroutines counted in monitorWG.
-/
namespace Diago.Rtp.Monitor
open Lib

/-- Where a call of close is, for MonitorClose if it waits and for Close if not. -/
inductive Call
  | idle
  | marked (k : ℕ) (wait : Bool)
  | waiting (k : ℕ) (ok : Bool)
  | returned (k : ℕ) (wait ok : Bool)
  deriving DecidableEq

structure System where
  sessions : ℕ → Session := fun _ => {}
  conns : ℕ → Conn := fun _ => {}
  /-- How many sessions there are: the first one and its forks. -/
  made : ℕ := 1
  calls : ℕ → Call := fun _ => .idle

inductive Event
  | act (k : ℕ) (a : Act)
  | close (c k : ℕ) (wait : Bool)
  | expire (c : ℕ)
  | wake (c : ℕ)
  /-- replaceRTPSessionUnsafe forks the current session after its MonitorClose in call `c`. -/
  | fork (c : ℕ)
  | closeConn (conn : ℕ)
  deriving DecidableEq

def Event.ofMonitor (k : ℕ) : Event → Bool
  | .act j a => j = k && a.ofMonitor
  | _ => false

/-- SetDeadline with the current time. It fails on a closed connection. -/
def Conn.expire (c : Conn) : Conn := if c.closed then c else { c with expired := true }

def System.step (uses : ℕ → ℕ) (x : System) : Event → Option System
  | .act k a =>
    if k < x.made then
      ((x.sessions k).act (x.conns (uses k)) a).map fun r =>
        { x with
          sessions := Function.update x.sessions k r.1
          conns := Function.update x.conns (uses k) r.2 }
    else none
  | .close c k wait =>
    if x.calls c = .idle ∧ k < x.made then
      some { x with
        sessions := Function.update x.sessions k (x.sessions k).markClosed
        calls := Function.update x.calls c (.marked k wait) }
    else none
  | .expire c =>
    match x.calls c with
    | .marked k wait =>
      let ok := !(x.conns (uses k)).closed
      some { x with
        conns := Function.update x.conns (uses k) (x.conns (uses k)).expire
        calls := Function.update x.calls c (if wait then .waiting k ok else .returned k wait ok) }
    | _ => none
  | .wake c =>
    match x.calls c with
    | .waiting k ok =>
      if (x.sessions k).monitorWG = 0 then
        some { x with calls := Function.update x.calls c (.returned k true ok) }
      else none
    | _ => none
  | .fork c =>
    match x.calls c with
    | .returned k true true => if k + 1 = x.made then some { x with made := x.made + 1 } else none
    | _ => none
  | .closeConn conn =>
    some { x with
      conns := Function.update x.conns conn { x.conns conn with closed := true } }

/-- What a step of the system is, with what it takes to be possible. -/
inductive Effect (uses : ℕ → ℕ) (x : System) : Event → System → Prop
  | act {k : ℕ} {a : Act} {t : Session} {d : Conn} (hk : k < x.made)
      (ha : (x.sessions k).act (x.conns (uses k)) a = some (t, d)) :
    Effect uses x (.act k a)
      { x with
        sessions := Function.update x.sessions k t
        conns := Function.update x.conns (uses k) d }
  | close {c k : ℕ} {wait : Bool} (hc : x.calls c = .idle) (hk : k < x.made) :
    Effect uses x (.close c k wait)
      { x with
        sessions := Function.update x.sessions k (x.sessions k).markClosed
        calls := Function.update x.calls c (.marked k wait) }
  | expire {c k : ℕ} {wait : Bool} (hc : x.calls c = .marked k wait) :
    Effect uses x (.expire c)
      { x with
        conns := Function.update x.conns (uses k) (x.conns (uses k)).expire
        calls := Function.update x.calls c
          (if wait then .waiting k (!(x.conns (uses k)).closed)
            else .returned k wait (!(x.conns (uses k)).closed)) }
  | wake {c k : ℕ} {ok : Bool} (hc : x.calls c = .waiting k ok)
      (hwg : (x.sessions k).monitorWG = 0) :
    Effect uses x (.wake c) { x with calls := Function.update x.calls c (.returned k true ok) }
  | fork {c k : ℕ} (hc : x.calls c = .returned k true true) (hlast : k + 1 = x.made) :
    Effect uses x (.fork c) { x with made := x.made + 1 }
  | closeConn (conn : ℕ) :
    Effect uses x (.closeConn conn)
      { x with conns := Function.update x.conns conn { x.conns conn with closed := true } }

namespace System

variable {uses : ℕ → ℕ} {x y : System} {e : Event}

theorem effect_of_step (he : x.step uses e = some y) : Effect uses x e y := by
  cases e with
  | act k a =>
    obtain ⟨hk, he⟩ := Option.ite_none_right_eq_some.mp he
    obtain ⟨⟨t, d⟩, ha, rfl⟩ := Option.map_eq_some_iff.mp he
    exact .act hk ha
  | close c k wait =>
    obtain ⟨⟨hc, hk⟩, he⟩ := Option.ite_none_right_eq_some.mp he
    cases he
    exact .close hc hk
  | expire c =>
    simp only [step] at he
    split at he
    next k wait hc =>
      cases he
      exact .expire hc
    · cases he
  | wake c =>
    simp only [step] at he
    split at he
    next k ok hc =>
      obtain ⟨hwg, he⟩ := Option.ite_none_right_eq_some.mp he
      cases he
      exact .wake hc hwg
    · cases he
  | fork c =>
    simp only [step] at he
    split at he
    next k hc =>
      obtain ⟨hlast, he⟩ := Option.ite_none_right_eq_some.mp he
      cases he
      exact .fork hc hlast
    · cases he
  | closeConn conn =>
    cases he
    exact .closeConn conn

end System

/-! ## What holds of the sessions over every schedule -/

namespace System

/-- What holds of the sessions over every schedule. All but the last were waited for, and a call
that waits has closed its session, whose connection stays dead for as long as it is the last. -/
structure Kept (uses : ℕ → ℕ) (x : System) : Prop where
  sound : ∀ k, (x.sessions k).Sound
  fresh : ∀ k, x.made ≤ k → x.sessions k = {}
  retired : ∀ k, k + 1 < x.made → (x.sessions k).closed = true ∧ (x.sessions k).monitorWG = 0
  marked : ∀ c k wait, x.calls c = .marked k wait → k < x.made ∧ (x.sessions k).closed = true
  waiting : ∀ c k ok, x.calls c = .waiting k ok → k < x.made ∧ (x.sessions k).closed = true ∧
    (k + 1 = x.made → (x.conns (uses k)).Dead)
  returned : ∀ c k ok, x.calls c = .returned k true ok → k < x.made ∧
    (x.sessions k).closed = true ∧ (x.sessions k).monitorWG = 0

variable {uses : ℕ → ℕ} {x y : System} {e : Event}

theorem kept_init : Kept uses {} where
  sound _ := Session.sound_default
  fresh _ _ := rfl
  retired k hk := absurd hk (by simp)
  marked _ _ _ h := by cases h
  waiting _ _ _ h := by cases h
  returned _ _ _ h := by cases h

theorem dead_update {conns : ℕ → Conn} {i j : ℕ} {d : Conn} (hd : (conns i).Dead → d.Dead)
    (h : (conns j).Dead) : (Function.update conns i d j).Dead := by
  rw [Function.update_apply]
  split
  next hj => exact hd (hj ▸ h)
  · exact h

theorem Kept.act (h : Kept uses x) {k : ℕ} {a : Act} {t : Session} {d : Conn} (hk : k < x.made)
    (ha : (x.sessions k).act (x.conns (uses k)) a = some (t, d)) :
    Kept uses { x with
      sessions := Function.update x.sessions k t
      conns := Function.update x.conns (uses k) d } := by
  have hframe := Session.frame_act ha
  -- closed sessions stay closed, and their wait group only counts down
  have hclosed : ∀ {j}, (x.sessions j).closed = true →
      (Function.update x.sessions k t j).closed = true ∧
      (Function.update x.sessions k t j).monitorWG ≤ (x.sessions j).monitorWG := by
    intro j hj
    rw [Function.update_apply]
    split
    next hjk =>
      subst hjk
      exact ⟨hframe.closed.trans hj, hframe.wg hj⟩
    · exact ⟨hj, le_refl _⟩
  refine ⟨fun j => ?_, fun j hj => ?_, fun j hj => ?_, fun c j wait hc => ?_, fun c j ok hc => ?_,
    fun c j ok hc => ?_⟩
  · dsimp only
    rw [Function.update_apply]
    split
    · exact (h.sound k).act ha
    · exact h.sound j
  · have hj : x.made ≤ j := hj
    dsimp only
    rw [Function.update_of_ne (by omega), h.fresh j hj]
  · obtain ⟨hcl, hwg⟩ := h.retired j hj
    exact ⟨(hclosed hcl).1, Nat.le_zero.mp (hwg ▸ (hclosed hcl).2)⟩
  · obtain ⟨hj, hcl⟩ := h.marked c j wait hc
    exact ⟨hj, (hclosed hcl).1⟩
  · obtain ⟨hj, hcl, hdead⟩ := h.waiting c j ok hc
    refine ⟨hj, (hclosed hcl).1, fun hlast => dead_update (fun hold => ?_) (hdead hlast)⟩
    have hkclosed : (x.sessions k).closed = true := by
      by_cases hkj : k = j
      · exact hkj ▸ hcl
      · have hlast : j + 1 = x.made := hlast
        exact (h.retired k (by omega)).1
    rw [hframe.deadline hkclosed]
    exact hold
  · obtain ⟨hj, hcl, hwg⟩ := h.returned c j ok hc
    exact ⟨hj, (hclosed hcl).1, Nat.le_zero.mp (hwg ▸ (hclosed hcl).2)⟩

theorem Kept.markClosed (h : Kept uses x) {k : ℕ} (hk : k < x.made) :
    Kept uses { x with sessions := Function.update x.sessions k (x.sessions k).markClosed } := by
  have hclosed : ∀ {j}, (x.sessions j).closed = true →
      (Function.update x.sessions k (x.sessions k).markClosed j).closed = true := by
    intro j hj
    rw [Function.update_apply]
    split
    · rfl
    · exact hj
  have hwg : ∀ j, (Function.update x.sessions k (x.sessions k).markClosed j).monitorWG =
      (x.sessions j).monitorWG := by
    intro j
    rw [Function.update_apply]
    split
    next hjk => exact hjk ▸ rfl
    · rfl
  refine ⟨fun j => ?_, fun j hj => ?_, fun j hj => ?_, fun c j wait hc => ?_,
    fun c j ok hc => ?_, fun c j ok hc => ?_⟩
  · dsimp only
    rw [Function.update_apply]
    split
    · exact (h.sound k).markClosed
    · exact h.sound j
  · have hj : x.made ≤ j := hj
    dsimp only
    rw [Function.update_of_ne (by omega), h.fresh j hj]
  · obtain ⟨hcl, hzero⟩ := h.retired j hj
    exact ⟨hclosed hcl, (hwg j).trans hzero⟩
  · obtain ⟨hj, hcl⟩ := h.marked c j wait hc
    exact ⟨hj, hclosed hcl⟩
  · obtain ⟨hj, hcl, hdead⟩ := h.waiting c j ok hc
    exact ⟨hj, hclosed hcl, hdead⟩
  · obtain ⟨hj, hcl, hzero⟩ := h.returned c j ok hc
    exact ⟨hj, hclosed hcl, (hwg j).trans hzero⟩

theorem Kept.kill (h : Kept uses x) {i : ℕ} {d : Conn} (hd : (x.conns i).Dead → d.Dead) :
    Kept uses { x with conns := Function.update x.conns i d } where
  sound := h.sound
  fresh := h.fresh
  retired := h.retired
  marked := h.marked
  waiting c j ok hc := by
    obtain ⟨hj, hcl, hdead⟩ := h.waiting c j ok hc
    exact ⟨hj, hcl, fun hlast => dead_update hd (hdead hlast)⟩
  returned := h.returned

theorem Kept.setCall (h : Kept uses x) (c : ℕ) {p : Call}
    (hmarked : ∀ k wait, p = .marked k wait → k < x.made ∧ (x.sessions k).closed = true)
    (hwaiting : ∀ k ok, p = .waiting k ok → k < x.made ∧ (x.sessions k).closed = true ∧
      (k + 1 = x.made → (x.conns (uses k)).Dead))
    (hreturned : ∀ k ok, p = .returned k true ok → k < x.made ∧ (x.sessions k).closed = true ∧
      (x.sessions k).monitorWG = 0) :
    Kept uses { x with calls := Function.update x.calls c p } := by
  refine ⟨h.sound, h.fresh, h.retired, fun c' j wait hc => ?_, fun c' j ok hc => ?_,
    fun c' j ok hc => ?_⟩
  all_goals
    dsimp only at hc
    rw [Function.update_apply] at hc
    split at hc
  · exact hmarked j wait hc
  · exact h.marked c' j wait hc
  · exact hwaiting j ok hc
  · exact h.waiting c' j ok hc
  · exact hreturned j ok hc
  · exact h.returned c' j ok hc

theorem Kept.close (h : Kept uses x) {c k : ℕ} (wait : Bool) (hk : k < x.made) :
    Kept uses { x with
      sessions := Function.update x.sessions k (x.sessions k).markClosed
      calls := Function.update x.calls c (.marked k wait) } := by
  apply (h.markClosed hk).setCall c
  · rintro k' wait' ⟨⟩
    exact ⟨hk, by simp [Session.markClosed]⟩
  · exact nofun
  · exact nofun

theorem Kept.fork (h : Kept uses x) {c k : ℕ} {ok : Bool} (hc : x.calls c = .returned k true ok)
    (hlast : k + 1 = x.made) : Kept uses { x with made := x.made + 1 } where
  sound := h.sound
  fresh j hj := h.fresh j (Nat.le_of_succ_le hj)
  retired j hj := by
    have hj : j + 1 < x.made + 1 := hj
    by_cases hjk : j = k
    · obtain ⟨_, hcl, hzero⟩ := h.returned c k ok hc
      exact hjk ▸ ⟨hcl, hzero⟩
    · exact h.retired j (by omega)
  marked c' j wait hc' := by
    obtain ⟨hj, hcl⟩ := h.marked c' j wait hc'
    exact ⟨Nat.lt_succ_of_lt hj, hcl⟩
  waiting c' j ok' hc' := by
    obtain ⟨hj, hcl, _⟩ := h.waiting c' j ok' hc'
    refine ⟨Nat.lt_succ_of_lt hj, hcl, fun hnew => ?_⟩
    have hnew : j + 1 = x.made + 1 := hnew
    omega
  returned c' j ok' hc' := by
    obtain ⟨hj, hrest⟩ := h.returned c' j ok' hc'
    exact ⟨Nat.lt_succ_of_lt hj, hrest⟩

theorem dead_expire (conn : Conn) : conn.expire.Dead := by
  unfold Conn.expire
  split
  next hclosed => exact .inl hclosed
  · exact .inr rfl

theorem Kept.step (h : Kept uses x) (he : x.step uses e = some y) : Kept uses y := by
  cases effect_of_step he with
  | act hk ha => exact h.act hk ha
  | close _ hk => exact h.close _ hk
  | @expire c k wait hc =>
    obtain ⟨hk, hcl⟩ := h.marked c k wait hc
    refine (h.kill (i := uses k) fun _ => dead_expire _).setCall c ?_ ?_ ?_
    · intro k' wait' hp
      split at hp <;> cases hp
    · intro k' ok hp
      split at hp
      · cases hp
        exact ⟨hk, hcl, fun _ => by simpa using dead_expire _⟩
      · cases hp
    · intro k' ok hp
      split at hp
      · cases hp
      next hwait =>
        cases hp
        exact absurd rfl hwait
  | @wake c k ok hc hwg =>
    obtain ⟨hk, hcl, _⟩ := h.waiting c k ok hc
    refine h.setCall c nofun nofun fun k' ok' hp => ?_
    cases hp
    exact ⟨hk, hcl, hwg⟩
  | fork hc hlast => exact h.fork hc hlast
  | closeConn conn => exact h.kill fun _ => .inl rfl

theorem kept_of_schedule {before : List Event} (h : schedule (step uses) {} before = some x) :
    Kept uses x :=
  schedule_invariant (Kept uses) (fun _ _ _ hs he => hs.step he) kept_init h

theorem session_step (he : x.step uses e = some y) (k : ℕ) :
    (∃ a d, e = .act k a ∧
      (x.sessions k).act (x.conns (uses k)) a = some (y.sessions k, d)) ∨
    (e.ofMonitor k = false ∧
      (y.sessions k = x.sessions k ∨ y.sessions k = (x.sessions k).markClosed)) := by
  cases effect_of_step he with
  | @act j a t d _ ha =>
    by_cases hkj : k = j
    · subst hkj
      exact .inl ⟨a, d, rfl, by simpa using ha⟩
    · exact .inr ⟨by simp [Event.ofMonitor, Ne.symm hkj], .inl (by simp [hkj])⟩
  | @close c j wait =>
    by_cases hkj : k = j
    · subst hkj
      exact .inr ⟨rfl, .inr (by simp)⟩
    · exact .inr ⟨rfl, .inl (by simp [hkj])⟩
  | expire | wake | fork | closeConn => exact .inr ⟨rfl, .inl rfl⟩

/-- A call that waits or has waited stays, or is let go by the wait group. -/
theorem call_step (he : x.step uses e = some y) {c k : ℕ} {ok : Bool}
    (hc : x.calls c = .waiting k ok ∨ x.calls c = .returned k true ok) :
    y.calls c = .waiting k ok ∨ y.calls c = .returned k true ok := by
  cases effect_of_step he with
  | act | fork | closeConn => exact hc
  | @close c' _ _ hidle =>
    have hne : c ≠ c' := by
      rintro rfl
      simp [hidle] at hc
    simpa [hne] using hc
  | @expire c' _ _ hmarked =>
    have hne : c ≠ c' := by
      rintro rfl
      simp [hmarked] at hc
    simpa [hne] using hc
  | @wake c' j ok' hwaiting =>
    by_cases hcc : c = c'
    · subst hcc
      have hcall : Call.waiting j ok' = .waiting k ok := by simpa [hwaiting] using hc
      cases hcall
      exact .inr (by simp)
    · simpa [hcc] using hc

theorem made_step (he : x.step uses e = some y) :
    y.made = x.made ∨ ∃ c k, x.calls c = .returned k true true ∧ k + 1 = x.made := by
  cases effect_of_step he with
  | act | close | expire | wake | closeConn => exact .inl rfl
  | @fork c k hc hlast => exact .inr ⟨c, k, hc, hlast⟩

/-- A MonitorClose of session `k` has expired the deadline, and its monitor ran in the
background. -/
structure Awaited (uses : ℕ → ℕ) (c k : ℕ) (ok : Bool) (x : System) : Prop where
  kept : Kept uses x
  background : (x.sessions k).kind = .background
  call : x.calls c = .waiting k ok ∨ x.calls c = .returned k true ok

variable {c k : ℕ} {ok : Bool}

theorem Awaited.closed (h : Awaited uses c k ok x) :
    k < x.made ∧ (x.sessions k).closed = true := by
  rcases h.call with hc | hc
  · obtain ⟨hk, hcl, _⟩ := h.kept.waiting c k ok hc
    exact ⟨hk, hcl⟩
  · obtain ⟨hk, hcl, _⟩ := h.kept.returned c k ok hc
    exact ⟨hk, hcl⟩

/-- Until the goroutines of the session are gone its connection is dead. -/
theorem Awaited.stopping (h : Awaited uses c k ok x) (hwg : (x.sessions k).monitorWG ≠ 0) :
    (x.sessions k).Stopping (x.conns (uses k)) := by
  obtain ⟨hk, hcl⟩ := h.closed
  have hlast : k + 1 = x.made := by
    by_contra hne
    exact hwg (h.kept.retired k (by omega)).2
  refine ⟨h.kept.sound k, h.background, hcl, ?_⟩
  rcases h.call with hc | hc
  · exact (h.kept.waiting c k ok hc).2.2 hlast
  · exact absurd (h.kept.returned c k ok hc).2.2 hwg

theorem Awaited.step (h : Awaited uses c k ok x) (he : x.step uses e = some y) :
    Awaited uses c k ok y := by
  refine ⟨h.kept.step he, ?_, call_step he h.call⟩
  obtain ⟨a, d, _, ha⟩ | ⟨_, hsame | hmark⟩ := session_step he k
  · rw [(Session.frame_act ha).kind h.closed.2, h.background]
  · rw [hsame, h.background]
  · rw [hmark]
    exact h.background

theorem Awaited.left_lt (h : Awaited uses c k ok x) (he : x.step uses e = some y)
    (hmine : e.ofMonitor k = true) : (y.sessions k).left < (x.sessions k).left := by
  obtain ⟨a, d, rfl, ha⟩ | ⟨hother, _⟩ := session_step he k
  · have hmine : a.ofMonitor = true := by simpa [Event.ofMonitor] using hmine
    refine (h.stopping fun hwg => ?_).left_lt ha hmine
    have hgone := (h.kept.sound k).not_live hwg
    rcases Session.live_of_act ha hmine with hlive | hlive
    · simp [hgone.1] at hlive
    · simp [hgone.2] at hlive
  · simp [hother] at hmine

theorem Awaited.left_le (h : Awaited uses c k ok x) (he : x.step uses e = some y)
    (hother : e.ofMonitor k = false) : (y.sessions k).left ≤ (x.sessions k).left := by
  obtain ⟨a, d, rfl, ha⟩ | ⟨_, hsame | hmark⟩ := session_step he k
  · have hother : a.ofMonitor = false := by simpa [Event.ofMonitor] using hother
    exact Session.left_le_of_closed (h.kept.sound k) h.closed.2 ha hother
  · rw [hsame]
  · rw [hmark]
    exact le_refl _

/-- A MonitorClose that has expired the deadline returns, whatever else happens in between: the
goroutines of a monitor in the background take no more than eleven steps from then on, and at
every moment the call has returned, can return, or one of them can take its next step. -/
theorem monitorClose_returns (uses : ℕ → ℕ) (before rest : List Event)
    (hbefore : schedule (step uses) {} before = some x) (hc : x.calls c = .waiting k ok)
    (hk : (x.sessions k).kind = .background) (hrest : schedule (step uses) x rest = some y) :
    rest.countP (Event.ofMonitor k) ≤ 11 ∧
    (y.calls c = .returned k true ok ∨ (y.step uses (.wake c)).isSome = true ∨
      ∃ a, a.ofMonitor = true ∧ (y.step uses (.act k a)).isSome = true) := by
  have hx : Awaited uses c k ok x := ⟨kept_of_schedule hbefore, hk, .inl hc⟩
  have hstep : ∀ s e t, Awaited uses c k ok s → step uses s e = some t → Awaited uses c k ok t :=
    fun _ _ _ hs he => hs.step he
  constructor
  · have hcount := schedule_countP_le (Awaited uses c k ok) (fun s => (s.sessions k).left)
      (Event.ofMonitor k) hstep (fun _ _ _ hs he => hs.left_lt he)
      (fun _ _ _ hs he => hs.left_le he) hx hrest
    have hleft := (hx.kept.sound k).left_le
    omega
  · have hy := schedule_invariant (Awaited uses c k ok) hstep hx hrest
    rcases hy.call with hwaiting | hreturned
    · by_cases hwg : (y.sessions k).monitorWG = 0
      · exact .inr (.inl (by simp [step, hwaiting, hwg]))
      · obtain ⟨a, hmine, ha⟩ := (hy.stopping hwg).exists_act hwg
        exact .inr (.inr ⟨a, hmine, by simp [step, hy.closed.1, ha]⟩)
    · exact .inl hreturned

/-- A reader that starts only after the call: it does not clear the deadline any more. -/
theorem monitorClose_returns_late_reader : ∃ x y,
    schedule (step id) {} [.act 0 (.start .background), .close 0 0 true, .expire 0] = some x ∧
    x.calls 0 = .waiting 0 true ∧ (x.sessions 0).kind = .background ∧
    schedule (step id) x [.act 0 .readerLocks, .act 0 .readerFails] = some y ∧
    ([.act 0 .readerLocks, .act 0 .readerFails].countP (Event.ofMonitor 0) ≤ 11 ∧
      (y.calls 0 = .returned 0 true true ∨ (y.step id (.wake 0)).isSome = true ∨
        ∃ a, a.ofMonitor = true ∧ (y.step id (.act 0 a)).isSome = true)) := by
  refine ⟨_, _, rfl, rfl, rfl, rfl, ?_⟩
  exact monitorClose_returns id [.act 0 (.start .background), .close 0 0 true, .expire 0]
    [.act 0 .readerLocks, .act 0 .readerFails] rfl rfl rfl rfl

theorem Kept.not_live (h : Kept uses x) (hk : k + 1 ≠ x.made) :
    (x.sessions k).reader.live = false ∧ (x.sessions k).writer.live = false := by
  by_cases hlt : k + 1 < x.made
  · exact (h.sound k).not_live (h.retired k hlt).2
  · rw [h.fresh k (by omega)]
    exact ⟨rfl, rfl⟩

structure Hung (uses : ℕ → ℕ) (k made : ℕ) (x : System) : Prop where
  kept : Kept uses x
  made : x.made = made
  orphaned : (x.sessions k).Orphaned

variable {made : ℕ}

theorem Hung.monitorWG (h : Hung uses k made x) : (x.sessions k).monitorWG ≠ 0 := by
  intro hwg
  have hgone := ((h.kept.sound k).not_live hwg).1
  simp [h.orphaned.reader] at hgone

theorem Hung.step (h : Hung uses k made x) (he : x.step uses e = some y) :
    Hung uses k made y := by
  refine ⟨h.kept.step he, ?_, ?_⟩
  · rcases made_step he with hsame | ⟨c, j, hc, hlast⟩
    · rw [hsame, h.made]
    · have hjk : j = k := by
        by_contra hne
        have hgone := (h.kept.not_live (k := k) (by omega)).1
        simp [h.orphaned.reader] at hgone
      exact absurd (h.kept.returned c j true hc).2.2 (hjk ▸ h.monitorWG)
  · obtain ⟨a, d, _, ha⟩ | ⟨_, hsame | hmark⟩ := session_step he k
    · exact h.orphaned.act (h.kept.sound k) ha
    · exact hsame ▸ h.orphaned
    · rw [hmark]
      exact ⟨h.orphaned.foreground, h.orphaned.writer, h.orphaned.reader⟩

/-- Where Monitor has returned because the session was closed before its reader ended, a
MonitorClose of the session never returns: whatever happens, none has, and no fork replaces the
session. -/
theorem monitorClose_hangs_after_monitor (uses : ℕ → ℕ) (before rest : List Event)
    (hbefore : schedule (step uses) {} before = some x) (hx : (x.sessions k).Orphaned)
    (hrest : schedule (step uses) x rest = some y) :
    (∀ c ok, y.calls c ≠ .returned k true ok) ∧ y.made = x.made := by
  have hy : Hung uses k x.made y :=
    schedule_invariant (Hung uses k x.made) (fun _ _ _ hs he => hs.step he)
      ⟨kept_of_schedule hbefore, rfl, hx⟩ hrest
  refine ⟨fun c ok hc => ?_, hy.made⟩
  exact hy.monitorWG (hy.kept.returned c k ok hc).2.2

/-- Monitor returns at the close, and its reader, which fails next, has nobody to tell. -/
theorem monitorClose_hangs_after_monitor_closed : ∃ x y,
    schedule (step id) {} [.act 0 (.start .foreground), .close 0 0 true, .expire 0,
      .act 0 .writerSeesClosed] = some x ∧
    (x.sessions 0).Orphaned ∧
    schedule (step id) x [.act 0 .readerLocks, .act 0 .readerFails] = some y ∧
    ((∀ c ok, y.calls c ≠ .returned 0 true ok) ∧ y.made = x.made) :=
  ⟨_, _, rfl, ⟨rfl, rfl, rfl⟩, rfl,
    monitorClose_hangs_after_monitor id [.act 0 (.start .foreground), .close 0 0 true, .expire 0,
      .act 0 .writerSeesClosed] [.act 0 .readerLocks, .act 0 .readerFails] rfl ⟨rfl, rfl, rfl⟩ rfl⟩

end System

end Diago.Rtp.Monitor
