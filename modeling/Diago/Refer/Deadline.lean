import Diago.Refer.Lifecycle

/-! # The deadline of a refer subscription

The critical sections of a dialog happen at times that do not go back, and a timer
does not fire before the deadline it was armed for.
-/
namespace Diago.Refer
open Lib

structure Clock where
  deadline : Option ℤ
  boundArmed : ℕ
  notified : Bool

def ReferAttempt.clock (a : ReferAttempt) : Clock := ⟨a.deadline, a.boundArmed, a.notified⟩

def ReferAttempt.overdue (a : ReferAttempt) (now : ℤ) : Bool := a.deadline.any (· ≤ now)

section Timing

variable [UnicodeCase] {t1 : ℤ}

/-- What a critical section does to the deadline of the attempt `a`. -/
inductive Timing (t1 : ℤ) (a : ℕ) (v : View) : Event → View → Prop
  | kept {e : Event} {w : View} (hclock : w.attempt.clock = v.attempt.clock)
      (hrecorded : w.recorded = v.recorded)
      (hends : v.attempt.ended = none → w.attempt.ended ≠ none → ∀ b armed, e ≠ .timer b armed) :
      Timing t1 a v e w
  | started {w : View} (now : ℤ) (hopen : v.attempt.ended = none) (hnew : v.attempt.boundArmed = 0)
      (hw : w.attempt = v.attempt.arm (now + 64 * t1)) (hrecorded : w.recorded = v.recorded) :
      Timing t1 a v (.accept now a) w
  | taken {w : View} (now : ℤ) (n : ReferNotify) (hopen : v.attempt.ended = none)
      (hearly : v.attempt.overdue now = false) (hw : w.attempt = v.attempt.take t1 now n)
      (hrecorded : w.recorded = v.recorded ++ [n]) : Timing t1 a v (.notify now n) w
  | late {w : View} (now : ℤ) (n : ReferNotify) (hopen : v.attempt.ended = none)
      (hlate : v.attempt.overdue now = true) (hw : w.attempt = v.attempt.endOnBound)
      (hrecorded : w.recorded = v.recorded) : Timing t1 a v (.notify now n) w
  | fired {w : View} (hopen : v.attempt.ended = none) (hpos : 0 < v.attempt.boundArmed)
      (hw : w.attempt = v.attempt.endOnBound) (hrecorded : w.recorded = v.recorded) :
      Timing t1 a v (.timer a v.attempt.boundArmed) w

section Clock

omit [UnicodeCase]

@[simp] theorem retire_clock (a : ReferAttempt) : a.retire.clock = a.clock := by
  unfold ReferAttempt.retire
  split_ifs <;> rfl

@[simp] theorem finish_clock (how : Option ReferEnd) (a : ReferAttempt) :
    (a.finish how).clock = a.clock := by
  rw [ReferAttempt.finish, retire_clock]
  rfl

@[simp] theorem endOnBound_clock (a : ReferAttempt) : a.endOnBound.clock = a.clock := by
  rw [ReferAttempt.endOnBound, retire_clock]
  rfl

end Clock

theorem timing_same (a : ℕ) (v : View) (e : Event) : Timing t1 a v e v :=
  .kept rfl rfl fun hopen hended => absurd hopen hended

theorem timing_unchanged {x y : System} {e : Event} (hattempt : y.dialog.attempt = x.dialog.attempt)
    (hrecorded : y.recorded = x.recorded) (a : ℕ) : Timing t1 a (x.view a) e (y.view a) := by
  refine .kept ?_ (congrFun hrecorded a) fun hopen hended => absurd hopen ?_
  · simp [System.view, hattempt]
  · simpa [System.view, hattempt] using hended

theorem timing_modify {x y : System} {f : ReferAttempt → ReferAttempt} {e : Event} (b : ℕ)
    (hf : ∀ v, (f v).clock = v.clock)
    (hy : y.dialog.attempt = Function.update x.dialog.attempt b (f (x.dialog.attempt b)))
    (hrecorded : y.recorded = x.recorded) (htimer : ∀ c armed, e ≠ .timer c armed) (a : ℕ) :
    Timing t1 a (x.view a) e (y.view a) := by
  refine .kept ?_ (congrFun hrecorded a) fun _ _ => htimer
  by_cases hab : a = b
  · subst hab
    simp [System.view, hy, hf]
  · simp [System.view, hy, hab]

theorem timing_finishBy (x : System) {e : Event} (b : ℕ) (how : Option ReferEnd)
    (htimer : ∀ c armed, e ≠ .timer c armed) (a : ℕ) :
    Timing t1 a (x.view a) e ((x.finishBy b how).view a) := by
  refine timing_modify b (finish_clock how) ?_ ?_ htimer a <;> rfl

theorem timing_accept {x : System} (now : ℤ) (b a : ℕ) :
    Timing t1 a (x.view a) (.accept now b)
      ((x.advance b .waiting (x.dialog.startReferSubscription t1 now b)).view a) := by
  unfold Dialog.startReferSubscription
  split_ifs with hstop
  · refine timing_unchanged ?_ ?_ a <;> rfl
  · obtain ⟨hopen, hnew⟩ := not_or.mp hstop
    by_cases hab : a = b
    · subst hab
      exact .started now (not_not.mp hopen) (not_not.mp hnew)
        (by simp [System.view, System.advance]) rfl
    · refine .kept ?_ rfl fun _ _ => by simp
      simp [System.view, System.advance, Dialog.modify, hab]

theorem timing_timer {x : System} {armed : ℕ} (hpos : 0 < armed) (b a : ℕ) :
    Timing t1 a (x.view a) (.timer b armed)
      ({ x with dialog := x.dialog.endReferAttemptOnItsBound b armed }.view a) := by
  unfold Dialog.endReferAttemptOnItsBound
  split_ifs with hstop
  · refine timing_unchanged ?_ ?_ a <;> rfl
  · obtain ⟨hopen, hlast⟩ := not_or.mp hstop
    by_cases hab : a = b
    · subst hab
      obtain rfl := not_not.mp hlast
      exact .fired (v := x.view a) (not_not.mp hopen) hpos (by simp [System.view]) rfl
    · refine .kept ?_ rfl fun hopen' hended => absurd hopen' ?_
      · simp [System.view, Dialog.agreeBut_retireBy b x.dialog _ a hab]
      · simpa [System.view, Dialog.agreeBut_retireBy b x.dialog _ a hab] using hended

theorem timing_notified (x : System) (now : ℤ) (n : ReferNotify) (a : ℕ) :
    Timing t1 a (x.view a) (.notify now n) ((x.notified t1 now n).view a) := by
  unfold System.notified
  obtain h | ⟨b, -, hopen, ⟨hlate, h⟩ | ⟨hearly, h⟩⟩ := recordReferNotify_cases x.dialog t1 now n
  · rw [h]
    refine timing_unchanged ?_ ?_ a <;> rfl
  · rw [h]
    by_cases hab : a = b
    · subst hab
      exact .late now n hopen hlate (by simp [System.view]) rfl
    · refine .kept ?_ rfl fun _ _ => by simp
      simp [System.view, Dialog.agreeBut_retireBy b x.dialog _ a hab]
  · rw [h]
    by_cases hab : a = b
    · subst hab
      exact .taken now n hopen hearly (by simp [System.view]) (by simp [System.view])
    · refine .kept ?_ (by simp [System.view, hab]) fun _ _ => by simp
      simp [System.view, Dialog.agreeBut_modify b x.dialog _ a hab]

/-- What any critical section, other than its beginning, does to the deadline of an attempt. -/
theorem step_timing (t1 : ℤ) (x : System) (e : Event) (a : ℕ)
    (hbegun : e = .begin → a ≠ x.dialog.begun) :
    Timing t1 a (x.view a) e ((x.step t1 e).view a) := by
  cases e with
  | begin =>
    refine .kept ?_ ?_ fun _ _ => by simp
    · simp [System.step, System.view, System.advance, Dialog.beginReferAttempt, hbegun rfl]
    · simp [System.step, System.view, System.advance, hbegun rfl]
  | assign b cseq | forget cseq | reach cseq | seeDone b | seeContext b =>
    simp only [System.step]
    split_ifs <;> refine timing_unchanged ?_ ?_ a <;> rfl
  | respond b =>
    unfold System.step
    dsimp only
    cases x.caller b with
    | assigned cseq => refine timing_modify (f := .setCSeq cseq) b (fun _ => rfl) ?_ ?_ (by simp) a <;> rfl
    | _ => exact timing_same a _ _
  | fail b =>
    unfold System.step
    dsimp only
    cases x.caller b with
    | assigned cseq => refine timing_modify (f := .setCSeq cseq) b (fun _ => rfl) ?_ ?_ (by simp) a <;> rfl
    | sending => refine timing_unchanged ?_ ?_ a <;> rfl
    | _ => exact timing_same a _ _
  | notBuilt b | carryFailed b =>
    simp only [System.step]
    split_ifs
    · refine timing_modify b retire_clock ?_ ?_ (by simp) a <;> rfl
    · exact timing_same a _ _
  | cancel b | refuse b =>
    simp only [System.step]
    split_ifs
    · exact timing_finishBy x b _ (by simp) a
    · exact timing_same a _ _
  | accept now b =>
    simp only [System.step]
    split_ifs
    · exact timing_accept now b a
    · exact timing_same a _ _
  | finish b =>
    unfold System.step
    dsimp only
    cases x.caller b with
    | finishing how => exact timing_finishBy x b how (by simp) a
    | _ => exact timing_same a _ _
  | notify now n => exact timing_notified x now n a
  | retireEnded b =>
    simp only [System.step, Dialog.retireEndedReferAttempt]
    split_ifs
    · refine timing_modify b retire_clock ?_ ?_ (by simp) a <;> rfl
    · exact timing_same a _ _
  | timer b armed =>
    simp only [System.step]
    split_ifs with hpos
    · exact timing_timer hpos b a
    · exact timing_same a _ _

/-! ### Times -/

/-- What came first for an attempt: the 2xx to its REFER, or a NOTIFY, with its time. -/
inductive Anchor
  | accepted (time : ℤ)
  | notified (time : ℤ)

/-- The dialog, with the time of the last critical section, the deadline each timer of an attempt
was armed for, and what came first for each attempt. -/
structure Timed where
  system : System := {}
  now : ℤ
  armedFor : ℕ → ℕ → ℤ := fun _ _ => 0
  anchor : ℕ → Option Anchor := fun _ => none

structure TimedEvent where
  time : ℤ
  event : Event

/-- The deadlines of the timers of an attempt once it went on to `w`. -/
def armedAfter (v w : ReferAttempt) (armedFor : ℕ → ℤ) : ℕ → ℤ :=
  if w.boundArmed = v.boundArmed then armedFor
  else Function.update armedFor w.boundArmed (w.deadline.getD 0)

/-- What came first for an attempt that went on to `w`. -/
def anchorAfter (time : ℤ) (w : ReferAttempt) : Option Anchor → Option Anchor
  | some anchor => some anchor
  | none =>
    if w.notified then some (.notified time)
    else if w.boundArmed = 0 then none
    else some (.accepted time)

namespace Timed

def step (t1 : ℤ) (x : Timed) (e : TimedEvent) : Timed :=
  { system := x.system.step t1 e.event
    now := e.time
    armedFor := fun a => armedAfter (x.system.dialog.attempt a)
      ((x.system.step t1 e.event).dialog.attempt a) (x.armedFor a)
    anchor := fun a =>
      if e.event = .begin ∧ a = x.system.dialog.begun then none
      else anchorAfter e.time ((x.system.step t1 e.event).dialog.attempt a) (x.anchor a) }

/-- Times do not go back, and a timer fires at its deadline at the earliest. -/
def Legal (x : Timed) (e : TimedEvent) : Prop :=
  x.now ≤ e.time ∧
    match e.event with
    | .accept now _ => now = e.time
    | .notify now _ => now = e.time
    | .timer a armed =>
      armed ≤ (x.system.dialog.attempt a).boundArmed → x.armedFor a armed ≤ e.time
    | _ => True

end Timed

def latest (t1 : ℤ) : Anchor → ℤ
  | .accepted time => time + 64 * t1 + referSubscriptionMaxBound
  | .notified time => time + referSubscriptionMaxBound

structure Dated (t1 : ℤ) (v : View) (armedFor : ℕ → ℤ) (anchor : Option Anchor) : Prop where
  armed : v.attempt.deadline = none ↔ v.attempt.boundArmed = 0
  lastArmed : ∀ deadline, v.attempt.deadline = some deadline →
    armedFor v.attempt.boundArmed = deadline
  notified : v.attempt.notified = true ↔ v.recorded ≠ []
  running : v.attempt.notified = true → v.attempt.ended = none → v.attempt.deadline ≠ none
  anchored : anchor = none ↔ v.attempt.notified = false ∧ v.attempt.deadline = none
  waiting : ∀ deadline, v.attempt.deadline = some deadline → v.attempt.notified = false →
    ∃ time, anchor = some (.accepted time) ∧ deadline = time + 64 * t1
  within : ∀ deadline, v.attempt.deadline = some deadline →
    ∃ first, anchor = some first ∧ deadline ≤ latest t1 first

theorem referSubscriptionBound_le (ht1 : 64 * t1 ≤ referSubscriptionMaxBound) (n : ReferNotify) :
    referSubscriptionBound t1 n ≤ referSubscriptionMaxBound := by
  unfold referSubscriptionBound
  split_ifs
  · cases referSubscriptionExpires n.subscriptionState with
    | some seconds => exact min_le_right _ _
    | none => exact ht1
  · exact ht1

section Dated

variable {a : ℕ} {v w : View} {armedFor : ℕ → ℤ} {anchor : Option Anchor} {time : ℤ}

omit [UnicodeCase] in
theorem dated_new (c : Caller) (armedFor : ℕ → ℤ) :
    Dated t1 { caller := c } armedFor none where
  armed := by simp
  lastArmed := by simp
  notified := by simp
  running := by simp
  anchored := by simp
  waiting := by simp
  within := by simp

omit [UnicodeCase] in
theorem Dated.kept (h : Dated t1 v armedFor anchor) (hclock : w.attempt.clock = v.attempt.clock)
    (hrecorded : w.recorded = v.recorded) (hopen : w.attempt.ended = none → v.attempt.ended = none) :
    Dated t1 w (armedAfter v.attempt w.attempt armedFor) (anchorAfter time w.attempt anchor) := by
  injection hclock with hdeadline hbound hnotified
  have harmed : armedAfter v.attempt w.attempt armedFor = armedFor := if_pos hbound
  have hanchor : anchorAfter time w.attempt anchor = anchor := by
    cases hfirst : anchor with
    | some first => rfl
    | none =>
      obtain ⟨hnone, hfree⟩ := h.anchored.mp hfirst
      simp [anchorAfter, hnotified, hnone, hbound, h.armed.mp hfree]
  rw [harmed, hanchor]
  constructor
  all_goals simp only [hdeadline, hbound, hnotified, hrecorded]
  · exact h.armed
  · exact h.lastArmed
  · exact h.notified
  · exact fun hn ho => h.running hn (hopen ho)
  · exact h.anchored
  · exact h.waiting
  · exact h.within

omit [UnicodeCase] in
theorem Dated.started (h : Dated t1 v armedFor anchor) (hopen : v.attempt.ended = none)
    (hnew : v.attempt.boundArmed = 0) (hw : w.attempt = v.attempt.arm (time + 64 * t1))
    (hrecorded : w.recorded = v.recorded) :
    Dated t1 w (armedAfter v.attempt w.attempt armedFor) (anchorAfter time w.attempt anchor) := by
  have hfree : v.attempt.deadline = none := h.armed.mpr hnew
  have hsilent : v.attempt.notified = false := by
    by_contra hnotified
    exact h.running (by simpa using hnotified) hopen hfree
  have hanchor : anchor = none := h.anchored.mpr ⟨hsilent, hfree⟩
  have hdeadline : w.attempt.deadline = some (time + 64 * t1) := by rw [hw]; rfl
  have hbound : w.attempt.boundArmed = 1 := by rw [hw, ReferAttempt.arm, hnew]
  have hnotified : w.attempt.notified = false := by rw [hw]; exact hsilent
  have hfirst : anchorAfter time w.attempt anchor = some (.accepted time) := by
    simp [hanchor, anchorAfter, hnotified, hbound]
  rw [hfirst]
  constructor
  · simp [hdeadline, hbound]
  · intro deadline hd
    simp only [armedAfter, hbound, hnew, hdeadline] at hd ⊢
    simpa using hd
  · rw [hnotified, hrecorded, ← h.notified, hsilent]
  · simp [hnotified]
  · simp [hnotified, hdeadline]
  · intro deadline hd _
    rw [hdeadline] at hd
    exact ⟨time, rfl, (Option.some.inj hd).symm⟩
  · intro deadline hd
    rw [hdeadline] at hd
    refine ⟨_, rfl, ?_⟩
    have hmax : 0 ≤ referSubscriptionMaxBound := by decide
    simp only [latest, ← Option.some.inj hd]
    omega

/-- A NOTIFY that leaves the attempt open sets a deadline within its duration, and once there is
one no later. -/
theorem take_open {a : ReferAttempt} {n : ReferNotify} (t1 time : ℤ)
    (hopen : (a.record n).ended = none) :
    ∃ deadline, a.take t1 time n = (a.record n).arm deadline ∧
      deadline ≤ time + referSubscriptionBound t1 n ∧
      (a.notified = true → ∀ before, a.deadline = some before → deadline ≤ before) := by
  rw [ReferAttempt.take, if_pos hopen, ReferAttempt.rearm]
  refine ⟨_, rfl, ?_, ?_⟩
  · split_ifs
    · exact le_rfl
    · cases hbefore : (a.record n).deadline with
      | none => exact le_rfl
      | some before => exact min_le_left _ _
  · intro hnotified before hbefore
    have hrecord : (a.record n).deadline = some before := hbefore
    simp [hnotified, hrecord]

theorem Dated.takenEnd (h : Dated t1 v armedFor anchor) {n : ReferNotify}
    (hended : (v.attempt.record n).ended ≠ none) (hw : w.attempt = v.attempt.record n)
    (hrecorded : w.recorded = v.recorded ++ [n]) :
    Dated t1 w (armedAfter v.attempt w.attempt armedFor) (anchorAfter time w.attempt anchor) := by
  have hdeadline : w.attempt.deadline = v.attempt.deadline := by rw [hw]; rfl
  have hbound : w.attempt.boundArmed = v.attempt.boundArmed := by rw [hw]; rfl
  have hnotified : w.attempt.notified = true := by rw [hw]; rfl
  have harmed : armedAfter v.attempt w.attempt armedFor = armedFor := if_pos hbound
  have hsome : anchorAfter time w.attempt anchor ≠ none := by
    cases anchor with
    | some first => simp [anchorAfter]
    | none => simp [anchorAfter, hnotified]
  rw [harmed]
  constructor
  · rw [hdeadline, hbound]
    exact h.armed
  · rw [hdeadline, hbound]
    exact h.lastArmed
  · simp [hnotified, hrecorded]
  · intro _ hopen
    rw [hw] at hopen
    exact absurd hopen hended
  · simp [hsome, hnotified]
  · simp [hnotified]
  · intro deadline hd
    rw [hdeadline] at hd
    obtain ⟨first, hfirst, hle⟩ := h.within deadline hd
    exact ⟨first, by rw [hfirst]; rfl, hle⟩

theorem Dated.takenOpen (ht1 : 64 * t1 ≤ referSubscriptionMaxBound)
    (h : Dated t1 v armedFor anchor) {n : ReferNotify} {next : ℤ}
    (hearly : v.attempt.overdue time = false) (hw : w.attempt = (v.attempt.record n).arm next)
    (hnext : next ≤ time + referSubscriptionBound t1 n)
    (hcloser : v.attempt.notified = true → ∀ before, v.attempt.deadline = some before →
      next ≤ before)
    (hopen : v.attempt.ended = none) (hrecorded : w.recorded = v.recorded ++ [n]) :
    Dated t1 w (armedAfter v.attempt w.attempt armedFor) (anchorAfter time w.attempt anchor) := by
  have hdeadline : w.attempt.deadline = some next := by rw [hw]; rfl
  have hbound : w.attempt.boundArmed = v.attempt.boundArmed + 1 := by rw [hw]; rfl
  have hnotified : w.attempt.notified = true := by rw [hw]; rfl
  have hdur := referSubscriptionBound_le ht1 n
  have hwithin : ∃ first, anchorAfter time w.attempt anchor = some first ∧
      next ≤ latest t1 first := by
    cases hfirst : anchor with
    | none =>
      refine ⟨.notified time, by simp [anchorAfter, hnotified], ?_⟩
      simp only [latest]
      omega
    | some first =>
      refine ⟨first, rfl, ?_⟩
      have hbefore : v.attempt.deadline ≠ none := by
        intro hfree
        by_cases hn : v.attempt.notified = true
        · exact h.running hn hopen hfree
        · rw [h.anchored.mpr ⟨by simpa using hn, hfree⟩] at hfirst
          cases hfirst
      obtain ⟨before, hbefore⟩ := Option.ne_none_iff_exists'.mp hbefore
      by_cases hn : v.attempt.notified = true
      · obtain ⟨first', hfirst', hle⟩ := h.within before hbefore
        rw [hfirst] at hfirst'
        obtain rfl := Option.some.inj hfirst'
        exact (hcloser hn before hbefore).trans hle
      · obtain ⟨t, ht, hd⟩ := h.waiting before hbefore (by simpa using hn)
        rw [hfirst] at ht
        obtain rfl := Option.some.inj ht
        have hlt : time < before := by
          simpa [ReferAttempt.overdue, hbefore] using hearly
        simp only [latest]
        omega
  obtain ⟨first, hfirst, hle⟩ := hwithin
  rw [hfirst]
  constructor
  · simp [hdeadline, hbound]
  · intro deadline hd
    simp only [armedAfter, hbound, hdeadline] at hd ⊢
    simpa using hd
  · simp [hnotified, hrecorded]
  · simp [hdeadline]
  · simp [hnotified]
  · simp [hnotified]
  · intro deadline hd
    rw [hdeadline] at hd
    obtain rfl := Option.some.inj hd
    exact ⟨first, rfl, hle⟩

theorem Dated.taken (ht1 : 64 * t1 ≤ referSubscriptionMaxBound) (h : Dated t1 v armedFor anchor)
    (n : ReferNotify) (hopen : v.attempt.ended = none) (hearly : v.attempt.overdue time = false)
    (hw : w.attempt = v.attempt.take t1 time n) (hrecorded : w.recorded = v.recorded ++ [n]) :
    Dated t1 w (armedAfter v.attempt w.attempt armedFor) (anchorAfter time w.attempt anchor) := by
  by_cases hends : (v.attempt.record n).ended = none
  · obtain ⟨next, htake, hnext, hcloser⟩ := take_open t1 time hends
    exact h.takenOpen ht1 hearly (hw.trans htake) hnext hcloser hopen hrecorded
  · rw [ReferAttempt.take, if_neg hends] at hw
    exact h.takenEnd hends hw hrecorded

theorem Dated.timing (ht1 : 64 * t1 ≤ referSubscriptionMaxBound) (h : Dated t1 v armedFor anchor)
    {e : Event} (htiming : Timing t1 a v e w)
    (htime : ∀ now, (∃ b, e = .accept now b) ∨ (∃ n, e = .notify now n) → now = time)
    (hreopen : w.attempt.ended = none → v.attempt.ended = none) :
    Dated t1 w (armedAfter v.attempt w.attempt armedFor) (anchorAfter time w.attempt anchor) := by
  cases htiming with
  | kept hclock hrecorded hends => exact h.kept hclock hrecorded hreopen
  | started now hopen hnew hw hrecorded =>
    obtain rfl := htime now (.inl ⟨a, rfl⟩)
    exact h.started hopen hnew hw hrecorded
  | taken now n hopen hearly hw hrecorded =>
    obtain rfl := htime now (.inr ⟨n, rfl⟩)
    exact h.taken ht1 n hopen hearly hw hrecorded
  | late now n hopen hlate hw hrecorded =>
    exact h.kept (by rw [hw, endOnBound_clock]) hrecorded hreopen
  | fired hopen hpos hw hrecorded =>
    exact h.kept (by rw [hw, endOnBound_clock]) hrecorded hreopen

theorem Dated.closer (h : Dated t1 v armedFor anchor) {e : Event} (htiming : Timing t1 a v e w)
    (hnotified : v.attempt.notified = true) {next : ℤ} (hnext : w.attempt.deadline = some next) :
    ∃ before, v.attempt.deadline = some before ∧ next ≤ before := by
  have hsame (hclock : w.attempt.clock = v.attempt.clock) :
      ∃ before, v.attempt.deadline = some before ∧ next ≤ before := by
    injection hclock with hdeadline
    exact ⟨next, hdeadline.symm.trans hnext, le_rfl⟩
  cases htiming with
  | kept hclock hrecorded hends => exact hsame hclock
  | started now hopen hnew hw hrecorded =>
    exact absurd (h.armed.mpr hnew) (h.running hnotified hopen)
  | taken now n hopen hearly hw hrecorded =>
    by_cases hends : (v.attempt.record n).ended = none
    · obtain ⟨before, hbefore⟩ := Option.ne_none_iff_exists'.mp (h.running hnotified hopen)
      obtain ⟨deadline, htake, -, hcloser⟩ := take_open t1 now hends
      rw [hw, htake] at hnext
      obtain rfl := Option.some.inj hnext
      exact ⟨before, hbefore, hcloser hnotified before hbefore⟩
    · rw [ReferAttempt.take, if_neg hends] at hw
      exact hsame (by rw [hw]; simp [ReferAttempt.clock, ReferAttempt.record, hnotified])
  | late now n hopen hlate hw hrecorded => exact hsame (by rw [hw, endOnBound_clock])
  | fired hopen hpos hw hrecorded => exact hsame (by rw [hw, endOnBound_clock])

end Dated

/-- What the property asks of one critical section for one attempt. -/
structure DeadlineKept (t1 : ℤ) (x : Timed) (e : TimedEvent) (a : ℕ) : Prop where
  /-- The deadline does not move later once a NOTIFY has come. -/
  closer : (x.system.dialog.attempt a).notified = true →
    ∀ next, ((x.step t1 e).system.dialog.attempt a).deadline = some next →
      ∃ before, (x.system.dialog.attempt a).deadline = some before ∧ next ≤ before
  /-- A timer that ends the attempt is the last one armed, at its deadline or later. -/
  timer : (x.system.dialog.attempt a).ended = none →
    ((x.step t1 e).system.dialog.attempt a).ended ≠ none → ∀ b armed, e.event = .timer b armed →
      b = a ∧ armed = (x.system.dialog.attempt a).boundArmed ∧
        ∃ deadline, (x.system.dialog.attempt a).deadline = some deadline ∧ deadline ≤ e.time
  /-- A NOTIFY at the deadline or later is refused, and ends the attempt. -/
  refused : ∀ now n deadline, e.event = .notify now n →
    x.system.dialog.referNotifyTarget n = some a → (x.system.dialog.attempt a).ended = none →
    (x.system.dialog.attempt a).deadline = some deadline → deadline ≤ now →
      (x.system.dialog.recordReferNotify t1 now n).1 = none ∧
        ((x.step t1 e).system.dialog.attempt a).ended =
          some (if x.system.recorded a = [] then .noNotify else .subscriptionExpired)
  /-- The deadline is not later than the 2xx, or the NOTIFY before it, allows. -/
  bounded : ∀ deadline, ((x.step t1 e).system.dialog.attempt a).deadline = some deadline →
    ∃ first, (x.step t1 e).anchor a = some first ∧ deadline ≤ latest t1 first

def Timed.Dated (t1 : ℤ) (x : Timed) : Prop :=
  ∀ a, Refer.Dated t1 (x.system.view a) (x.armedFor a) (x.anchor a)

omit [UnicodeCase] in
theorem Timed.Legal.time {x : Timed} {e : TimedEvent} (h : x.Legal e) (now : ℤ)
    (he : (∃ b, e.event = .accept now b) ∨ (∃ n, e.event = .notify now n)) : now = e.time := by
  have hevent := h.2
  obtain ⟨b, he⟩ | ⟨n, he⟩ := he
  · rw [he] at hevent
    exact hevent
  · rw [he] at hevent
    exact hevent

theorem step_reopens (x : System) (e : Event) (a : ℕ) (hbegun : e = .begin → a ≠ x.dialog.begun)
    (hopen : ((x.step t1 e).dialog.attempt a).ended = none) : (x.dialog.attempt a).ended = none := by
  by_contra hended
  obtain hsame | hmove := step_sees t1 x e a hbegun
  · have hattempt : (x.step t1 e).dialog.attempt a = x.dialog.attempt a :=
      congrArg View.attempt hsame
    exact hended (hattempt ▸ hopen)
  · obtain hkept | hrefused := (hmove.ended hended).1
    · exact hended (hkept.symm.trans hopen)
    · exact absurd (hrefused.symm.trans hopen) (by simp)

theorem Timed.Dated.step (ht1 : 64 * t1 ≤ referSubscriptionMaxBound) (x : Timed) (e : TimedEvent)
    (h : x.Dated t1) (hlegal : x.Legal e) : (x.step t1 e).Dated t1 := by
  intro a
  by_cases hnew : e.event = .begin ∧ a = x.system.dialog.begun
  · obtain ⟨he, rfl⟩ := hnew
    have hview : (x.step t1 e).system.view x.system.dialog.begun = { caller := .sending } := by
      simp [Timed.step, he, System.step, System.view, System.advance, Dialog.beginReferAttempt]
    have hanchor : (x.step t1 e).anchor x.system.dialog.begun = none := if_pos ⟨he, rfl⟩
    rw [hview, hanchor]
    exact dated_new _ _
  · have hbegun : e.event = .begin → a ≠ x.system.dialog.begun := fun he ha => hnew ⟨he, ha⟩
    have hanchor : (x.step t1 e).anchor a =
        anchorAfter e.time ((x.step t1 e).system.dialog.attempt a) (x.anchor a) := if_neg hnew
    rw [hanchor]
    exact (h a).timing ht1 (step_timing t1 x.system e.event a hbegun) hlegal.time
      (step_reopens x.system e.event a hbegun)

theorem deadlineKept_step (ht1 : 64 * t1 ≤ referSubscriptionMaxBound) {x : Timed} {e : TimedEvent}
    (h : x.Dated t1) (hlegal : x.Legal e) {a : ℕ} (ha : a < x.system.dialog.begun) :
    DeadlineKept t1 x e a := by
  have hbegun : e.event = .begin → a ≠ x.system.dialog.begun := fun _ => by omega
  have htiming := step_timing t1 x.system e.event a hbegun
  refine ⟨fun hnotified next hnext => (h a).closer htiming hnotified hnext, ?_, ?_,
    ((Timed.Dated.step ht1 x e h hlegal) a).within⟩
  · intro hopen hended b armed he
    have hfire := hlegal.2
    have hended' : ((x.system.step t1 e.event).dialog.attempt a).ended ≠ none := hended
    rw [he] at htiming hended' hfire
    generalize hy : (x.system.step t1 (.timer b armed)).view a = w at htiming
    have hw : ((x.system.step t1 (.timer b armed)).dialog.attempt a) = w.attempt := by rw [← hy]; rfl
    cases htiming with
    | kept hclock hrecorded hends => exact absurd rfl (hends hopen (hw ▸ hended') b armed)
    | fired hopen' hpos hw' hrecorded =>
      have hsome : (x.system.dialog.attempt a).deadline ≠ none := by
        intro hfree
        have hzero : (x.system.dialog.attempt a).boundArmed = 0 := (h a).armed.mp hfree
        exact absurd hzero (Nat.pos_iff_ne_zero.mp hpos)
      obtain ⟨deadline, hdeadline⟩ := Option.ne_none_iff_exists'.mp hsome
      refine ⟨rfl, rfl, deadline, hdeadline, ?_⟩
      rw [← (h a).lastArmed deadline hdeadline]
      exact hfire le_rfl
  · intro now n deadline he htarget hopen hdeadline hle
    have hlate : (x.system.dialog.attempt a).deadline.any (· ≤ now) = true := by
      simpa [hdeadline] using hle
    have hrefused : x.system.dialog.recordReferNotify t1 now n =
        (none, x.system.dialog.retireBy a .endOnBound) := by
      rw [Dialog.recordReferNotify, htarget]
      dsimp only
      rw [if_neg (not_not.mpr hopen), if_pos hlate]
    refine ⟨by rw [hrefused], ?_⟩
    have hstep : ((x.step t1 e).system.dialog.attempt a) =
        (x.system.dialog.attempt a).endOnBound := by
      simp only [Timed.step, he, System.step, System.notified, hrefused]
      exact Dialog.retireBy_attempt _ _ _
    have hnotified := (h a).notified
    simp only [System.view] at hnotified
    rw [hstep, ReferAttempt.endOnBound, retire_ended]
    by_cases hrec : x.system.recorded a = []
    · have hsilent : (x.system.dialog.attempt a).notified = false := by
        simpa [hrec] using hnotified
      simp [hrec, hsilent]
    · simp [hrec, hnotified.mpr hrec]

/-- A refer subscription's deadline only comes closer: in every run whose times do not go back and
whose timers do not fire early, every critical section keeps the deadline of every attempt. -/
theorem deadline_only_closer (t1 : ℤ) (ht1 : 64 * t1 ≤ referSubscriptionMaxBound) (start : ℤ)
    (events : List TimedEvent)
    (hlegal : Along (Timed.step t1) Timed.Legal { now := start } events) :
    Along (Timed.step t1) (fun x e => ∀ a < x.system.dialog.begun, DeadlineKept t1 x e a)
      { now := start } events :=
  Along.of_invariant (Timed.Dated t1) (Timed.Dated.step ht1)
    (fun _ _ h hlegal _ ha => deadlineKept_step ht1 h hlegal ha) (fun _ => dated_new _ _) hlegal

end Timing

section Sample

attribute [local instance] asciiOnly

def trying (state : Bytes) : ReferNotify :=
  { status := 100, subscriptionState := state, hasSubscriptionState := true }

/-- A REFER accepted at time 0, a NOTIFY for a minute, one that shortens it to ten seconds, and the
timer of that deadline. -/
def shortened : List TimedEvent :=
  [⟨0, .begin⟩, ⟨0, .assign 0 5⟩, ⟨0, .respond 0⟩, ⟨0, .accept 0 0⟩,
    ⟨1, .notify 1 (trying (lit "active;expires=60"))⟩,
    ⟨2, .notify 2 (trying (lit "active;expires=10"))⟩, ⟨10000000002, .timer 0 3⟩]

theorem shortened_legal : Along (Timed.step 500000000) Timed.Legal { now := 0 } shortened := by
  refine ⟨⟨le_rfl, trivial⟩, ⟨le_rfl, trivial⟩, ⟨le_rfl, trivial⟩, ⟨le_rfl, rfl⟩, ⟨?_, rfl⟩,
    ⟨?_, rfl⟩, ⟨?_, fun _ => ?_⟩, trivial⟩
  all_goals decide +kernel

theorem shortened_deadline_kept :
    ((runFrom (Timed.step 500000000) { now := 0 } shortened).system.dialog.attempt 0).ended =
        some .subscriptionExpired ∧
      Along (Timed.step 500000000)
        (fun x e => ∀ a < x.system.dialog.begun, DeadlineKept 500000000 x e a) { now := 0 }
        shortened :=
  ⟨by decide +kernel, deadline_only_closer 500000000 (by decide) 0 shortened shortened_legal⟩

end Sample
end Diago.Refer
