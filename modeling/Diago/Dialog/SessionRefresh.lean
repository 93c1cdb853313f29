import Diago.Dialog.SessionTimer
import Diago.Lib.Schedule

/-! # The loop of the session timer

One goroutine keeps the session timer of a dialog that was called. While we are
the refresher it sends a refresh a cadence after it last looked, and while the peer
is it ends the call once the interval and a grace have passed. Every 2xx that sets
the timer signals the loop through a channel that holds one signal, and the loop
then starts its wait again.

An event carries the time at which it occurs, and times never go back. A ReInvite of
a refresh is one call here, with the retries it makes itself of a 491, and its error
is what the loop can ask of it.
-/
namespace Diago.Dialog.SessionTimer
open Lib

def defaultWatchdogGrace : ℤ := 5 * second

def statusRequestTimeout : ℕ := 408
def statusCallTransactionDoesNotExists : ℕ := 481
def statusInternalServerError : ℕ := 500
def statusServiceUnavailable : ℕ := 503

/-- What the loop reads of the policy. -/
structure Pacing where
  watchdogGrace : ℤ := 0
  clock : ℤ := 0
  deriving DecidableEq, Repr

/-- How long a duration of the timer lasts on the wall. -/
def Pacing.wall (p : Pacing) (d : ℤ) : ℤ :=
  if p.clock ≤ 0 then d else d.tdiv second * p.clock

def watchdogGrace (p : Pacing) : ℤ :=
  if 0 < p.watchdogGrace then p.watchdogGrace else defaultWatchdogGrace

def Pacing.gap (p : Pacing) : ℤ := p.wall minRefreshInterval

theorem Pacing.wall_mono (p : Pacing) {a b : ℤ} (ha : 0 ≤ a) (h : a ≤ b) : p.wall a ≤ p.wall b := by
  unfold wall
  split
  · exact h
  · rename_i hclock
    have htdiv : a.tdiv second ≤ b.tdiv second := by
      rw [Int.tdiv_eq_ediv_of_nonneg ha, Int.tdiv_eq_ediv_of_nonneg (ha.trans h)]
      exact Int.ediv_le_ediv (by decide) h
    exact Int.mul_le_mul_of_nonneg_right htdiv (by omega)

theorem Pacing.gap_le_cadence (p : Pacing) (expires : ℤ) :
    p.gap ≤ p.wall (refreshCadence expires) :=
  p.wall_mono (by decide) (le_max_right _ _)

/-- What `errors.Is` and `errors.As` find in the error of a ReInvite. -/
structure ReInviteError where
  withoutSDP : Bool := false
  mediaClosed : Bool := false
  updateAfterAnswer : Bool := false
  transactionTimeout : Bool := false
  response : Option (ℕ × Headers) := none
  deriving DecidableEq, Repr

def ReInviteError.status (err : ReInviteError) : ℕ := err.response.elim 0 (·.1)

/-- The refresh found that the peer has no such dialog any more, or does not answer. -/
def ReInviteError.endsCall (err : ReInviteError) : Bool :=
  err.status = statusRequestTimeout || err.status = statusCallTransactionDoesNotExists ||
    err.transactionTimeout

inductive RefreshOutcome
  | goesOn
  | stopped
  | ended
  deriving DecidableEq, Repr

inductive Verdict
  | outcome (o : RefreshOutcome)
  | hangUp
  | retryMinSE (minSE : ℤ)
  | retryAfter (after : ℤ)
  deriving DecidableEq, Repr

section Judge

variable [HeaderLib]

/-- The delta-seconds of Retry-After, which a comment and parameters may follow. -/
def retryAfter (res : Headers) : Option ℤ :=
  (getHeader (lit "Retry-After") res).bind fun value =>
    (parseDeltaSeconds (value.takeWhile fun b => !(lit " \t;(").contains b)).map (· * second)

/-- The refusals that are tried again once. -/
def judgeStatus (retried : Bool) (status : ℕ) (res : Headers) : Verdict :=
  if status = statusSessionIntervalTooSmall ∧ retried = false then
    (parseMinSE res).elim (.outcome .stopped) fun m => .retryMinSE (m * second)
  else if (status = statusInternalServerError ∨ status = statusServiceUnavailable) ∧
      retried = false then
    (retryAfter res).elim (.outcome .stopped) .retryAfter
  else .outcome .stopped

/-- One turn of the loop of `refreshSession`, after its ReInvite. -/
def refreshSession (ctxDone retried : Bool) : Option ReInviteError → Verdict
  | none => .outcome .goesOn
  | some err =>
    if ctxDone = true then .outcome .ended
    else if err.withoutSDP = true then .outcome .goesOn
    else if err.mediaClosed = true ∨ err.updateAfterAnswer = true then .outcome .ended
    else if err.endsCall = true then .hangUp
    else judgeStatus retried err.status (err.response.elim [] (·.2))

theorem judgeStatus_retried (status : ℕ) (res : Headers) :
    judgeStatus true status res = .outcome .stopped := by
  simp [judgeStatus]

/-- What `refreshSession` does with the error of a ReInvite: only the first of a refresh is tried
again, and only a refusal of the dialog hangs up. -/
theorem refreshSession_cases (ctxDone retried : Bool) (err : Option ReInviteError) :
    (∃ o, refreshSession ctxDone retried err = .outcome o) ∨
    (∃ e, err = some e ∧ refreshSession ctxDone retried err = .hangUp ∧ ctxDone = false ∧
      e.endsCall = true) ∨
    (retried = false ∧ ∃ minSE, refreshSession ctxDone retried err = .retryMinSE minSE) ∨
    (retried = false ∧ ∃ after, refreshSession ctxDone retried err = .retryAfter after) := by
  unfold refreshSession
  cases err with
  | none => exact .inl ⟨_, rfl⟩
  | some e =>
    dsimp only
    split_ifs with hctx hsdp hmedia hends
    · exact .inl ⟨_, rfl⟩
    · exact .inl ⟨_, rfl⟩
    · exact .inl ⟨_, rfl⟩
    · exact .inr (.inl ⟨e, rfl, rfl, by simpa using hctx, hends⟩)
    · cases retried with
      | true => exact .inl ⟨_, judgeStatus_retried _ _⟩
      | false =>
        unfold judgeStatus
        split_ifs
        · cases parseMinSE (e.response.elim [] (·.2)) with
          | none => exact .inl ⟨_, rfl⟩
          | some m => exact .inr (.inr (.inl ⟨rfl, _, rfl⟩))
        · cases retryAfter (e.response.elim [] (·.2)) with
          | none => exact .inl ⟨_, rfl⟩
          | some after => exact .inr (.inr (.inr ⟨rfl, _, rfl⟩))
        · exact .inl ⟨_, rfl⟩

end Judge

inductive Phase
  | polling (refreshing : Bool)
  | reading (refreshing : Bool)
  /-- With the state it read, before its timer runs. -/
  | arming (st : State) (refreshing : Bool)
  | waiting (st : State) (refreshing : Bool) (since : ℤ)
  | inviting (retried : Bool)
  | pausing (until_ : ℤ)
  | returned
  deriving DecidableEq, Repr

inductive Cause
  | expired
  | refreshFailed (err : ReInviteError)
  deriving DecidableEq, Repr

structure Run where
  now : ℤ
  state : State
  changed : Bool := false
  phase : Phase := .polling true
  ctxDone : Bool := false
  /-- When the last 2xx set the timer. -/
  lastChange : ℤ
  /-- When the refreshes called ReInvite, the last first. -/
  reInvites : List ℤ := []
  byes : List Cause := []
  deriving DecidableEq, Repr

def Run.launch (st : State) (now : ℤ) : Run := { now, state := st, lastChange := now }

/-- How long the loop waits with the state it read, zero for a change only. -/
def Pacing.due (p : Pacing) (st : State) (refreshing : Bool) : ℤ :=
  if st.active = false ∨ st.weRefresh = true ∧ refreshing = false then 0
  else if st.weRefresh = true then p.wall (refreshCadence st.expires)
  else p.wall (st.expires + SessionTimer.watchdogGrace p)

theorem Pacing.active_of_due (p : Pacing) {st : State} {refreshing : Bool}
    (h : 0 < p.due st refreshing) : st.active = true := by
  by_contra hoff
  rw [due, if_pos (.inl (Bool.eq_false_of_not_eq_true hoff))] at h
  exact lt_irrefl _ h

theorem Pacing.due_of_weRefresh (p : Pacing) {st : State} {refreshing : Bool}
    (hwe : st.weRefresh = true) (h : 0 < p.due st refreshing) :
    p.due st refreshing = p.wall (refreshCadence st.expires) := by
  unfold due at h ⊢
  rw [if_pos hwe] at h ⊢
  split_ifs at h ⊢
  · exact absurd h (lt_irrefl _)
  · rfl

theorem Pacing.due_of_peer (p : Pacing) {st : State} {refreshing : Bool}
    (hpeer : st.weRefresh = false) (h : 0 < p.due st refreshing) :
    p.due st refreshing = p.wall (st.expires + SessionTimer.watchdogGrace p) := by
  simp [due, hpeer, p.active_of_due h]

inductive Act
  | poll
  | snapshot
  | arm
  | wakeDone
  | wakeChanged
  | wakeDue
  | result (err : Option ReInviteError)
  | retry
  | abandon
  /-- A 2xx to a re-INVITE of ours, of a refresh or another. -/
  | answered (res : Headers) (weRefresh : Bool)
  /-- A re-INVITE of the peer is answered 2xx. -/
  | answerPeer (req : Headers)
  | ctxEnds

namespace Run

/-- `setLocked`: the state changes now, and the loop is signalled. -/
def set (x : Run) (st : State) : Run := { x with state := st, changed := true, lastChange := x.now }

def invite (x : Run) (retried : Bool) : Run :=
  { x with phase := .inviting retried, reInvites := x.now :: x.reInvites }

def fire (x : Run) (st : State) : Run :=
  if st.weRefresh = false then { x with phase := .returned, byes := .expired :: x.byes }
  else x.invite false

inductive Effect (p : Pacing) (x : Run) : Run → Prop
  | poll (refreshing : Bool) (hphase : x.phase = .polling refreshing) :
    Effect p x { x with phase := .reading (refreshing || x.changed), changed := false }
  | snapshot (refreshing : Bool) (hphase : x.phase = .reading refreshing) :
    Effect p x { x with phase := .arming x.state refreshing }
  | arm (st : State) (refreshing : Bool) (hphase : x.phase = .arming st refreshing) :
    Effect p x { x with phase := .waiting st refreshing x.now }
  | wake (hphase : x.phase ≠ .returned) (hchanged : x.changed = true) :
    Effect p x { x with phase := .polling true, changed := false }
  | expire (st : State) (refreshing : Bool) (since : ℤ)
      (hphase : x.phase = .waiting st refreshing since) (hpeer : st.weRefresh = false)
      (harmed : 0 < p.due st refreshing) (hdue : since + p.due st refreshing ≤ x.now) :
    Effect p x { x with phase := .returned, byes := .expired :: x.byes }
  | refresh (st : State) (refreshing : Bool) (since : ℤ)
      (hphase : x.phase = .waiting st refreshing since) (hwe : st.weRefresh = true)
      (harmed : 0 < p.due st refreshing) (hdue : since + p.due st refreshing ≤ x.now) :
    Effect p x (x.invite false)
  | loop (retried refreshing : Bool) (hphase : x.phase = .inviting retried) :
    Effect p x { x with phase := .polling refreshing }
  | leave (hphase : x.phase ≠ .returned) : Effect p x { x with phase := .returned }
  | hangUp (retried : Bool) (err : ReInviteError) (hphase : x.phase = .inviting retried)
      (hctx : x.ctxDone = false) (hends : err.endsCall = true) :
    Effect p x { x with phase := .returned, byes := .refreshFailed err :: x.byes }
  | retryMinSE (minSE : ℤ) (hphase : x.phase = .inviting false) :
    Effect p x ({ x with state := x.state.raiseMinSE minSE }.invite true)
  | pause (until_ : ℤ) (hphase : x.phase = .inviting false) :
    Effect p x { x with phase := .pausing until_ }
  | retry (until_ : ℤ) (hphase : x.phase = .pausing until_) : Effect p x (x.invite true)
  | set (st : State) : Effect p x (x.set st)
  | other (ctxDone : Bool) : Effect p x { x with ctxDone }

theorem effect_fire (p : Pacing) {x : Run} {st : State} {refreshing : Bool} {since : ℤ}
    (hphase : x.phase = .waiting st refreshing since) (harmed : 0 < p.due st refreshing)
    (hdue : since + p.due st refreshing ≤ x.now) : Effect p x (x.fire st) := by
  unfold fire
  split
  · rename_i hpeer
    exact .expire st refreshing since hphase hpeer harmed hdue
  · rename_i hwe
    exact .refresh st refreshing since hphase (by simpa using hwe) harmed hdue

section Step

variable [HeaderLib] [UnicodeCase]

def conclude (p : Pacing) (x : Run) (retried : Bool) (err : Option ReInviteError) : Run :=
  match refreshSession x.ctxDone retried err with
  | .outcome .goesOn => { x with phase := .polling true }
  | .outcome .stopped => { x with phase := .polling false }
  | .outcome .ended => { x with phase := .returned }
  | .hangUp => { x with phase := .returned, byes := .refreshFailed (err.getD {}) :: x.byes }
  | .retryMinSE minSE => { x with state := x.state.raiseMinSE minSE }.invite true
  | .retryAfter after => { x with phase := .pausing (x.now + p.wall after) }

def act (p : Pacing) (x : Run) : Act → Option Run
  | .poll =>
    match x.phase with
    | .polling refreshing =>
      some { x with phase := .reading (refreshing || x.changed), changed := false }
    | _ => none
  | .snapshot =>
    match x.phase with
    | .reading refreshing => some { x with phase := .arming x.state refreshing }
    | _ => none
  | .arm =>
    match x.phase with
    | .arming st refreshing => some { x with phase := .waiting st refreshing x.now }
    | _ => none
  | .wakeDone =>
    match x.phase with
    | .waiting .. => if x.ctxDone = true then some { x with phase := .returned } else none
    | _ => none
  | .wakeChanged =>
    match x.phase with
    | .waiting .. =>
      if x.changed = true then some { x with phase := .polling true, changed := false } else none
    | _ => none
  | .wakeDue =>
    match x.phase with
    | .waiting st refreshing since =>
      if 0 < p.due st refreshing ∧ since + p.due st refreshing ≤ x.now then some (x.fire st)
      else none
    | _ => none
  | .result err =>
    match x.phase with
    | .inviting retried => some (x.conclude p retried err)
    | _ => none
  | .retry =>
    match x.phase with
    | .pausing until_ => if until_ ≤ x.now then some (x.invite true) else none
    | _ => none
  | .abandon =>
    match x.phase with
    | .pausing _ => if x.ctxDone = true then some { x with phase := .returned } else none
    | _ => none
  | .answered res weRefresh =>
    some (if x.state.active = true then x.set (x.state.answered res weRefresh) else x)
  | .answerPeer req =>
    some (if x.state.active = true then x.set (x.state.answerPeer req).2 else x)
  | .ctxEnds => some { x with ctxDone := true }

def step (p : Pacing) (x : Run) (e : ℤ × Act) : Option Run :=
  if x.now ≤ e.1 then { x with now := e.1 }.act p e.2 else none

omit [UnicodeCase] in
theorem effect_conclude (p : Pacing) {x : Run} {retried : Bool} (err : Option ReInviteError)
    (hphase : x.phase = .inviting retried) : Effect p x (x.conclude p retried err) := by
  unfold conclude
  obtain ⟨o, ho⟩ | ⟨e, rfl, he, hctx, hends⟩ | ⟨rfl, minSE, hm⟩ | ⟨rfl, after, ha⟩ :=
    refreshSession_cases x.ctxDone retried err
  · rw [ho]
    cases o with
    | goesOn => exact .loop retried true hphase
    | stopped => exact .loop retried false hphase
    | ended => exact .leave (by rw [hphase]; nofun)
  · rw [he]
    exact .hangUp retried e hphase hctx hends
  · rw [hm]
    exact .retryMinSE minSE hphase
  · rw [ha]
    exact .pause _ hphase

theorem effect_of_act {p : Pacing} {x y : Run} {a : Act} (h : x.act p a = some y) :
    Effect p x y := by
  cases a with
  | poll =>
    simp only [act] at h
    split at h
    · cases h
      exact .poll _ ‹_›
    · cases h
  | snapshot =>
    simp only [act] at h
    split at h
    · cases h
      exact .snapshot _ ‹_›
    · cases h
  | arm =>
    simp only [act] at h
    split at h
    · cases h
      exact .arm _ _ ‹_›
    · cases h
  | wakeDone =>
    simp only [act] at h
    split at h
    · rename_i hphase
      split_ifs at h
      cases h
      exact .leave (by rw [hphase]; nofun)
    · cases h
  | wakeChanged =>
    simp only [act] at h
    split at h
    · rename_i hphase
      split_ifs at h with hchanged
      cases h
      exact .wake (by rw [hphase]; nofun) hchanged
    · cases h
  | wakeDue =>
    simp only [act] at h
    split at h
    · rename_i hphase
      split_ifs at h with hdue
      cases h
      exact effect_fire p hphase hdue.1 hdue.2
    · cases h
  | result err =>
    simp only [act] at h
    split at h
    · cases h
      exact effect_conclude p err ‹_›
    · cases h
  | retry =>
    simp only [act] at h
    split at h
    · rename_i hphase
      split_ifs at h
      cases h
      exact .retry _ hphase
    · cases h
  | abandon =>
    simp only [act] at h
    split at h
    · rename_i hphase
      split_ifs at h
      cases h
      exact .leave (by rw [hphase]; nofun)
    · cases h
  | answered res weRefresh =>
    cases h
    split
    · exact .set _
    · exact .other x.ctxDone
  | answerPeer req =>
    cases h
    split
    · exact .set _
    · exact .other x.ctxDone
  | ctxEnds =>
    cases h
    exact .other true

theorem effect_of_step {p : Pacing} {x y : Run} {e : ℤ × Act} (h : x.step p e = some y) :
    x.now ≤ e.1 ∧ Effect p { x with now := e.1 } y := by
  unfold step at h
  split_ifs at h with hnow
  exact ⟨hnow, effect_of_act h⟩

end Step

/-! ## The pace of the refreshes -/

/-- Any two entries with one between them are apart. The last entry is the first of the list. -/
def Spaced (gap : ℤ) (times : List ℤ) : Prop :=
  ∀ i a c, times[i]? = some c → times[i + 2]? = some a → a + gap ≤ c

def LastApart (gap : ℤ) (times : List ℤ) : Prop :=
  ∀ a b, times[0]? = some b → times[1]? = some a → a + gap ≤ b

theorem Spaced.cons {gap t : ℤ} {times : List ℤ} (h : Spaced gap times)
    (ht : ∀ a, times[1]? = some a → a + gap ≤ t) : Spaced gap (t :: times) := by
  intro i a c hc ha
  cases i with
  | zero =>
    cases hc
    exact ht a ha
  | succ i => exact h i a c hc ha

/-- A refresh begins a wait after every ReInvite before it, and calls ReInvite twice at most. -/
structure Paced (p : Pacing) (x : Run) : Prop where
  past : ∀ t ∈ x.reInvites, t ≤ x.now
  spaced : Spaced p.gap x.reInvites
  waits : ∀ st refreshing since, x.phase = .waiting st refreshing since →
    ∀ t ∈ x.reInvites, t ≤ since
  /-- Before the second ReInvite of a refresh, its first is apart from those before it. -/
  first : x.phase = .inviting false ∨ (∃ until_, x.phase = .pausing until_) →
    LastApart p.gap x.reInvites

theorem paced_launch (p : Pacing) (st : State) (now : ℤ) : Paced p (launch st now) where
  past := nofun
  spaced := nofun
  waits := nofun
  first := nofun

theorem Paced.later {p : Pacing} {x : Run} (h : Paced p x) {t : ℤ} (ht : x.now ≤ t) :
    Paced p { x with now := t } :=
  { h with past := fun s hs => (h.past s hs).trans ht }

theorem Paced.inviteAgain {p : Pacing} {x : Run} (h : Paced p x)
    (hlast : LastApart p.gap x.reInvites) : Paced p (x.invite true) where
  past t ht := by
    rcases List.mem_cons.mp ht with rfl | ht
    · exact le_rfl
    · exact h.past t ht
  spaced := by
    refine h.spaced.cons fun a ha => ?_
    obtain ⟨hlen, -⟩ := List.getElem?_eq_some_iff.mp ha
    have hb : x.reInvites[0]? = some x.reInvites[0] := List.getElem?_eq_getElem (by omega)
    exact (hlast a _ hb ha).trans (h.past _ (List.mem_of_getElem? hb))
  waits := nofun
  first := nofun

theorem Paced.inviteDue {p : Pacing} {x : Run} {st : State} {refreshing : Bool} {since : ℤ}
    (h : Paced p x) (hphase : x.phase = .waiting st refreshing since) (hwe : st.weRefresh = true)
    (harmed : 0 < p.due st refreshing) (hdue : since + p.due st refreshing ≤ x.now) :
    Paced p (x.invite false) := by
  have hapart : ∀ a ∈ x.reInvites, a + p.gap ≤ x.now := by
    intro a ha
    have hsince := h.waits st refreshing since hphase a ha
    have hgap := p.gap_le_cadence st.expires
    rw [p.due_of_weRefresh hwe harmed] at hdue
    omega
  refine ⟨fun t ht => ?_, h.spaced.cons fun a ha => hapart a (List.mem_of_getElem? ha), nofun, ?_⟩
  · rcases List.mem_cons.mp ht with rfl | ht
    · exact le_rfl
    · exact h.past t ht
  · intro _ a b hb ha
    cases hb
    exact hapart a (List.mem_of_getElem? ha)

theorem Paced.step [HeaderLib] [UnicodeCase] {p : Pacing} {x y : Run} {e : ℤ × Act} (h : Paced p x)
    (hy : x.step p e = some y) : Paced p y := by
  obtain ⟨hnow, heffect⟩ := effect_of_step hy
  replace h := h.later hnow
  cases heffect with
  | poll refreshing hphase => exact { h with waits := nofun, first := nofun }
  | snapshot refreshing hphase => exact { h with waits := nofun, first := nofun }
  | arm st refreshing hphase =>
    refine { h with waits := fun st' refreshing' since hwait t ht => ?_, first := nofun }
    cases hwait
    exact h.past t ht
  | wake hphase hchanged => exact { h with waits := nofun, first := nofun }
  | expire st refreshing since hphase hpeer harmed hdue =>
    exact { h with waits := nofun, first := nofun }
  | refresh st refreshing since hphase hwe harmed hdue => exact h.inviteDue hphase hwe harmed hdue
  | loop retried refreshing hphase => exact { h with waits := nofun, first := nofun }
  | leave hphase => exact { h with waits := nofun, first := nofun }
  | hangUp retried err hphase hctx hends => exact { h with waits := nofun, first := nofun }
  | retryMinSE minSE hphase =>
    have hraised : Paced p { { x with now := e.1 } with state := x.state.raiseMinSE minSE } :=
      { h with }
    exact hraised.inviteAgain (h.first (.inl hphase))
  | pause until_ hphase =>
    exact { h with waits := nofun, first := fun _ => h.first (.inl hphase) }
  | retry until_ hphase => exact h.inviteAgain (h.first (.inr ⟨until_, hphase⟩))
  | set st => exact { h with }
  | other ctxDone => exact { h with }

/-- Whatever the peer answers and however the timer is set meanwhile, no three ReInvites of the
refreshes of a session fall within the least cadence: one refresh calls ReInvite twice at most, and
the next begins a cadence after the last of them. -/
theorem refreshes_paced [HeaderLib] [UnicodeCase] (p : Pacing) (st : State) (now : ℤ)
    (events : List (ℤ × Act)) (x : Run)
    (hx : schedule (Run.step p) (launch st now) events = some x) (i : ℕ) (a c : ℤ)
    (hc : x.reInvites[i]? = some c) (ha : x.reInvites[i + 2]? = some a) :
    a + p.wall minRefreshInterval ≤ c :=
  (schedule_invariant (Paced p) (fun _ _ _ => Paced.step) (paced_launch p st now) hx).spaced
    i a c hc ha

section Sample

attribute [local instance] asciiOnly listedHeaders

/-- A refresh is answered 503, is tried again after Retry-After and answered then, and the next
refresh is sent. -/
def retriedRefresh : List (ℤ × Act) :=
  [(0, .poll), (0, .snapshot), (0, .arm), (900 * second, .wakeDue),
    (901 * second, .result (some { response := some (503, [(lit "Retry-After", lit "5 (busy)")]) })),
    (906 * second, .retry),
    (907 * second, .answered [(lit "Session-Expires", lit "1800;refresher=uac")] true),
    (907 * second, .result none), (907 * second, .poll), (907 * second, .snapshot),
    (907 * second, .arm), (1807 * second, .wakeDue)]

theorem refreshes_paced_retried :
    ∃ x, schedule (Run.step {}) (launch longAnswer.launch 0) retriedRefresh = some x ∧
      x.reInvites = [1807 * second, 906 * second, 900 * second] ∧
      900 * second + Pacing.wall {} minRefreshInterval ≤ 1807 * second := by
  have htimes : (schedule (Run.step {}) (launch longAnswer.launch 0) retriedRefresh).map
      (·.reInvites) = some [1807 * second, 906 * second, 900 * second] := by decide +kernel
  obtain ⟨x, hx, hinvites⟩ := Option.map_eq_some_iff.mp htimes
  refine ⟨x, hx, hinvites, ?_⟩
  exact refreshes_paced {} longAnswer.launch 0 retriedRefresh x hx 0 _ _ (by rw [hinvites]; rfl)
    (by rw [hinvites]; rfl)

end Sample

/-! ## The end of the session -/

/-- What the loop read is the state of the timer, unless it is signalled. -/
structure Current (x : Run) : Prop where
  past : x.lastChange ≤ x.now
  arming : ∀ st refreshing, x.phase = .arming st refreshing → x.changed = false → st = x.state
  waiting : ∀ st refreshing since, x.phase = .waiting st refreshing since → x.changed = false →
    st = x.state ∧ x.lastChange ≤ since
  /-- Our BYE is the last the loop does. -/
  last : x.phase ≠ .returned → x.byes = []

theorem current_launch (st : State) (now : ℤ) : Current (launch st now) where
  past := le_rfl
  arming := nofun
  waiting := nofun
  last _ := rfl

theorem Current.later {x : Run} (h : Current x) {t : ℤ} (ht : x.now ≤ t) :
    Current { x with now := t } :=
  { h with past := h.past.trans ht }

theorem Current.move {x : Run} (h : Current x) {phase : Phase} (changed : Bool)
    (hlive : x.phase ≠ .returned) (harming : ∀ st refreshing, phase ≠ .arming st refreshing)
    (hwaiting : ∀ st refreshing since, phase ≠ .waiting st refreshing since) :
    Current { x with phase, changed } where
  past := h.past
  arming st refreshing hphase := absurd hphase (harming st refreshing)
  waiting st refreshing since hphase := absurd hphase (hwaiting st refreshing since)
  last _ := h.last hlive

theorem Current.leave {x : Run} (h : Current x) (byes : List Cause) :
    Current { x with phase := .returned, byes } where
  past := h.past
  arming := nofun
  waiting := nofun
  last hphase := absurd rfl hphase

theorem Current.invite {x : Run} (h : Current x) (retried : Bool) (st : State)
    (hlive : x.phase ≠ .returned) : Current ({ x with state := st }.invite retried) where
  past := h.past
  arming := nofun
  waiting := nofun
  last _ := h.last hlive

theorem Current.step [HeaderLib] [UnicodeCase] {p : Pacing} {x y : Run} {e : ℤ × Act} (h : Current x)
    (hy : x.step p e = some y) : Current y := by
  obtain ⟨hnow, heffect⟩ := effect_of_step hy
  replace h := h.later hnow
  cases heffect with
  | poll refreshing hphase => exact h.move false (by rw [hphase]; nofun) nofun nofun
  | snapshot refreshing hphase =>
    refine ⟨h.past, fun st refreshing' harming _ => ?_, nofun,
      fun _ => h.last (by rw [hphase]; nofun)⟩
    cases harming
    rfl
  | arm st refreshing hphase =>
    refine ⟨h.past, nofun, fun st' refreshing' since hwaiting hchanged => ?_,
      fun _ => h.last (by rw [hphase]; nofun)⟩
    cases hwaiting
    exact ⟨h.arming st refreshing hphase hchanged, h.past⟩
  | wake hphase hchanged => exact h.move false hphase nofun nofun
  | expire st refreshing since hphase hpeer harmed hdue => exact h.leave _
  | refresh st refreshing since hphase hwe harmed hdue =>
    exact h.invite false x.state (by rw [hphase]; nofun)
  | loop retried refreshing hphase =>
    exact h.move x.changed (by rw [hphase]; nofun) nofun nofun
  | leave hphase => exact h.leave x.byes
  | hangUp retried err hphase hctx hends => exact h.leave _
  | retryMinSE minSE hphase => exact h.invite true _ (by rw [hphase]; nofun)
  | pause until_ hphase => exact h.move x.changed (by rw [hphase]; nofun) nofun nofun
  | retry until_ hphase => exact h.invite true x.state (by rw [hphase]; nofun)
  | set st => exact ⟨le_rfl, nofun, nofun, h.last⟩
  | other ctxDone => exact { h with }

/-- The timer ends the call once at most, and only when a ReInvite of a refresh found the dialog
gone or the peer silent, or when the peer refreshes and no 2xx has set the timer for the interval
and the grace. The one exception is a 2xx that is signalled as the wait runs out. -/
theorem bye_only_when_due [HeaderLib] [UnicodeCase] (p : Pacing) (st : State) (now : ℤ)
    (events : List (ℤ × Act)) (x : Run)
    (hx : schedule (Run.step p) (launch st now) events = some x) (e : ℤ × Act) (y : Run)
    (hy : x.step p e = some y) (hbye : y.byes ≠ x.byes) :
    x.byes = [] ∧ y.phase = .returned ∧
      ((y.byes = [.expired] ∧ (x.changed = true ∨
          x.state.active = true ∧ x.state.weRefresh = false ∧
            x.lastChange + p.wall (x.state.expires + watchdogGrace p) ≤ e.1)) ∨
        ∃ err, y.byes = [.refreshFailed err] ∧ x.ctxDone = false ∧ err.endsCall = true) := by
  have hcurrent := schedule_invariant Current (fun _ _ _ => Current.step) (current_launch st now) hx
  obtain ⟨hnow, heffect⟩ := effect_of_step hy
  cases heffect with
  | expire st' refreshing since hphase hpeer harmed hdue =>
    have hnone : x.byes = [] := hcurrent.last (by rw [show x.phase = _ from hphase]; nofun)
    refine ⟨hnone, rfl, .inl ⟨by simp [hnone], ?_⟩⟩
    cases hchanged : x.changed with
    | true => exact .inl rfl
    | false =>
      obtain ⟨rfl, hsince⟩ := hcurrent.waiting st' refreshing since hphase hchanged
      rw [p.due_of_peer hpeer harmed] at hdue
      exact .inr ⟨p.active_of_due harmed, hpeer, (add_le_add_left hsince _).trans hdue⟩
  | hangUp retried err hphase hctx hends =>
    have hnone : x.byes = [] := hcurrent.last (by rw [show x.phase = _ from hphase]; nofun)
    exact ⟨hnone, rfl, .inr ⟨err, by simp [hnone], hctx, hends⟩⟩
  | _ => exact absurd rfl hbye

section Sample

attribute [local instance] asciiOnly listedHeaders

def peerRefreshes : State := ⟨true, 1800 * second, false, 0⟩

def oneRefresh : List (ℤ × Act) :=
  [(0, .poll), (0, .snapshot), (0, .arm),
    (900 * second, .answerPeer [(lit "Session-Expires", lit "600;refresher=uac")]),
    (900 * second, .wakeChanged), (900 * second, .poll), (900 * second, .snapshot),
    (901 * second, .arm)]

theorem bye_only_when_due_silent :
    ∃ x y, schedule (Run.step {}) (launch peerRefreshes 0) oneRefresh = some x ∧
      x.step {} (1506 * second, .wakeDue) = some y ∧ y.byes = [.expired] ∧
      x.lastChange + Pacing.wall {} (x.state.expires + watchdogGrace {}) ≤ 1506 * second := by
  have hbyes : ((schedule (Run.step {}) (launch peerRefreshes 0) oneRefresh).bind fun x =>
      (x.step {} (1506 * second, .wakeDue)).map fun y => (x.byes, x.changed, y.byes)) =
      some ([], false, [.expired]) := by decide +kernel
  obtain ⟨x, hx, hmap⟩ := Option.bind_eq_some_iff.mp hbyes
  obtain ⟨y, hy, hpair⟩ := Option.map_eq_some_iff.mp hmap
  obtain ⟨hxb, hchanged, hyb⟩ : x.byes = [] ∧ x.changed = false ∧ y.byes = [.expired] := by
    simpa using hpair
  refine ⟨x, y, hx, hy, hyb, ?_⟩
  obtain ⟨-, -, ⟨-, hsignal | ⟨-, -, hdue⟩⟩ | ⟨err, herr, -⟩⟩ :=
    bye_only_when_due {} peerRefreshes 0 oneRefresh x hx _ y hy (by simp [hxb, hyb])
  · simp [hchanged] at hsignal
  · exact hdue
  · simp [hyb] at herr

end Sample

end Run

end Diago.Dialog.SessionTimer
