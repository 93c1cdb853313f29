import Diago.Register.Transaction

/-! # Runs of the refresh loop

One register transaction is refreshed by one run of the loop after another.
-/
namespace Diago.Register
open Lib

inductive Entry where
  | started (retry : ℤ)
  /-- The grant, and the wait it was followed by unless the context was done. -/
  | succeeded (now lifetime : ℤ) (wait : Option ℤ)
  | tolerated (wait : ℤ)
  | returned (now : ℤ) (err : RegisterErr)
  | cancelled
  deriving DecidableEq

structure Runs where
  t : RegisterTransaction
  loop : Option RefreshLoop
  log : List Entry

def Runs.start (t : RegisterTransaction) : Runs := ⟨t, none, []⟩

inductive RunEvent where
  | run (retry : ℤ)
  | setExpiry (d : ℤ)
  | refresh (now : ℤ) (done : Bool) (answer : Except RegisterErr Response)
  | cancel

/-- What a run that ended or waits again writes into the log. -/
def entryOf (t : RegisterTransaction) (now : ℤ) (answer : Except RegisterErr Response)
    (e : LoopEnd) : Entry :=
  match answer, e with
  | .ok res, .waiting loop =>
    .succeeded now (grantedExpiry res t.opts.expiry) (some loop.timer)
  | .ok res, _ => .succeeded now (grantedExpiry res t.opts.expiry) none
  | .error _, .waiting loop => .tolerated loop.timer
  | .error _, .returned err => .returned now err
  | .error _, .cancelled => .cancelled

def LoopEnd.loop? : LoopEnd → Option RefreshLoop
  | .waiting loop => some loop
  | _ => none

section Runs

variable (initialBackoff maxBackoff : ℤ)

def Runs.step (x : Runs) (e : RunEvent) : Runs :=
  match x.loop, e with
  | none, .run retry => ⟨x.t, some ⟨retry, initialBackoff⟩, x.log ++ [.started retry]⟩
  | none, .setExpiry d => ⟨x.t.setExpiry d, none, x.log⟩
  | none, _ => x
  | some loop, .refresh now done answer =>
    let r := Register.refresh initialBackoff maxBackoff x.t loop now done answer
    ⟨r.1, r.2.loop?, x.log ++ [entryOf x.t now answer r.2]⟩
  | some _, .cancel => ⟨x.t, none, x.log ++ [.cancelled]⟩
  | some _, _ => x

def logOf (t : RegisterTransaction) (es : List RunEvent) : List Entry :=
  (runFrom (Runs.step initialBackoff maxBackoff) (.start t) es).log

def lastGrant (t : RegisterTransaction) (log : List Entry) : Option (ℤ × ℤ) :=
  log.foldl (fun last e => match e with
    | .succeeded now lifetime _ => some (now, lifetime)
    | _ => last) (t.lastRegistered.map (·, t.grantedExpires))

/-- How many refreshes of the run have failed since it began or last succeeded. -/
def streak (log : List Entry) : ℕ :=
  log.foldl (fun k e => match e with
    | .started _ => 0
    | .succeeded .. => 0
    | .tolerated _ => k + 1
    | _ => k) 0

/-- A run returns an error only when the last grant has run out. -/
def ReturnsLapsed (t : RegisterTransaction) (log : List Entry) : Prop :=
  ∀ earlier now err later, log = earlier ++ .returned now err :: later →
    ∃ last lifetime, lastGrant t earlier = some (last, lifetime) ∧ last + lifetime < now

/-- Between two returned errors a refresh succeeds. -/
def ReturnsOnce (log : List Entry) : Prop :=
  ∀ earlier now err between now' err' later,
    log = earlier ++ .returned now err :: (between ++ .returned now' err' :: later) →
    ∃ at' lifetime wait, .succeeded at' lifetime wait ∈ between

def WaitsCadence (t : RegisterTransaction) (log : List Entry) : Prop :=
  ∀ now lifetime wait, .succeeded now lifetime (some wait) ∈ log → wait = t.calcRetry lifetime

/-- The waits after the failures of a run double up to the largest. -/
def WaitsDouble (log : List Entry) : Prop :=
  ∀ earlier wait later, log = earlier ++ .tolerated wait :: later →
    wait = min (initialBackoff * 2 ^ streak earlier) maxBackoff

/-- A returned error has not been followed by a success. -/
def escalated (log : List Entry) : Bool :=
  log.foldl (fun b e => match e with
    | .returned .. => true
    | .succeeded .. => false
    | _ => b) false

/-- The wait after `k` failures, as the loop computes it. -/
def backoffAfter : ℕ → ℤ
  | 0 => initialBackoff
  | k + 1 => nextBackoff maxBackoff (backoffAfter k)

variable {initialBackoff maxBackoff}

/-- What one refresh does to the transaction and the run, and the entry it leaves. -/
inductive Refreshed (initialBackoff maxBackoff : ℤ) (t : RegisterTransaction) (loop : RefreshLoop) :
    RegisterTransaction → Option RefreshLoop → Entry → Prop
  | succeeded (now lifetime : ℤ) : Refreshed initialBackoff maxBackoff t loop
      (t.recordGrant now lifetime) (some ⟨t.calcRetry lifetime, initialBackoff⟩)
      (.succeeded now lifetime (some (t.calcRetry lifetime)))
  | succeededLast (now lifetime : ℤ) : Refreshed initialBackoff maxBackoff t loop
      (t.recordGrant now lifetime) none (.succeeded now lifetime none)
  | tolerated : Refreshed initialBackoff maxBackoff t loop t
      (some ⟨loop.backoff, nextBackoff maxBackoff loop.backoff⟩) (.tolerated loop.backoff)
  | returned (now : ℤ) (err : RegisterErr) (last : ℤ) (hlast : t.lastRegistered = some last)
      (hlatch : t.expiredEmitted = false) (hpast : last + t.grantedExpires < now) :
      Refreshed initialBackoff maxBackoff t loop { t with expiredEmitted := true } none
        (.returned now err)
  | cancelled : Refreshed initialBackoff maxBackoff t loop t none .cancelled

theorem expired_cases (t : RegisterTransaction) (now : ℤ) :
    t.expired now = (false, t) ∨
      ∃ last, t.lastRegistered = some last ∧ t.expiredEmitted = false ∧
        last + t.grantedExpires < now ∧
        t.expired now = (true, { t with expiredEmitted := true }) := by
  unfold RegisterTransaction.expired
  split
  · exact .inl rfl
  · next last hlast =>
    split_ifs with hlatch hpast
    · exact .inl rfl
    · rw [not_or] at hlatch
      exact .inr ⟨last, hlast, by simpa using hlatch.1, hpast, rfl⟩
    · exact .inl rfl

theorem refreshed (t : RegisterTransaction) (loop : RefreshLoop) (now : ℤ) (done : Bool)
    (answer : Except RegisterErr Response) :
    Refreshed initialBackoff maxBackoff t loop
      (Register.refresh initialBackoff maxBackoff t loop now done answer).1
      (Register.refresh initialBackoff maxBackoff t loop now done answer).2.loop?
      (entryOf t now answer
        (Register.refresh initialBackoff maxBackoff t loop now done answer).2) := by
  unfold Register.refresh
  cases answer with
  | ok res =>
    cases done with
    | true => exact .succeededLast now _
    | false => exact .succeeded now _
  | error err =>
    cases done with
    | true => exact .cancelled
    | false =>
      obtain h | ⟨last, hlast, hlatch, hpast, h⟩ := expired_cases t now
      · simp only [h]
        exact .tolerated
      · simp only [h]
        exact .returned now err last hlast hlatch hpast

section Log

variable (t : RegisterTransaction) (log : List Entry)

@[simp] theorem lastGrant_concat (e : Entry) : lastGrant t (log ++ [e]) = match e with
    | .succeeded now lifetime _ => some (now, lifetime)
    | _ => lastGrant t log := by
  simp only [lastGrant, List.foldl_append, List.foldl_cons, List.foldl_nil]

@[simp] theorem streak_concat (e : Entry) : streak (log ++ [e]) = match e with
    | .started _ => 0
    | .succeeded .. => 0
    | .tolerated _ => streak log + 1
    | _ => streak log := by
  simp only [streak, List.foldl_append, List.foldl_cons, List.foldl_nil]

@[simp] theorem escalated_concat (e : Entry) : escalated (log ++ [e]) = match e with
    | .returned .. => true
    | .succeeded .. => false
    | _ => escalated log := by
  simp only [escalated, List.foldl_append, List.foldl_cons, List.foldl_nil]

theorem exists_success {earlier between : List Entry} {now : ℤ} {err : RegisterErr}
    (h : escalated (earlier ++ .returned now err :: between) = false) :
    ∃ at' lifetime wait, .succeeded at' lifetime wait ∈ between := by
  induction between using List.reverseRecOn with
  | nil => simp at h
  | append_singleton between e ih =>
    rw [← List.cons_append, ← List.append_assoc, escalated_concat] at h
    cases e with
    | succeeded now lifetime wait => exact ⟨now, lifetime, wait, by simp⟩
    | returned => cases h
    | started | tolerated | cancelled =>
      obtain ⟨at', lifetime, wait, hmem⟩ := ih h
      exact ⟨at', lifetime, wait, by simp [hmem]⟩

end Log

def Lawful (initialBackoff maxBackoff : ℤ) (t : RegisterTransaction) (earlier : List Entry) :
    Entry → Prop
  | .returned now _ => escalated earlier = false ∧
      ∃ last lifetime, lastGrant t earlier = some (last, lifetime) ∧ last + lifetime < now
  | .succeeded _ lifetime (some wait) => wait = t.calcRetry lifetime
  | .tolerated wait => wait = backoffAfter initialBackoff maxBackoff (streak earlier)
  | _ => True

/-- The transaction and the run agree with the log, and the log is lawful. -/
structure Sound (initialBackoff maxBackoff : ℤ) (t : RegisterTransaction) (x : Runs) : Prop where
  opts : x.t.opts = t.opts
  recorded : x.t.lastRegistered.map (·, x.t.grantedExpires) = lastGrant t x.log
  latched : escalated x.log = true → x.t.expiredEmitted = true
  backoff : ∀ loop ∈ x.loop,
    loop.backoff = backoffAfter initialBackoff maxBackoff (streak x.log)
  lawful : EachAfter (Lawful initialBackoff maxBackoff t) x.log

theorem sound_start (t : RegisterTransaction) :
    Sound initialBackoff maxBackoff t (.start t) where
  opts := rfl
  recorded := rfl
  latched := nofun
  backoff := nofun
  lawful := eachAfter_nil

theorem sound_refreshed {t u : RegisterTransaction} {x : Runs} {loop : RefreshLoop}
    {next : Option RefreshLoop} {e : Entry} (h : Sound initialBackoff maxBackoff t x)
    (hloop : x.loop = some loop) (he : Refreshed initialBackoff maxBackoff x.t loop u next e) :
    Sound initialBackoff maxBackoff t ⟨u, next, x.log ++ [e]⟩ := by
  have hback := h.backoff loop (by simp [hloop])
  cases he with
  | succeeded now lifetime =>
    have hwait := RegisterTransaction.calcRetry_congr h.opts lifetime
    exact ⟨h.opts, by simp [RegisterTransaction.recordGrant], by simp, by simp [backoffAfter],
      h.lawful.concat hwait⟩
  | succeededLast now lifetime =>
    exact ⟨h.opts, by simp [RegisterTransaction.recordGrant], by simp, by simp,
      h.lawful.concat trivial⟩
  | tolerated =>
    exact ⟨h.opts, by simpa using h.recorded, by simpa using h.latched,
      by simp [backoffAfter, hback], h.lawful.concat hback⟩
  | returned now err last hlast hlatch hpast =>
    refine ⟨h.opts, by simpa using h.recorded, by simp, by simp, h.lawful.concat ⟨?_, ?_⟩⟩
    · have hlatched := h.latched
      rw [hlatch] at hlatched
      simpa using hlatched
    · have hgrant := h.recorded
      rw [hlast] at hgrant
      exact ⟨last, x.t.grantedExpires, hgrant.symm, hpast⟩
  | cancelled =>
    exact ⟨h.opts, by simpa using h.recorded, by simpa using h.latched, by simp,
      h.lawful.concat trivial⟩

theorem sound_step {t : RegisterTransaction} {x : Runs} (h : Sound initialBackoff maxBackoff t x)
    (e : RunEvent) :
    Sound initialBackoff maxBackoff t (x.step initialBackoff maxBackoff e) := by
  cases hloop : x.loop with
  | none => cases e with
    | run retry =>
      simp only [Runs.step, hloop]
      exact ⟨h.opts, by simpa using h.recorded, by simpa using h.latched, by simp [backoffAfter],
        h.lawful.concat trivial⟩
    | setExpiry d =>
      simp only [Runs.step, hloop]
      exact ⟨h.opts, h.recorded, h.latched, by simp, h.lawful⟩
    | refresh | cancel =>
      simp only [Runs.step, hloop]
      exact h
  | some loop => cases e with
    | refresh now done answer =>
      simp only [Runs.step, hloop]
      exact sound_refreshed h hloop (refreshed x.t loop now done answer)
    | cancel =>
      simp only [Runs.step, hloop]
      exact sound_refreshed h hloop .cancelled
    | run | setExpiry =>
      simp only [Runs.step, hloop]
      exact h

theorem sound_runs (t : RegisterTransaction) (es : List RunEvent) :
    Sound initialBackoff maxBackoff t
      (runFrom (Runs.step initialBackoff maxBackoff) (.start t) es) :=
  runFrom_invariant (Sound initialBackoff maxBackoff t) (fun _ e h => sound_step h e)
    (sound_start t) es

theorem returnsLapsed_runs (t : RegisterTransaction) (es : List RunEvent) :
    ReturnsLapsed t (logOf initialBackoff maxBackoff t es) := by
  intro earlier now err later hlog
  exact ((sound_runs t es).lawful earlier _ later hlog).2

theorem returnsOnce_runs (t : RegisterTransaction) (es : List RunEvent) :
    ReturnsOnce (logOf initialBackoff maxBackoff t es) := by
  intro earlier now err between now' err' later hlog
  have hsplit : logOf initialBackoff maxBackoff t es =
      (earlier ++ .returned now err :: between) ++ .returned now' err' :: later := by
    simp [hlog]
  exact exists_success ((sound_runs t es).lawful _ _ later hsplit).1

theorem waitsCadence_runs (t : RegisterTransaction) (es : List RunEvent) :
    WaitsCadence t (logOf initialBackoff maxBackoff t es) := by
  intro now lifetime wait hmem
  obtain ⟨earlier, later, hlog⟩ := List.append_of_mem hmem
  exact (sound_runs t es).lawful earlier _ later hlog

section Backoff

theorem nextBackoff_eq {b : ℤ} (hpos : 0 < b) (hb : b < 2 ^ 62) :
    nextBackoff maxBackoff b = min (b * 2) maxBackoff := by
  unfold nextBackoff
  rw [wrap64_of_range (by omega) (by omega)]
  dsimp only
  split_ifs <;> omega

theorem nextBackoff_neg {b : ℤ} (hlow : 2 ^ 62 ≤ b) (hb : b < 2 ^ 63) (hmax : 0 < maxBackoff) :
    nextBackoff maxBackoff b < 0 := by
  unfold nextBackoff
  rw [wrap64_of_carry (by omega) (by omega)]
  dsimp only
  split_ifs <;> omega

/-- The waits double up to the largest if that is below half of the range. -/
theorem backoffAfter_eq (hpos : 0 < initialBackoff) (hle : initialBackoff ≤ maxBackoff)
    (hmax : maxBackoff < 2 ^ 62) (k : ℕ) :
    backoffAfter initialBackoff maxBackoff k = min (initialBackoff * 2 ^ k) maxBackoff := by
  induction k with
  | zero => simp [backoffAfter, hle]
  | succ k ih =>
    have hterm : 0 < initialBackoff * 2 ^ k := by positivity
    rw [backoffAfter, ih, nextBackoff_eq (by omega) (by omega), pow_succ, ← mul_assoc]
    omega

/-- A refresh that fails before the recorded grant has run out. -/
def earlyFailure (t : RegisterTransaction) : RunEvent :=
  .refresh (t.lastRegistered.getD 0 + t.grantedExpires) false (.error (.client false))

theorem expired_early (t : RegisterTransaction) :
    t.expired (t.lastRegistered.getD 0 + t.grantedExpires) = (false, t) := by
  obtain h | ⟨last, hlast, -, hpast, -⟩ :=
    expired_cases t (t.lastRegistered.getD 0 + t.grantedExpires)
  · exact h
  · rw [hlast, Option.getD_some] at hpast
    exact absurd hpast (lt_irrefl _)

theorem step_earlyFailure (t : RegisterTransaction) (loop : RefreshLoop) (log : List Entry) :
    Runs.step initialBackoff maxBackoff ⟨t, some loop, log⟩ (earlyFailure t) =
      ⟨t, some ⟨loop.backoff, nextBackoff maxBackoff loop.backoff⟩,
        log ++ [.tolerated loop.backoff]⟩ := by
  simp only [earlyFailure, Runs.step, Register.refresh, expired_early]
  rfl

def failingRun (t : RegisterTransaction) (k : ℕ) : List RunEvent :=
  .run 0 :: List.replicate k (earlyFailure t)

theorem runFrom_failingRun_succ (t : RegisterTransaction) (k : ℕ) :
    runFrom (Runs.step initialBackoff maxBackoff) (.start t) (failingRun t (k + 1)) =
      Runs.step initialBackoff maxBackoff
        (runFrom (Runs.step initialBackoff maxBackoff) (.start t) (failingRun t k))
        (earlyFailure t) := by
  rw [failingRun, List.replicate_succ', ← List.cons_append, runFrom, List.foldl_append]
  rfl

/-- Early failures do not end a run, and each moves it to the next of the waits. -/
theorem runFrom_failingRun (t : RegisterTransaction) (k : ℕ) :
    ∃ timer log, runFrom (Runs.step initialBackoff maxBackoff) (.start t) (failingRun t k) =
      ⟨t, some ⟨timer, backoffAfter initialBackoff maxBackoff k⟩, log⟩ ∧ streak log = k := by
  induction k with
  | zero => exact ⟨0, _, rfl, rfl⟩
  | succ k ih =>
    obtain ⟨timer, log, hrun, hstreak⟩ := ih
    rw [runFrom_failingRun_succ, hrun, step_earlyFailure]
    exact ⟨_, _, rfl, by simp [hstreak]⟩

theorem backoffAfter_of_waitsDouble {t : RegisterTransaction}
    (h : ∀ es, WaitsDouble initialBackoff maxBackoff (logOf initialBackoff maxBackoff t es))
    (k : ℕ) :
    backoffAfter initialBackoff maxBackoff k = min (initialBackoff * 2 ^ k) maxBackoff := by
  obtain ⟨timer, log, hrun, hstreak⟩ :=
    @runFrom_failingRun initialBackoff maxBackoff t k
  have hlog : logOf initialBackoff maxBackoff t (failingRun t (k + 1)) =
      log ++ [.tolerated (backoffAfter initialBackoff maxBackoff k)] := by
    rw [logOf, runFrom_failingRun_succ, hrun, step_earlyFailure]
  have hwait := h _ log _ [] hlog
  rwa [hstreak] at hwait

end Backoff

/-- Whatever the refreshes of a transaction come to, over any sequence of runs of the loop: a run
returns an error only when the last grant has run out, between two of these a refresh succeeds,
and after a success the wait is the one for its grant. The waits after the failures of a run
double up to the largest, for every sequence, exactly if the largest is below 2^62 nanoseconds. -/
theorem refresh_runs_iff (t : RegisterTransaction) (hpos : 0 < initialBackoff)
    (hle : initialBackoff ≤ maxBackoff) (hrange : maxBackoff < 2 ^ 63) :
    (∀ es, ReturnsLapsed t (logOf initialBackoff maxBackoff t es) ∧
      ReturnsOnce (logOf initialBackoff maxBackoff t es) ∧
      WaitsCadence t (logOf initialBackoff maxBackoff t es)) ∧
    ((∀ es, WaitsDouble initialBackoff maxBackoff (logOf initialBackoff maxBackoff t es)) ↔
      maxBackoff < 2 ^ 62) := by
  refine ⟨fun es => ⟨returnsLapsed_runs t es, returnsOnce_runs t es, waitsCadence_runs t es⟩,
    ?_, ?_⟩
  · intro h
    by_contra hmax
    have hlast := backoffAfter_of_waitsDouble h 62
    have hnext := backoffAfter_of_waitsDouble h 63
    have hlow : 2 ^ 62 ≤ backoffAfter initialBackoff maxBackoff 62 := by omega
    have hhigh : backoffAfter initialBackoff maxBackoff 62 < 2 ^ 63 := by omega
    have hneg : backoffAfter initialBackoff maxBackoff 63 < 0 :=
      nextBackoff_neg hlow hhigh (by omega)
    omega
  · intro hmax es earlier wait later hlog
    rw [← backoffAfter_eq hpos hle hmax]
    exact (sound_runs t es).lawful earlier _ later hlog

end Runs

section Sample

def minuteGranted : RegisterTransaction :=
  (newRegisterTransaction ⟨3600 * second, 0⟩).recordGrant 0 (60 * second)

/-- A refresh fails in time and is tolerated, another after the minute and is not. -/
def lapsingRun : List RunEvent :=
  [.run (45 * second), .refresh (45 * second) false (.error (.client false)),
    .refresh (61 * second) false (.error (.client false))]

theorem minute_lapses_once :
    logOf registerRetryBackoffInitial registerRetryBackoffMax minuteGranted lapsingRun =
      [.started (45 * second), .tolerated (1 * second),
        .returned (61 * second) (.client false)] ∧
    ReturnsLapsed minuteGranted (logOf registerRetryBackoffInitial registerRetryBackoffMax
      minuteGranted lapsingRun) ∧
    WaitsDouble registerRetryBackoffInitial registerRetryBackoffMax
      (logOf registerRetryBackoffInitial registerRetryBackoffMax minuteGranted lapsingRun) := by
  obtain ⟨hruns, hdouble⟩ := refresh_runs_iff minuteGranted
    (show 0 < registerRetryBackoffInitial by decide)
    (show registerRetryBackoffInitial ≤ registerRetryBackoffMax by decide) (by decide)
  exact ⟨by decide +kernel, (hruns lapsingRun).1, hdouble.mpr (by decide) lapsingRun⟩

/-- With bounds from 2^62 nanoseconds on, the wait after the second failure is negative. -/
theorem second_wait_negative :
    logOf (2 ^ 62) (2 ^ 63 - 1) (newRegisterTransaction ⟨3600 * second, 0⟩)
      (failingRun (newRegisterTransaction ⟨3600 * second, 0⟩) 2) =
        [.started 0, .tolerated (2 ^ 62), .tolerated (-2 ^ 63)] ∧
    ¬ WaitsDouble (2 ^ 62) (2 ^ 63 - 1)
      [.started 0, .tolerated (2 ^ 62), .tolerated (-2 ^ 63)] := by
  refine ⟨by decide +kernel, fun h => ?_⟩
  have hwait := h [.started 0, .tolerated (2 ^ 62)] (-2 ^ 63) [] rfl
  exact absurd hwait (by decide)

end Sample

end Diago.Register
