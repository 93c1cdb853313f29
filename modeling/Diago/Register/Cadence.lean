import Diago.Register.Transaction

/-! # When the next REGISTER is sent

A granted or demanded number of seconds is scaled, cut to whole seconds and then
replaced by two defaults.
-/
namespace Diago.Register
open Lib

def Numeral (v : Bytes) (n : ℤ) : Prop :=
  v ≠ [] ∧ (∀ b ∈ v, IsDigit b) ∧ (decimalValue v : ℤ) = n

/-- The binding of the response lasts `n` seconds: its own parameter says so, or gives no
lifetime and the header says so. -/
def NamesGrant (res : Response) (n : ℤ) : Prop :=
  (∃ v, res.contactExpires = some v ∧ Numeral (trimSpace v) n) ∨
    res.contactExpires.bind positiveSeconds = none ∧
      ∃ v, res.expires = some v ∧ Numeral (trimSpace v) n

/-- The caller's own interval is shorter than a second. -/
def RegisterOptions.Brief (opts : RegisterOptions) : Prop :=
  0 < opts.retryInterval ∧ opts.retryInterval < second

theorem Numeral.atoi {v : Bytes} {n : ℤ} (h : Numeral v n) (hn : n < 2 ^ 32) :
    atoi v = (n, none) := by
  obtain ⟨hne, hdigits, hvalue⟩ := h
  rw [atoi_digits hne hdigits (by omega), hvalue]

theorem wrap64_seconds {n : ℤ} (hpos : 0 < n) (hn : n < 2 ^ 32) :
    wrap64 (n * second) = n * second := by
  refine wrap64_of_range ?_ ?_ <;> unfold second <;> omega

theorem positiveSeconds_numeral {v : Bytes} {n : ℤ} (h : Numeral (trimSpace v) n) (hpos : 0 < n)
    (hn : n < 2 ^ 32) : positiveSeconds v = some (n * second) := by
  unfold positiveSeconds
  rw [h.atoi hn]
  change (if 0 < n then some (wrap64 (n * second)) else none) = _
  rw [if_pos hpos, wrap64_seconds hpos hn]

theorem grantedExpiry_named {res : Response} {n : ℤ} (h : NamesGrant res n) (hpos : 0 < n)
    (hn : n < 2 ^ 32) (requested : ℤ) : grantedExpiry res requested = n * second := by
  unfold grantedExpiry
  obtain ⟨v, hv, hnum⟩ | ⟨hnone, v, hv, hnum⟩ := h
  · rw [hv, Option.bind_some, positiveSeconds_numeral hnum hpos hn]
  · rw [hnone, hv, Option.bind_some, positiveSeconds_numeral hnum hpos hn]

/-- A refusal that is not returned to the caller is followed for as long as it demands. -/
theorem retryAfter_named {res : Response} {v : Bytes} {m : ℤ} (hv : res.retryAfter = some v)
    (h : Numeral v m) (hpos : 0 < m) (hm : m < 2 ^ 32) {d : ℤ}
    (hd : retryAfter (.response res) = some d) : d = m * second := by
  simp only [retryAfter, hv, h.atoi hm] at hd
  split_ifs at hd
  rw [← Option.some.inj hd, wrap64_seconds hpos hm]

section Wait

open RegisterTransaction

/-- Three quarters of a whole number of seconds, cut to whole seconds. -/
theorem truncate_scaled {n : ℤ} (hpos : 0 < n) (hn : n < 2 ^ 32) :
    truncate (float64 (seconds (n * second) * (3 / 4))) = 3 * n / 4 := by
  have hquarter : (n : ℚ) * (3 / 4) = ((3 * n : ℤ) : ℚ) * 2 ^ (-2 : ℤ) := by
    push_cast
    ring
  have hwhole : |n| < 2 ^ 53 := by
    rw [abs_of_pos hpos]
    omega
  have hbits : |3 * n| < 2 ^ 53 := by
    rw [abs_of_pos (by omega)]
    omega
  have hnonneg : (0 : ℚ) ≤ ((3 * n : ℤ) : ℚ) * 2 ^ (-2 : ℤ) := by
    have : (0 : ℚ) ≤ ((3 * n : ℤ) : ℚ) := by exact_mod_cast (by omega : (0 : ℤ) ≤ 3 * n)
    positivity
  rw [second, seconds_whole hwhole, hquarter, float64_eq hbits, truncate, if_pos hnonneg]
  have hdiv : ((3 * n : ℤ) : ℚ) * 2 ^ (-2 : ℤ) = ((3 * n : ℤ) : ℚ) / ((4 : ℕ) : ℚ) := by
    rw [zpow_neg, div_eq_mul_inv]
    norm_num
  rw [hdiv, Rat.floor_intCast_div_natCast]
  rfl

theorem calcRetry_whole (t : RegisterTransaction) {n : ℤ} (hpos : 0 < n) (hn : n < 2 ^ 32) :
    t.calcRetry (n * second) =
      if 0 < t.opts.retryInterval ∧
          (3 * n / 4 = 0 ∨ t.opts.retryInterval < 3 * n / 4 * second) then t.opts.retryInterval
      else if 3 * n / 4 = 0 then registerRetryMin else 3 * n / 4 * second := by
  have hwrap : wrap64 (3 * n / 4 * second) = 3 * n / 4 * second := by
    refine wrap64_of_range ?_ ?_ <;> unfold second <;> omega
  unfold calcRetry
  dsimp only
  rw [truncate_scaled hpos hn, hwrap]
  unfold second registerRetryMin
  split_ifs <;> omega

/-- The wait ends before the lifetime does, unless that is a single second and the caller has no
shorter interval. -/
theorem calcRetry_lt_iff (t : RegisterTransaction) {n : ℤ} (hpos : 0 < n) (hn : n < 2 ^ 32) :
    0 < t.calcRetry (n * second) ∧ t.calcRetry (n * second) < n * second ↔
      1 < n ∨ t.opts.Brief := by
  rw [calcRetry_whole t hpos hn]
  unfold RegisterOptions.Brief registerRetryMin second
  split_ifs <;> omega

/-- The wait lasts for the demanded seconds only if that is one. -/
theorem le_calcRetry_iff (t : RegisterTransaction) {m : ℤ} (hpos : 0 < m) (hm : m < 2 ^ 32) :
    m * second ≤ t.calcRetry (m * second) ↔ m = 1 ∧ ¬ t.opts.Brief := by
  rw [calcRetry_whole t hpos hm]
  unfold RegisterOptions.Brief registerRetryMin second
  split_ifs <;> omega

end Wait

section Run

@[simp] theorem expired_opts (t : RegisterTransaction) (now : ℤ) :
    (t.expired now).2.opts = t.opts := by
  unfold RegisterTransaction.expired
  split
  · rfl
  · split_ifs <;> rfl

theorem refresh_opts (initial most : ℤ) (t : RegisterTransaction) (loop : RefreshLoop) (now : ℤ)
    (done : Bool) (answer : Except RegisterErr Response) :
    (refresh initial most t loop now done answer).1.opts = t.opts := by
  have hexpired := expired_opts t now
  unfold refresh
  split
  · split_ifs <;> rfl
  · split_ifs
    · rfl
    · split <;> simp_all

theorem step_opts (x : Registration) (e : Event) : (x.step e).t.opts = x.t.opts := by
  unfold Registration.step
  split
  · rfl
  · rfl
  · split <;> rfl
  · next loop now done r _ =>
    have hopts := refresh_opts registerRetryBackoffInitial registerRetryBackoffMax x.t loop now done
      (doRequest r)
    split
    · simp_all
    · simp_all
    · split <;> simp_all [Registration.qualifyLoop, RegisterTransaction.setExpiry]

theorem after_opts (opts : RegisterOptions) (es : List Event) :
    (Registration.after opts es).t.opts = opts :=
  runFrom_invariant (fun x => x.t.opts = opts) (fun x e h => (step_opts x e).trans h) rfl es

def Registration.answer (x : Registration) (r : Reply) : Option (Except RegisterErr Response) :=
  match x.phase with
  | .registering => some (register r)
  | .refreshing _ => some (doRequest r)
  | .stopped => none

theorem step_granted {x : Registration} {r : Reply} {res : Response}
    (h : x.answer r = some (.ok res)) (now : ℤ) :
    (x.step (.reply now false r)).t = x.t.recordGrant now (grantedExpiry res x.t.opts.expiry) ∧
      ∃ backoff, (x.step (.reply now false r)).phase =
        .refreshing ⟨x.t.calcRetry (grantedExpiry res x.t.opts.expiry), backoff⟩ := by
  obtain ⟨t, phase⟩ := x
  cases phase with
  | registering =>
    have hreg : register r = .ok res := Option.some.inj h
    simp only [Registration.step, hreg]
    exact ⟨rfl, _, rfl⟩
  | refreshing loop =>
    have hreq : doRequest r = .ok res := Option.some.inj h
    simp only [Registration.step, hreq, refresh]
    exact ⟨rfl, _, rfl⟩
  | stopped => cases h

/-- After a refusal of a refresh the wait is the one for the demanded seconds if the binding has
lapsed, and the next of the growing waits otherwise. -/
theorem step_refused {x y : Registration} {loop next : RefreshLoop} {r : Reply} {err : RegisterErr}
    {now : ℤ} (hphase : x.phase = .refreshing loop) (h : doRequest r = .error err)
    (hy : x.step (.reply now false r) = y) (hnext : y.phase = .refreshing next) :
    ((x.t.expired now).1 = true → ∃ d, retryAfter err = some d ∧ next.timer = x.t.calcRetry d) ∧
      ((x.t.expired now).1 = false → next.timer = loop.backoff) := by
  obtain ⟨t, phase⟩ := x
  cases hphase
  have hopts := expired_opts t now
  cases hexpired : t.expired now with
  | mk lapsed t' =>
    rw [hexpired] at hopts
    simp only [Registration.step, h, refresh, hexpired] at hy
    cases lapsed with
    | false =>
      subst hy
      cases hnext
      exact ⟨(nomatch ·), fun _ => rfl⟩
    | true =>
      refine ⟨fun _ => ?_, (nomatch ·)⟩
      cases hafter : retryAfter err with
      | none =>
        simp only [Bool.false_eq_true, if_false, hafter] at hy
        subst hy
        cases hnext
      | some d =>
        simp only [Bool.false_eq_true, if_false, hafter] at hy
        subst hy
        cases hnext
        exact ⟨d, rfl, RegisterTransaction.calcRetry_congr hopts d⟩

end Run

/-- What the lifetime of a grant and the delay of a refusal come to, after any sequence of
replies. A grant of `n` seconds is recorded as that, and the wait for it ends within it unless
`n` is one and the caller has no interval below a second. A refusal that asks for `m` seconds is
followed by a REGISTER that is early unless `m` is one and the caller has no such interval; while
the binding has not lapsed, it is followed after the growing wait, whatever it asks for. -/
theorem refresh_wait_iff (opts : RegisterOptions) (es : List Event) (now : ℤ) (r : Reply) :
    (∀ res n, (Registration.after opts es).answer r = some (.ok res) → NamesGrant res n →
      0 < n → n < 2 ^ 32 →
      ((Registration.after opts es).step (.reply now false r)).t.grantedExpires = n * second ∧
      ∃ next, ((Registration.after opts es).step (.reply now false r)).phase = .refreshing next ∧
        next.timer = (Registration.after opts es).t.calcRetry (n * second) ∧
        (0 < next.timer ∧ next.timer < n * second ↔ 1 < n ∨ opts.Brief)) ∧
    (∀ loop res v m next, (Registration.after opts es).phase = .refreshing loop →
      doRequest r = .error (.response res) → res.retryAfter = some v → Numeral v m →
      0 < m → m < 2 ^ 32 →
      ((Registration.after opts es).step (.reply now false r)).phase = .refreshing next →
      (m * second ≤ next.timer ↔
        if ((Registration.after opts es).t.expired now).1 then m = 1 ∧ ¬ opts.Brief
        else m * second ≤ loop.backoff)) := by
  have hopts := after_opts opts es
  generalize Registration.after opts es = x at *
  subst hopts
  refine ⟨?_, ?_⟩
  · intro res n hok hnames hpos hn
    obtain ⟨ht, backoff, hphase⟩ := step_granted hok now
    have hgrant := grantedExpiry_named hnames hpos hn x.t.opts.expiry
    rw [hgrant] at ht hphase
    refine ⟨?_, _, hphase, rfl, calcRetry_lt_iff x.t hpos hn⟩
    rw [ht]
    rfl
  · intro loop res v m next hphase herr hv hnum hpos hm hnext
    obtain ⟨hlapsed, hwaits⟩ := step_refused hphase herr rfl hnext
    cases hexpired : (x.t.expired now).1 with
    | true =>
      obtain ⟨d, hd, htimer⟩ := hlapsed hexpired
      rw [htimer, retryAfter_named hv hnum hpos hm hd]
      exact le_calcRetry_iff x.t hpos hm
    | false =>
      rw [hwaits hexpired]
      rfl

section Sample

def plainOptions : RegisterOptions := ⟨3600 * second, 0⟩

def granting (expires : Bytes) : Response :=
  ⟨200, true, false, false, some expires, none, none⟩

def refusing (after : Bytes) : Response := ⟨500, true, false, false, none, none, some after⟩

def replyOf (res : Response) : Reply := ⟨.ok res, .ok res⟩

def minuteGrant : List Event := [.reply 0 false (replyOf (granting (lit "60")))]

theorem after_minuteGrant : Registration.after plainOptions minuteGrant =
    .qualifyLoop ((newRegisterTransaction plainOptions).recordGrant 0 (60 * second)) := by
  have hgrant : grantedExpiry (granting (lit "60")) plainOptions.expiry = 60 * second := by
    decide +kernel
  rw [← hgrant]
  rfl

/-- After the minute the registration goes on with the wait for what a refusal asks. -/
theorem minute_lapsed (after : Bytes) {d : ℤ}
    (hd : retryAfter (.response (refusing after)) = some d) :
    ((Registration.after plainOptions minuteGrant).step
      (.reply (61 * second) false (replyOf (refusing after)))).phase =
        .refreshing ⟨(newRegisterTransaction plainOptions).calcRetry d,
          registerRetryBackoffInitial⟩ := by
  have hrequest : doRequest (replyOf (refusing after)) = .error (.response (refusing after)) := rfl
  have hexpired : ((newRegisterTransaction plainOptions).recordGrant 0 (60 * second)).expired
      (61 * second) = (true,
        { (newRegisterTransaction plainOptions).recordGrant 0 (60 * second) with
          expiredEmitted := true }) := by
    simp [RegisterTransaction.expired, RegisterTransaction.recordGrant, newRegisterTransaction,
      second]
  rw [after_minuteGrant]
  simp only [Registration.step, Registration.qualifyLoop, hrequest, refresh, hexpired, hd,
    Bool.false_eq_true, if_false]
  rfl

theorem minute_grant_refreshed :
    (∃ next, ((Registration.after plainOptions []).step
        (.reply 0 false (replyOf (granting (lit "60"))))).phase = .refreshing next ∧
      0 < next.timer ∧ next.timer < 60 * second) ∧
    ∃ next, ((Registration.after plainOptions minuteGrant).step
        (.reply (61 * second) false (replyOf (refusing (lit "1"))))).phase = .refreshing next ∧
      1 * second ≤ next.timer := by
  have hsixty : Numeral (trimSpace (lit "60")) 60 := by
    refine ⟨?_, ?_, ?_⟩ <;> decide +kernel
  have hone : Numeral (lit "1") 1 := by
    refine ⟨?_, ?_, ?_⟩ <;> decide +kernel
  have hlapsed := minute_lapsed (lit "1") (show _ = some (1 * second) by decide +kernel)
  refine ⟨?_, _, hlapsed, ?_⟩
  · obtain ⟨-, next, hphase, -, hwait⟩ := (refresh_wait_iff plainOptions [] 0
      (replyOf (granting (lit "60")))).1 _ 60 rfl (.inl ⟨_, rfl, hsixty⟩) (by norm_num)
      (by norm_num)
    exact ⟨next, hphase, hwait.mpr (.inl (by norm_num))⟩
  · have hwait := (refresh_wait_iff plainOptions minuteGrant (61 * second)
      (replyOf (refusing (lit "1")))).2 _ _ _ 1 _ (congrArg Registration.phase after_minuteGrant)
      rfl rfl hone (by norm_num) (by norm_num) hlapsed
    have hexpired : ((Registration.after plainOptions minuteGrant).t.expired (61 * second)).1 =
        true := by
      rw [after_minuteGrant]
      decide +kernel
    rw [hexpired] at hwait
    exact hwait.mpr ⟨rfl, fun hbrief => absurd hbrief.1 (by decide)⟩

/-- A binding of one second is refreshed after thirty, and a pause of two minutes is cut to one and
a half. -/
theorem second_lapses_and_pause_cut :
    (∃ next, ((Registration.after plainOptions []).step
        (.reply 0 false (replyOf (granting (lit "1"))))).phase = .refreshing next ∧
      next.timer = 30 * second) ∧
    ∃ next, ((Registration.after plainOptions minuteGrant).step
        (.reply (61 * second) false (replyOf (refusing (lit "120"))))).phase = .refreshing next ∧
      next.timer = 90 * second := by
  have hgrant : grantedExpiry (granting (lit "1")) plainOptions.expiry = 1 * second := by
    decide +kernel
  have hlapsed := minute_lapsed (lit "120") (show _ = some (120 * second) by decide +kernel)
  refine ⟨?_, _, hlapsed, ?_⟩
  · obtain ⟨-, backoff, hphase⟩ := @step_granted (.after plainOptions [])
      (replyOf (granting (lit "1"))) _ rfl 0
    refine ⟨_, hphase, ?_⟩
    change RegisterTransaction.calcRetry _
      (grantedExpiry (granting (lit "1")) plainOptions.expiry) = _
    rw [hgrant, calcRetry_whole _ (by norm_num) (by norm_num)]
    decide +kernel
  · change RegisterTransaction.calcRetry _ (120 * second) = _
    rw [calcRetry_whole _ (by norm_num) (by norm_num)]
    decide +kernel

end Sample

end Diago.Register
