import Diago.Lib.Machine
import Diago.Lib.Numeral
import Diago.Lib.Run

/-! # Registration

A register transaction remembers what the registrar granted.
-/
namespace Diago.Register
open Lib

def second : ℤ := 1000000000

def registerRetryMin : ℤ := 30 * second
def registerRetryBackoffInitial : ℤ := 1 * second
def registerRetryBackoffMax : ℤ := 5 * 60 * second

structure RegisterOptions where
  expiry : ℤ
  retryInterval : ℤ

structure Response where
  statusCode : ℤ
  via : Bool
  wwwAuthenticate : Bool
  proxyAuthenticate : Bool
  contactExpires : Option Bytes
  expires : Option Bytes
  retryAfter : Option Bytes
  deriving DecidableEq

/-- An error of the client says whether it is one of a context. -/
inductive RegisterErr where
  | client (ofContext : Bool)
  | noVia
  | response (res : Response)
  deriving DecidableEq

def isDigestChallenge (res : Response) : Bool :=
  if res.statusCode = 401 then res.wwwAuthenticate
  else if res.statusCode = 407 then res.proxyAuthenticate
  else false

/-- What the client returns for a request, and for the request repeated with credentials. -/
structure Reply where
  first : Except Bool Response
  authenticated : Except Bool Response

/-- The response after the challenge, if there was one, was answered. -/
def Reply.finish (r : Reply) (res : Response) : Except RegisterErr Response := do
  let res ← if isDigestChallenge res then r.authenticated.mapError .client else pure res
  if res.statusCode ≠ 200 then throw (.response res)
  return res

def doRequest (r : Reply) : Except RegisterErr Response := do
  let res ← r.first.mapError .client
  r.finish res

/-- The first REGISTER, which also reads the Via of its response. -/
def register (r : Reply) : Except RegisterErr Response := do
  let res ← r.first.mapError .client
  if !res.via then throw .noVia
  r.finish res

def positiveSeconds (v : Bytes) : Option ℤ :=
  match atoi (trimSpace v) with
  | (n, none) => if 0 < n then some (wrap64 (n * second)) else none
  | (_, some _) => none

def grantedExpiry (res : Response) (requested : ℤ) : ℤ :=
  match res.contactExpires.bind positiveSeconds with
  | some d => d
  | none => match res.expires.bind positiveSeconds with
    | some d => d
    | none => requested

structure RegisterTransaction where
  opts : RegisterOptions
  expiry : ℤ := 0
  grantedExpires : ℤ := 0
  lastRegistered : Option ℤ := none
  expiredEmitted : Bool := false

def newRegisterTransaction (opts : RegisterOptions) : RegisterTransaction := { opts }

namespace RegisterTransaction

def recordGrant (t : RegisterTransaction) (now granted : ℤ) : RegisterTransaction :=
  { t with
    expiry := granted
    grantedExpires := granted
    lastRegistered := some now
    expiredEmitted := false }

def setExpiry (t : RegisterTransaction) (d : ℤ) : RegisterTransaction := { t with expiry := d }

/-- The granted lifetime has run out, which is reported once. -/
def expired (t : RegisterTransaction) (now : ℤ) : Bool × RegisterTransaction :=
  match t.lastRegistered with
  | none => (false, t)
  | some last =>
    if t.expiredEmitted ∨ t.grantedExpires ≤ 0 then (false, t)
    else if ¬ last + t.grantedExpires < now then (false, t)
    else (true, { t with expiredEmitted := true })

def calcRetry (t : RegisterTransaction) (expiry : ℤ) : ℤ :=
  let scaled := float64 (seconds expiry * (3 / 4))
  let retry := wrap64 (truncate scaled * second)
  let ri := t.opts.retryInterval
  let retry := if 0 < ri ∧ (retry ≤ 0 ∨ ri < retry) then ri else retry
  if retry ≤ 0 then registerRetryMin else retry

theorem calcRetry_congr {t t' : RegisterTransaction} (h : t'.opts = t.opts) (d : ℤ) :
    t'.calcRetry d = t.calcRetry d := by
  unfold calcRetry
  rw [h]

def cadence (t : RegisterTransaction) : ℤ := t.calcRetry t.expiry

end RegisterTransaction

structure RefreshLoop where
  timer : ℤ
  backoff : ℤ

inductive LoopEnd where
  | waiting (loop : RefreshLoop)
  | returned (err : RegisterErr)
  | cancelled

def nextBackoff (maxBackoff backoff : ℤ) : ℤ :=
  let backoff := wrap64 (backoff * 2)
  if maxBackoff < backoff then maxBackoff else backoff

/-- One refresh of the loop; `done` tells that the context is done when it returns. -/
def refresh (initialBackoff maxBackoff : ℤ) (t : RegisterTransaction) (loop : RefreshLoop)
    (now : ℤ) (done : Bool) (answer : Except RegisterErr Response) :
    RegisterTransaction × LoopEnd :=
  match answer with
  | .ok res =>
    let t := t.recordGrant now (grantedExpiry res t.opts.expiry)
    if done then (t, .cancelled) else (t, .waiting ⟨t.cadence, initialBackoff⟩)
  | .error err =>
    if done then (t, .cancelled)
    else match t.expired now with
      | (true, t) => (t, .returned err)
      | (false, t) => (t, .waiting ⟨loop.backoff, nextBackoff maxBackoff loop.backoff⟩)

/-- How long to wait after the refresh loop has returned an error, unless it is returned to the
caller. -/
def retryAfter : RegisterErr → Option ℤ
  | .response res =>
    if res.statusCode = 401 ∨ res.statusCode = 407 then none
    else if 500 < res.statusCode ∧ res.statusCode < 600 then none
    else if res.statusCode < 200 ∨ 699 < res.statusCode then none
    else match res.retryAfter with
      | none => some (5 * second)
      | some v =>
        -- a number out of range is read as the largest, and its error is not looked at
        if 0 < (atoi v).1 then some (wrap64 ((atoi v).1 * second)) else some (5 * second)
  | .client ofContext => if ofContext then none else some (5 * second)
  | .noVia => some (5 * second)

inductive Phase where
  | registering
  | refreshing (loop : RefreshLoop)
  | stopped

/-- A registration that is kept until an error ends it. -/
structure Registration where
  t : RegisterTransaction
  phase : Phase

inductive Event where
  | reply (now : ℤ) (done : Bool) (r : Reply)
  | cancel

namespace Registration

def start (opts : RegisterOptions) : Registration := ⟨newRegisterTransaction opts, .registering⟩

def qualifyLoop (t : RegisterTransaction) : Registration :=
  ⟨t, .refreshing ⟨t.calcRetry t.expiry, registerRetryBackoffInitial⟩⟩

def step (x : Registration) (e : Event) : Registration :=
  match x.phase, e with
  | .stopped, _ => x
  | _, .cancel => ⟨x.t, .stopped⟩
  | .registering, .reply now _ r => match register r with
    | .ok res => qualifyLoop (x.t.recordGrant now (grantedExpiry res x.t.opts.expiry))
    | .error _ => ⟨x.t, .stopped⟩
  | .refreshing loop, .reply now done r =>
    match refresh registerRetryBackoffInitial registerRetryBackoffMax x.t loop now done
        (doRequest r) with
    | (t, .waiting loop) => ⟨t, .refreshing loop⟩
    | (t, .cancelled) => ⟨t, .stopped⟩
    | (t, .returned err) => match retryAfter err with
      | none => ⟨t, .stopped⟩
      | some d => qualifyLoop (t.setExpiry d)

def after (opts : RegisterOptions) (es : List Event) : Registration := runFrom step (start opts) es

end Registration

end Diago.Register
